/-
  The names that start with B.  A small letter in front of a
  name says how many words it shares with the name before it,
  from a for none on; only its further words are written.

  Key definitions include:
    * `CharacterName.fromB`
-/

namespace ElementBindings

namespace CharacterName

------------------------------------------------------------
-- Names
------------------------------------------------------------

/- The names that start with B. -/
def fromB : List String := [
    "aBABYbANGELbBOTTLEbCHICKbSYMBOLaBACK OF ENVELOPEbWITH LEFTWARDS ARROW ABOVE",
    "aBACK-TILTED SHADOWED WHITE RIGHTWARDS ARROWaBACKSLANTED SOUTH ARROW WITH HOOKED TAIL",
    "eHORIZONTAL TAILaBACKSPACEaBACONaBACTRIAN CAMELaBADGERaBADMINTON RACQUET AND SHUTTLECOCK",
    "aBAGELaBAGGAGE CLAIMaBAGUETTE BREADaBALINESE ADEG ADEGbCARIK PAMUNGKAHcPARERENcSIKI",
    "bDIGIT EIGHTcFIVEcFOURcNINEcONEcSEVENcSIXcTHREEcTWOcZERObLETTER AIKARAcAKARAdTEDUNG",
    "cARCHAIC JNYAcASYURA SASAKcBAdKEMBANGcCAdLACAcDAdMADUdMURDA ALPAPRANAeMAHAPRANAcEF SASAK",
    "cEKARAcGAdGORAcHAcIKARAdTEDUNGcJAdJERAcKAdMAHAPRANAcKAF SASAKcKHOT SASAKcLAdLENGAeTEDUNG",
    "cMAcNAdRAMBATcNGAcNYAcOKARAdTEDUNGcPAdKAPALcRAdREPAeTEDUNGcSAdSAGAdSAPAcTAdLATIK",
    "dMURDA MAHAPRANAdTAWAcTZIR SASAKcUKARAdTEDUNGcVE SASAKcWAcYAcZAL SASAK",
    "bMUSICAL SYMBOL COMBINING BENDEeENDEPeGONGeJEGOGANeKEMPLIfWITH JEGOGANeKEMPUL",
    "fWITH JEGOGANeTEGEHdDAENGdDAINGdDANGeGEDEeSURANGdDENGdDEUNGdDINGdDONGdDUNG",
    "dLEFT-HAND CLOSED PLAKfPLUKeOPEN PANGfPINGfPUNGdRIGHT-HAND CLOSED TAKfTUKeOPEN DAGfDUG",
    "bPAMADAcLANTANGbPAMENENGbPANTIcLANTANGbSIGN BISAHcCECEKcREREKANcSURANGcULU CANDRAdRICEM",
    "bVOWEL SIGN LA LENGAfTEDUNGdPEPETeTEDUNGdRA REPAfTEDUNGdSUKUeILUTdTALINGeREPAfTEDUNG",
    "eTEDUNGdTEDUNGdULUeSARIbWINDUaBALL OF YARNaBALLET SHOESaBALLOONaBALLOON-SPOKED ASTERISK",
    "aBALLOT BOLD SCRIPT XbBOXcWITH BALLOTdBOLD CHECKeSCRIPT XdCHECKdLIGHT XdSCRIPT XdX",
    "bSCRIPT XbXaBAMUM COLONbCOMBINING MARK KOQNDONdTUKWENTISbCOMMAbFULL STOPbLETTER AcEE",
    "cFAAMAEcFEEcFOMcFUcIcKAcKENcKETcKEUXcKIcKOcKOGHOMcKOVUUcKPAcKUcKYEEcLAcLEEEEcLIcLOQcLUcM",
    "cMAcMBAAcMBENcMEEEEcMENcMIcMOcMUcNAcNDAAcNGAcNGGAcNGKWAENcNIcNJAEMcNJEEcNJUAEcNSHAcNTEE",
    "cNTUUcNUcNUAEcNYIcOcPAcPEEcPEUXcPHASE-A FIRIdGBIEE FONdGHEUAEGHEUAEdGHEUAERAEdKAFAdKAQ",
    "dKETdKEUKEUTNDAdKPOQdKUOQdLAPAQdLET KUTdLOMMAEdLUdLUAEPdMAEKEUPdMAEMdMAEMBGBIEEdMAEMKPEN",
    "dMAEMVEUXdMAENYIdMAESIdMANSUAEdMAP PIEETdMBANYIdMBAQdMEUNJOMNDEUQdMGBASAdMON NGGEUAET",
    "dMOOMEUTdMOOMPUQdMVEUAENGAMdNAA MFONdNAQdNDA LEERAEWAdNDAANGGEUAETdNENdNGANGUdNGGEN",
    "dNGKUE MFONdNGKUENZEUMdNIKAdNJAMdNKAARAEdNKINDIdNSHAdNSHIEEdNTAPeMFAAeNTAAdNTOQPENdNYET",
    "dNYIdNYIT MONGKEUAEQdNZA MFONdNZUN MEUTdPA LEERAEWAdPAAMdPAARAEdPAMSHAEdPASHAEdPET",
    "dPON MFON PIPAEMBAfPIPAEMGBIEEePA NJI PIPAEMBAgPIPAEMGBIEEdPUPdROMdSEUNYAMdSHINDA PA NJI",
    "dSHIRAEdSHOQ NSHUT YUMdSHUENSHUETdSHUMdSISAdSONJAMdSOQdSOTdSUUdTEUAENdTEUTEUWEN",
    "dTITA MFONdTU MAEMBAdTUAEPdU YUQ NAEdUNKNOWNdVEEcPHASE-B FEEdFEUXdGHEUGHENdGHEUGHEUAEM",
    "dKAMdKEUAEMdKEUPUQdKEUYEUXdKIEEMdKIQdLAANAEdLAM NSHUT NYAMdLETdLOM NTEUMdMAeNJEUAENA",
    "eNJUQAdMBA MAELEEdMBAARAEdMBEURIdMBIT MBAAKETdMBUOQdMEUQdMEUT NGGEETdMFIYAQdMFON TEUAEQ",
    "dMONTIEENdNDU NJAAdNGGAAMdNGGEU MBUdNGGUOQeLARGEdNGKINDI MVOPdNGOMdNSENdNSHUET",
    "dNTIEE SHEUOQdNYAEMAEdNYI NTEUMdPARUMdPEESHIdPITdPUNGAAMdSAKEUAEdSET TUdSHET NJAQ",
    "dSHEUAEQTUdSIEEdSUEdTAAMdTU MAEMGBIEEeNSIEEdVEUMdWUAETdYAFU LEERAEWAdYEURAEcPHASE-C BUNG",
    "dFUEdGBAYIdGHAPdGHARAEdKAAdKEN FATIGUEeLAWdKETdKEUKAQdKEUMdKEUSEUXdKEUSHEUAEPdKPARAQ",
    "dKUOP NKAARAEdKUTdLAMdLAPdLIQdLUdMA KEUAERIeNSIEEdMAEMBAdMAESIdMBAA CABBAGE-TREEePICKET",
    "dMBANYIdMBEEKEETdMBERAEdMBEUMdMBEUXdMBIdMBIRIEENdMBITdMBUAEMdMBUEdMGBASAQdMIEEdMUAE",
    "dNANSANAQdNAQdNDAMdNDAPdNDEUAEREEdNDEUTdNDIDAdNDOMBUdNGAQdNGGENdNGGUdNGGUAEN NYAM",
    "dNGGUEETdNGGUMdNGGUONdNGKAQdNGKUE MAEMBAdNGOMdNJAEMdNJAMdNJEEEEdNJEUXdNJUEQdNSAdNSEUAEN",
    "dNSHAQdNSOMdNSUNdNSUOT NGOMdNTAAdNTENdNTEUNGBAdNTU MBITdNYIR MKPARAQ MEUNdNZAdNZEUMdPEN",
    "dPINdPIRIEENdRUdSETFONdSEUXdSHIQdSHUEQdSUAETdTAASHAEdTETdTEUTEUXdTITA YUEdTITUAEP",
    "dVEUAEPENdVEUXdWANGKUOQdWUPdYAAdYEUQdYU MUOMAEdYUMdYUWOQcPHASE-D FAAdFEUFEUAETdGHAA",
    "dGHEUAEdKETdKEUAETMEUNdKEUMdKEUOT MBUAEdKEUPdKUdKUNdKUOMdKUQdKWAETdKYEEdLEEEEdLETdLEUAEP",
    "dLEUMdLIEEdLOQdLUMdMdMAENJETdMALEERIdMBAAeSEVENdMBUOdMEEEEdMEUNdMEUTdMFEUAEdMFEUTdMFIEE",
    "dMFOdMFONdMGBEUNdMGBIEEdMGBOFUMdMONIdMUdMVOPdNDAMdNDEEdNDEUXdNDONdNGGAAMdNGGAAMAEdNGGAP",
    "dNGGEUXdNGGUOMdNGGWAENdNGKAPdNGKEUAEQdNGKEURIdNGKIEEdNGKUNdNGKYEEdNIdNJAPdNJEUAEMdNJEUT",
    "dNJIdNJIEEdNJUEQdNSHEEdNSHUTdNSIEEPdNSIEETdNSUMdNTEEdNTEUMdNTUUdNUdNYAMdNYETdNYIdNYUE",
    "dPAPdPEEdPEUTAEdPIPdPUQdPUUTdRAEMdREN MUCHeOLDdRIIdSAPdSAQdSEUAEQdSHEEdSHEUAEdSHEUXdSHII",
    "dSHOQdSHUdSOTdSUAEdSUEdSUUdTAEdTEEEEdTEUAENdTEUNdTEUTdTIdTOQdTUdTUOTdWAPdWUAENdYAEMMAE",
    "dYENdYUOMdYUOPdYUWOQcPHASE-E AdFAdFAQdFEEdFOMdFU CALLeIeREMEDYdFUEdFUETdGBETdGBEUX",
    "dGHAAMAEdGHETdGHEUAEdGHEUNdGHEUXdGHOMdIdKETdKEUAEdKEUXdKIdKOdKPEUXdKUETdKUOPdKUTdLAAM",
    "dLAPdLAQdLEUAEMdLOMdLOONdLOOTdLOQdLUdMAdMAEdMAEMdMAPdMAQdMBEEdMBEUMdMENdMFEUQdMGBAdMGBEN",
    "dMIdMIEEdMONdMUAEdMVIdNAdNAEdNDAA MY HOUSEeSOFTNESSdNDAPdNDIAQdNDIQdNDUNdNGAdNGEUREUT",
    "dNGGEEEEdNGGEUAEdNGGEUAETdNGGUAESHAE NYAMdNGGUPdNGGURAEdNGKAdNGKAAMIdNGKEUAEMdNGKEUX",
    "dNGKUMdNGKUPdNGOPdNGOQdNGUAEdNGUAETdNJAEMLIdNJEEeEPOCHdNJEUXdNKOMdNSHIEEdNSHUEdNSHUOP",
    "dNTAPdNTUMdNYI BETWEENeCLEAVERdNZAQdNZUQdOdPA PEOPLEePLURALdPAAdPAAMdPEEMdPEUTdPEUXdPI",
    "dPIEEQdPIETdPOdPOONdPUdPUAEdPUAQdPUEdPUMdRAEdRAQdREUXdRIMGBAdSAAdSEEdSETdSHEUAEQdSHIQ",
    "dSHOdSHOQdSOMdSUAENdTAAdTAAQdTAEN NTEUMdTAMdTAQdTENdTEUdTEUAEQdTOOdTOONdTOQdTUAEdTUM",
    "dTUMAEdVEEdVEUAEdVOMdWEUXdWUEdWUOdYAPdYEUAEdYEUAETdYEUMdYEUXdYIEEdYITdYOQ COVEReSWIMMING",
    "dYUAENdYUEQdYUNdYUQcPHASE-F EEdFOMdKAdKENdKETdKOdKPAdKUdKYEEdLAdLIdLOQdMdMAdMBAAdMBEN",
    "dMEEEEdMOdNDAAdNGGAdNGKWAENdNIdNJAEMdNJUAEdNSHAdNTEEdNUdNUAEdNYIdPEEdPEUXdPUAEdREEdREN",
    "dREUXdRIEEdRIIdRUdSAMBAdSEUXdSHIIdSHOdSHUdSIdSUUdTAAdTAEdTETdUdVUEQdWAdWUEdYAdYOQcPI",
    "cPUAEcPUEcRAEcREEcRENcREUXcRIEEcRIIcRUcSAMBAcSEUXcSHEUXcSHIIcSHOcSHUcSIcSUUcTAAcTAEcTEN",
    "cTETcTIcUcWAcWUEcYAcYOQcYUQbNJAEMLIbQUESTION MARKbSEMICOLONaBANANAaBANJOaBANK",
    "aBANKNOTE WITH DOLLAR SIGNcEURO SIGNcPOUND SIGNcYEN SIGNaBAR CHARTbOF SOAPaBARBER POLE",
    "aBASEBALLaBASKETaBASKETBALL AND HOOPaBASSA VAH COMBINING HIGH TONEdHIGH-LOW TONE",
    "dLOW TONEdLOW-MID TONEdMID TONEcFULL STOPcLETTER AdBAdCEdDHIIdDOdEdEEdENNIdFAdGAHdGBU",
    "dHWAHdIdJOdKAdKPAHdMBEdOdOOdPAdSEdTOdUdUWUdVUdWAdWADDAdYEINdYIEdZOaBAT",
    "aBATAK CONSONANT SIGN HdNGbLETTER AcBAcCAcDAcGAcHAcIcJAcKARO BAcLAcMAcMANDAILING HAdNA",
    "dSAcMBAcNAcNDAcNGAcNORTHERN TAcNYAcPAcPAKPAK WAcRAcSAcSIMALUNGUN AdGAdHAdLAdMAdPAdRAdSA",
    "dWAdYAcSOUTHERN TAcUcWAcYAbPANGOLATbPANONGONANbSIGN TOMPIbSYMBOL BINDU JUDULdNA METEK",
    "dPANGOLATdPINARBORASbVOWEL SIGN EdEEdIdKARO IeOdOdPAKPAK EdUeFOR SIMALUNGUN SAaBATH",
    "aBATHTUBaBATTERYaBEACH WITH UMBRELLAaBEAMED ASCENDING MUSICAL NOTES",
    "bDESCENDING MUSICAL NOTESbEIGHTH NOTESbSIXTEENTH NOTESaBEANSaBEAR FACEaBEARDED PERSON",
    "aBEATING HEARTaBEAVERaBECAUSEaBEDaBEER MUGaBEETLEaBELaBELLbPEPPERbSYMBOL",
    "bWITH CANCELLATION STROKEaBELLHOP BELLaBENGALI ABBREVIATION SIGNbANJIbAU LENGTH MARK",
    "bCURRENCY DENOMINATOR SIXTEENcNUMERATOR FOURdONEeLESS THAN THE DENOMINATORdTHREEdTWO",
    "bDIGIT EIGHTcFIVEcFOURcNINEcONEcSEVENcSIXcTHREEcTWOcZERObGANDA MARKbISSHARbLETTER AcAA",
    "cAIcAUcBAcBHAcCAcCHAcDAcDDAcDDHAcDHAcEcGAcGHAcHAcIcIIcJAcJHAcKAcKHAcKHANDA TAcLAcMAcNA",
    "cNGAcNNAcNYAcOcPAcPHAcRAdWITH LOWER DIAGONALeMIDDLE DIAGONALcRHAcRRAcSAcSHAcSSAcTAcTHA",
    "cTTAcTTHAcUcUUcVEDIC ANUSVARAcVOCALIC LdLLdRdRRcYAcYYAbRUPEE MARKcSIGNbSANDHI MARK",
    "bSIGN ANUSVARAcAVAGRAHAcCANDRABINDUcNUKTAcVIRAMAcVISARGAbVOWEL SIGN AAdAIdAUdEdIdIIdOdU",
    "dUUdVOCALIC LeLLeReRRaBENT ARROW POINTING DOWNWARDS THEN NORTH EASTaBENTO BOX",
    "aBENZENE RINGcWITH CIRCLEaBET SYMBOLaBETWEENaBEVERAGE BOXaBHAIKSUKI DANDAbDIGIT EIGHT",
    "cFIVEcFOURcNINEcONEcSEVENcSIXcTHREEcTWOcZERObDOUBLE DANDAbGAP FILLER-1cFILLER-2",
    "bHUNDREDS UNIT MARKbLETTER AcAAcAIcAUcBAcBHAcCAcCHAcDAcDDAcDDHAcDHAcEcGAcGHAcHAcIcIIcJA",
    "cJHAcKAcKHAcLAcMAcNAcNGAcNNAcNYAcOcPAcPHAcRAcSAcSHAcSSAcTAcTHAcTTAcTTHAcUcUUcVA",
    "cVOCALIC LdRdRRcYAbNUMBER EIGHTcEIGHTYcFIFTYcFIVEcFORTYcFOURcNINEcNINETYcONEcSEVEN",
    "cSEVENTYcSIXcSIXTYcTENcTHIRTYcTHREEcTWENTYcTWObSIGN ANUSVARAcAVAGRAHAcCANDRABINDUcVIRAMA",
    "cVISARGAbVOWEL SIGN AAdAIdAUdEdIdIIdOdUdUUdVOCALIC LeReRRbWORD SEPARATORaBICYCLE",
    "aBICYCLISTaBIG REVERSE SOLIDUSbSOLIDUSaBIKINIaBILLED CAPaBILLIARDSaBIOHAZARD SIGNaBIRD",
    "aBIRTHDAY CAKEaBISONaBITCOIN SIGNaBITING LIPaBLACK BOWTIEbCENTRE WHITE STARbCHESS BISHOP",
    "dROTATED NINETY DEGREESeTWO HUNDRED SEVENTY DEGREEScEQUIHOPPERdROTATED NINETY DEGREES",
    "cKINGdROTATED NINETY DEGREESeTWO HUNDRED SEVENTY DEGREEScKNIGHT",
    "dROTATED FORTY-FIVE DEGREESeNINETY DEGREESeONE HUNDRED THIRTY-FIVE DEGREES",
    "eTHREE HUNDRED FIFTEEN DEGREESeTWO HUNDRED SEVENTY DEGREESgTWENTY-FIVE DEGREES",
    "cKNIGHT-BISHOPcKNIGHT-QUEENcKNIGHT-ROOKcPAWNdROTATED NINETY DEGREES",
    "eTWO HUNDRED SEVENTY DEGREEScQUEENdROTATED NINETY DEGREESeTWO HUNDRED SEVENTY DEGREES",
    "cROOKdROTATED NINETY DEGREESeTWO HUNDRED SEVENTY DEGREEScTURNED BISHOPdKINGdKNIGHTdPAWN",
    "dQUEENdROOKbCIRCLEcFOR RECORDcWITH DOWN ARROWdTWO WHITE DOTSdWHITE DOT RIGHTbCLUB SUIT",
    "bCROSS ON SHIELDbCURVED DOWNWARDS AND LEFTWARDS ARROWeRIGHTWARDS ARROW",
    "cLEFTWARDS AND DOWNWARDS ARROWeUPWARDS ARROWcRIGHTWARDS AND DOWNWARDS ARROW",
    "eUPWARDS ARROWcUPWARDS AND LEFTWARDS ARROWeRIGHTWARDS ARROWbDIAMONDcCENTRED",
    "cMINUS WHITE XcON CROSScSUITcWITH DOWN ARROWbDOWN POINTING BACKHAND INDEX",
    "bDOWN-POINTING DOUBLE TRIANGLEcISOSCELES RIGHT TRIANGLEcSMALL TRIANGLEcTRIANGLE",
    "bDOWNWARDS EQUILATERAL ARROWHEADbDRAUGHTS KINGcMANbDROPLETbFLAGbFLORETTEbFOLDER",
    "bFOUR POINTED STARbHARD SHELL FLOPPY DISKbHEARTcSUITbHEXAGONbHORIZONTAL ELLIPSE",
    "bHOURGLASSbLARGE CIRCLEcSQUAREbLEFT LANE MERGEcPOINTING BACKHAND INDEXdINDEX",
    "bLEFT-POINTING DOUBLE TRIANGLEeWITH VERTICAL BARcISOSCELES RIGHT TRIANGLEcPOINTER",
    "cSMALL TRIANGLEcTRIANGLEbLEFTWARDS BULLETcEQUILATERAL ARROWHEADbLOWER LEFT TRIANGLE",
    "cRIGHT TRIANGLEbLOZENGEbMEDIUM DIAMONDcDOWN-POINTING TRIANGLEeCENTRED",
    "cLEFT-POINTING TRIANGLEeCENTREDcLOZENGEcRIGHT-POINTING TRIANGLEeCENTREDcSMALL DIAMOND",
    "dLOZENGEdSQUAREcSQUAREcUP-POINTING TRIANGLEeCENTREDbMOON LILITHbNIBbOCTAGON",
    "bPARALLELOGRAMbPENNANTbPENTAGONbPUSHPINbQUESTION MARK ORNAMENTbRECTANGLE",
    "bRIGHT POINTING BACKHAND INDEXdINDEXbRIGHT-POINTING DOUBLE TRIANGLEeWITH VERTICAL BAR",
    "cISOSCELES RIGHT TRIANGLEcPENTAGONcPOINTERcSMALL TRIANGLEcTRIANGLE",
    "dWITH DOUBLE VERTICAL BARbRIGHTWARDS ARROWcARROWHEADcBULLETcEQUILATERAL ARROWHEAD",
    "bROSETTEbSAFETY SCISSORSbSCISSORSbSHOGI PIECEbSKULL AND CROSSBONESbSLIGHTLY SMALL CIRCLE",
    "dSQUAREbSMALL DIAMONDcLOZENGEcSQUAREcSTARbSMILING FACEbSNOWMANbSPADE SUITbSQUAREcBUTTON",
    "cCENTREDcFOR STOPbSTARbSUN WITH RAYSbTELEPHONEbTINY DIAMONDcLOZENGEcSQUARE",
    "bTOUCHTONE TELEPHONEbTRUCKbTWO-WAY LEFT WAY TRAFFICbUNIVERSAL RECYCLING SYMBOL",
    "bUP POINTING BACKHAND INDEXbUP-POINTING DOUBLE TRIANGLEcISOSCELES RIGHT TRIANGLE",
    "cSMALL TRIANGLEcTRIANGLEbUPPER LEFT TRIANGLEcRIGHT TRIANGLE",
    "bUPWARDS EQUILATERAL ARROWHEADbVERTICAL ELLIPSEcRECTANGLEbVERY SMALL DIAMONDdLOZENGE",
    "dSQUAREaBLACK-FEATHERED NORTH EAST ARROWbRIGHTWARDS ARROWbSOUTH EAST ARROW",
    "aBLACK-LETTER CAPITAL CcHcIcRcZaBLANK SYMBOLaBLOCK SEXTANT-1bSEXTANT-12bSEXTANT-123",
    "bSEXTANT-1234bSEXTANT-12345bSEXTANT-12346bSEXTANT-1235bSEXTANT-12356bSEXTANT-1236",
    "bSEXTANT-124bSEXTANT-1245bSEXTANT-12456bSEXTANT-1246bSEXTANT-125bSEXTANT-1256",
    "bSEXTANT-126bSEXTANT-13bSEXTANT-134bSEXTANT-1345bSEXTANT-13456bSEXTANT-1346bSEXTANT-1356",
    "bSEXTANT-136bSEXTANT-14bSEXTANT-145bSEXTANT-1456bSEXTANT-146bSEXTANT-15bSEXTANT-156",
    "bSEXTANT-16bSEXTANT-2bSEXTANT-23bSEXTANT-234bSEXTANT-2345bSEXTANT-23456bSEXTANT-2346",
    "bSEXTANT-235bSEXTANT-2356bSEXTANT-236bSEXTANT-24bSEXTANT-245bSEXTANT-2456bSEXTANT-25",
    "bSEXTANT-256bSEXTANT-26bSEXTANT-3bSEXTANT-34bSEXTANT-345bSEXTANT-3456bSEXTANT-346",
    "bSEXTANT-35bSEXTANT-356bSEXTANT-36bSEXTANT-4bSEXTANT-45bSEXTANT-456bSEXTANT-46bSEXTANT-5",
    "bSEXTANT-56bSEXTANT-6aBLOSSOMaBLOWFISHaBLUE BOOKbHEARTaBLUEBERRIESaBOAR",
    "aBOLD EIGHT SPOKED ASTERISKbFIVE SPOKED ASTERISKbGREEK CROSSbSALTIREbSIX SPOKED ASTERISK",
    "bWHITE CIRCLEcSQUAREaBOMaBOMBaBONEaBOOKaBOOKMARKbTABSaBOOKSaBOOMERANG",
    "aBOPOMOFO FINAL LETTER GdHdKdPdTbLETTER AcAHcAIcAINNcAMcANcANGcANNcAUcAUNNcBcBUcCcCHcDcE",
    "cEEcEHcEIcENcENGcENNcERcFcGcGHcGNcGUcGWcHcIcIHcIMcINNcINNNcIRcIUcJcJIcKcKWcLcLHcMcNcNG",
    "cNGGcNNcOdWITH DOT ABOVEcOEcOMcONGcONNcOOcOUcPcQcRcScSHcTcUcUNNcVcXcZcZHcZIcZY",
    "aBOTTLE WITH POPPING CORKaBOTTOM ARC ANTICLOCKWISE ARROWbCURLY BRACKETbHALF BLACK CIRCLE",
    "cINTEGRALcLEFT PARENTHESIScRIGHT PARENTHESISbLEFT CORNERcCROPcHALF BRACKETbPARENTHESIS",
    "bRIGHT CORNERcCROPcHALF BRACKETbSQUARE BRACKETdOVER TOP SQUARE BRACKET",
    "bTORTOISE SHELL BRACKETaBOUQUETbOF FLOWERSaBOW AND ARROWaBOWL OF HYGIEIAbWITH SPOON",
    "aBOWLINGaBOWTIEbWITH LEFT HALF BLACKcRIGHT HALF BLACK",
    "aBOX DRAWINGS DOUBLE DOWN AND HORIZONTALfLEFTfRIGHTdHORIZONTALdUP AND HORIZONTALfLEFT",
    "fRIGHTdVERTICALeAND HORIZONTALfLEFTfRIGHTcDOWN DOUBLE AND HORIZONTAL SINGLEfLEFT SINGLE",
    "fRIGHT SINGLEdHEAVY AND HORIZONTAL LIGHTfLEFT LIGHTgUP LIGHTfRIGHT LIGHTgUP LIGHT",
    "fUP HORIZONTAL LIGHTdLIGHT AND HORIZONTAL HEAVYfLEFT HEAVYgUP HEAVYfRIGHT HEAVYgUP HEAVY",
    "fUP HORIZONTAL HEAVYdSINGLE AND HORIZONTAL DOUBLEfLEFT DOUBLEfRIGHT DOUBLE",
    "cHEAVY DOUBLE DASH HORIZONTALfVERTICALdDOWNeAND HORIZONTALfLEFTfRIGHTdHORIZONTALdLEFT",
    "eAND LIGHT RIGHTdQUADRUPLE DASH HORIZONTALfVERTICALdRIGHTdTRIPLE DASH HORIZONTAL",
    "fVERTICALdUPeAND HORIZONTALfLEFTfLIGHT DOWNfRIGHTdVERTICALeAND HORIZONTALfLEFTfRIGHT",
    "cLEFT DOWN HEAVY AND RIGHT UP LIGHTdHEAVY AND RIGHT DOWN LIGHTgUP LIGHTgVERTICAL LIGHT",
    "dLIGHT AND RIGHT DOWN HEAVYgUP HEAVYgVERTICAL HEAVYdUP HEAVY AND RIGHT DOWN LIGHT",
    "cLIGHT ARC DOWN AND LEFTgRIGHTeUP AND LEFTgRIGHTdDIAGONAL CROSSeDIAMOND",
    "eMIDDLE LEFT TO LOWER CENTREjTO MIDDLE RIGHThUPPER CENTRE TO MIDDLE RIGHT",
    "mTO LOWER CENTREfRIGHT TO LOWER CENTREhUPPER CENTRE TO MIDDLE LEFT TO LOWER CENTRE",
    "eUPPER CENTRE TO MIDDLE LEFTjAND MIDDLE RIGHT TO LOWER CENTREjTO LOWER CENTRE",
    "mTO MIDDLE RIGHTiRIGHTjAND MIDDLE LEFT TO LOWER CENTREjTO LOWER CENTREmTO MIDDLE LEFT",
    "fLEFT TO LOWER RIGHTfRIGHT TO LOWER LEFTdDOUBLE DASH HORIZONTALfVERTICALdDOWN",
    "eAND HORIZONTALfLEFTfRIGHTdHORIZONTALeWITH VERTICAL STROKEdLEFTeAND HEAVY RIGHT",
    "dQUADRUPLE DASH HORIZONTALfVERTICALdRIGHTdTRIPLE DASH HORIZONTALfVERTICALdUP",
    "eAND HEAVY DOWNfHORIZONTALfLEFTfRIGHTdVERTICALeAND HORIZONTALfLEFTfRIGHT",
    "cRIGHT DOWN HEAVY AND LEFT UP LIGHTdHEAVY AND LEFT DOWN LIGHTgUP LIGHTgVERTICAL LIGHT",
    "dLIGHT AND LEFT DOWN HEAVYgUP HEAVYgVERTICAL HEAVYdUP HEAVY AND LEFT DOWN LIGHT",
    "cUP DOUBLE AND HORIZONTAL SINGLEfLEFT SINGLEfRIGHT SINGLE",
    "dHEAVY AND DOWN HORIZONTAL LIGHTfHORIZONTAL LIGHTfLEFT DOWN LIGHTgLIGHTfRIGHT DOWN LIGHT",
    "gLIGHTdLIGHT AND DOWN HORIZONTAL HEAVYfHORIZONTAL HEAVYfLEFT DOWN HEAVYgHEAVY",
    "fRIGHT DOWN HEAVYgHEAVYdSINGLE AND HORIZONTAL DOUBLEfLEFT DOUBLEfRIGHT DOUBLE",
    "cVERTICAL DOUBLE AND HORIZONTAL SINGLEfLEFT SINGLEfRIGHT SINGLE",
    "dHEAVY AND HORIZONTAL LIGHTfLEFT LIGHTfRIGHT LIGHTdLIGHT AND HORIZONTAL HEAVYfLEFT HEAVY",
    "fRIGHT HEAVYdSINGLE AND HORIZONTAL DOUBLEfLEFT DOUBLEfRIGHT DOUBLEaBOXING GLOVEaBOY",
    "aBOYS SYMBOLaBPHaBRAHMI DANDAbDIGIT EIGHTcFIVEcFOURcNINEcONEcSEVENcSIXcTHREEcTWOcZERO",
    "bDOUBLE DANDAbLETTER AcAAcAIcAUcBAcBHAcCAcCHAcDAcDDAcDDHAcDHAcEcGAcGHAcHAcIcIIcJAcJHAcKA",
    "cKHAcLAcLLAcMAcNAcNGAcNNAcNYAcOcOLD TAMIL LLAeLLLAeNNNAeRRAeSHORT EfOcPAcPHAcRAcSAcSHA",
    "cSSAcTAcTHAcTTAcTTHAcUcUUcVAcVOCALIC LdLLdRdRRcYAbNUMBER EIGHTcEIGHTYcFIFTYcFIVEcFORTY",
    "cFOURcJOINERcNINEcNINETYcONEdHUNDREDdTHOUSANDcSEVENcSEVENTYcSIXcSIXTYcTENcTHIRTYcTHREE",
    "cTWENTYcTWObPUNCTUATION CRESCENT BARcDOTcDOUBLE DOTcLINEcLOTUSbSIGN ANUSVARAcCANDRABINDU",
    "cJIHVAMULIYAcOLD TAMIL VIRAMAcUPADHMANIYAcVISARGAbVIRAMAbVOWEL SIGN AAdAIdAU",
    "dBHATTIPROLU AAdEdIdIIdOdOLD TAMIL SHORT EgOdUdUUdVOCALIC LeLLeReRR",
    "aBRAILLE PATTERN BLANKcDOTS-1cDOTS-12cDOTS-123cDOTS-1234cDOTS-12345cDOTS-123456",
    "cDOTS-1234567cDOTS-12345678cDOTS-1234568cDOTS-123457cDOTS-1234578cDOTS-123458cDOTS-12346",
    "cDOTS-123467cDOTS-1234678cDOTS-123468cDOTS-12347cDOTS-123478cDOTS-12348cDOTS-1235",
    "cDOTS-12356cDOTS-123567cDOTS-1235678cDOTS-123568cDOTS-12357cDOTS-123578cDOTS-12358",
    "cDOTS-1236cDOTS-12367cDOTS-123678cDOTS-12368cDOTS-1237cDOTS-12378cDOTS-1238cDOTS-124",
    "cDOTS-1245cDOTS-12456cDOTS-124567cDOTS-1245678cDOTS-124568cDOTS-12457cDOTS-124578",
    "cDOTS-12458cDOTS-1246cDOTS-12467cDOTS-124678cDOTS-12468cDOTS-1247cDOTS-12478cDOTS-1248",
    "cDOTS-125cDOTS-1256cDOTS-12567cDOTS-125678cDOTS-12568cDOTS-1257cDOTS-12578cDOTS-1258",
    "cDOTS-126cDOTS-1267cDOTS-12678cDOTS-1268cDOTS-127cDOTS-1278cDOTS-128cDOTS-13cDOTS-134",
    "cDOTS-1345cDOTS-13456cDOTS-134567cDOTS-1345678cDOTS-134568cDOTS-13457cDOTS-134578",
    "cDOTS-13458cDOTS-1346cDOTS-13467cDOTS-134678cDOTS-13468cDOTS-1347cDOTS-13478cDOTS-1348",
    "cDOTS-135cDOTS-1356cDOTS-13567cDOTS-135678cDOTS-13568cDOTS-1357cDOTS-13578cDOTS-1358",
    "cDOTS-136cDOTS-1367cDOTS-13678cDOTS-1368cDOTS-137cDOTS-1378cDOTS-138cDOTS-14cDOTS-145",
    "cDOTS-1456cDOTS-14567cDOTS-145678cDOTS-14568cDOTS-1457cDOTS-14578cDOTS-1458cDOTS-146",
    "cDOTS-1467cDOTS-14678cDOTS-1468cDOTS-147cDOTS-1478cDOTS-148cDOTS-15cDOTS-156cDOTS-1567",
    "cDOTS-15678cDOTS-1568cDOTS-157cDOTS-1578cDOTS-158cDOTS-16cDOTS-167cDOTS-1678cDOTS-168",
    "cDOTS-17cDOTS-178cDOTS-18cDOTS-2cDOTS-23cDOTS-234cDOTS-2345cDOTS-23456cDOTS-234567",
    "cDOTS-2345678cDOTS-234568cDOTS-23457cDOTS-234578cDOTS-23458cDOTS-2346cDOTS-23467",
    "cDOTS-234678cDOTS-23468cDOTS-2347cDOTS-23478cDOTS-2348cDOTS-235cDOTS-2356cDOTS-23567",
    "cDOTS-235678cDOTS-23568cDOTS-2357cDOTS-23578cDOTS-2358cDOTS-236cDOTS-2367cDOTS-23678",
    "cDOTS-2368cDOTS-237cDOTS-2378cDOTS-238cDOTS-24cDOTS-245cDOTS-2456cDOTS-24567cDOTS-245678",
    "cDOTS-24568cDOTS-2457cDOTS-24578cDOTS-2458cDOTS-246cDOTS-2467cDOTS-24678cDOTS-2468",
    "cDOTS-247cDOTS-2478cDOTS-248cDOTS-25cDOTS-256cDOTS-2567cDOTS-25678cDOTS-2568cDOTS-257",
    "cDOTS-2578cDOTS-258cDOTS-26cDOTS-267cDOTS-2678cDOTS-268cDOTS-27cDOTS-278cDOTS-28cDOTS-3",
    "cDOTS-34cDOTS-345cDOTS-3456cDOTS-34567cDOTS-345678cDOTS-34568cDOTS-3457cDOTS-34578",
    "cDOTS-3458cDOTS-346cDOTS-3467cDOTS-34678cDOTS-3468cDOTS-347cDOTS-3478cDOTS-348cDOTS-35",
    "cDOTS-356cDOTS-3567cDOTS-35678cDOTS-3568cDOTS-357cDOTS-3578cDOTS-358cDOTS-36cDOTS-367",
    "cDOTS-3678cDOTS-368cDOTS-37cDOTS-378cDOTS-38cDOTS-4cDOTS-45cDOTS-456cDOTS-4567",
    "cDOTS-45678cDOTS-4568cDOTS-457cDOTS-4578cDOTS-458cDOTS-46cDOTS-467cDOTS-4678cDOTS-468",
    "cDOTS-47cDOTS-478cDOTS-48cDOTS-5cDOTS-56cDOTS-567cDOTS-5678cDOTS-568cDOTS-57cDOTS-578",
    "cDOTS-58cDOTS-6cDOTS-67cDOTS-678cDOTS-68cDOTS-7cDOTS-78cDOTS-8aBRAINaBREAD",
    "aBREAK PERMITTED HEREaBREAST-FEEDINGaBREVEaBRICKaBRIDE WITH VEILaBRIDGE AT NIGHT",
    "aBRIEFCASEaBRIEFSaBROCCOLIaBROKEN BARbCIRCLE WITH NORTHWEST ARROWbHEARTaBROOM",
    "aBROWN HEARTaBSaBUBBLE TEAaBUBBLESaBUCKETaBUGaBUGINESE END OF SECTIONbLETTER AcBAcCAcDA",
    "cGAcHAcJAcKAcLAcMAcMPAcNAcNGAcNGKAcNRAcNYAcNYCAcPAcRAcSAcTAcVAcYAbPALLAWAbVOWEL SIGN AE",
    "dEdIdOdUaBUHID LETTER AcBAcDAcGAcHAcIcKAcLAcMAcNAcNGAcPAcRAcSAcTAcUcWAcYAbVOWEL SIGN IdU",
    "aBUILDING CONSTRUCTIONaBULLETbOPERATORaBULLHORNbWITH SOUND WAVESaBULLSEYEaBURRITOaBUS",
    "bSTOPaBUST IN SILHOUETTEaBUSTS IN SILHOUETTEaBUTTERaBUTTERFLYaBYTE ORDER MARK",
    "aBYZANTINE MUSICAL SYMBOL AGOGI ARGIeARGOTERIeGORGIeGORGOTERIeMESIeMETRIAePOLI ARGI",
    "fGORGIdANATRICHISMAdANTIKENOKYLISMAdANTIKENOMAdAPESO EKFONITIKONeEXO NEOdAPLI",
    "dAPODERMA ARCHAIONeNEOdAPOSTROFOI SYNDESMOS NEOeTELOUS ICHIMATOSdAPOSTROFOSeDIPLIeNEO",
    "dAPOTHEMAdARGONdARGOSYNTHETONdARKTIKO DIeGAeKEeNIePAeVOUeZOdCHAMILIdCHAMILON",
    "dCHOREVMA ARCHAIONeNEOdCHROA KLITONeSPATHIeZYGOSdDASEIAdDIARGONdDIASTOLI APLI MEGALI",
    "fMIKRIeDIPLIeTHESEOSdDIESIS APLI DYO DODEKATAeDIGRAMMOS EX DODEKATA",
    "eMONOGRAMMOS TESSERA DODEKATAeTETARTIMORIONeTRIGRAMMOS OKTO DODEKATAeTRITIMORION",
    "dDIFTOGGOS OUdDIGORGONePARESTIGMENON ARISTERA ANOgKATOfDEXIAdDIGRAMMA GGdDIPLIeARCHAION",
    "dDYOdEKSTREPTONdELAFRONdENARXIS KAI FTHORA VOUdENDOFONONdEPEGERMAdETERON ARGOSYNTHETON",
    "ePARAKALESMAdEXO EKFONITIKONdFANEROSIS DIFONIASeMONOFONIASeTETRAFONIAS",
    "dFHTORA SKLIRON CHROMA VASISdFTHORA ARCHAIONfDEYTEROU ICHOUeDIATONIKI DIfKEfNANAfNI ANO",
    "gKATOfPAfZOeENARMONIOS ANTIFONIAeI YFESIS TETARTIMORIONeMALAKON CHROMA DIFONIAS",
    "gMONOFONIASeNAOS ICHOSeNENANOeSKLIRON CHROMA SYNAFIgVASISfDIATONON DIdGENIKI DIESIS",
    "eYFESISdGORGON ARCHAIONeNEO ANOfKATOePARESTIGMENON ARISTERAfDEXIAdGORGOSYNTHETON",
    "dGORTHMIKON N APLOUNfDIPLOUNdGRONTHISMATAdICHADINdIMIDIARGONdIMIFONONdIMIFTHORA",
    "dIMIFTHORONdISAKIA TELOUS ICHIMATOSdISON ARCHAIONeNEOdKATAVA TROMIKONdKATAVASMAdKATHISTI",
    "dKENTIMA ARCHAIONeNEO ANOfKATOfMESOdKENTIMATAeARCHAIONeNEO ANOfKATOfMESOdKLASMAeANOeKATO",
    "dKONTEVMAeALLOdKORONISdKOUFISMAdKRATIMA ALLOeARCHAIONeNEOdKRATIMATAdKRATIMOKOUFISMA",
    "dKRATIMOYPORROONdKREMASTIdKYLISMAdLEIMMA DYO CHRONONeENOS CHRONOUeIMISEOS CHRONOU",
    "eTESSARON CHRONONeTRION CHRONONdLEMOIdLYGISMAdMARTYRIA ALLI DEYTEROS ICHOSfPROTOS ICHOS",
    "eDEYTEROS ICHOSeLEGETOS ICHOSePLAGIOS ICHOSfTETARTOS ICHOSePROTOS ICHOSePROTOVARYS ICHOS",
    "eTETARTOS ICHOSfLEGETOS ICHOSeTRIFONIASeTRITOS ICHOSeVARYS ICHOSdMIKRON ISONdNANA",
    "dOLIGON ARCHAIONeNEOdOMALONdOXEIA DIPLIeEKFONITIKONeNEOdOXEIAI ARCHAION",
    "dOYRANISMA ARCHAIONeNEOdPARAKALESMA ARCHAIONeNEOdPARAKLITIKIeARCHAIONeNEOdPARICHON",
    "dPELASTONeNEOdPERISPOMENIdPETASMAdPETASTIdPETASTOKOUFISMAdPIASMA ARCHAIONeNEO",
    "dPSIFISTOLYGISMAdPSIFISTONeNEOdPSIFISTOPARAKALESMAdPSIFISTOSYNAGMAdPSILIdPSILONdRAPISMA",
    "dREVMAdSAXIMATAdSEISMAeNEOdSIMANSIS ARSEOSfDISIMOUfTETRASIMOUfTRISIMOUeTHESEOSfDISIMOU",
    "fTETRASIMOUfTRISIMOUdSTAVROSeAPODEXIAdSTIGMAdSTRAGGISMATAdSYNAGMA ARCHAIONeMETA STAVROU",
    "eNEOdSYNEVMAdSYRMAdSYRMATIKIdTELEIAdTESSERAdTETRAPLIdTHEMAeAPLOUNdTHEMATISMOS ESOeEXO",
    "dTHES KAI APOTHESdTHITAdTINAGMAdTRIAdTRIGORGONdTRIPLIdTROMIKOLYGISMAdTROMIKON ALLO",
    "eARCHAIONeNEOdTROMIKOPARAKALESMAdTROMIKOPSIFISTONdTROMIKOSYNAGMAdVAREIA DIPLI",
    "eEKFONITIKONeNEOdVAREIAI ARCHAIONdVATHYdXIRON KLASMAdYFEN ANOeKATO",
    "dYFESIS APLI DYO DODEKATAeDIGRAMMOS EX DODEKATAeMONOGRAMMOS TESSERA DODEKATA",
    "eTRIGRAMMOS OKTO DODEKATAeTRITIMORIONdYPOKRISISeDIPLIdYPORROIdYPSILI"]

end CharacterName

end ElementBindings
