/-
  The names that start with N to R.  A small letter in front
  of a name says how many words it shares with the name before
  it, from a for none on; only its further words are written.

  Key definitions include:
    * `CharacterName.fromN`
-/

namespace ElementBindings

namespace CharacterName

------------------------------------------------------------
-- Names
------------------------------------------------------------

/- The names that start with N to R. -/
def fromN : List String := [
    "aN-ARY CIRCLED DOT OPERATORcPLUS OPERATORcTIMES OPERATORbCOPRODUCTbINTERSECTION",
    "bLOGICAL ANDcORbPRODUCTbSQUARE INTERSECTION OPERATORcUNION OPERATORbSUMMATION",
    "bTIMES OPERATORbUNIONcOPERATOR WITH DOTePLUSbWHITE VERTICAL BAR",
    "aNABATAEAN CRUCIFORM NUMBER FOURbLETTER ALEPHcAYINcBETHcDALETHcFINAL ALEPHdBETHdHEdKAPH",
    "dLAMEDHdMEMdNUNdSHINdYODHcGIMELcHEcHETHcKAPHcLAMEDHcMEMcNUNcPEcQOPHcRESHcSADHEcSAMEKH",
    "cSHINcTAWcTETHcWAWcYODHcZAYINbNUMBER FIVEcFOURcONEdHUNDREDcTENcTHREEcTWENTYcTWOaNABLA",
    "aNAIL POLISHaNAIRA SIGNaNAKaNAME BADGEaNANDaNANDINAGARI HEADSTROKEbLETTER AcAAcAIcAUcBA",
    "cBHAcCAcCHAcDAcDDAcDDHAcDHAcEcGAcGHAcHAcIcIIcJAcJHAcKAcKHAcLAcLLAcMAcNAcNGAcNNAcNYAcOcPA",
    "cPHAcRAcRRAcSAcSHAcSSAcTAcTHAcTTAcTTHAcUcUUcVAcVOCALIC RdRRcYAbSIGN ANUSVARAcAVAGRAHA",
    "cSIDDHAMcVIRAMAcVISARGAbVOWEL SIGN AAdAIdAUdEdIdIIdOdPRISHTHAMATRA EdUdUUdVOCALIC ReRR",
    "aNARROW NO-BREAK SPACEaNATIONAL DIGIT SHAPESbPARKaNAUSEATED FACEaNAZAR AMULETaNBHaNBSP",
    "aNECKTIEaNEGATED DOUBLE VERTICAL BAR DOUBLE RIGHT TURNSTILEaNEGATIVE ACKNOWLEDGE",
    "bCIRCLED DIGIT ZEROcLATIN CAPITAL LETTER AfBfCfDfEfFfGfHfIfJfKfLfMfNfOfPfQfRfSfTfUfVfWfX",
    "fYfZcNUMBER EIGHTEENdELEVENdFIFTEENdFOURTEENdNINETEENdSEVENTEENdSIXTEENdTHIRTEENdTWELVE",
    "dTWENTYcSQUAREcTRIANGLEbDIAGONAL CROSScDIAMONDcMIDDLE RIGHT TO LOWER CENTREbSQUARED AB",
    "cCROSS MARKcICcLATIN CAPITAL LETTER AfBfCfDfEfFfGfHfIfJfKfLfMfNfOfPfQfRfSfTfUfVfWfXfYfZ",
    "cPAcQUESTION MARKcSAcWCaNEITHER A SUBSET OF NOR EQUAL TOcSUPERSET OF NOR EQUAL TO",
    "bAPPROXIMATELY NOR ACTUALLY EQUAL TObGREATER-THAN NOR EQUAL TOdEQUIVALENT TOdLESS-THAN",
    "bLESS-THAN NOR EQUAL TOdEQUIVALENT TOdGREATER-THANaNELaNEPTUNEbFORM TWOaNERD FACEaNESSUS",
    "aNEST WITH EGGSaNESTING DOLLSaNEUTERaNEUTRAL CHESS BISHOPdROTATED NINETY DEGREES",
    "eTWO HUNDRED SEVENTY DEGREEScEQUIHOPPERdROTATED NINETY DEGREEScKING",
    "dROTATED NINETY DEGREESeTWO HUNDRED SEVENTY DEGREEScKNIGHTdROTATED FORTY-FIVE DEGREES",
    "eNINETY DEGREESeONE HUNDRED THIRTY-FIVE DEGREESeTHREE HUNDRED FIFTEEN DEGREES",
    "eTWO HUNDRED SEVENTY DEGREESgTWENTY-FIVE DEGREEScPAWNdROTATED NINETY DEGREES",
    "eTWO HUNDRED SEVENTY DEGREEScQUEENdROTATED NINETY DEGREESeTWO HUNDRED SEVENTY DEGREES",
    "cROOKdROTATED NINETY DEGREESeTWO HUNDRED SEVENTY DEGREEScTURNED BISHOPdKINGdKNIGHTdPAWN",
    "dQUEENdROOKbFACEaNEW LINEbMOON SYMBOLcWITH FACEbSHEQEL SIGNbTAI LUE DIGIT EIGHTeFIVE",
    "eFOUReNINEeONEeSEVENeSIXeTHREEeTWOeZEROdLETTER FINAL BfDfKfMfNfNGfVeHIGH BAfDAfFAfHAfKA",
    "fKVAfLAfMAfNAfNGAfPAfPHAfQAfSAfSUAfTAfTHAfTSAfVAfXAfXVAfYAeLOW BAfDAfFAfHAfKAfKVAfLAfMA",
    "fNAfNGAfPAfPHAfQAfSAfSUAfTAfTHAfTSAfVAfXAfXVAfYAdSIGN LAEeLAEVdTHAM DIGIT ONE",
    "dTONE MARK-1eMARK-2dVOWEL SIGN AAfAAYfAEfAYfEfIIfIYfOfOAfOAYfOYfUfUEfUEYfUUfUY",
    "fVOWEL SHORTENERaNEWA ABBREVIATION SIGNbCOMMAbDANDAbDIGIT EIGHTcFIVEcFOURcNINEcONEcSEVEN",
    "cSIXcTHREEcTWOcZERObDOUBLE COMMAcDANDAbGAP FILLERbINSERTION SIGNbLETTER AcAAcAIcAUcBA",
    "cBHAcCAcCHAcDAcDDAcDDHAcDHAcEcGAcGHAcHAcIcIIcJAcJHAcKAcKHAcLAcLHAcMAcMHAcNAcNGAcNGHAcNHA",
    "cNNAcNYAcNYHAcOcPAcPHAcRAcRHAcSAcSHAcSSAcTAcTHAcTTAcTTHAcUcUUcVEDIC ANUSVARAcVOCALIC L",
    "dLLdRdRRcWAcYAbOMbPLACEHOLDER MARKbSANDHI MARKbSIDDHIbSIGN ANUSVARAcAVAGRAHAcCANDRABINDU",
    "cFINAL ANUSVARAcJIHVAMULIYAcNUKTAcUPADHMANIYAcVIRAMAcVISARGAbVOWEL SIGN AAdAIdAUdEdIdII",
    "dOdUdUUdVOCALIC LeLLeReRRaNEWLINE LEFTbRIGHTaNEWSPAPERaNEXT LINEbPAGEaNIGHT WITH STARS",
    "aNINJAaNKO COMBINING DOUBLE DOT ABOVEcLONG DESCENDING TONEdHIGH TONEdLOW TONE",
    "dRISING TONEcNASALIZATION MARKcSHORT HIGH TONEdLOW TONEdRISING TONEbCOMMAbDANTAYALAN",
    "bDIGIT EIGHTcFIVEcFOURcNINEcONEcSEVENcSIXcTHREEcTWOcZERObDOROME SIGNbEXCLAMATION MARK",
    "bHIGH TONE APOSTROPHEbLAJANYALANbLETTER AcBAcCHAcDAcDAGBASINNAcEcEEcFAcGBAcHAcIcJA",
    "cJONA CHAdJAdRAcKAcLAcMAcNcNAdWOLOSOcNYAdWOLOSOcOcOOcPAcRAcRRAcSAcTAcUcWAcYA",
    "bLOW TONE APOSTROPHEbSYMBOL GBAKURUNENcOO DENNENbTAMAN SIGNaNLaNNBSPaNO BICYCLES",
    "bBREAK HEREbENTRYcSIGNbMOBILE PHONESbONE UNDER EIGHTEEN SYMBOLbPEDESTRIANSbPIRACY",
    "bSMOKING SYMBOLaNO-BREAK SPACEaNOMINAL DIGIT SHAPESaNOMISMA SIGNaNON-BREAKING HYPHEN",
    "aNON-POTABLE WATER SYMBOLaNONFORKINGaNORaNORDIC MARK SIGNaNORMAL SUBGROUP OFdOR EQUAL TO",
    "aNORTH EAST AND SOUTH WEST ARROWcARROWdAND SOUTH EAST ARROWdCROSSING NORTH WEST ARROW",
    "eSOUTH EAST ARROWdWITH HOOKcBLACK ARROWcDOUBLE ARROWcPOINTING BUDdLEAFdVINE LEAF",
    "cSANS-SERIF ARROWcTRIANGLE-HEADED ARROWeTO BARcWHITE ARROWbINDIC FRACTION ONE EIGHTH",
    "eHALFeQUARTEReSIXTEENTHdTHREE QUARTERSeSIXTEENTHScPLACEHOLDER MARKcQUANTITY MARK",
    "cQUARTER MARKcRUPEE MARKbWEST AND SOUTH EAST ARROWcARROWdAND NORTH EAST ARROW",
    "dCROSSING NORTH EAST ARROWdTO CORNEReLONG BARdWITH HOOKcBLACK ARROWcDOUBLE ARROW",
    "cPOINTING BUDdLEAFdVINE LEAFcSANS-SERIF ARROWcTRIANGLE-HEADED ARROWeTO BARcWHITE ARROW",
    "aNORTHEAST-POINTING AIRPLANEaNOSEaNOT A SUBSET OFcSUPERSET OFbALMOST EQUAL TO",
    "bAN ELEMENT OFbASYMPTOTICALLY EQUAL TObCHECK MARKbEQUAL TObEQUIVALENT TObGREATER-THAN",
    "bIDENTICAL TObLESS-THANbNORMAL SUBGROUP OFeOR EQUAL TObPARALLEL TObSIGN",
    "bSQUARE IMAGE OF OR EQUAL TOcORIGINAL OF OR EQUAL TObTILDEbTRUE",
    "aNOTCHED LEFT SEMICIRCLE WITH THREE DOTSbLOWER RIGHT-SHADOWED WHITE RIGHTWARDS ARROW",
    "bRIGHT SEMICIRCLE WITH THREE DOTSbUPPER RIGHT-SHADOWED WHITE RIGHTWARDS ARROWaNOTEbPAD",
    "bPAGEaNOTEBOOKbWITH DECORATIVE COVERaNULaNULLaNUMBER EIGHTEEN FULL STOPbELEVEN FULL STOP",
    "bFIFTEEN FULL STOPbFOURTEEN FULL STOPbNINETEEN FULL STOPbSEVENTEEN FULL STOPbSIGN",
    "bSIXTEEN FULL STOPbTEN FULL STOPbTHIRTEEN FULL STOPbTWELVE FULL STOPbTWENTY FULL STOP",
    "aNUMERO SIGNaNUSHU ITERATION MARKaNUT AND BOLTaNYIAKENG PUACHUE HMONG CIRCLED CA",
    "dDIGIT EIGHTeFIVEeFOUReNINEeONEeSEVENeSIXeTHREEeTWOeZEROdLETTER AeAAeCAeDAeDLAeEeEEeFA",
    "eGAeHAeHAHeIeKAeLAeMAeMLAeNAeNCAeNKAeNPAeNPLAeNQAeNRAeNTAeNTSAeNTXAeNYAeOeOOePAePLAeQA",
    "eRAeRRAeSAeTAeTSAeTXAeUeVAeWeXAeXYAeYAeZAdLOGOGRAM NYAJdSIGN FOR ANIMALfINVERTEBRATE",
    "fLOCATIONfPERSONfTHINGeXW XWdSYLLABLE LENGTHENERdTONE-BdTONE-DdTONE-GdTONE-JdTONE-M",
    "dTONE-SdTONE-VaOBJECT REPLACEMENT CHARACTERaOBLIQUE ANGLE OPENING DOWNdUPbHYPHEN",
    "aOBSERVER EYE SYMBOLaOCR AMOUNT OF CHECKbBELT BUCKLEbBOW TIEbBRANCH BANK IDENTIFICATION",
    "bCHAIRbCUSTOMER ACCOUNT NUMBERbDASHbDOUBLE BACKSLASHbFORKbHOOKbINVERTED FORK",
    "aOCTAGONAL SIGNaOCTOPUSaODENaOFFICE BUILDINGaOGHAM FEATHER MARKbLETTER AILMcBEITHcCEIRT",
    "cCOLLcDAIRcEABHADHcEADHADHcEAMHANCHOLLcFEARNcGORTcIFINcIODHADHcLUIScMUINcNGEADALcNION",
    "cONNcORcPEITHcRUIScSAILcSTRAIFcTINNEcUATHcUILLEANNcURbREVERSED FEATHER MARKbSPACE MARK",
    "aOGONEKaOHM SIGNaOIL DRUMaOK HAND SIGNaOL CHIKI AHADcDIGIT EIGHTdFIVEdFOURdNINEdONE",
    "dSEVENdSIXdTHREEdTWOdZEROcGAAHLAA TTUDDAAGcLETTER AAJdAAKdAAMdAAWdAGdALdANGdATdEDDdENdEP",
    "dERRdIHdINYdIRdISdLAdLAAdLEdLIdLOdLUdOBdOHdOTTdOVdUCdUDdUNNdUYcMU TTUDDAG",
    "cMU-GAAHLAA TTUDDAAGcPHAARKAAcPUNCTUATION DOUBLE MUCAADdMUCAADcRELAA",
    "aOLD CHINESE HOOK MARKcITERATION MARKbHUNGARIAN CAPITAL LETTER AeAAeAKeAMBeANDeCLOSE EeE",
    "eEBeECeECHeECSeEDeEEeEFeEGeEGYeEHeEJeEKeELeELYeEMeEMPeENeENCeENTeENT-SHAPED SIGNeENYeEP",
    "eEReESeESZeETeETYeEVeEZeEZSeIeIIeNIKOLSBURG OEfUEeOeOEEeOOeRUDIMENTA OEfUEeSHORT EReU",
    "eUNKeUSeUUcNUMBER FIFTYdFIVEdONEeHUNDREDeTHOUSANDdTENcSMALL LETTER AeAAeAKeAMBeAND",
    "eCLOSE EeEeEBeECeECHeECSeEDeEEeEFeEGeEGYeEHeEJeEKeELeELYeEMeEMPeENeENCeENT",
    "eENT-SHAPED SIGNeENYeEPeEReESeESZeETeETYeEVeEZeEZSeIeIIeNIKOLSBURG OEfUEeOeOEEeOO",
    "eRUDIMENTA OEfUEeSHORT EReUeUNKeUSeUUbITALIC LETTER AdBEdCHEdDEdEdEFdEKSdELdEMdENdERdERS",
    "dESdESHdESSdHEdIdIIdKAdKEdKHEdKUdNORTHERN TSEdOdPEdPHEdSHEdSOUTHERN TSEdTEdTHEdUdUUdVE",
    "dYEdZEcNUMERAL FIFTYdFIVEdONEdTENbKEYbNORTH ARABIAN LETTER AINeALEFeBEHeDADeDALeES-1",
    "eES-2eES-3eFEHeGEEMeGHAINeHAHeHEHeKAFeKHAHeLAMeMEEMeNOONeQAFeREHeSADeTAHeTEHeTHALeTHEH",
    "eWAWeYEHeZAHeZAINdNUMBER ONEeTENeTWENTYbPERMIC LETTER ANdBURdCHERYdDOIdDZHOIdDZITAdEdEF",
    "dGAIdHAdIdIAdIEdKOKEdLEIdMENOEdNENOEdOdOOdPEEIdREIdSHCHOOIdSHOOIdSIIdTAIdTSIUdUdVERdVOOI",
    "dYAdYATdYERdYERIdYERUdYRYdYUdZATAdZHOIbPERSIAN NUMBER HUNDREDdONEdTENdTWENTYdTWOcSIGN A",
    "dAURAMAZDAAdAURAMAZDAA-2dAURAMAZDAAHAdBAdBAGAdBUUMISHdCAdDAdDAHYAAUSHdDAHYAAUSH-2dDIdDU",
    "dFAdGAdGUdHAdIdJAdJIdKAdKUdLAdMAdMIdMUdNAdNUdPAdRAdRUdSAdSHAdSSAdTAdTHAdTUdUdVAdVIdXA",
    "dXSHAAYATHIYAdYAdZAcWORD DIVIDERbPERSONAL COMPUTERbSOGDIAN FRACTION ONE HALF",
    "cLETTER ALEPHdALTERNATE AYINdAYINdBETHdFINAL ALEPHeBETHeHEeNUNfWITH VERTICAL TAILeSADHE",
    "fWITH VERTICAL TAILeTAWfWITH VERTICAL TAILdGIMELdHEdHETHdKAPHdLAMEDHdMEMdNUNdPE",
    "dRESH-AYIN-DALETHdSADHEdSAMEKHdSHINdTAWdWAWdYODHdZAYINcLIGATURE AYIN-DALETHcNUMBER FIVE",
    "dFOURdONEeHUNDREDdTENdTHIRTYdTHREEdTWENTYdTWObSOUTH ARABIAN LETTER ALEFeAYNeBETHeDALETH",
    "eDHADHEeDHALETHeFEeGHAYNeGIMELeHEeHETHeKAPHeKHETHeLAMEDHeMEMeNUNeQOPHeRESHeSADHEeSAMEKH",
    "eSATeSHINeTAWeTETHeTHAWeTHETHeWAWeYODHeZAYNdNUMBER FIFTYeONEdNUMERIC INDICATOR",
    "bTURKIC LETTER ORKHON AeABeADeAEBeAEDeAEGeAEKeAELeAENeAEReAESeAETeAEYeAGeALeANeAQeAReAS",
    "eASHeATeAYeBASHeECeELTeEMeENCeENGeENTeENYeEPeESHeEZeIeICeIQeOeOEeOEKeOPeOQeOTdYENISEI A",
    "eABeADeAEeAEBeAEGeAEKeAENeAENGeAETeAEYeAGeALeANGeAQeAReASHeATeAYeEeECeENCeENTeENYeESHeEZ",
    "eIeIQeOEeOEKeOQbUYGHUR COMBINING DOT ABOVEeBELOWdTWO DOTS ABOVEfBELOWcLETTER ALEPHdBETH",
    "dFINAL HETHdGIMEL-HETHdKAPHdLAMEDHdLESHdMEMdNUNdPEdRESHdSADHEdSAMEKHdSHINdTAWdWAWdYODH",
    "dZAYINcPUNCTUATION BARdFOUR DOTSdTWO BARSeDOTSaOLDER ADULTbMANbWOMANaOLIVEaOM SYMBOL",
    "aON WITH EXCLAMATION MARK WITH LEFT RIGHT ARROW ABOVEaONCOMING AUTOMOBILEbBUS",
    "bFIRE ENGINEbPOLICE CARbTAXIaONE BUTTON MOUSEbDOT LEADERcOVER TWO DOTS PUNCTUATION",
    "aONE-PIECE SWIMSUITaONIONaOPEN BOOKbBOXbCENTRE ASTERISKcBLACK STARcCROSS",
    "cTEARDROP-SPOKED ASTERISKbFILE FOLDERbFOLDERbHANDS SIGNbLOCKbMAILBOX WITH LOWERED FLAG",
    "dRAISED FLAGbSUBSETbSUPERSETaOPEN-CIRCUIT-OUTPUT H-TYPE SYMBOLbL-TYPE SYMBOL",
    "aOPEN-OUTLINED RIGHTWARDS ARROWaOPERATING SYSTEM COMMANDaOPHIUCHUSaOPPOSITION",
    "aOPTICAL DISCcICONaOPTION KEYaOR WITH DOT INSIDEaORANGE BOOKbHEARTaORANGUTANaORIGINAL OF",
    "aORIYA AI LENGTH MARKbAU LENGTH MARKbDIGIT EIGHTcFIVEcFOURcNINEcONEcSEVENcSIXcTHREEcTWO",
    "cZERObFRACTION ONE EIGHTHdHALFdQUARTERdSIXTEENTHcTHREE QUARTERSdSIXTEENTHSbISSHAR",
    "bLETTER AcAAcAIcAUcBAcBHAcCAcCHAcDAcDDAcDDHAcDHAcEcGAcGHAcHAcIcIIcJAcJHAcKAcKHAcLAcLLA",
    "cMAcNAcNGAcNNAcNYAcOcPAcPHAcRAcRHAcRRAcSAcSHAcSSAcTAcTHAcTTAcTTHAcUcUUcVAcVOCALIC LdLLdR",
    "dRRcWAcYAcYYAbSIGN ANUSVARAcAVAGRAHAcCANDRABINDUcNUKTAcOVERLINEcVIRAMAcVISARGA",
    "bVOWEL SIGN AAdAIdAUdEdIdIIdOdUdUUdVOCALIC LeLLeReRRaORNATE LEFT PARENTHESIS",
    "bRIGHT PARENTHESISaORTHODOX CROSSaOSAGE CAPITAL LETTER AdAHdAIdAINdBRAdCHAdDHAdEdEHCHA",
    "dEHKAdEHPAdEHTAdEHTSAdEINdGHAdHAdHYAdIdKAdKHAdKYAdLAdMAdNAdOdOINdPAdSAdSHAdTAdTSAdTSHAdU",
    "dWAdZAdZHAbSMALL LETTER AdAHdAIdAINdBRAdCHAdDHAdEdEHCHAdEHKAdEHPAdEHTAdEHTSAdEINdGHAdHA",
    "dHYAdIdKAdKHAdKYAdLAdMAdNAdOdOINdPAdSAdSHAdTAdTSAdTSHAdUdWAdZAdZHAaOSC",
    "aOSMANYA DIGIT EIGHTcFIVEcFOURcNINEcONEcSEVENcSIXcTHREEcTWOcZERObLETTER AcAAcALEFcBA",
    "cCAYNcDEELcDHAcEcEEcFAcGAcHAcIcJAcKAAFcKHAcLAANcMIINcNUUNcOcOOcQAAFcRAcSAcSHIINcTAcUcWAW",
    "cXAcYAaOTTERaOTTOMAN SIYAQ ALTERNATE NUMBER EIGHTeFIVEeFOURfHUNDREDeNINEeSEVENeSIX",
    "fHUNDREDeTENfTHOUSANDeTHREEeTWOfTHOUSANDcFRACTION ONE HALFeSIXTHcMARRATANcNUMBER EIGHT",
    "eHUNDREDeTHOUSANDdEIGHTYeTHOUSANDdFIFTYeTHOUSANDdFIVEeHUNDREDeTHOUSANDdFORTYeTHOUSAND",
    "dFOUReHUNDREDeTHOUSANDdNINEeHUNDREDeTHOUSANDdNINETYeTHOUSANDdONEeHUNDREDeTHOUSANDdSEVEN",
    "eHUNDREDeTHOUSANDdSEVENTYeTHOUSANDdSIXeHUNDREDeTHOUSANDdSIXTYeTHOUSANDdTENeTHOUSAND",
    "dTHIRTYeTHOUSANDdTHREEeHUNDREDeTHOUSANDdTWENTYeTHOUSANDdTWOeHUNDREDeTHOUSANDaOUNCE SIGN",
    "aOUTBOX TRAYaOUTLINED BLACK STARbGREEK CROSSbLATIN CROSSbWHITE STARaOVERHEATED FACE",
    "aOVERLAPaOVERLAPPING BLACK SQUARESbWHITE AND BLACK SQUAREScSQUARESaOVERLINEaOWLaOX",
    "aOYSTERaPACKAGEaPADaPADDING CHARACTERaPAGEbFACING UPbWITH CIRCLED TEXTcCURLaPAGERaPAGES",
    "aPAGODAaPAHAWH HMONG CLAN SIGN FAJeHAMeHAWJeKHABeKOOeKWMeLAUJeLISeMUASePHABeTHOJeTSAB",
    "eTSHEEJeTSWBeVAJeVWJeXYOOJeYAJeYEEGcCONSONANT AUdCAUdCHAUdHAUdHLAUdHNAUdLAUdMAUdNAU",
    "dNCHAUdNKAUdNLAUdNTHAUdNTSAUdPLHAUdQHAUdRAUdVAUdXAUdYAUcDIGIT EIGHTdFIVEdFOURdNINEdONE",
    "dSEVENdSIXdTHREEdTWOdZEROcMARK CIM HOMeKESeKHAVeSOeSUAMeTAUMeTUBcNUMBER HUNDRED MILLIONS",
    "dHUNDREDSdMILLIONSdTEN BILLIONSeTHOUSANDSdTENSdTRILLIONScSIGN AVdCIM CHEEMeCUAM TSHOOJ",
    "eHAIS LUS NTOG NTOGeNRES TOSePUB DAWBeTSOV ROGeTXWVfCHWVdHLIdHNUBdIB YAMdLOSdMEEJ SUAB",
    "eTSEEBdMUSdNQIGdNTUJdTAUdTHIRD-STAGE HLIdTXHEEJ CEEVdVOS FEEMeLUBeNRUAeSEEVeTHIABeTHOM",
    "eTSHAB CEEBdXAUSdXIABdXYEEM FAIBeNTXIVeRHOeTOVdXYOOdZWJ THAJcVOWEL KAABdKAAVdKABdKAIB",
    "dKAIVdKAUBdKAUVdKAVdKAWBdKAWVdKEBdKEEBdKEEVdKEVdKIABdKIAVdKIBdKIVdKOBdKOOBdKOOVdKOVdKUAB",
    "dKUAVdKUBdKUVdKWBdKWVaPALLASaPALM BRANCHbDOWN HANDbTREEbUP HANDaPALMS UP TOGETHER",
    "aPALMYRENE LEFT-POINTING FLEURONbLETTER ALEPHcAYINcBETHcDALETHcFINAL NUNcGIMELcHEcHETH",
    "cKAPHcLAMEDHcMEMcNUNcPEcQOPHcRESHcSADHEcSAMEKHcSHINcTAWcTETHcWAWcYODHcZAYINbNUMBER FIVE",
    "cFOURcONEcTENcTHREEcTWENTYcTWObRIGHT-POINTING FLEURONaPANCAKESaPANDA FACEaPAPERCLIP",
    "aPARACHUTEaPARAGRAPH SEPARATORaPARAGRAPHOSaPARAGRAPHUS MARKaPARALLEL TO",
    "bWITH HORIZONTAL STROKEcTILDE OPERATORaPARENTHESIZED DIGIT EIGHTcFIVEcFOURcNINEcONE",
    "cSEVENcSIXcTHREEcTWObHANGUL CHIEUCHdAcCIEUCdAdUcHIEUHdAcIEUNGdAcKHIEUKHdAcKIYEOKdAcMIEUM",
    "dAcNIEUNdAcPHIEUPHdAcPIEUPdAcRIEULdAcSIOSdAcTHIEUTHdAcTIKEUTdAbIDEOGRAPH ALLIANCEcCALL",
    "cCONGRATULATIONcEARTHcEIGHTcENTERPRISEcFESTIVALcFINANCIALcFIREcFIVEcFOURcHAVEcLABOR",
    "cMETALcMOONcNAMEcNINEcONEcREACHcREPRESENTcRESOURCEcRESTcSELFcSEVENcSIXcSOCIETYcSPECIAL",
    "cSTOCKcSTUDYcSUNcSUPERVISEcTENcTHREEcTWOcWATERcWOODbKOREAN CHARACTER O HUdOJEON",
    "bLATIN CAPITAL LETTER AeBeCeDeEeFeGeHeIeJeKeLeMeNeOePeQeReSeTeUeVeWeXeYeZcSMALL LETTER A",
    "eBeCeDeEeFeGeHeIeJeKeLeMeNeOePeQeReSeTeUeVeWeXeYeZbNUMBER EIGHTEENcELEVENcFIFTEEN",
    "cFOURTEENcNINETEENcSEVENTEENcSIXTEENcTENcTHIRTEENcTWELVEcTWENTYaPARROT",
    "aPART ALTERNATION MARKaPARTIAL DIFFERENTIALbLINE BACKWARDcDOWNcFORWARDcUP",
    "aPARTIALLY-RECYCLED PAPER SYMBOLaPARTNERSHIP SIGNaPARTY POPPERaPASSED SYMBOL",
    "aPASSENGER SHIPaPASSIVE-PULL-DOWN-OUTPUT SYMBOLaPASSIVE-PULL-UP-OUTPUT SYMBOL",
    "aPASSPORT CONTROLaPAU CIN HAU GLOTTAL STOPfFINALfVARIANTdLETTER AeBAeCAeCHAeDAeEeFA",
    "eFINAL KfLfMfNfNGfPfTfWfYeGAeHAeIeIAeKAeKHAeLAeMAeNAeNGAeOePAePHAeRAeSAeTAeTHAeUeUAeVA",
    "eZAdLOW-FALLING TONEfFINALfLONGgFINALdMID-LEVEL TONEfFINALfLONG FINALdRISING TONEfFINAL",
    "fLONGgFINALdSANDHI GLOTTAL STOPgFINALeTONEfFINALfLONGgFINALaPAW PRINTSaPDFaPDI",
    "aPEACE SYMBOLaPEACHaPEACOCKaPEANUTSaPEARaPEDESTRIANaPEN OVER STAMPED ENVELOPEaPENCIL",
    "aPENGUINaPENSIVE FACEaPENTAGRAMaPEOPLE HUGGINGaPER MILLE SIGNbSIGNbTEN THOUSAND SIGN",
    "aPERCENT SIGNaPERFORMING ARTSaPERMANENT PAPER SIGNaPERPENDICULARbWITH SaPERSEVERING FACE",
    "aPERSON BOWING DEEPLYbCLIMBINGbDOING CARTWHEELbFROWNINGbIN LOTUS POSITIONcSTEAMY ROOM",
    "bRAISING BOTH HANDS IN CELEBRATIONbWITH BALLcBLOND HAIRcCROWNcFOLDED HANDScHEADSCARF",
    "cPOUTING FACEaPERSONAL COMPUTERaPERSPECTIVEaPESETA SIGNaPESO SIGNaPETRI DISH",
    "aPHAGS-PA DOUBLE HEAD MARKbLETTER AcALTERNATE YAcASPIRATED FAcBAcCAcCANDRABINDUcCHAcDA",
    "cDDAcDZAcEcEEcFAcGAcGGAcHAcIcJAcKAcKHAcLAcMAcNAcNGAcNNAcNYAcOcPAcPHAcQAcRAcSAcSHA",
    "cSMALL AcTAcTHAcTSAcTSHAcTTAcTTHAcUcVOICED HAcVOICELESS SHAcWAcXAcYAcZAcZHA",
    "bMARK DOUBLE SHADcSHADbSINGLE HEAD MARKbSUBJOINED LETTER RAdWAdYAbSUPERFIXED LETTER RA",
    "aPHAISTOS DISC SIGN ARROWdBEEdBEEHIVEdBOOMERANGdBOWdBULLS LEGdCAPTIVEdCARPENTRY PLANE",
    "dCATdCHILDdCLUBdCOLUMNdCOMBdCOMBINING OBLIQUE STROKEdDOLIUMdDOVEdEAGLEdFLUTEdGAUNTLET",
    "dGRATERdHELMETdHIDEdHORNdLIDdLILYdMANACLESdMATTOCKdOX BACKdPAPYRUSdPEDESTRIANdPLANE TREE",
    "dPLUMED HEADdRAMdROSETTEdSAWdSHIELDdSHIPdSLINGdSMALL AXEdSTRAINERdTATTOOED HEADdTIARA",
    "dTUNNYdVINEdWAVY BANDdWOMANaPHILIPPINE DOUBLE PUNCTUATIONbSINGLE PUNCTUATION",
    "aPHOENICIAN LETTER AINcALFcBETcDELTcGAMLcHEcHETcKAFcLAMDcMEMcNUNcPEcQOFcROSHcSADEcSEMK",
    "cSHINcTAUcTETcWAUcYODcZAIbNUMBER ONEdHUNDREDcTENcTHREEcTWENTYcTWObWORD SEPARATORaPHOLUS",
    "aPICKaPICKUP TRUCKaPIEaPIGbFACEbNOSEaPILCROW SIGNaPILE OF POOaPILLaPINATA",
    "aPINCHED FINGERSaPINCHING HANDaPINE DECORATIONaPINEAPPLEaPINWHEEL STARaPISCESaPISTOL",
    "aPITCHFORKbWITH TEE TOPaPLACARDaPLACE OF INTEREST SIGNcWORSHIPaPLANCK CONSTANT",
    "cOVER TWO PIaPLAYGROUND SLIDEaPLAYING CARD ACE OF CLUBSeDIAMONDSeHEARTSeSPADEScBACK",
    "cBLACK JOKERcEIGHT OF CLUBSeDIAMONDSeHEARTSeSPADEScFIVE OF CLUBSeDIAMONDSeHEARTSeSPADES",
    "cFOOLcFOUR OF CLUBSeDIAMONDSeHEARTSeSPADEScJACK OF CLUBSeDIAMONDSeHEARTSeSPADES",
    "cKING OF CLUBSeDIAMONDSeHEARTSeSPADEScKNIGHT OF CLUBSeDIAMONDSeHEARTSeSPADES",
    "cNINE OF CLUBSeDIAMONDSeHEARTSeSPADEScQUEEN OF CLUBSeDIAMONDSeHEARTSeSPADEScRED JOKER",
    "cSEVEN OF CLUBSeDIAMONDSeHEARTSeSPADEScSIX OF CLUBSeDIAMONDSeHEARTSeSPADEScTEN OF CLUBS",
    "eDIAMONDSeHEARTSeSPADEScTHREE OF CLUBSeDIAMONDSeHEARTSeSPADEScTRUMP-1cTRUMP-10cTRUMP-11",
    "cTRUMP-12cTRUMP-13cTRUMP-14cTRUMP-15cTRUMP-16cTRUMP-17cTRUMP-18cTRUMP-19cTRUMP-2",
    "cTRUMP-20cTRUMP-21cTRUMP-3cTRUMP-4cTRUMP-5cTRUMP-6cTRUMP-7cTRUMP-8cTRUMP-9cTWO OF CLUBS",
    "eDIAMONDSeHEARTSeSPADEScWHITE JOKERaPLDaPLUaPLUNGERaPLUS SIGNcABOVE EQUALS SIGN",
    "cIN LEFT HALF CIRCLEdRIGHT HALF CIRCLEdTRIANGLEcWITH BLACK TRIANGLE",
    "dCIRCUMFLEX ACCENT ABOVEdDOT BELOWdSMALL CIRCLE ABOVEdSUBSCRIPT TWOdTILDE ABOVEeBELOW",
    "aPLUS-MINUS SIGNaPLUTObFORM FIVEcFOURcTHREEcTWOaPMaPOCKET CALCULATORaPOLICE CAR",
    "bCARS REVOLVING LIGHTbOFFICERaPOODLEaPOP DIRECTIONAL FORMATTINGcISOLATEaPOPCORN",
    "aPORTABLE STEREOaPOSEIDONaPOSITION INDICATORaPOSTAL HORNbMARKcFACEaPOSTBOXaPOT OF FOOD",
    "aPOTABLE WATER SYMBOLaPOTATOaPOTTED PLANTaPOUCHaPOULTRY LEGaPOUND SIGNaPOURING LIQUID",
    "aPOUTING CAT FACEbFACEaPOWER ON SYMBOLbON-OFF SYMBOLbSLEEP SYMBOLbSYMBOLaPRAYER BEADS",
    "aPRECEDESbABOVE ALMOST EQUAL TOcEQUALS SIGNcNOT ALMOST EQUAL TOdEQUAL TO",
    "cSINGLE-LINE EQUALS SIGNdNOT EQUAL TObBUT NOT EQUIVALENT TObOR EQUAL TOcEQUIVALENT TO",
    "bUNDER RELATIONaPREGNANT MANbPERSONbWOMANaPRESCRIPTION TAKE",
    "aPRESENTATION FORM FOR VERTICAL COLONeCOMMAeEM DASHeEN DASHeEXCLAMATION MARK",
    "eHORIZONTAL ELLIPSISeIDEOGRAPHIC COMMAfFULL STOPeLEFT ANGLE BRACKET",
    "fBLACK LENTICULAR BRACKETfCORNER BRACKETfCURLY BRACKETfDOUBLE ANGLE BRACKETfPARENTHESIS",
    "fSQUARE BRACKETfTORTOISE SHELL BRACKETfWHITE CORNER BRACKETgLENTICULAR BRACKETeLOW LINE",
    "eQUESTION MARKeRIGHT ANGLE BRACKETfBLACK LENTICULAR BRACKETfCORNER BRACKETfCURLY BRACKET",
    "fDOUBLE ANGLE BRACKETfPARENTHESISfSQUARE BRACKETfTORTOISE SHELL BRACKET",
    "fWHITE CORNER BRACKETgLENTICULAR BRACKEThBRAKCETeSEMICOLONeTWO DOT LEADEReWAVY LOW LINE",
    "aPRETZELaPREVIOUS PAGEaPRIMEaPRINCEaPRINCESSaPRINT SCREEN SYMBOLaPRINTERbICON",
    "aPRIVACY MESSAGEaPRIVATE USE ONEcTWObUSE-1bUSE-2aPROBING CANEaPROHIBITED SIGNaPROJECTIVE",
    "aPROPERTY LINEaPROPORTIONaPROPORTIONAL TOaPROSERPINA",
    "aPSALTER PAHLAVI FOUR DOTS WITH CROSSfDOTcLETTER ALEPHdBETHdDALETHdGIMELdHEdHETHdKAPH",
    "dLAMEDHdMEM-QOPHdNUNdPEdSADHEdSAMEKHdSHINdTAWdWAW-AYIN-RESHdYODHdZAYINcNUMBER FOURdONE",
    "eHUNDREDdTENdTHREEdTWENTYdTWOcSECTION MARKcTURNED SECTION MARKaPU1aPU2",
    "aPUBLIC ADDRESS LOUDSPEAKERaPUNCTUATION SPACEaPUNCTUS ELEVATUS MARKaPURPLE HEARTaPURSE",
    "aPUSHPINaPUT LITTER IN ITS PLACE SYMBOLaQUADRANT LOWER LEFTcRIGHTbUPPER LEFT",
    "dAND LOWER LEFT AND LOWER RIGHTfRIGHTeUPPER RIGHT AND LOWER LEFTiRIGHTcRIGHT",
    "dAND LOWER LEFTgAND LOWER RIGHTaQUADRUPLE INTEGRAL OPERATORbPRIMEaQUARTER NOTE",
    "aQUATERNION INTEGRAL OPERATORaQUESTION EXCLAMATION MARKbMARKaQUESTIONED EQUAL TO",
    "aQUINCUNXaQUOTATION MARKaRABBITbFACEaRACCOONaRACING CARbMOTORCYCLEaRADICAL SYMBOL BOTTOM",
    "aRADIObBUTTONaRADIOACTIVE SIGNaRAILWAY CARbTRACKaRAINaRAINBOWaRAISED BACK OF HANDbCOMMA",
    "bDOTbDOTTED INTERPOLATION MARKERbFISTbHANDcWITH FINGERS SPLAYED",
    "dPART BETWEEN MIDDLE AND RING FINGERSbINTERPOLATION MARKERbMC SIGNbMD SIGNbMR SIGN",
    "bSQUAREaRAMaRATaRATIOaRAZORaRECEIPTaRECORD SEPARATORaRECREATIONAL VEHICLE",
    "aRECYCLED PAPER SYMBOLaRECYCLING SYMBOL FOR GENERIC MATERIALSdTYPE-1 PLASTICS",
    "dTYPE-2 PLASTICSdTYPE-3 PLASTICSdTYPE-4 PLASTICSdTYPE-5 PLASTICSdTYPE-6 PLASTICS",
    "dTYPE-7 PLASTICSaRED APPLEbGIFT ENVELOPEaREFERENCE MARK",
    "aREGIONAL INDICATOR SYMBOL LETTER AeBeCeDeEeFeGeHeIeJeKeLeMeNeOePeQeReSeTeUeVeWeXeYeZ",
    "aREGISTERED SIGNaREJANG CONSONANT SIGN HdNdNGdRbLETTER AcBAcCAcDAcGAcHAcJAcKAcLAcMAcMBA",
    "cNAcNDAcNGAcNGGAcNYAcNYJAcPAcRAcSAcTAcWAcYAbSECTION MARKbVIRAMAbVOWEL SIGN AIdAUdEdEAdEU",
    "dIdOdUaRELIEVED FACEaREMINDER RIBBONaREPLACEMENT CHARACTERaRESPONSE",
    "aRESTRICTED LEFT ENTRY-1cENTRY-2aRESTROOMaRETURN LEFTbRIGHTbSYMBOLaREVERSE CHECKER BOARD",
    "bINDEXbLIGHT FOUR POINTED PINWHEEL STARbLINE FEEDbSOLIDUScOPERATORcPRECEDING SUBSET",
    "cWITH HORIZONTAL STROKEbTILDE OPERATOR ABOVE LEFTWARDS ARROWeRIGHTWARDS ARROW",
    "aREVERSED ANGLEcWITH UNDERBARbCOMMAbDOUBLE PRIMEdQUOTATION MARKcSTROKE NOT SIGN",
    "bEMPTY SETbFORKED PARAGRAPHOSbHAND WITH MIDDLE FINGER EXTENDEDbNOT SIGNbPILCROW SIGN",
    "bPRIMEbQUESTION MARKbRAISED HAND WITH FINGERS SPLAYEDbRIGHT ANGLE",
    "bROTATED FLORAL HEART BULLETbSANS-SERIF CAPITAL LbSEMICOLONbTHUMBS DOWN SIGNcUP SIGN",
    "bTILDEcEQUALSbTRIPLE PRIMEbVICTORY HANDaREVOLVING HEARTSaRHINOCEROSaRIaRIAL SIGNaRIBBON",
    "bARROW DOWN LEFTdRIGHTcLEFT DOWNdUPcRIGHT DOWNdUPcUP LEFTdRIGHTaRICE BALLbCRACKERaRIFLE",
    "aRIGHT AND LOWER ONE EIGHTH BLOCKcUPPER ONE EIGHTH BLOCKbANGER BUBBLEbANGLEcBRACKET",
    "dWITH DOTcDOTTED SUBSTITUTION MARKERcSUBSTITUTION MARKERcVARIANT WITH SQUAREcWITH ARC",
    "dDOWNWARDS ZIGZAG ARROWbARC GREATER-THAN BRACKETbARROW WITH CIRCLED PLUSdSMALL CIRCLE",
    "bBLACK LENTICULAR BRACKETcTORTOISE SHELL BRACKETbCEILINGbCORNER BRACKETbCURLY BRACKET",
    "dLOWER HOOKdMIDDLE PIECEdUPPER HOOKbDOTTED SUBSTITUTION BRACKETbDOUBLE ANGLE BRACKET",
    "cARROW WITH ROUNDED HEADcPARENTHESIScQUOTATION MARKcWIGGLY FENCEbFISH TAIL",
    "bFIVE EIGHTHS BLOCKbFLOORbHALF BLACK CIRCLEdSTARcBLOCKcFOLDERcMEDIUM SHADEcRUNNING MAN",
    "bHAND TELEPHONE RECEIVERbLOW PARAPHRASE BRACKETbNORMAL FACTOR SEMIDIRECT PRODUCT",
    "bONE EIGHTH BLOCKcQUARTER BLOCKbOPEN SQUARED DOTbOUTER JOINbPARENTHESIScEXTENSION",
    "cLOWER HOOKcUPPER HOOKbRAISED OMISSION BRACKETbS-SHAPED BAG DELIMITERbSEMIDIRECT PRODUCT",
    "bSEVEN EIGHTHS BLOCKbSIDEWAYS U BRACKETbSINGLE QUOTATION MARKbSPEAKER",
    "cWITH ONE SOUND WAVEdTHREE SOUND WAVESbSPEECH BUBBLEbSQUARE BRACKETdEXTENSION",
    "dLOWER CORNERdUPPER CORNERdWITH DOUBLE STROKEeQUILLeSTROKEeTICK IN BOTTOM CORNER",
    "gTOP CORNEReUNDERBARbSUBSTITUTION BRACKETbTACKbTHIRD WHITE RIGHT POINTING INDEX",
    "bTHOUGHT BUBBLEbTHREE EIGHTHS BLOCKcQUARTERS BLOCKbTORTOISE SHELL BRACKET",
    "bTRANSPOSITION BRACKETbTRIANGLEcABOVE LEFT TRIANGLEbTRIANGULAR ONE QUARTER BLOCK",
    "bVERTICAL BAR WITH QUILLcBOX LINEbWHITE CORNER BRACKETcCURLY BRACKETcLENTICULAR BRACKET",
    "cPARENTHESIScSQUARE BRACKETcTORTOISE SHELL BRACKETbWIGGLY FENCE",
    "aRIGHT-FACING ARMENIAN ETERNITY SIGNbFISTbSVASTI SIGNdWITH DOTS",
    "aRIGHT-HANDED INTERLACED PENTAGRAMaRIGHT-POINTING ANGLE BRACKETbCURVED ANGLE BRACKET",
    "bDOUBLE ANGLE QUOTATION MARKbMAGNIFYING GLASSaRIGHT-SHADED WHITE RIGHTWARDS ARROW",
    "aRIGHT-SIDE ARC CLOCKWISE ARROWaRIGHT-TO-LEFT EMBEDDINGbISOLATEbMARKbOVERRIDE",
    "aRIGHTHAND INTERIOR PRODUCTaRIGHTWARDS ARROWcABOVE ALMOST EQUAL TO",
    "dREVERSE ALMOST EQUAL TOeTILDE OPERATORdSHORT LEFTWARDS ARROWdTILDE OPERATOR",
    "cAND UPPER AND LOWER ONE EIGHTH BLOCKcFROM BAReTO BLACK DIAMONDcOVER LEFTWARDS ARROW",
    "cTHROUGH GREATER-THANdSUPERSETdXcTO BARdBLACK DIAMONDcWITH CORNER DOWNWARDSdDOTTED STEM",
    "dDOUBLE VERTICAL STROKEdEQUILATERAL ARROWHEADdHOOKdLARGE TRIANGLE ARROWHEADdLOOP",
    "dMEDIUM TRIANGLE ARROWHEADdNOTCHED TAILdPLUS BELOWdSMALL EQUILATERAL ARROWHEAD",
    "eTRIANGLE ARROWHEADdSTROKEdTAILeWITH DOUBLE VERTICAL STROKEfVERTICAL STROKE",
    "dTIP DOWNWARDSeUPWARDSdVERTICAL STROKEbARROW-TAILbBACK-TILTED SHADOWED WHITE ARROW",
    "bBLACK ARROWcCIRCLED WHITE ARROWbBOTTOM SHADED WHITE ARROWbCOMPRESSED ARROWbDASHED ARROW",
    "bDOUBLE ARROWdFROM BARdWITH STROKEeVERTICAL STROKEcARROW-TAILcDASH ARROW",
    "bFINGER-POST ARROWbFRONT-TILTED SHADOWED WHITE ARROWbHANDbHARPOON OVER LEFTWARDS HARPOON",
    "cWITH BARB DOWN ABOVE LEFTWARDS HARPOON WITH BARB DOWNfBELOW LONG DASHfFROM BARfTO BAR",
    "eDOWNWARDSeUP ABOVE LEFTWARDS HARPOON WITH BARB UPgLONG DASH",
    "gRIGHTWARDS HARPOON WITH BARB DOWNfFROM BARfTO BAReUPWARDSbHEAVY ARROWcCOMPRESSED ARROW",
    "bLEFT-SHADED WHITE ARROWbOPEN-HEADED ARROWbPAIRED ARROWSbQUADRUPLE ARROW",
    "bRIGHT-SHADED WHITE ARROWbROCKETbSANS-SERIF ARROWbSQUARED ARROWbSQUIGGLE ARROW",
    "bTOP SHADED WHITE ARROWbTRIANGLE ARROWHEADbTRIANGLE-HEADED ARROW",
    "dOVER LEFTWARDS TRIANGLE-HEADED ARROWdTO BARdWITH BOLD SHAFTeDOUBLE HORIZONTAL STROKE",
    "fVERTICAL STROKEeHEAVY SHAFTeLONG TIP DOWNWARDSgUPWARDSeMEDIUM SHAFTeNARROW SHAFT",
    "eVERY HEAVY SHAFTcDASHED ARROWcPAIRED ARROWSbTRIPLE ARROWcDASH ARROWbTWO HEADED ARROW",
    "bTWO-HEADED ARROW FROM BARdWITH DOUBLE VERTICAL STROKEeTAILfWITH DOUBLE VERTICAL STROKE",
    "gVERTICAL STROKEeTRIANGLE ARROWHEADSeVERTICAL STROKEcTRIPLE DASH ARROWbWAVE ARROW",
    "bWHITE ARROWdFROM WALLdWITHIN TRIANGLE ARROWHEADaRINGbABOVEbBUOYbEQUAL TObIN EQUAL TO",
    "bOPERATORbPOINTaRINGED PLANETaRINGING BELLaRISING DIAGONAL CROSSING FALLING DIAGONAL",
    "dSOUTH EAST ARROWaRLEaRLIaRLMaRLOaROASTED SWEET POTATOaROBOT FACEaROCKaROCKET",
    "aROLL OF PAPERaROLLED-UP NEWSPAPERaROLLER COASTERbSKATEaROLLING ON THE FLOOR LAUGHING",
    "aROMAN AS SIGNbCENTURIAL SIGNbDENARIUS SIGNbDIMIDIA SEXTULA SIGNbDUPONDIUS SIGN",
    "bNUMERAL EIGHTcELEVENcFIFTYdEARLY FORMdTHOUSANDcFIVEdHUNDREDdTHOUSANDcFOURcNINEcONE",
    "dHUNDREDeTHOUSANDdTHOUSANDeC DcREVERSED ONE HUNDREDcSEVENcSIXdLATE FORMcTENdTHOUSAND",
    "cTHREEcTWELVEcTWObQUINARIUS SIGNbSEMUNCIA SIGNbSESTERTIUS SIGNbSEXTANS SIGNbSEXTULA SIGN",
    "bSILIQUA SIGNbUNCIA SIGNaROOSTERaROSEaROSETTEaROTATED CAPITAL QbFLORAL HEART BULLET",
    "bHEAVY BLACK HEART BULLETbLIGHT FOUR POINTED BLACK CUSPbWHITE FOUR POINTED CUSP",
    "aROUND PUSHPINbTARGETaROUNDED SYMBOL FOR CAIdFUdLUdSHOUdSHUANGXIdXIaROWBOATaRS",
    "aRUBLE SIGNaRUGBY FOOTBALLaRULE-DELAYEDaRUMI DIGIT EIGHTcFIVEcFOURcNINEcONEcSEVENcSIX",
    "cTHREEcTWObFRACTION ONE HALFdQUARTERdTHIRDcTWO THIRDSbNUMBER EIGHT HUNDREDcEIGHTYcFIFTY",
    "cFIVE HUNDREDcFORTYcFOUR HUNDREDcNINE HUNDREDcNINETYcONE HUNDREDcSEVEN HUNDREDcSEVENTY",
    "cSIX HUNDREDcSIXTYcTENcTHIRTYcTHREE HUNDREDcTWENTYcTWO HUNDREDaRUNIC ARLAUG SYMBOL",
    "bBELGTHOR SYMBOLbCROSS PUNCTUATIONbLETTER AC AcAESCcALGIZ EOLHXcANSUZ A",
    "cBERKANAN BEORC BJARKAN BcCcCALCcCEALCcCENcCWEORTHcDcDAGAZ DAEG DcDOTTED-LcDOTTED-N",
    "cDOTTED-PcEcEARcEHWAZ EH EcENGcETHcFEHU FEOH FE FcFRANKS CASKET ACeAESCeEHeISeOScGcGAR",
    "cGEBO GYFU GcGERcHAEGL HcHAGLAZ HcICELANDIC-YRcINGcINGWAZcIORcISAZ IS ISS IcIWAZ EOH",
    "cJERAN JcKcKAUN KcKAUNAcLAUKAZ LAGU LOGR LcLONG-BRANCH-AR AEcLONG-BRANCH-HAGALL H",
    "cLONG-BRANCH-MADR McLONG-BRANCH-OSS OcLONG-BRANCH-YRcMANNAZ MAN McNAUDIZ NYD NAUD NcOcOE",
    "cONcOOcOPEN-PcOS OcOTHALAN ETHEL OcPERTHO PEORTH PcQcRAIDO RAD REID RcSHcSHORT-TWIG-AR A",
    "cSHORT-TWIG-BJARKAN BcSHORT-TWIG-HAGALL HcSHORT-TWIG-MADR McSHORT-TWIG-NAUD N",
    "cSHORT-TWIG-OSS OcSHORT-TWIG-SOL ScSHORT-TWIG-TYR TcSHORT-TWIG-YR",
    "cSIGEL LONG-BRANCH-SOL ScSOWILO ScSTANcTHURISAZ THURS THORNcTIWAZ TIR TYR TcURUZ UR UcV",
    "cWcWUNJO WYNN WcXcYcYRcZbMULTIPLE PUNCTUATIONbSINGLE PUNCTUATIONbTVIMADUR SYMBOLaRUNNER",
    "aRUNNING SHIRT WITH SASHaRUPEE SIGNaRUSSIAN ASTROLOGICAL SYMBOL BINOVILEdNOVILEdQUINTILE",
    "dSENTAGONdTREDECILEdVIGINTILE"]

end CharacterName

end ElementBindings
