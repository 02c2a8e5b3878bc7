/-
  The names that start with S.  A small letter in front of a
  name says how many words it shares with the name before it,
  from a for none on; only its further words are written.

  Key definitions include:
    * `CharacterName.fromS`
-/

namespace ElementBindings

namespace CharacterName

------------------------------------------------------------
-- Names
------------------------------------------------------------

/- The names that start with S. -/
def fromS : List String := [
    "aS IN TRIANGLEaSAFETY PINbVESTaSAGITTARIUSaSAILBOATaSAKE BOTTLE AND CUPaSALT SHAKER",
    "aSALTIREaSALUTING FACEaSAMARITAN ABBREVIATION MARKbLETTER ALAFcBAAcBITcDALATcFIcGAMANcIN",
    "cITcIYcKAAFcLABATcMIMcNUNcQUFcRISHcSHANcSINGAATcTAAFcTITcTSAADIYcYUTcZENbMARK DAGESH",
    "cEPENTHETIC YUTcINcIN-ALAFcNEQUDAAcOCCLUSIONbMODIFIER LETTER EPENTHETIC YUTdIdSHORT A",
    "bPUNCTUATION AFSAAQcANGEDcANNAAUcARKAANUcATMAAUcBAUcMELODIC QITSAcNEQUDAAcQITSA",
    "cSHIYYAALAAcSOF MASHFAATcTURUcZAEFcZIQAAbVOWEL SIGN AdAAdEdIdLONG AeAAeEeIeUdO",
    "dOVERLONG AeAAdSHORT AdSUKUNdUaSANDWICH",
    "aSANS-SERIF HEAVY DOUBLE COMMA QUOTATION MARK ORNAMENT",
    "dTURNED COMMA QUOTATION MARK ORNAMENTcLOW DOUBLE COMMA QUOTATION MARK ORNAMENT",
    "bINTERROBANG ORNAMENTaSARIaSATELLITEbANTENNAaSATURNaSAURASHTRA CONSONANT SIGN HAARU",
    "bDANDAbDIGIT EIGHTcFIVEcFOURcNINEcONEcSEVENcSIXcTHREEcTWOcZERObDOUBLE DANDAbLETTER AcAA",
    "cAIcAUcBAcBHAcCAcCHAcDAcDDAcDDHAcDHAcEcEEcGAcGHAcHAcIcIIcJAcJHAcKAcKHAcLAcLLAcMAcNAcNGA",
    "cNNAcNYAcOcOOcPAcPHAcRAcSAcSHAcSSAcTAcTHAcTTAcTTHAcUcUUcVAcVOCALIC LdLLdRdRRcYA",
    "bSIGN ANUSVARAcCANDRABINDUcVIRAMAcVISARGAbVOWEL SIGN AAdAIdAUdEdEEdIdIIdOdOOdUdUU",
    "dVOCALIC LeLLeReRRaSAUROPODaSAXOPHONEaSCALESaSCARFaSCHOOLbSATCHELaSCIaSCOOTERaSCORPION",
    "aSCORPIUSaSCREENaSCREWDRIVERaSCRIPT CAPITAL BcEcFcHcIcLcMcPcRbLIGATURE ET ORNAMENT",
    "bSMALL EcGcLcOaSCROLLaSCRUPLEaSEALaSEATaSECOND PLACE MEDALaSECTION SIGNaSECTORaSEDNA",
    "aSEE-NO-EVIL MONKEYaSEEDLINGaSEGMENTaSEGMENTED DIGIT EIGHTcFIVEcFOURcNINEcONEcSEVENcSIX",
    "cTHREEcTWOcZEROaSELFIEaSEMICOLONaSEMIDIRECT PRODUCT WITH BOTTOM CLOSEDaSEMISEXTILE",
    "aSEPARATED SYMBOLaSERIOUS FACE WITH SYMBOLS COVERING MOUTHaSERVICE MARKaSESAME DOT",
    "aSESQUIQUADRATEaSET MINUSbTRANSMIT STATEaSEWING NEEDLEaSEXTILEaSGCaSHADOWED WHITE CIRCLE",
    "cLATIN CROSScSTARaSHALLOW PAN OF FOODaSHAMROCKaSHARADA ABBREVIATION SIGN",
    "bCONTINUATION SIGNbDANDAbDIGIT EIGHTcFIVEcFOURcNINEcONEcSEVENcSIXcTHREEcTWOcZERO",
    "bDOUBLE DANDAbEKAMbEXTRA SHORT VOWEL MARKbHEADSTROKEbLETTER AcAAcAIcAUcBAcBHAcCAcCHAcDA",
    "cDDAcDDHAcDHAcEcGAcGHAcHAcIcIIcJAcJHAcKAcKHAcLAcLLAcMAcNAcNGAcNNAcNYAcOcPAcPHAcRAcSAcSHA",
    "cSSAcTAcTHAcTTAcTTHAcUcUUcVAcVOCALIC LdLLdRdRRcYAbOMbSANDHI MARKbSECTION MARK-1cMARK-2",
    "bSEPARATORbSIGN ANUSVARAcAVAGRAHAcCANDRABINDUcINVERTED CANDRABINDUcJIHVAMULIYAcNUKTA",
    "cSIDDHAMcUPADHMANIYAcVIRAMAcVISARGAbSUTRA MARKbVOWEL MODIFIER MARKcSIGN AAdAIdAUdEdIdII",
    "dOdPRISHTHAMATRA EdUdUUdVOCALIC LeLLeReRRaSHARKaSHAVED ICEaSHAVIAN LETTER ADOcAGEcAHcAIR",
    "cAREcARRAYcASHcAWEcBIBcCHURCHcDEADcEARcEATcEGGcERRcFEEcGAGcHA-HAcHUNGcIANcICEcIFcJUDGE",
    "cKICKcLOLLcMEASUREcMIMEcNUNcOAKcOILcONcOOZEcORcOUTcPEEPcROARcSOcSUREcTHEYcTHIGHcTOTcUP",
    "cVOWcWOEcWOOLcYEAcYEWcZOOaSHEEPaSHIELDaSHIFT INbOUTaSHINTO SHRINEaSHIP",
    "aSHOCKED FACE WITH EXPLODING HEADaSHOOTING STARaSHOPPING BAGSbTROLLEY",
    "aSHORT BACKSLANTED SOUTH ARROWbBENT ARROW POINTING DOWNWARDS THEN NORTH EASTbDOWN TACK",
    "dWITH OVERBARbLEFT TACKbRIGHTWARDS ARROW ABOVE LEFTWARDS ARROWbSLANTED NORTH ARROW",
    "bUP TACKdABOVE SHORT DOWN TACKdWITH UNDERBARaSHORTCAKE",
    "aSHORTHAND FORMAT CONTINUING OVERLAPcDOWN STEPcLETTER OVERLAPcUP STEPaSHORTS",
    "aSHOULDERED OPEN BOXaSHOWERaSHRIMPaSHRUGaSHUFFLE PRODUCTaSHYaSIaSIDDHAM DANDA",
    "bDOUBLE DANDAbEND OF TEXT MARKbLETTER AcAAcAIcALTERNATE UcAUcBAcBHAcCAcCHAcDAcDDAcDDHA",
    "cDHAcEcGAcGHAcHAcIcIIcJAcJHAcKAcKHAcLAcMAcNAcNGAcNNAcNYAcOcPAcPHAcRAcSAcSHAcSSAcTAcTHA",
    "cTHREE-CIRCLE ALTERNATE IcTTAcTTHAcTWO-CIRCLE ALTERNATE IeIIcUcUUcVAcVOCALIC LdLLdRdRR",
    "cYAbREPETITION MARK-1cMARK-2cMARK-3bSECTION MARK DOUBLE RINGfWITH RAYS",
    "dWITH CIRCLES AND FOUR ENCLOSURESgRAYSgTWO ENCLOSURESeDOUBLE CRESCENTS",
    "eQUADRUPLE CRESCENTSeRAYS AND DOTTED CRESCENTShDOUBLE CRESCENTShTRIPLE CRESCENTS",
    "eSEPTUPLE CRESCENTSeTRIDENT AND DOTTED CRESCENTSgU-SHAPED ORNAMENTSeTRIPLE CRESCENTS",
    "bSEPARATOR BARcDOTbSIGN ANUSVARAcCANDRABINDUcNUKTAcSIDDHAMcVIRAMAcVISARGAbVOWEL SIGN AA",
    "dAIdALTERNATE UeUUdAUdEdIdIIdOdUdUUdVOCALIC ReRRaSIDEWAYS BLACK DOWN POINTING INDEX",
    "cLEFT POINTING INDEXcRIGHT POINTING INDEXcUP POINTING INDEXbWHITE DOWN POINTING INDEX",
    "cLEFT POINTING INDEXcRIGHT POINTING INDEXcUP POINTING INDEXaSIGN OF THE HORNS",
    "aSIGNWRITING AIR BLOW SMALL ROTATIONScBLOWING OUTcSUCK SMALL ROTATIONScSUCKING IN",
    "bBREATH EXHALEcINHALEbBRUSH BETWEENcMULTIPLEcSINGLEbCHEEKS NEUTRALcPUFFEDcSUCKEDbCOLON",
    "bCOMMAbDREAMY EYEBROWS DOWN NEUTRALdNEUTRAL DOWNeUPdUP NEUTRALbDYNAMIC ARROWHEAD LARGE",
    "dSMALLcEVERY OTHER TIMEcFASTcGRADUALcRELAXEDcSIMULTANEOUSdALTERNATINGcSLOWcTENSEbEARS",
    "bEXCITEMENTbEYE BLINK MULTIPLEdSINGLEcWINKbEYEBROWS STRAIGHT DOWNdNEUTRALdUP",
    "bEYEGAZE-FLOORPLANE CURVEDcSTRAIGHTdALTERNATINGdDOUBLEbEYEGAZE-WALLPLANE CIRCLINGcCURVED",
    "cSTRAIGHTdALTERNATINGdDOUBLEbEYELASHES DOWNcFLUTTERINGcUPbEYES CLOSEDcHALF CLOSEDdOPEN",
    "cOPENcSQUEEZEDcWIDE OPENcWIDENING MOVEMENTbFACE DIRECTION POSITION NOSE FORWARD TILTING",
    "fUP OR DOWNiTILTINGbFILL MODIFIER-2cMODIFIER-3cMODIFIER-4cMODIFIER-5cMODIFIER-6bFINGER",
    "bFLICK LARGE MULTIPLEdSINGLEcSEQUENTIALcSMALL MULTIPLEdSINGLE",
    "bFLOORPLANE SHOULDER HIP MOVEbFOREHEAD CONTACTcNEUTRALcWRINKLEDbFULL STOPbGRASP BETWEEN",
    "cMULTIPLEcSINGLEbHAIRbHAND-ANGLEcINDEXdMIDDLE LITTLEeRINGdRING LITTLEfOUTdTHUMBeINeOUT",
    "cLITTLE INDEXeTHUMB INDEX THUMBhOUTdUPcMIDDLE RING LITTLEfINfOUT",
    "cRING DOWN MIDDLE THUMB INDEX CROSSdLITTLEbHAND-CIRCLEcINDEXdBENTdHINGEdMIDDLE",
    "eCROSS LITTLEeCROSSEDeLITTLEeRINGeTHUMBdRING LITTLEcLITTLE INDEXdUPcMIDDLE RING LITTLE",
    "fBENTdUPcRING LITTLEbHAND-CLAWcFOUR FINGERS CONJOINEDcINDEX THUMB CURVE THUMB INSIDE",
    "cMIDDLE RING LITTLE CONJOINEDgSIDEcNO THUMBcTHUMB FORWARDdSIDEbHAND-CUP",
    "cFIVE FINGERS SPREADfOPENcINDEXdRING LITTLEdTHUMBeOPENcMIDDLE RING LITTLEcNO THUMBcOPEN",
    "dNO THUMBdTHUMB FORWARDeSIDEcTHUMB FORWARDdSIDEbHAND-CURLICUEcINDEX RING LITTLE ON",
    "cMIDDLE RING LITTLE ONcOPENbHAND-FISTcFOUR FINGERS CONJOINED BENTcHEELcINDEXdBENT",
    "eOVER MIDDLEdCUPPEDdHINGEDeLOWeMIDDLE UPgTHUMB SIDEdMIDDLEeBENTfTHUMB STRAIGHTeCONJOINED",
    "fCUPPEDgTHUMB FORWARDfHINGEDgTHUMB SIDEfINDEX BENTfMIDDLE BENTfTHUMB FORWARDgSIDEhBENT",
    "hCONJOINEDeCROSS LITTLEeCROSSEDfTHUMB SIDEeHINGEDfSPREAD THUMB SIDEeLITTLE",
    "eRAISED KNUCKLESeRINGfBENTfCONJOINEDeSTRAIGHT THUMB BENTeTHUMBfANGLEDgOUTfBENTfCIRCLED",
    "fCONJOINED HINGEDfCUPPEDfHINGEDfHOOKEDeUP SPREAD THUMB FORWARDdRAISED KNUCKLE",
    "dRING LITTLEdTHUMB ANGLED IN MIDDLE UPfOUT MIDDLE UPeCIRCLEeCIRCLED MIDDLE UP",
    "eCUPPED MIDDLE UPeCURLICUEeCURVE THUMB INSIDEgUNDEReFORWARD INDEX BENTgSTRAIGHTeHOOK",
    "eHOOKED MIDDLE HINGEDgUPeSIDEfBOTH BENTfINDEX BENTgHINGEfTHUMB BENTgCONJOINEDgDIAGONAL",
    "dUP MIDDLE HINGEDgTHUMB CONJOINEDhSIDEcLITTLE BENTdDOWNeOTHERS CIRCLEDeRIPPLE CURVED",
    "fSTRAIGHTdINDEXeTHUMBdRAISED KNUCKLEdTHUMBdTOUCHES THUMBdUPcMIDDLE BENT OVER INDEXdDOWN",
    "dLITTLEdRAISED KNUCKLEdRING LITTLEdTHUMB ANGLED INDEX UPfOUT INDEX CROSSEDhUP",
    "eCIRCLED INDEX HINGEDgUPeCUPPED INDEX UPeHOOKED INDEX UPeLITTLEdUPeTHUMB SIDEcRING DOWN",
    "dINDEXdLITTLEdMIDDLEeCONJOINEDeRAISED KNUCKLESdRAISED KNUCKLEdTHUMBdUPcTHUMB",
    "dBETWEEN INDEX MIDDLEgSTRAIGHTeMIDDLE RINGeRING LITTLEdFORWARDdHEEL",
    "dOVER FOUR RAISED KNUCKLESeTWO FINGERSdSIDE BENTeCONJOINEDeDIAGONALdUNDER FOUR FINGERS",
    "eINDEX BENTeLITTLE UPeTHREE FINGERSeTWO FINGERSbHAND-FLATcBETWEEN PALM FACINGS",
    "cFIVE FINGERS SPREADfBENTfFOUR BENTfHINGEDgNO THUMBgTHUMB SIDEfTHUMB FORWARD",
    "cFOUR FINGERSeBENTeCONJOINEDfSPLITeHINGEDcHEELdFIVE FINGERS SPREADgBENTgFOUR BENT",
    "dTHUMB SIDEcSPLIT CENTREeTHUMB SIDEgBENTdINDEX THUMB SIDEdLITTLEcTHUMB BENTdFORWARDdSIDE",
    "bHAND-HINGEcFIVE FINGERS SPREAD OPENcFOUR FINGERS CONJOINEDcINDEXdHINGEDdMIDDLE LITTLE",
    "eRINGfCONJOINEDdRING LITTLEdTHUMBeLARGEeOPENeSIDEeSMALLcLITTLEdINDEXeTHUMBdTHUMBcMIDDLE",
    "dRING LITTLEcNO THUMBcOPENdNO THUMBdTHUMB FORWARDeSIDEcRINGdDOWN INDEX THUMB HOOK MIDDLE",
    "cSMALLcTHUMB BETWEEN MIDDLE RINGdSIDEeTOUCHING INDEXbHAND-HOOKcCURLICUE",
    "cINDEX RING LITTLE INfOUTfUNDERcMIDDLE RING LITTLE CONJOINEDgINgOUTdTHUMBcRING THUMB",
    "bHAND-OVALcFIVE FINGERS SPREADcINDEXcLITTLE UPcNO THUMBcRING LITTLEcTHUMB FORWARDdSIDE",
    "bHEADcMOVEMENT CIRCLEcMOVEMENT-FLOORPLANE CURVEdSTRAIGHTcMOVEMENT-WALLPLANE CURVE",
    "dSTRAIGHTdTILTcRIMbLIMB COMBINATIONcLENGTH-1cLENGTH-2cLENGTH-3cLENGTH-4cLENGTH-5",
    "cLENGTH-6cLENGTH-7bLIP LOWER OVER UPPERcUPPER OVER LOWERbLIPS PRESSED TOGETHER",
    "bLOCATION DEPTHcHEAD NECKcHEIGHTcLIMBS DIGITScTORSOcWIDTHbLOCATION-FLOORPLANE SPACE",
    "bLOCATION-WALLPLANE SPACEbMOUTH CLOSED CONTACTdFORWARDdNEUTRALcCORNERScFROWNdOPEN",
    "dWRINKLEDcKISSdFORWARDdWRINKLEDcOPEN CIRCLEdFORWARDdOVALeWRINKLEDeYAWNdRECTANGLE",
    "eWRINKLEDeYAWNdWRINKLEDcSMILEdOPENdWRINKLEDcTENSEdFORWARDdSUCKEDcWRINKLES DOUBLEdSINGLE",
    "bMOVEMENT-DIAGONAL AWAY LARGEdLARGESTdMEDIUMdSMALLcBETWEEN AWAY LARGEeLARGESTeMEDIUM",
    "eSMALLdTOWARDS LARGEeLARGESTeMEDIUMeSMALLcTOWARDS LARGEdLARGESTdMEDIUMdSMALL",
    "bMOVEMENT-FLOORPLANE ARM CIRCLE HITTING WALL LARGE DOUBLEhSINGLEgMEDIUM DOUBLEhSINGLE",
    "gSMALL DOUBLEhSINGLEcBENDcBOX LARGEdMEDIUMdSMALLcCHECKcCORNER LARGEdMEDIUMdSMALLcCROSS",
    "cCURVE COMBINEDdHITTING CEILING LARGEfSMALLeFLOOR LARGEfSMALLdLARGEdLARGESTdMEDIUMdSMALL",
    "cDOUBLE ALTERNATINGeWRIST FLEXdSTRAIGHTdWRIST FLEXcFINGER CIRCLES HITTING WALL DOUBLE",
    "gSINGLEdCONTACTcHUMP HITTING CEILING LARGE DOUBLEgTRIPLEfSMALL DOUBLEgTRIPLE",
    "eFLOOR LARGE DOUBLEfSMALL DOUBLEfTRIPLE LARGE TRIPLEgSMALL TRIPLEdSMALLcJAW",
    "cLOOP HITTING CEILING LARGE DOUBLEgSINGLEfSMALL DOUBLEgSINGLEeFLOOR LARGE DOUBLEgSINGLE",
    "fSMALL DOUBLEgSINGLEdSMALLcPEAKS LARGEdMEDIUMdSMALLcSHAKING PARALLEL",
    "cSINGLE STRAIGHT LARGEeLARGESTeMEDIUMeSMALLdWRIST FLEXcTRIPLE ALTERNATING MOVEMENT",
    "eWRIST FLEXdSTRAIGHT MOVEMENTdWRIST FLEXcWAVE HITTING CEILING LARGEfSMALLeFLOOR LARGE",
    "fSMALLdLARGEdSMALLdSNAKEcWRIST CIRCLE HITTING WALL DOUBLEgSINGLEcZIGZAG LARGEdMEDIUM",
    "dSMALLbMOVEMENT-HINGE DOWN SEQUENTIALcSIDE TO SIDE SCISSORScUP DOWN ALTERNATING LARGE",
    "fSMALLeLARGEeSMALLdSEQUENTIALbMOVEMENT-WALLPLANE ARM CIRCLE MEDIUM DOUBLEfSINGLE",
    "eSMALL DOUBLEfSINGLEcBEND LARGEdMEDIUMdSMALLcBOX LARGEdMEDIUMdSMALLcCHECK LARGEdMEDIUM",
    "dSMALLcCORNER LARGEdMEDIUMdROTATIONdSMALLcCROSScCURVE HALF-CIRCLE LARGEeLARGESTeMEDIUM",
    "eSMALLdHITTING CHESTeFRONT WALLdQUARTER LARGEeLARGESTeMEDIUMeSMALLdTHEN STRAIGHT",
    "dTHREE-QUARTER CIRCLE MEDIUMfSMALLcCURVED CROSS MEDIUMeSMALLcDOUBLE ALTERNATING",
    "eWRIST FLEXdSTRAIGHTdWRIST FLEXcFINGER CIRCLES DOUBLEeSINGLEdCONTACTcHUMP HITTING CHEST",
    "eFRONT WALLdLARGEdMEDIUMdSMALLcJAWcLOOP HITTING CHESTeFRONT WALLdLARGEdMEDIUMdSMALL",
    "eDOUBLEcPEAKS LARGEdMEDIUMdSMALLcSHAKINGcSINGLE STRAIGHT LARGEeLARGESTeMEDIUMeSMALL",
    "dWRIST FLEXcTRIPLE ALTERNATINGeWRIST FLEXdSTRAIGHT MOVEMENTdWRIST FLEX",
    "cWAVE CURVE DOUBLE LARGEfMEDIUMfSMALLeTRIPLE LARGEfMEDIUMfSMALLdDIAGONAL PATH LARGE",
    "fMEDIUMfSMALLdHITTING CHESTeFRONT WALLcWRIST CIRCLE FRONT DOUBLEfSINGLEcZIGZAG LARGE",
    "dMEDIUMdSMALLbNECKbNOSE CONTACTcNEUTRALcWIGGLEScWRINKLESbPARENTHESIS",
    "bROTATION MODIFIER-10cMODIFIER-11cMODIFIER-12cMODIFIER-13cMODIFIER-14cMODIFIER-15",
    "cMODIFIER-16cMODIFIER-2cMODIFIER-3cMODIFIER-4cMODIFIER-5cMODIFIER-6cMODIFIER-7",
    "cMODIFIER-8cMODIFIER-9bROTATION-FLOORPLANE ALTERNATINGdHITTING CEILINGeFLOORcDOUBLE",
    "dHITTING CEILINGeFLOORcSINGLEdHITTING CEILINGeFLOORbROTATION-WALLPLANE ALTERNATE",
    "cALTERNATING HITTING CHESTeFRONT WALLcDOUBLEdHITTING CHESTeFRONT WALLcSINGLE",
    "dHITTING CHESTeFRONT WALLbRUB BETWEENcMULTIPLEcSINGLEbSEMICOLONbSHOULDER HIP POSITIONS",
    "dSPINEcTILTING FROM WAISTbSQUEEZE FLICK ALTERNATINGcLARGE MULTIPLEdSINGLEcSEQUENTIAL",
    "cSMALL MULTIPLEdSINGLEbSTRIKE BETWEENcMULTIPLEcSINGLEbSURFACE BETWEENcSYMBOLSbTEETH",
    "cBITE LIPScMOVEMENTcON LIPSeMOVEMENTdTONGUEeMOVEMENTbTENSE CHEEKS HIGHdLOWdMIDDLE",
    "bTONGUE CENTRE INSIDE MOUTHdSTICKING OUTcINSIDE MOUTH RELAXEDcLICKING LIPS",
    "cMOVES AGAINST CHEEKcSTICKING OUT FARcTIP BETWEEN LIPSdTOUCHING INSIDE MOUTH",
    "bTORSO-FLOORPLANE TWISTINGbTORSO-WALLPLANE CURVED BENDcSTRAIGHT STRETCHbTOUCH BETWEEN",
    "cMULTIPLEcSINGLEbTRAVEL-FLOORPLANE ROTATION-FLOORPLANE ALTERNATINGdDOUBLEdSINGLE",
    "cROTATION-WALLPLANE ALTERNATINGdDOUBLEdSINGLEcSHAKINGbTRAVEL-WALLPLANE ARM SPIRAL DOUBLE",
    "eSINGLEeTRIPLEcROTATION-FLOORPLANE ALTERNATINGdDOUBLEdSINGLE",
    "cROTATION-WALLPLANE ALTERNATINGdDOUBLEdSINGLEcSHAKINGbUPPER BODY TILTING FROM HIP JOINTS",
    "bWALLPLANE SHOULDER HIP MOVEaSILHOUETTE OF JAPAN",
    "aSIMILAR ABOVE GREATER-THAN ABOVE EQUALS SIGNcLESS-THAN ABOVE EQUALS SIGNbMINUS SIMILAR",
    "bOR GREATER-THANcLESS-THANaSINE WAVEaSINGLE CHARACTER INTRODUCER",
    "bGRAPHIC CHARACTER INTRODUCERbHIGH-REVERSED-9 QUOTATION MARK",
    "bLEFT-POINTING ANGLE QUOTATION MARKbLOW-9 QUOTATION MARK",
    "bRIGHT-POINTING ANGLE QUOTATION MARKbSHIFT THREEcTWOaSINGLE-SHIFT-2aSINGLE-SHIFT-3",
    "aSINHALA ARCHAIC DIGIT EIGHTdFIVEdFOURdNINEdONEdSEVENdSIXdTHREEdTWOcNUMBER EIGHTYdFIFTY",
    "dFORTYdNINETYdONE HUNDREDeTHOUSANDdSEVENTYdSIXTYdTENdTHIRTYdTWENTYbLETTER AAYANNA",
    "cAEEYANNAcAEYANNAcAIYANNAcALPAPRAANA BAYANNAdCAYANNAdDAYANNAdDDAYANNAdGAYANNAdJAYANNA",
    "dKAYANNAdPAYANNAdTAYANNAdTTAYANNAcAMBA BAYANNAcAUYANNAcAYANNAcDANTAJA LAYANNAdNAYANNA",
    "dSAYANNAcEEYANNAcEYANNAcFAYANNAcHAYANNAcIIYANNAcILUUYANNAcILUYANNAcIRUUYANNAcIRUYANNA",
    "cIYANNAcKANTAJA NAASIKYAYAcMAHAAPRAANA BAYANNAdCAYANNAdDAYANNAdDDAYANNAdGAYANNAdJAYANNA",
    "dKAYANNAdPAYANNAdTAYANNAdTTAYANNAcMAYANNAcMUURDHAJA LAYANNAdNAYANNAdSAYANNAcOOYANNA",
    "cOYANNAcRAYANNAcSANYAKA DAYANNAdDDAYANNAdGAYANNAdJAYANNAcTAALUJA NAASIKYAYA",
    "dSANYOOGA NAAKSIKYAYAdSAYANNAcUUYANNAcUYANNAcVAYANNAcYAYANNAbLITH DIGIT EIGHTdFIVEdFOUR",
    "dNINEdONEdSEVENdSIXdTHREEdTWOdZERObPUNCTUATION KUNDDALIYAbSIGN AL-LAKUNAcANUSVARAYA",
    "cCANDRABINDUcVISARGAYAbVOWEL SIGN AELA-PILLAdDIGA AEDA-PILLAeGAETTA-PILLAeGAYANUKITTA",
    "eIS-PILLAeKOMBUVAePAA-PILLAdGAETTA-PILLAdGAYANUKITTAdKETTI AEDA-PILLAeIS-PILLAePAA-PILLA",
    "dKOMBU DEKAdKOMBUVAeHAA AELA-PILLAfDIGA AELA-PILLAfGAYANUKITTA",
    "aSIX PETALLED BLACK AND WHITE FLORETTEbPOINTED BLACK STARcPINWHEEL STAR",
    "cSTAR WITH MIDDLE DOTaSIX-PER-EM SPACEaSIXTEEN POINTED ASTERISKaSKATEBOARD",
    "aSKI AND SKI BOOTaSKIERaSKULLbAND CROSSBONESaSKUNKaSLANTED EQUAL TO OR GREATER-THAN",
    "fWITH DOT INSIDEeLESS-THANfWITH DOT INSIDEbNORTH ARROW WITH HOOKED HEADeHORIZONTAL TAIL",
    "aSLAVONIC ASTERISKaSLEDaSLEEPING ACCOMMODATIONbFACEbSYMBOLaSLEEPY FACEaSLEUTH OR SPY",
    "aSLICE OF PIZZAaSLIGHTLY FROWNING FACEbSMILING FACEaSLOPEaSLOPING LARGE ANDcOR",
    "aSLOT MACHINEaSLOTHaSMALL AIRPLANEbAMPERSANDbASTERISKbBLUE DIAMONDbCOLONbCOMMA",
    "bCOMMERCIAL ATbCONTAINS AS MEMBERcWITH OVERBARdVERTICAL BAR AT END OF HORIZONTAL STROKE",
    "bDOLLAR SIGNbELEMENT OFdWITH OVERBAReVERTICAL BAR AT END OF HORIZONTAL STROKEbEM DASH",
    "bEQUALS SIGNbEXCLAMATION MARKbFULL STOPbGREATER-THAN SIGNbHYPHEN-MINUSbIDEOGRAPHIC COMMA",
    "bLEFT CURLY BRACKETcPARENTHESIScTORTOISE SHELL BRACKETbLESS-THAN SIGNbNUMBER SIGN",
    "bORANGE DIAMONDbPERCENT SIGNbPLUS SIGNbQUESTION MARKbREVERSE SOLIDUSbRIGHT CURLY BRACKET",
    "cPARENTHESIScTORTOISE SHELL BRACKETbROMAN NUMERAL EIGHTdELEVENdFIFTYdFIVEeHUNDREDdFOUR",
    "dNINEdONEeHUNDREDeTHOUSANDdSEVENdSIXdTENdTHREEdTWELVEdTWObSEMICOLONbTILDE",
    "bTWO DOTS OVER ONE DOT PUNCTUATIONbVEE WITH UNDERBARaSMALLER THANcOR EQUAL TO",
    "aSMASH PRODUCTaSMILEaSMILING CAT FACE WITH HEART-SHAPED EYESeOPEN MOUTHbFACE WITH HALO",
    "dHEART-SHAPED EYESdHORNSdOPEN MOUTHfAND COLD SWEATgSMILING EYESgTIGHTLY-CLOSED EYES",
    "dSMILING EYESfAND HAND COVERING MOUTHgTHREE HEARTSdSUNGLASSESdTEARaSMIRKING FACE",
    "aSMOKING SYMBOLaSNAILaSNAKEaSNEEZING FACEaSNOW CAPPED MOUNTAINaSNOWBOARDERaSNOWFLAKE",
    "aSNOWMANbWITHOUT SNOWaSOaSOCCER BALLaSOCKSaSOFT HYPHENbICE CREAMbSHELL FLOPPY DISK",
    "aSOFTBALLaSOFTWARE-FUNCTION SYMBOLaSOGDIAN COMBINING CURVE ABOVEdBELOWcDOT ABOVEdBELOW",
    "cHOOK ABOVEdBELOWcLONG HOOK BELOWcRESH BELOWcSTROKE BELOWcTWO DOTS ABOVEeBELOW",
    "bINDEPENDENT SHINbLETTER ALEPHcAYINcBETHcFETHcGIMELcHEcHETHcKAPHcLAMEDHcLESHcMEMcNUNcPE",
    "cRESH-AYINcSADHEcSAMEKHcSHINcTAWcWAWcYODHcZAYINbNUMBER ONEdHUNDREDcTENcTWENTY",
    "bPUNCTUATION CIRCLE WITH DOTcHALF CIRCLE WITH DOTcTWO CIRCLES WITH DOTSdVERTICAL BARS",
    "fWITH DOTSaSOHaSOLID QUILT SQUARE ORNAMENTeIN BLACK SQUAREaSOLIDUSbWITH OVERBARaSOM SIGN",
    "aSOON WITH RIGHTWARDS ARROW ABOVEaSORA SOMPENG DIGIT EIGHTdFIVEdFOURdNINEdONEdSEVENdSIX",
    "dTHREEdTWOdZEROcLETTER AHdBAHdCAHdDAHdEEHdEHdGAHdHAHdIHdJAHdKAHdLAHdMAEdMAHdNAHdNGAH",
    "dNYAHdOHdPAHdRAHdSAHdTAHdUHdVAHdYAHaSOSaSOUND RECORDING COPYRIGHTaSOUTH EAST ARROW",
    "dAND SOUTH WEST ARROWdCROSSING NORTH EAST ARROWdTO CORNERdWITH HOOKcBLACK ARROW",
    "cDOUBLE ARROWcPOINTING BUDdLEAFdVINE LEAFcSANS-SERIF ARROWcTRIANGLE-HEADED ARROWeTO BAR",
    "cWHITE ARROWbWEST ARROWdAND NORTH WEST ARROWdWITH HOOKcBLACK ARROWcDOUBLE ARROW",
    "cPOINTING BUDdLEAFdVINE LEAFcSANS-SERIF ARROWcTRIANGLE-HEADED ARROWeTO BARcWHITE ARROW",
    "aSOYOMBO CLUSTER-INITIAL LETTER LAdRAdSAdSHAbFINAL CONSONANT SIGN -AeBeDeGeKeLeMeNeNGeR",
    "eSeSHbGEMINATION MARKbHEAD MARK WITH MOON AND SUNhAND FLAMEiTRIPLE FLAMEbLETTER -AcAcBA",
    "cBHAcCAcCHAcDAcDDAcDDHAcDHAcDZAcGAcGHAcHAcJAcJHAcKAcKHAcKSSAcLAcMAcNAcNGAcNNAcNYAcPAcPHA",
    "cRAcSAcSHAcSSAcTAcTHAcTSAcTSHAcTTAcTTHAcVAcYAcZAcZHAbMARK DOUBLE SHADcPLUTAcSHADcTSHEG",
    "bSIGN ANUSVARAcJIHVAMULIYAcUPADHMANIYAcVISARGAbSUBJOINERbTERMINAL MARK-1cMARK-2",
    "bVOWEL LENGTH MARKcSIGN AIdAUdEdIdOdOEdUdUEdVOCALIC LeRaSPaSPAaSPACEaSPAGHETTIaSPARKLE",
    "aSPARKLESaSPARKLING HEARTaSPEAK-NO-EVIL MONKEYaSPEAKERbWITH CANCELLATION STROKE",
    "cONE SOUND WAVEcTHREE SOUND WAVESaSPEAKING HEAD IN SILHOUETTEaSPEECH BALLOONaSPEEDBOAT",
    "aSPESMILO SIGNaSPHERICAL ANGLEcOPENING LEFTdUPaSPIDERbWEBaSPIRAL CALENDAR PADbNOTE PAD",
    "bSHELLaSPLASHING SWEAT SYMBOLaSPONGEaSPOOL OF THREADaSPOONaSPORTS MEDALaSPOUTING WHALE",
    "aSQUARE A OVER MbAARUbAMbANPEAbAPAATObARUHUAbAUbBAARERUbBARbBEETAbBIRUbBORUTObBQ",
    "bBUSSYERUbC OVER KGbCALbCAPbCCbCDbCMcCUBEDcSQUAREDbCObCORPORATIONbCUPbDAbDAASUbDBbDESI",
    "bDJbDLbDMcCUBEDcSQUAREDbDORUbEEKAAbERA NAME HEISEIdMEIZIdREIWAdSYOUWAdTAISYOUbERG",
    "bESUKUUDObEVbFMbFOOTbFOUR CORNERSbGALbGANMAbGARONbGBbGHZbGIGAbGINIIbGIRUDAAbGPAbGURAMU",
    "bGURAMUTONbGYbHAbHAITUbHEKUTAARUbHERUTUbHGbHIRAGANA HOKAbHONbHOONbHOORUbHPbHPAbHUARADDO",
    "bHUIITObHURANbHZbIMAGE OFdOR EQUAL TOeNOT EQUAL TObINbININGUbINTIbIUbK OHMbKAbKAIRI",
    "bKARATTObKARORIIbKBbKCALbKEESUbKGbKHZbKIRObKIROGURAMUbKIROMEETORUbKIROWATTObKKbKLbKM",
    "cCAPITALcCUBEDcSQUAREDbKOOPObKORUNAbKPAbKTbKUROONEbKURUZEIRObKVbKWbKYURII",
    "bLEFT OPEN BOX OPERATORbLMbLNbLOGbLOZENGEbLXbM CUBEDcOHMcOVER SeSQUAREDcSQUAREDbMAbMAHHA",
    "bMAIKURObMAIRUbMANSYONbMARUKUbMBcSMALLbMEETORUbMEGAbMEGATONbMGbMHZbMIKURONbMILbMIRI",
    "bMIRIBAARUbMLbMMcCUBEDcSQUAREDbMOLbMPAbMSbMU AcFcGcLcMcScVcWbMVcMEGAbMWcMEGAbNAbNANObNF",
    "bNMbNOTTObNSbNVbNWbONSUbOOMUbORIGINAL OFdOR EQUAL TOeNOT EQUAL TObOVbPAcAMPSbPAASENTO",
    "bPAATUbPCbPEEZIbPENIHIbPENSUbPESObPFbPHbPIASUTORUbPIKObPIKURUbPMbPOINTObPONDO",
    "bPOSITION INDICATORbPPMbPRbPSbPVbPWbRADcOVER SeSQUAREDbREMUbRENTOGEN",
    "bRIGHT OPEN BOX OPERATORbRIRAbRITTORUbROOTbRUPIIbRUUBURUbSAIKURUbSANTIIMUbSENTIbSENTO",
    "bSIRINGUbSRbSVbTARGETbTHZbTONbUONbV OVER MbWATTObWBbWITH BOTTOM HALF BLACK",
    "cCONTOURED OUTLINEcDIAGONAL CROSSHATCH FILLcHORIZONTAL FILLcLEFT HALF BLACK",
    "cLOWER LEFT DIAGONAL HALF BLACKdRIGHT DIAGONAL HALF BLACKcORTHOGONAL CROSSHATCH FILL",
    "cRIGHT HALF BLACKcTOP HALF BLACKcUPPER LEFT DIAGONAL HALF BLACKeTO LOWER RIGHT FILL",
    "dRIGHT DIAGONAL HALF BLACKeTO LOWER LEFT FILLcVERTICAL FILLbYAADObYAARUbYUAN",
    "aSQUARED ASTERISKbCJK UNIFIED IDEOGRAPH-4E00dIDEOGRAPH-4E09dIDEOGRAPH-4E2D",
    "dIDEOGRAPH-4E8CdIDEOGRAPH-4EA4dIDEOGRAPH-518DdIDEOGRAPH-521DdIDEOGRAPH-524D",
    "dIDEOGRAPH-5272dIDEOGRAPH-53CCdIDEOGRAPH-53F3dIDEOGRAPH-5408dIDEOGRAPH-5439",
    "dIDEOGRAPH-55B6dIDEOGRAPH-58F0dIDEOGRAPH-591AdIDEOGRAPH-5929dIDEOGRAPH-5B57",
    "dIDEOGRAPH-5DE6dIDEOGRAPH-5F8CdIDEOGRAPH-624BdIDEOGRAPH-6253dIDEOGRAPH-6295",
    "dIDEOGRAPH-6307dIDEOGRAPH-6355dIDEOGRAPH-6599dIDEOGRAPH-65B0dIDEOGRAPH-6620",
    "dIDEOGRAPH-6708dIDEOGRAPH-6709dIDEOGRAPH-6E80dIDEOGRAPH-6F14dIDEOGRAPH-7121",
    "dIDEOGRAPH-751FdIDEOGRAPH-7533dIDEOGRAPH-7981dIDEOGRAPH-7A7AdIDEOGRAPH-7D42",
    "dIDEOGRAPH-89E3dIDEOGRAPH-8CA9dIDEOGRAPH-8D70dIDEOGRAPH-904AdIDEOGRAPH-914DbCLbCOOL",
    "bDOT OPERATORbEIGHT KbFALLING DIAGONAL SLASHbFIVE POINT ONEbFOUR DOT PUNCTUATIONcKbFREE",
    "bHCbHDRbHI-RESbHVbIDbKATAKANA DEcKOKOcSAbKEYbLATIN CAPITAL LETTER AeBeCeDeEeFeGeHeIeJeK",
    "eLeMeNeOePeQeReSeTeUeVeWeXeYeZcSMALL LETTER DbLOGICAL ANDcORbLOSSLESSbMINUSbMVbNEWbNGbOK",
    "bONE HUNDRED TWENTY PbPLUSbPPVbRISING DIAGONAL SLASHbSALTIREbSDbSECOND SCREEN",
    "bSEVEN POINT ONEbSHVbSIXTY PbSMALL CIRCLEbSOSbSQUAREbSSbTHREE DbTIMES",
    "bTWENTY-TWO POINT TWObTWO KbUHDbUP WITH EXCLAMATION MARKbVODbVSbWC",
    "aSQUAT BLACK RIGHTWARDS ARROWaSQUIDaSS2aSS3aSSAaSTaSTADIUMaSTAFF OF AESCULAPIUScHERMES",
    "aSTAMPED ENVELOPEaSTANDING PERSONaSTAR AND CRESCENTbEQUALSbOF DAVIDbOPERATOR",
    "bWITH LEFT HALF BLACKcRIGHT HALF BLACKaSTART OF GUARDED AREAcHEADINGcPROTECTED AREA",
    "cSELECTED AREAcSTRINGcTEXTaSTATIONaSTATUE OF LIBERTYaSTEAM LOCOMOTIVEaSTEAMING BOWL",
    "aSTENOGRAPHIC FULL STOPaSTETHOSCOPEaSTICK FIGUREcLEANING LEFTdRIGHTcWITH ARMS RAISED",
    "dDRESSaSTOCK CHARTaSTOPWATCHaSTRAIGHT RULERaSTRAIGHTNESSaSTRAWBERRY",
    "aSTRESS OUTLINED WHITE STARaSTRICTLY EQUIVALENT TOaSTRING TERMINATORaSTS",
    "aSTUDIO MICROPHONEaSTUFFED FLATBREADaSTUPAaSTXaSUBaSUBSCRIPT EIGHTbEQUALS SIGNbFIVEbFOUR",
    "bLEFT PARENTHESISbMINUSbNINEbONEbPLUS SIGNbRIGHT PARENTHESISbSEVENbSIXbTHREEbTWObZERO",
    "aSUBSET ABOVE RIGHTWARDS ARROWcSUBSETcSUPERSETbOFcABOVE ALMOST EQUAL TOdEQUALS SIGN",
    "dNOT EQUAL TOdTILDE OPERATORcOR EQUAL TOfWITH DOT ABOVEcWITH NOT EQUAL TObWITH DOT",
    "cMULTIPLICATION SIGN BELOWcPLUS SIGN BELOWaSUBSTITUTEaSUCCEEDSbABOVE ALMOST EQUAL TO",
    "cEQUALS SIGNcNOT ALMOST EQUAL TOdEQUAL TOcSINGLE-LINE EQUALS SIGNdNOT EQUAL TO",
    "bBUT NOT EQUIVALENT TObOR EQUAL TOcEQUIVALENT TObUNDER RELATIONaSUMMATION BOTTOMbTOP",
    "bWITH INTEGRALaSUNbBEHIND CLOUDbWITH FACEaSUNDANESE AVAGRAHAbCONSONANT SIGN PAMINGKAL",
    "dPANYAKRAdPANYIKUdPASANGAN MAeWAbDIGIT EIGHTcFIVEcFOURcNINEcONEcSEVENcSIXcTHREEcTWOcZERO",
    "bLETTER AcAEcBAcBHAcCAcDAcEcEUcFAcFINAL KdMcGAcHAcIcJAcKAcKHAcLAcLEUcMAcNAcNGAcNYAcOcPA",
    "cQAcRAcREUcSAcSYAcTAcUcVAcWAcXAcYAcZAbPUNCTUATION BINDU BA SATANGAdCAKRAdDA SATANGA",
    "dKA SATANGAdLEU SATANGAdPANGLONGdPURNAMAdSURYAbSIGN PAMAAEHcPANGLAYARcPANGWISADcPANYECEK",
    "cVIRAMAbVOWEL SIGN PAMEPETdPANAELAENGdPANEULEUNGdPANGHULUdPANOLONGdPANYUKUaSUNFLOWER",
    "aSUNRISEbOVER MOUNTAINSaSUNSET OVER BUILDINGSaSUPERHEROaSUPERSCRIPT EIGHTbEQUALS SIGN",
    "bFIVEbFOURbLATIN SMALL LETTER IeNbLEFT PARENTHESISbMINUSbNINEbONEbPLUS SIGN",
    "bRIGHT PARENTHESISbSEVENbSIXbTHREEbTWObZEROaSUPERSET ABOVE LEFTWARDS ARROWcSUBSET",
    "cSUPERSETbBESIDE AND JOINED BY DASH WITH SUBSETcSUBSETbOFcABOVE ALMOST EQUAL TO",
    "dEQUALS SIGNdNOT EQUAL TOdTILDE OPERATORcOR EQUAL TOfWITH DOT ABOVEcWITH NOT EQUAL TO",
    "bPRECEDING SOLIDUSbWITH DOTcMULTIPLICATION SIGN BELOWcPLUS SIGN BELOWaSUPERVILLAIN",
    "aSURFACE INTEGRALaSURFERaSUSHIaSUSPENSION RAILWAYaSWANaSWASH AMPERSAND ORNAMENTaSWIMMER",
    "aSWUNG DASHaSYLOTI NAGRI LETTER AdBHOdBOdCHOdCOdDDHOdDDOdDHOdDOdEdGHOdGOdHOdIdJHOdJOdKHO",
    "dKOdLOdMOdNOdOdPHOdPOdROdRROdSOdTHOdTOdTTHOdTTOdUcPOETRY MARK-1dMARK-2dMARK-3dMARK-4",
    "cSIGN ALTERNATE HASANTAdANUSVARAdDVISVARAdHASANTAcVOWEL SIGN AeEeIeOOeU",
    "aSYMBOL FOR ACKNOWLEDGEcBACKSPACEcBELLcCANCELcCARRIAGE RETURNcDATA LINK ESCAPEcDELETE",
    "dFORM TWOcDEVICE CONTROL FOUReONEeTHREEeTWOcEND OF MEDIUMeTEXTeTRANSMISSIONfBLOCK",
    "cENQUIRYcESCAPEcFILE SEPARATORcFORM FEEDcGROUP SEPARATORcHORIZONTAL TABULATIONcLINE FEED",
    "cMARKS CHAPTERcNEGATIVE ACKNOWLEDGEcNEWLINEcNULLcRECORD SEPARATORcSAMARITAN SOURCE",
    "cSHIFT INdOUTcSPACEcSTART OF HEADINGeTEXTcSUBSTITUTEdFORM TWOcSYNCHRONOUS IDLE",
    "cTYPE A ELECTRONICScUNIT SEPARATORcVERTICAL TABULATIONaSYMMETRYaSYNaSYNAGOGUE",
    "aSYNCHRONOUS IDLEaSYRIAC ABBREVIATION MARKbBARREKHbCOLON SKEWED LEFTdRIGHTbCONTRACTION",
    "bDOTTED ZLAMA ANGULARdHORIZONTALbEND OF PARAGRAPHbESASA ABOVEcBELOWbFEMININE DOT",
    "bHARKLEAN ASTERISCUScMETOBELUScOBELUSbHBASA ABOVEcBELOWbHBASA-ESASA DOTTED",
    "bHORIZONTAL COLONbLETTER ALAPHcBETHcDALATHcDOTLESS DALATH RISHcEcFINAL SEMKATHcGAMAL",
    "dGARSHUNIcHEcHETHcKAPHcLAMADHcMALAYALAM BHAdJAdLLAdLLLAdNGAdNNAdNNNAdNYAdRAdSSAdTTAcMIM",
    "cNUNcPEcPERSIAN BHETHdDHALATHdGHAMALcQAPHcREVERSED PEcRISHcSADHEcSEMKATHcSHINcSOGDIAN FE",
    "dKHAPHdZHAINcSUPERSCRIPT ALAPHcTAWcTETHdGARSHUNIcWAWcYUDHdHEcZAINbMUSIC",
    "bOBLIQUE LINE ABOVEdBELOWbPTHAHA ABOVEcBELOWcDOTTEDbQUSHSHAYAbRBASA ABOVEcBELOWbRUKKAKHA",
    "bRWAHAbSUBLINEAR COLONdSKEWED LEFTeRIGHTcFULL STOPbSUPRALINEAR COLONdSKEWED LEFT",
    "cFULL STOPbTHREE DOTS ABOVEdBELOWbTWO VERTICAL DOTS ABOVEeBELOWbZQAPHA ABOVEcBELOW",
    "cDOTTEDaSYRINGE"]

end CharacterName

end ElementBindings
