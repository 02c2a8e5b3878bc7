/-
  The names that start with H to K.  A small letter in front
  of a name says how many words it shares with the name before
  it, from a for none on; only its further words are written.

  Key definitions include:
    * `CharacterName.fromH`
-/

namespace ElementBindings

namespace CharacterName

------------------------------------------------------------
-- Names
------------------------------------------------------------

/- The names that start with H to K. -/
def fromH : List String := [
    "aHADESaHAIR SPACEaHAIRCUTaHALFWIDTH BLACK SQUAREbDOWNWARDS ARROWbFORMS LIGHT VERTICAL",
    "bHANGUL FILLERcLETTER AdAEdCHIEUCHdCIEUCdEdEOdEUdHIEUHdIdIEUNGdKHIEUKHdKIYEOK",
    "dKIYEOK-SIOSdMIEUMdNIEUNdNIEUN-CIEUCdNIEUN-HIEUHdOdOEdPHIEUPHdPIEUPdPIEUP-SIOSdRIEUL",
    "dRIEUL-HIEUHdRIEUL-KIYEOKdRIEUL-MIEUMdRIEUL-PHIEUPHdRIEUL-PIEUPdRIEUL-SIOSdRIEUL-THIEUTH",
    "dSIOSdSSANGCIEUCdSSANGKIYEOKdSSANGPIEUPdSSANGSIOSdSSANGTIKEUTdTHIEUTHdTIKEUTdUdWAdWAEdWE",
    "dWEOdWIdYAdYAEdYEdYEOdYIdYOdYUbIDEOGRAPHIC COMMAcFULL STOPbKATAKANA LETTER AdEdHAdHEdHI",
    "dHOdHUdIdKAdKEdKIdKOdKUdMAdMEdMIdMOdMUdNdNAdNEdNIdNOdNUdOdRAdREdRIdROdRUdSAdSEdSI",
    "dSMALL AeEeIeOeTUeUeYAeYOeYUdSOdSUdTAdTEdTIdTOdTUdUdWAdWOdYAdYOdYUcMIDDLE DOT",
    "cSEMI-VOICED SOUND MARKcVOICED SOUND MARKbKATAKANA-HIRAGANA PROLONGED SOUND MARK",
    "bLEFT CORNER BRACKETbLEFTWARDS ARROWbRIGHT CORNER BRACKETbRIGHTWARDS ARROWbUPWARDS ARROW",
    "bWHITE CIRCLEaHAMBURGERaHAMMERbAND PICKcSICKLEcWRENCHaHAMSAaHAMSTER FACE",
    "aHAND WITH INDEX AND MIDDLE FINGERS CROSSEDdFINGER AND THUMB CROSSEDaHANDBAGaHANDBALL",
    "aHANDSHAKEaHANGUL CHOSEONG CEONGCHIEUMCHIEUCHcCEONGCHIEUMCIEUCcCEONGCHIEUMSIOS",
    "cCEONGCHIEUMSSANGCIEUCcCEONGCHIEUMSSANGSIOScCHIEUCHcCHIEUCH-HIEUHcCHIEUCH-KHIEUKH",
    "cCHITUEUMCHIEUCHcCHITUEUMCIEUCcCHITUEUMSIOScCHITUEUMSSANGCIEUCcCHITUEUMSSANGSIOScCIEUC",
    "cCIEUC-IEUNGcFILLERcHIEUHcHIEUH-SIOScIEUNGcIEUNG-CHIEUCHcIEUNG-CIEUCcIEUNG-HIEUH",
    "cIEUNG-KIYEOKcIEUNG-MIEUMcIEUNG-PANSIOScIEUNG-PHIEUPHcIEUNG-PIEUPcIEUNG-RIEULcIEUNG-SIOS",
    "cIEUNG-THIEUTHcIEUNG-TIKEUTcKAPYEOUNMIEUMcKAPYEOUNPHIEUPHcKAPYEOUNPIEUPcKAPYEOUNRIEUL",
    "cKAPYEOUNSSANGPIEUPcKHIEUKHcKIYEOKcKIYEOK-TIKEUTcMIEUMcMIEUM-KIYEOKcMIEUM-PIEUP",
    "cMIEUM-SIOScMIEUM-TIKEUTcNIEUNcNIEUN-CIEUCcNIEUN-HIEUHcNIEUN-KIYEOKcNIEUN-PIEUP",
    "cNIEUN-SIOScNIEUN-TIKEUTcPANSIOScPHIEUPHcPHIEUPH-HIEUHcPHIEUPH-PIEUPcPIEUPcPIEUP-CHIEUCH",
    "cPIEUP-CIEUCcPIEUP-HIEUHcPIEUP-KHIEUKHcPIEUP-KIYEOKcPIEUP-NIEUNcPIEUP-PHIEUPHcPIEUP-SIOS",
    "cPIEUP-SIOS-CIEUCcPIEUP-SIOS-KIYEOKcPIEUP-SIOS-PIEUPcPIEUP-SIOS-THIEUTH",
    "cPIEUP-SIOS-TIKEUTcPIEUP-SSANGSIOScPIEUP-THIEUTHcPIEUP-TIKEUTcRIEULcRIEUL-CIEUC",
    "cRIEUL-HIEUHcRIEUL-KAPYEOUNPIEUPcRIEUL-KHIEUKHcRIEUL-KIYEOKcRIEUL-MIEUMcRIEUL-NIEUN",
    "cRIEUL-PIEUPcRIEUL-SIOScRIEUL-SSANGKIYEOKcRIEUL-SSANGPIEUPcRIEUL-SSANGTIKEUT",
    "cRIEUL-TIKEUTcSIOScSIOS-CHIEUCHcSIOS-CIEUCcSIOS-HIEUHcSIOS-IEUNGcSIOS-KHIEUKH",
    "cSIOS-KIYEOKcSIOS-MIEUMcSIOS-NIEUNcSIOS-PHIEUPHcSIOS-PIEUPcSIOS-PIEUP-KIYEOKcSIOS-RIEUL",
    "cSIOS-SSANGSIOScSIOS-THIEUTHcSIOS-TIKEUTcSSANGCIEUCcSSANGCIEUC-HIEUHcSSANGHIEUH",
    "cSSANGIEUNGcSSANGKIYEOKcSSANGNIEUNcSSANGPIEUPcSSANGRIEULcSSANGSIOScSSANGSIOS-PIEUP",
    "cSSANGTHIEUTHcSSANGTIKEUTcSSANGYEORINHIEUHcTHIEUTHcTIKEUTcTIKEUT-CIEUCcTIKEUT-KIYEOK",
    "cTIKEUT-MIEUMcTIKEUT-PIEUPcTIKEUT-RIEULcTIKEUT-SIOScYEORINHIEUHcYESIEUNG",
    "bDOUBLE DOT TONE MARKbFILLERbJONGSEONG CHIEUCHcCIEUCcCIEUC-PIEUPcCIEUC-SSANGPIEUPcHIEUH",
    "cHIEUH-MIEUMcHIEUH-NIEUNcHIEUH-PIEUPcHIEUH-RIEULcIEUNGcIEUNG-KHIEUKHcIEUNG-KIYEOK",
    "cIEUNG-SSANGKIYEOKcKAPYEOUNMIEUMcKAPYEOUNPHIEUPHcKAPYEOUNPIEUPcKAPYEOUNRIEULcKHIEUKH",
    "cKIYEOKcKIYEOK-CHIEUCHcKIYEOK-HIEUHcKIYEOK-KHIEUKHcKIYEOK-NIEUNcKIYEOK-PIEUP",
    "cKIYEOK-RIEULcKIYEOK-SIOScKIYEOK-SIOS-KIYEOKcMIEUMcMIEUM-CHIEUCHcMIEUM-CIEUCcMIEUM-HIEUH",
    "cMIEUM-KIYEOKcMIEUM-NIEUNcMIEUM-PANSIOScMIEUM-PIEUPcMIEUM-PIEUP-SIOScMIEUM-RIEUL",
    "cMIEUM-SIOScMIEUM-SSANGNIEUNcMIEUM-SSANGSIOScNIEUNcNIEUN-CHIEUCHcNIEUN-CIEUCcNIEUN-HIEUH",
    "cNIEUN-KIYEOKcNIEUN-PANSIOScNIEUN-RIEULcNIEUN-SIOScNIEUN-THIEUTHcNIEUN-TIKEUTcPANSIOS",
    "cPANSIOS-KAPYEOUNPIEUPcPANSIOS-PIEUPcPHIEUPHcPHIEUPH-PIEUPcPHIEUPH-SIOScPHIEUPH-THIEUTH",
    "cPIEUPcPIEUP-CHIEUCHcPIEUP-CIEUCcPIEUP-HIEUHcPIEUP-MIEUMcPIEUP-PHIEUPHcPIEUP-RIEUL",
    "cPIEUP-RIEUL-PHIEUPHcPIEUP-SIOScPIEUP-SIOS-TIKEUTcPIEUP-TIKEUTcRIEULcRIEUL-HIEUH",
    "cRIEUL-KAPYEOUNPIEUPcRIEUL-KHIEUKHcRIEUL-KIYEOKcRIEUL-KIYEOK-HIEUHcRIEUL-KIYEOK-SIOS",
    "cRIEUL-MIEUMcRIEUL-MIEUM-HIEUHcRIEUL-MIEUM-KIYEOKcRIEUL-MIEUM-SIOScRIEUL-NIEUN",
    "cRIEUL-PANSIOScRIEUL-PHIEUPHcRIEUL-PIEUPcRIEUL-PIEUP-HIEUHcRIEUL-PIEUP-PHIEUPH",
    "cRIEUL-PIEUP-SIOScRIEUL-PIEUP-TIKEUTcRIEUL-SIOScRIEUL-SSANGKIYEOKcRIEUL-SSANGSIOS",
    "cRIEUL-THIEUTHcRIEUL-TIKEUTcRIEUL-TIKEUT-HIEUHcRIEUL-YEORINHIEUHcRIEUL-YEORINHIEUH-HIEUH",
    "cRIEUL-YESIEUNGcSIOScSIOS-CHIEUCHcSIOS-CIEUCcSIOS-HIEUHcSIOS-KAPYEOUNPIEUPcSIOS-KIYEOK",
    "cSIOS-MIEUMcSIOS-PANSIOScSIOS-PIEUPcSIOS-RIEULcSIOS-THIEUTHcSIOS-TIKEUTcSSANGCIEUC",
    "cSSANGIEUNGcSSANGKIYEOKcSSANGMIEUMcSSANGNIEUNcSSANGPIEUPcSSANGRIEULcSSANGRIEUL-KHIEUKH",
    "cSSANGSIOScSSANGSIOS-KIYEOKcSSANGSIOS-TIKEUTcSSANGTIKEUTcSSANGTIKEUT-PIEUPcSSANGYESIEUNG",
    "cTHIEUTHcTIKEUTcTIKEUT-CHIEUCHcTIKEUT-CIEUCcTIKEUT-KIYEOKcTIKEUT-PIEUPcTIKEUT-RIEUL",
    "cTIKEUT-SIOScTIKEUT-SIOS-KIYEOKcTIKEUT-THIEUTHcYEORINHIEUHcYESIEUNGcYESIEUNG-HIEUH",
    "cYESIEUNG-KHIEUKHcYESIEUNG-KIYEOKcYESIEUNG-MIEUMcYESIEUNG-PANSIOScYESIEUNG-SIOS",
    "cYESIEUNG-SSANGKIYEOKbJUNGSEONG AcA-EUcA-OcA-UcAEcARAEAcARAEA-AcARAEA-EcARAEA-EOcARAEA-I",
    "cARAEA-UcEcEOcEO-EUcEO-OcEO-UcEUcEU-AcEU-EcEU-EOcEU-EUcEU-OcEU-UcFILLERcIcI-AcI-ARAEA",
    "cI-EUcI-IcI-OcI-O-IcI-UcI-YAcI-YA-OcI-YAEcI-YEcI-YEOcI-YOcI-YUcOcO-EcO-EOcO-OcO-O-IcO-U",
    "cO-YAcO-YAEcO-YEcO-YEOcOEcSSANGARAEAcUcU-AcU-AEcU-EO-EUcU-I-IcU-UcU-YEcU-YEOcWAcWAEcWE",
    "cWEOcWIcYAcYA-OcYA-UcYA-YOcYAEcYEcYEOcYEO-OcYEO-UcYEO-YAcYIcYI-UcYOcYO-AcYO-AEcYO-EO",
    "cYO-IcYO-OcYO-YAcYO-YAEcYO-YEOcYUcYU-AcYU-AEcYU-EcYU-EOcYU-IcYU-OcYU-UcYU-YEcYU-YEO",
    "bLETTER AcAEcARAEAcARAEAEcCHIEUCHcCIEUCcEcEOcEUcHIEUHcIcIEUNGcKAPYEOUNMIEUM",
    "cKAPYEOUNPHIEUPHcKAPYEOUNPIEUPcKAPYEOUNSSANGPIEUPcKHIEUKHcKIYEOKcKIYEOK-SIOScMIEUM",
    "cMIEUM-PANSIOScMIEUM-PIEUPcMIEUM-SIOScNIEUNcNIEUN-CIEUCcNIEUN-HIEUHcNIEUN-PANSIOS",
    "cNIEUN-SIOScNIEUN-TIKEUTcOcOEcPANSIOScPHIEUPHcPIEUPcPIEUP-CIEUCcPIEUP-KIYEOKcPIEUP-SIOS",
    "cPIEUP-SIOS-KIYEOKcPIEUP-SIOS-TIKEUTcPIEUP-THIEUTHcPIEUP-TIKEUTcRIEULcRIEUL-HIEUH",
    "cRIEUL-KIYEOKcRIEUL-KIYEOK-SIOScRIEUL-MIEUMcRIEUL-PANSIOScRIEUL-PHIEUPHcRIEUL-PIEUP",
    "cRIEUL-PIEUP-SIOScRIEUL-SIOScRIEUL-THIEUTHcRIEUL-TIKEUTcRIEUL-YEORINHIEUHcSIOS",
    "cSIOS-CIEUCcSIOS-KIYEOKcSIOS-NIEUNcSIOS-PIEUPcSIOS-TIKEUTcSSANGCIEUCcSSANGHIEUH",
    "cSSANGIEUNGcSSANGKIYEOKcSSANGNIEUNcSSANGPIEUPcSSANGSIOScSSANGTIKEUTcTHIEUTHcTIKEUTcUcWA",
    "cWAEcWEcWEOcWIcYAcYAEcYEcYEOcYEORINHIEUHcYESIEUNGcYESIEUNG-PANSIOScYESIEUNG-SIOScYIcYO",
    "cYO-IcYO-YAcYO-YAEcYUcYU-IcYU-YEcYU-YEObSINGLE DOT TONE MARKaHANGZHOU NUMERAL EIGHTcFIVE",
    "cFOURcNINEcONEcSEVENcSIXcTENcTHIRTYcTHREEcTWENTYcTWOaHANIFI ROHINGYA DIGIT EIGHTdFIVE",
    "dFOURdNINEdONEdSEVENdSIXdTHREEdTWOdZEROcLETTER AdBAdCAdDAdDDAdFAdGAdHAdJAdKAdKHA",
    "dKINNA WAeYAdLAdMAdNAdNGAdNYAdPAdRAdRRAdSAdSHAdTAdTTAdVAdWAdYAdZAcMARK NA KHONNAdSAKIN",
    "cSIGN HARBAHAYdTAHALAdTANAdTASSIcVOWEL AdEdIdOdUaHANUNOO LETTER AcBAcDAcGAcHAcIcKAcLAcMA",
    "cNAcNGAcPAcRAcSAcTAcUcWAcYAbSIGN PAMUDPODbVOWEL SIGN IdUaHAPPY PERSON RAISING ONE HAND",
    "aHARD DISKaHATCHING CHICKaHATRAN LETTER ALEPHcAYNcBETHcDALETH-RESHcGIMELcHEcHETHcKAPH",
    "cLAMEDHcMEMcNUNcPEcQOPHcSADHEcSAMEKHcSHINcTAWcTETHcWAWcYODHcZAYNbNUMBER FIVEcONEdHUNDRED",
    "cTENcTWENTYaHEADPHONEaHEADSTONEbGRAVEYARD SYMBOLaHEAR-NO-EVIL MONKEYaHEART DECORATION",
    "bHANDSbWITH ARROWcRIBBONcTIP ON THE LEFTaHEAVY AMPERSAND ORNAMENTbARROW SHAFT WIDTH ONE",
    "fHALFfTHIRDeTWO THIRDSbASTERISKbBALLOT XbBLACK CURVED DOWNWARDS AND RIGHTWARDS ARROW",
    "dUPWARDS AND RIGHTWARDS ARROWcHEARTbBLACK-FEATHERED NORTH EAST ARROWcRIGHTWARDS ARROW",
    "cSOUTH EAST ARROWbCHECK MARKbCHEVRON SNOWFLAKEbCIRCLEcWITH CIRCLE INSIDE",
    "dSTROKE AND TWO DOTS ABOVEbCIRCLED SALTIREbCONCAVE-POINTED BLACK RIGHTWARDS ARROW",
    "bDASHED TRIANGLE-HEADED RIGHTWARDS ARROWbDIVISION SIGNbDOLLAR SIGN",
    "bDOUBLE COMMA QUOTATION MARK ORNAMENTcTURNED COMMA QUOTATION MARK ORNAMENT",
    "bDOWNWARDS ARROW WITH EQUILATERAL ARROWHEADeLARGE EQUILATERAL ARROWHEAD",
    "bEIGHT POINTED BLACK STARdPINWHEEL STARdRECTILINEAR BLACK STARcSPOKED ASTERISK",
    "cTEARDROP-SPOKED PROPELLER ASTERISKbEQUALS SIGNbEXCLAMATION MARK ORNAMENTdSYMBOL",
    "bFIVE POINTED BLACK STARcSPOKED ASTERISKbFOUR BALLOON-SPOKED ASTERISKbGREEK CROSS",
    "bHEART EXCLAMATION MARK ORNAMENTbHORIZONTAL FILLbINTERROBANG ORNAMENTbLARGE CIRCLE",
    "bLATIN CROSSbLEFT-POINTING ANGLE BRACKET ORNAMENTdQUOTATION MARK ORNAMENT",
    "bLEFTWARDS ARROW WITH EQUILATERAL ARROWHEADeLARGE EQUILATERAL ARROWHEAD",
    "bLIGATURE OPEN ET ORNAMENTbLOW DOUBLE COMMA QUOTATION MARK ORNAMENT",
    "cSINGLE COMMA QUOTATION MARK ORNAMENTbLOWER RIGHT-SHADOWED WHITE RIGHTWARDS ARROW",
    "bMINUS SIGNbMULTIPLICATION XbNORTH EAST ARROWdPOINTING BUDeVINE LEAFcWEST POINTING BUD",
    "eVINE LEAFbOPEN CENTRE CROSSbOUTLINED BLACK STARbOVAL WITH OVAL INSIDEbPLUS SIGN",
    "bRIGHT-POINTING ANGLE BRACKET ORNAMENTdQUOTATION MARK ORNAMENTbRIGHTWARDS ARROW",
    "dWITH EQUILATERAL ARROWHEADeLARGE EQUILATERAL ARROWHEADbROUND-TIPPED RIGHTWARDS ARROW",
    "bSALTIREbSANS-SERIF INTERROBANG ORNAMENTbSCRIPT LIGATURE ET ORNAMENT",
    "bSINGLE COMMA QUOTATION MARK ORNAMENTcTURNED COMMA QUOTATION MARK ORNAMENT",
    "bSIX POINTED BLACK STARcSPOKED ASTERISKbSOUTH EAST ARROWdPOINTING BUDeVINE LEAF",
    "cWEST POINTING BUDeVINE LEAFbSPARKLEbTEARDROP-SHANKED RIGHTWARDS ARROW",
    "bTEARDROP-SPOKED ASTERISKcPINWHEEL ASTERISKbTRIANGLE-HEADED RIGHTWARDS ARROW",
    "bTWELVE POINTED BLACK STARdPINWHEEL STARbUPPER RIGHT-SHADOWED WHITE RIGHTWARDS ARROW",
    "bUPWARDS ARROW WITH EQUILATERAL ARROWHEADeLARGE EQUILATERAL ARROWHEADbVERTICAL BAR",
    "bWEDGE-TAILED RIGHTWARDS ARROWbWHITE CIRCLEcDOWN-POINTING TRIANGLEcSQUARE",
    "bWIDE-HEADED RIGHTWARDS ARROWaHEBREW ACCENT ATNAH HAFUKHcDARGAcDEHIcETNAHTAcGERESH",
    "dMUQDAMcGERSHAYIMcILUYcMAHAPAKHcMERKHAdKEFULAcMUNAHcOLEcPASHTAcPAZERcQADMAcQARNEY PARA",
    "cREVIAcSEGOLcSHALSHELETcTELISHA GEDOLAdQETANAcTEVIRcTIPEHAcYERAH BEN YOMOcYETIV",
    "cZAQEF GADOLdQATANcZARQAcZINORbLETTER ALEFdWITH MAPIQePATAHeQAMATScALTERNATIVE AYIN",
    "dPLUS SIGNcAYINcBETdWITH DAGESHeRAFEcDALETdWITH DAGESHcFINAL KAFeWITH DAGESHdMEMdNUNdPE",
    "eWITH DAGESHdTSADIcGIMELdWITH DAGESHcHEdWITH MAPIQcHETcKAFdWITH DAGESHeRAFEcLAMED",
    "dWITH DAGESHcMEMdWITH DAGESHcNUNdWITH DAGESHcPEdWITH DAGESHeRAFEcQOFdWITH DAGESHcRESH",
    "dWITH DAGESHcSAMEKHdWITH DAGESHcSHINdWITH DAGESHfAND SHIN DOTgSIN DOTeSHIN DOTeSIN DOT",
    "cTAVdWITH DAGESHcTETdWITH DAGESHcTSADIdWITH DAGESHcVAVdWITH DAGESHeHOLAMcWIDE ALEFdDALET",
    "dFINAL MEMdHEdKAFdLAMEDdRESHdTAVcYODdWITH DAGESHeHIRIQcZAYINdWITH DAGESH",
    "bLIGATURE ALEF LAMEDcYIDDISH DOUBLE VAVeYODdVAV YODdYOD YOD PATAHbMARK LOWER DOT",
    "cMASORA CIRCLEcUPPER DOTbPOINT DAGESH OR MAPIQcHATAF PATAHdQAMATSdSEGOLcHIRIQcHOLAM",
    "dHASER FOR VAVcJUDEO-SPANISH VARIKAcMETEGcPATAHcQAMATSdQATANcQUBUTScRAFEcSEGOLcSHEVA",
    "cSHIN DOTcSIN DOTcTSEREbPUNCTUATION GERESHcGERSHAYIMcMAQAFcNUN HAFUKHAcPASEQcSOF PASUQ",
    "bYOD TRIANGLEaHEDGEHOGaHELICOPTERaHELLSCHREIBER PAUSE SYMBOLaHELM SYMBOL",
    "aHELMET WITH WHITE CROSSaHENTAIGANA LETTER A-1cA-2cA-3cA-WOcE-1cE-2cE-3cE-4cE-5cE-6cHA-1",
    "cHA-10cHA-11cHA-2cHA-3cHA-4cHA-5cHA-6cHA-7cHA-8cHA-9cHE-1cHE-2cHE-3cHE-4cHE-5cHE-6cHE-7",
    "cHI-1cHI-2cHI-3cHI-4cHI-5cHI-6cHI-7cHO-1cHO-2cHO-3cHO-4cHO-5cHO-6cHO-7cHO-8cHU-1cHU-2",
    "cHU-3cI-1cI-2cI-3cI-4cKA-1cKA-10cKA-11cKA-2cKA-3cKA-4cKA-5cKA-6cKA-7cKA-8cKA-9cKA-KE",
    "cKE-1cKE-2cKE-3cKE-4cKE-5cKE-6cKI-1cKI-2cKI-3cKI-4cKI-5cKI-6cKI-7cKI-8cKO-1cKO-2cKO-3",
    "cKO-KIcKU-1cKU-2cKU-3cKU-4cKU-5cKU-6cKU-7cMA-1cMA-2cMA-3cMA-4cMA-5cMA-6cMA-7cME-1cME-2",
    "cME-MAcMI-1cMI-2cMI-3cMI-4cMI-5cMI-6cMI-7cMO-1cMO-2cMO-3cMO-4cMO-5cMO-6cMU-1cMU-2cMU-3",
    "cMU-4cN-MU-MO-1cN-MU-MO-2cNA-1cNA-2cNA-3cNA-4cNA-5cNA-6cNA-7cNA-8cNA-9cNE-1cNE-2cNE-3",
    "cNE-4cNE-5cNE-6cNE-KOcNI-1cNI-2cNI-3cNI-4cNI-5cNI-6cNI-7cNI-TEcNO-1cNO-2cNO-3cNO-4cNO-5",
    "cNU-1cNU-2cNU-3cO-1cO-2cO-3cRA-1cRA-2cRA-3cRA-4cRE-1cRE-2cRE-3cRE-4cRI-1cRI-2cRI-3cRI-4",
    "cRI-5cRI-6cRI-7cRO-1cRO-2cRO-3cRO-4cRO-5cRO-6cRU-1cRU-2cRU-3cRU-4cRU-5cRU-6cSA-1cSA-2",
    "cSA-3cSA-4cSA-5cSA-6cSA-7cSA-8cSE-1cSE-2cSE-3cSE-4cSE-5cSI-1cSI-2cSI-3cSI-4cSI-5cSI-6",
    "cSO-1cSO-2cSO-3cSO-4cSO-5cSO-6cSO-7cSU-1cSU-2cSU-3cSU-4cSU-5cSU-6cSU-7cSU-8cTA-1cTA-2",
    "cTA-3cTA-4cTE-1cTE-2cTE-3cTE-4cTE-5cTE-6cTE-7cTE-8cTE-9cTI-1cTI-2cTI-3cTI-4cTI-5cTI-6",
    "cTI-7cTO-1cTO-2cTO-3cTO-4cTO-5cTO-6cTO-RAcTU-1cTU-2cTU-3cTU-4cTU-TOcU-1cU-2cU-3cU-4cU-5",
    "cWA-1cWA-2cWA-3cWA-4cWA-5cWE-1cWE-2cWE-3cWE-4cWI-1cWI-2cWI-3cWI-4cWI-5cWO-1cWO-2cWO-3",
    "cWO-4cWO-5cWO-6cWO-7cYA-1cYA-2cYA-3cYA-4cYA-5cYA-YOcYO-1cYO-2cYO-3cYO-4cYO-5cYO-6cYU-1",
    "cYU-2cYU-3cYU-4aHERBaHERMITIAN CONJUGATE MATRIXaHEXAGRAM FOR ABUNDANCEcAFTER COMPLETION",
    "cAPPROACHcBEFORE COMPLETIONcBITING THROUGHcBREAKTHROUGHcCOMING TO MEETcCONFLICT",
    "cCONTEMPLATIONcDARKENING OF THE LIGHTcDECREASEcDELIVERANCEcDEVELOPMENT",
    "cDIFFICULTY AT THE BEGINNINGcDISPERSIONcDURATIONcENTHUSIASMcFELLOWSHIPcFOLLOWING",
    "cGATHERING TOGETHERcGRACEcGREAT POSSESSIONdPOWERdPREPONDERANCEdTAMINGcHOLDING TOGETHER",
    "cINCREASEcINFLUENCEcINNER TRUTHcINNOCENCEcLIMITATIONcMODESTYcMOUTH CORNERScOBSTRUCTION",
    "cOPPOSITIONcOPPRESSIONcPEACEcPROGRESScPUSHING UPWARDcRETREATcRETURNcREVOLUTION",
    "cSMALL PREPONDERANCEdTAMINGcSPLITTING APARTcSTANDSTILLcTHE ABYSMAL WATERdARMY",
    "dAROUSING THUNDERdCAULDRONdCLINGING FIREdCREATIVE HEAVENdFAMILYdGENTLE WINDdJOYOUS LAKE",
    "dKEEPING STILL MOUNTAINdMARRYING MAIDENdRECEPTIVE EARTHdWANDERERdWELLcTREADINGcWAITING",
    "cWORK ON THE DECAYEDcYOUTHFUL FOLLYaHIBISCUSaHIGH BRIGHTNESS SYMBOLbOCTET PRESET",
    "bVOLTAGE SIGNaHIGH-HEELED SHOEaHIGH-SPEED TRAINcWITH BULLET NOSEaHIKING BOOT",
    "aHINDU TEMPLEaHIPPOPOTAMUSaHIRAGANA DIGRAPH YORIbITERATION MARKbLETTER AcARCHAIC WUdYE",
    "cBAcBEcBIcBOcBUcDAcDEcDIcDOcDUcEcGAcGEcGIcGOcGUcHAcHEcHIcHOcHUcIcKAcKEcKIcKOcKUcMAcMEcMI",
    "cMOcMUcNcNAcNEcNIcNOcNUcOcPAcPEcPIcPOcPUcRAcREcRIcROcRUcSAcSEcSIcSMALL AdEdIdKAdKEdOdTU",
    "dUdWAdWEdWIdWOdYAdYOdYUcSOcSUcTAcTEcTIcTOcTUcUcVUcWAcWEcWIcWOcYAcYOcYUcZAcZEcZIcZOcZU",
    "bVOICED ITERATION MARKaHISTORIC SITEaHOCHOaHOLEaHOLLOW QUILT SQUARE ORNAMENT",
    "eIN BLACK SQUAREaHOMOTHETICaHONEY POTaHONEYBEEaHOOKaHOPaHORIZONTAL BARbBLACK HEXAGON",
    "cOCTAGONbELLIPSISbLINE EXTENSIONbMALE WITH STROKE SIGNbONE EIGHTH BLOCK-1358dBLOCK-2",
    "dBLOCK-3dBLOCK-4dBLOCK-5dBLOCK-6dBLOCK-7bSCAN LINE-1cLINE-3cLINE-7cLINE-9bTAB KEY",
    "bTABULATIONcSETcWITH JUSTIFICATIONbTRAFFIC LIGHTaHORSEbFACEbRACINGaHOSPITALaHOT BEVERAGE",
    "bDOGbPEPPERbSPRINGSaHOTELaHOURGLASSbWITH FLOWING SANDaHOUSEbBUILDINGbBUILDINGS",
    "bWITH GARDENaHRYVNIA SIGNaHTaHTJaHTSaHUGGING FACEaHUNDRED POINTS SYMBOLaHUSHED FACEaHUT",
    "aHYGIEAaHYPHENbBULLETbWITH DIAERESISaHYPHEN-MINUSaHYPHENATION POINTaHYPODIASTOLE",
    "aHYSTERESIS SYMBOLaI LOVE YOU HAND SIGNaICE CREAMbCUBEbHOCKEY STICK AND PUCKbSKATE",
    "aIDENTICAL TOcAND SLANTED PARALLELbWITH DOT ABOVEaIDENTIFICATION CARD",
    "aIDEOGRAPHIC ANNOTATION BOTTOM MARKcEARTH MARKcFIRST MARKcFOUR MARKcFOURTH MARK",
    "cHEAVEN MARKcLINKING MARKcMAN MARKcMIDDLE MARKcONE MARKcREVERSE MARKcSECOND MARK",
    "cTHIRD MARKcTHREE MARKcTOP MARKcTWO MARKbCLOSING MARKbCOMMAbDEPARTING TONE MARK",
    "bDESCRIPTION CHARACTER ABOVE TO BELOWfMIDDLE AND BELOWdFULL SURROUND",
    "dLEFT TO MIDDLE AND RIGHTfRIGHTdOVERLAIDdSURROUND FROM ABOVEfBELOWfLEFTfLOWER LEFT",
    "fUPPER LEFTgRIGHTbENTERING TONE MARKbFULL STOPbHALF FILL SPACEbITERATION MARK",
    "bLEVEL TONE MARKbNUMBER ZERObRISING TONE MARKbSPACEbTALLY MARK FIVEdFOURdONEdTHREEdTWO",
    "bTELEGRAPH LINE FEED SEPARATOR SYMBOLcSYMBOL FOR APRILeAUGUSTeDAY EIGHTfEIGHTEENfELEVEN",
    "fFIFTEENfFIVEfFOURfFOURTEENfNINEfNINETEENfONEfSEVENfSEVENTEENfSIXfSIXTEENfTENfTHIRTEEN",
    "fTHIRTYfTHIRTY-ONEfTHREEfTWELVEfTWENTYfTWENTY-EIGHTfTWENTY-FIVEfTWENTY-FOURfTWENTY-NINE",
    "fTWENTY-ONEfTWENTY-SEVENfTWENTY-SIXfTWENTY-THREEfTWENTY-TWOfTWOeDECEMBEReFEBRUARY",
    "eHOUR EIGHTfEIGHTEENfELEVENfFIFTEENfFIVEfFOURfFOURTEENfNINEfNINETEENfONEfSEVENfSEVENTEEN",
    "fSIXfSIXTEENfTENfTHIRTEENfTHREEfTWELVEfTWENTYfTWENTY-FOURfTWENTY-ONEfTWENTY-THREE",
    "fTWENTY-TWOfTWOfZEROeJANUARYeJULYeJUNEeMARCHeMAYeNOVEMBEReOCTOBEReSEPTEMBER",
    "bVARIATION INDICATORaIMAGE OFcOR APPROXIMATELY EQUAL TOaIMP",
    "aIMPERIAL ARAMAIC LETTER ALEPHdAYINdBETHdDALETHdGIMELdHEdHETHdKAPHdLAMEDHdMEMdNUNdPE",
    "dQOPHdRESHdSADHEdSAMEKHdSHINdTAWdTETHdWAWdYODHdZAYINcNUMBER ONEeHUNDREDeTHOUSANDdTEN",
    "eTHOUSANDdTHREEdTWENTYdTWOcSECTION SIGNaINBOX TRAYaINCOMING ENVELOPEaINCOMPLETE INFINITY",
    "aINCREASE FONT SIZE SYMBOLaINCREASES ASaINCREMENTaINDaINDEXbPOINTING AT THE VIEWER",
    "aINDIAN RUPEE SIGNaINDIC SIYAQ ALTERNATE LAKH MARKcFRACTION ONE HALFeQUARTER",
    "dTHREE QUARTERScLAKH MARKcNUMBER ALTERNATE ONEeTEN THOUSANDeTWOdEIGHTeHUNDREDeTHOUSAND",
    "dEIGHTYeTHOUSANDdFIFTYeTHOUSANDdFIVEeHUNDREDeTHOUSANDdFORTYeTHOUSANDdFOUReHUNDRED",
    "eTHOUSANDdKARORdKARORANdLAKHdLAKHANdNINEeHUNDREDeTHOUSANDdNINETYeTHOUSANDdONEeHUNDRED",
    "eTHOUSANDdPREFIXED EIGHTeFIVEeFOUReNINEeONEeSEVENeSIXeTHREEeTWOdSEVENeHUNDREDeTHOUSAND",
    "dSEVENTYeTHOUSANDdSIXeHUNDREDeTHOUSANDdSIXTYeTHOUSANDdTENeTHOUSANDdTHIRTYeTHOUSANDdTHREE",
    "eHUNDREDeTHOUSANDdTWENTYeTHOUSANDdTWOeHUNDREDeTHOUSANDcPLACEHOLDERcRUPEE MARKaINFINITY",
    "bNEGATED WITH VERTICAL BARaINFORMATION DESK PERSONbSEPARATOR FOURcONEcTHREEcTWObSOURCE",
    "aINHIBIT ARABIC FORM SHAPINGbSYMMETRIC SWAPPINGaINPUT SYMBOL FOR LATIN CAPITAL LETTERS",
    "eLETTERSeSMALL LETTERSdNUMBERSdSYMBOLSaINSCRIPTIONAL PAHLAVI LETTER ALEPHdBETHdDALETH",
    "dGIMELdHEdHETHdKAPHdLAMEDHdMEM-QOPHdNUNdPEdSADHEdSAMEKHdSHINdTAWdTETHdWAW-AYIN-RESHdYODH",
    "dZAYINcNUMBER FOURdONEeHUNDREDeTHOUSANDdTENdTHREEdTWENTYdTWObPARTHIAN LETTER ALEPHdAYIN",
    "dBETHdDALETHdGIMELdHEdHETHdKAPHdLAMEDHdMEMdNUNdPEdQOPHdRESHdSADHEdSAMEKHdSHINdTAWdTETH",
    "dWAWdYODHdZAYINcNUMBER FOURdONEeHUNDREDeTHOUSANDdTENdTHREEdTWENTYdTWOaINSERTION SYMBOL",
    "aINTEGRALbAROUND A POINT OPERATORbAVERAGE WITH SLASHbEXTENSIONbWITH DOUBLE STROKE",
    "cINTERSECTIONcLEFTWARDS ARROW WITH HOOKcOVERBARcTIMES SIGNcUNDERBARcUNIONaINTERCALATE",
    "aINTERIOR PRODUCTaINTERLINEAR ANNOTATION ANCHORcSEPARATORcTERMINATOR",
    "aINTERLOCKED FEMALE AND MALE SIGNaINTERROBANGaINTERSECTIONbABOVE BAR ABOVE UNIONcUNION",
    "bBESIDE AND JOINED WITH INTERSECTIONbWITH DOTcLOGICAL ANDcOVERBARaINVERSE BULLET",
    "bCHECK MARKbCHECKER BOARD FILLbDOWNWARDS ARROW WITH TIP LEFTWARDSbMEDIUM SHADE",
    "bWHITE CIRCLEaINVERTED EXCLAMATION MARKbINTERROBANGbLAZY SbLOW KAVYKAdWITH KAVYKA ABOVE",
    "bOHM SIGNbPENTAGRAMbQUESTION MARKbUNDERTIEaINVISIBLE PLUSbSEPARATORbTIMES",
    "aIZAKAYA LANTERNaJACK-O-LANTERNaJAPANESE BANK SYMBOLbCASTLEbDOLLSbGOBLIN",
    "bINDUSTRIAL STANDARD SYMBOLbOGREbPOST OFFICEbSYMBOL FOR BEGINNERaJAR",
    "aJAVANESE CONSONANT SIGN CAKRAdKERETdPENGKALbDIGIT EIGHTcFIVEcFOURcNINEcONEcSEVENcSIX",
    "cTHREEcTWOcZERObLEFT RERENGGANbLETTER AcAIcBAdMURDAcCAdMURDAcDAdMAHAPRANAcDDAdMAHAPRANA",
    "cEcGAdMURDAcHAcIdKAWIcIIcJAdMAHAPRANAcKAdMURDAdSASAKcLAcMAcNAdMURDAcNGAdLELETeRASWADI",
    "cNYAdMURDAcOcPAdCEREKdMURDAcRAdAGUNGcSAdMAHAPRANAdMURDAcTAdMURDAcTTAdMAHAPRANAcUcWAcYA",
    "bPADA ADEGdADEGcANDAPcISEN-ISENcLINGSAcLUHURcLUNGSIcMADYAcPANGKATcPISELEHcTIRTA TUMETES",
    "cWINDUbPANGKONbPANGRANGKEPbRIGHT RERENGGANbSIGN CECAKdTELUcLAYARcPANYANGGAcWIGNYAN",
    "bTURNED PADA PISELEHbVOWEL SIGN DIRGA MUREdPEPETdSUKUeMENDUTdTALINGdTARUNGdTOLONGdWULU",
    "eMELIKaJEANSaJIGSAW PUZZLE PIECEaJOINaJOYSTICKaJUGGLINGaJUNOaJUPITERaKAABA",
    "aKAITHI ABBREVIATION SIGNbDANDAbDOUBLE DANDAcSECTION MARKbENUMERATION SIGNbLETTER AcAA",
    "cAIcAUcBAcBHAcCAcCHAcDAcDDAcDDDHAcDDHAcDHAcEcGAcGHAcHAcIcIIcJAcJHAcKAcKHAcLAcMAcNAcNGA",
    "cNNAcNYAcOcPAcPHAcRAcRHAcSAcSHAcSSAcTAcTHAcTTAcTTHAcUcUUcVAcYAbNUMBER SIGNdABOVE",
    "bSECTION MARKbSIGN ANUSVARAcCANDRABINDUcNUKTAcVIRAMAcVISARGAbVOWEL SIGN AAdAIdAUdEdIdII",
    "dOdUdUUdVOCALIC RaKANGAROOaKANGXI RADICAL AGAINcANDcARRIVEcARROWcAXEcBADGERcBAMBOOcBEAN",
    "cBIGcBIRDcBITTERcBLACKcBLOODcBLUEcBOATcBODYcBOLT OF CLOTHcBONEcBOWcBRANCHcBRISTLEcBRUSH",
    "cCARTcCAULDRONcCAVEcCHILDcCITYcCLANcCLAWcCLIFFcCLOTHEScCOLORcCOMPAREcCORPSEcCOVERcCOW",
    "cDEATHcDEERcDIPPERcDISHcDISTINGUISHcDIVINATIONcDO NOTcDOGcDOORcDOTcDOTTED CLIFFdTENT",
    "cDOUBLE XcDOWN BOXcDRAGONcDRUMcDRYcEARcEARTHcEATcEIGHTcEMBROIDERYcENCLOSUREcENTERcEVEN",
    "cEVENINGcEYEcFACEcFANGcFATHERcFEATHERcFIELDcFIGHTcFIREcFISHcFLUTEcFLYcFOOTcFRAGRANTcFROG",
    "cFURcGATEcGHOSTcGOdSLOWLYcGOLDcGRAINcGRASScHAIRcHALBERDcHALF TREE TRUNKcHANDcHEADcHEART",
    "cHEMPcHIDING ENCLOSUREcHOOKcHORNcHORSEcICEcINCHcINSECTcJADEcJARcKNIFEcLACKcLAMEcLEAF",
    "cLEATHERcLEEKcLEGScLIDcLIFEcLINEcLONGdSTRIDEcMANcMEATcMELONcMILLETcMINISTERcMOONcMORNING",
    "cMORTARcMOUNDcMOUNTAINcMOUTHcNETcNOSEcNOTcOLDcONEcONESELFcOPEN BOXcOPPOSEcPIGcPLOWcPOWER",
    "cPRIVATEcPROFOUNDcRAINcRAPcRATcREDcRICEcRIGHT OPEN BOXcRIVERcROOFcRUNcSACRIFICIAL WINE",
    "cSALTcSAYcSCHOLARcSCRIPTcSEALcSECONDcSEEcSELFcSHEEPcSHELLcSHOOTcSHORT TAILED BIRDdTHREAD",
    "cSICKNESScSILKcSKINcSLASHcSLAVEcSLICEcSMALLcSNOUTcSOUNDcSPEARcSPEECHcSPIRITcSPOONcSPROUT",
    "cSQUAREcSTANDcSTEAMcSTEPcSTONEcSTOPcSTOPPINGcSUNcSWEETcTABLEcTALLcTANNED LEATHERcTEN",
    "cTIGERcTILEcTONGUEcTOOTHcTRACKcTREEcTRIPODcTURBANcTURTLEcTWOdHANDScUSEcVALLEYcVILLAGE",
    "cWALKdENCLOSUREcWATERcWEAPONcWESTcWHEATcWHITEcWINDcWINEcWOMANcWORKcWRAPcWRONGcYELLOW",
    "aKANNADA AI LENGTH MARKbDIGIT EIGHTcFIVEcFOURcNINEcONEcSEVENcSIXcTHREEcTWOcZERO",
    "bLENGTH MARKbLETTER AcAAcAIcAUcBAcBHAcCAcCHAcDAcDDAcDDHAcDHAcEcEEcFAcGAcGHAcHAcIcIIcJA",
    "cJHAcKAcKHAcLAcLLAcLLLAcMAcNAcNAKAARA POLLUcNGAcNNAcNYAcOcOOcPAcPHAcRAcRRAcSAcSHAcSSAcTA",
    "cTHAcTTAcTTHAcUcUUcVAcVOCALIC LdLLdRdRRcYAbSIGN ANUSVARAcAVAGRAHAcCANDRABINDU",
    "cJIHVAMULIYAcNUKTAcSIDDHAMcSPACING CANDRABINDUcUPADHMANIYAcVIRAMAcVISARGAbVOWEL SIGN AA",
    "dAIdAUdEdEEdIdIIdOdOOdUdUUdVOCALIC LeLLeReRRaKATAKANA DIGRAPH KOTObITERATION MARK",
    "bLETTER AcARCHAIC EdWUdYEdYIcBAcBEcBIcBOcBUcDAcDEcDIcDOcDUcEcGAcGEcGIcGOcGUcHAcHEcHIcHO",
    "cHUcIcKAcKEcKIcKOcKUcMAcMEcMIcMINNAN NASALIZED TONE-1eTONE-2eTONE-3eTONE-4eTONE-5eTONE-7",
    "eTONE-8dTONE-2dTONE-3dTONE-4dTONE-5dTONE-7dTONE-8cMOcMUcNcNAcNEcNIcNOcNUcOcPAcPEcPIcPO",
    "cPUcRAcREcRIcROcRUcSAcSEcSIcSMALL AdEdHAdHEdHIdHOdHUdIdKAdKEdKUdMUdNdNUdOdRAdREdRIdROdRU",
    "dSIdSUdTOdTUdUdWAdWEdWIdWOdYAdYOdYUcSOcSUcTAcTEcTIcTOcTUcUcVAcVEcVIcVOcVUcWAcWEcWIcWOcYA",
    "cYOcYUcZAcZEcZIcZOcZUbMIDDLE DOTbVOICED ITERATION MARKaKATAKANA-HIRAGANA DOUBLE HYPHEN",
    "bPROLONGED SOUND MARKbSEMI-VOICED SOUND MARKbVOICED SOUND MARKaKAYAH LI DIGIT EIGHTdFIVE",
    "dFOURdNINEdONEdSEVENdSIXdTHREEdTWOdZEROcLETTER AdBAdCAdDAdGAdHAdHTAdIdKAdKHAdLAdMAdNA",
    "dNGAdNYAdOEdOOdPAdPHAdRAdSAdSHAdTAdTHAdVAdWAdYAdZAcSIGN CWIdSHYAcTONE CALYAePLOPHU",
    "dPLOPHUcVOWEL EdEEdOdUdUEaKELVIN SIGNaKEYaKEYBOARDbAND MOUSEaKEYCAP TEN",
    "aKHAROSHTHI DIGIT FOURcONEcTHREEcTWObFRACTION ONE HALFbLETTER AcBAcBHAcCAcCHAcDAcDDA",
    "cDDHAcDHAcGAcGHAcHAcJAcKAcKHAcKKAcLAcMAcNAcNNAcNYAcPAcPHAcRAcSAcSHAcSSAcTAcTHAcTTAcTTHA",
    "cTTTAcTTTHAcVAcVHAcYAcZAbNUMBER ONE HUNDREDdTHOUSANDcTENcTWENTYbPUNCTUATION CIRCLE",
    "cCRESCENT BARcDANDAcDOTcDOUBLE DANDAcLINEScLOTUScMANGALAMcSMALL CIRCLEbSIGN ANUSVARA",
    "cBAR ABOVEcCAUDAcDOT BELOWcDOUBLE RING BELOWcVISARGAbVIRAMAbVOWEL LENGTH MARKcSIGN EdIdO",
    "dUdVOCALIC RaKHITAN SMALL SCRIPT FILLERaKHMER CURRENCY SYMBOL RIELbDIGIT EIGHTcFIVEcFOUR",
    "cNINEcONEcSEVENcSIXcTHREEcTWOcZERObINDEPENDENT VOWEL LYdLYYdQAAdQAIdQAQdQAUdQEdQIdQII",
    "dQOO TYPE ONEfTWOdQUdQUKdQUUdQUUVdRYdRYYbLETTER BAcCAcCHAcCHOcCOcDAcDOcHAcKAcKHAcKHOcKO",
    "cLAcLOcMOcNGOcNNOcNOcNYOcPHAcPHOcPOcQAcROcSAcSHAcSSOcTAcTHAcTHOcTOcTTHAcTTHOcVOcYO",
    "bSIGN AHSDAcATTHACANcAVAKRAHASANYAcBANTOCcBARIYOOSANcBATHAMASATcBEYYALcCAMNUC PII KUUH",
    "cCOENGcKAKABATcKHANcKOOMUUTcLEK TOOcMUUSIKATOANcNIKAHITcPHNAEK MUANcREAHMUKcROBAT",
    "cSAMYOK SANNYAcTOANDAKHIATcTRIISAPcVIRIAMcYUUKALEAPINTUbSYMBOL BEI KOETdROCcBUON KOET",
    "dROCcDAP KOETdROCcDAP-BEI KOETdROCcDAP-BUON KOETdROCcDAP-MUOY KOETdROCcDAP-PII KOETdROC",
    "cDAP-PRAM KOETdROCcLEK ATTAK BEIeBUONeMUOYePIIePRAMePRAM-BEIePRAM-BUONePRAM-MUOY",
    "ePRAM-PIIeSONcMUOY KOETdROCcPATHAMASATcPII KOETdROCcPRAM KOETdROCcPRAM-BEI KOETdROC",
    "cPRAM-BUON KOETdROCcPRAM-MUOY KOETdROCcPRAM-PII KOETdROCcTUTEYASATbVOWEL INHERENT AAdAQ",
    "cSIGN AAdAEdAIdAUdEdIdIEdIIdOEdOOdUdUAdUUdYdYAdYYaKHOJKI ABBREVIATION SIGNbDANDA",
    "bDOUBLE DANDAcSECTION MARKbLETTER AcAAcAIcAUcBAcBBAcBHAcCAcCHAcDAcDDAcDDDAcDDHAcDHAcEcGA",
    "cGGAcGHAcHAcIcJAcJJAcKAcKHAcLAcLLAcMAcNAcNGAcNNAcNYAcOcPAcPHAcRAcSAcTAcTHAcTTAcTTHAcUcVA",
    "cYAbSECTION MARKbSIGN ANUSVARAcNUKTAcSHADDAcSUKUNcVIRAMAbVOWEL SIGN AAdAIdAUdEdIdIIdOdU",
    "bWORD SEPARATORaKHUDAWADI DIGIT EIGHTcFIVEcFOURcNINEcONEcSEVENcSIXcTHREEcTWOcZERO",
    "bLETTER AcAAcAIcAUcBAcBBAcBHAcCAcCHAcDAcDDAcDDDAcDDHAcDHAcEcGAcGGAcGHAcHAcIcIIcJAcJHA",
    "cJJAcKAcKHAcLAcMAcNAcNGAcNNAcNYAcOcPAcPHAcRAcRRAcSAcSHAcTAcTHAcTTAcTTHAcUcUUcVAcYA",
    "bSIGN ANUSVARAcNUKTAcVIRAMAbVOWEL SIGN AAdAIdAUdEdIdIIdOdUdUUaKIMONOaKIP SIGNaKISSbMARK",
    "aKISSING CAT FACE WITH CLOSED EYESbFACEcWITH CLOSED EYESdSMILING EYESaKITEaKIWIFRUIT",
    "aKNEELING PERSONaKNOTaKOALAaKOREAN STANDARD SYMBOLaKRONOS"]

end CharacterName

end ElementBindings
