/-
  The names that start with C.  A small letter in front of a
  name says how many words it shares with the name before it,
  from a for none on; only its further words are written.

  Key definitions include:
    * `CharacterName.fromC`
-/

namespace ElementBindings

namespace CharacterName

------------------------------------------------------------
-- Names
------------------------------------------------------------

/- The names that start with C. -/
def fromC : List String := [
    "aCACTUSaCADA UNAaCADUCEUSaCALENDARaCALL ME HANDaCAMERAbWITH FLASHaCAMPINGaCAN",
    "aCANADIAN SYLLABICS AcAAcAAIcAAYcAIcAIVILIK BcANcATHAPASCAN MdScAYcBEAVER DENE LeR",
    "cBIBLE-CREE YcBLACKFOOT AdEdIdKAdKEdKIdKOdNAdNEdNIdNOdOdSdWdWAdWEdWIdWOcCcCAcCAAcCAAI",
    "cCARRIER CHAdCHEdCHEEdCHIdCHOdCHUdDEEdDENE GEEdDENTAL SdDIdDLAdDLEdDLEEdDLIdDLOdDLUdDZA",
    "dDZEdDZEEdDZIdDZOdDZUdEEdGAdGAAdGEdGEEdGHAdGHEdGHEEdGHIdGHOdGHUdGIdGOdGUdGWAdGWUdHdHEE",
    "dHIdHWAdHWEdHWEEdHWIdHWOdHWUdIdINITIAL ZdJAdJEdJEEdJIdJJAdJJEdJJEEdJJIdJJOdJJUdJOdJUdJWA",
    "dKHAdKHEdKHEEdKHIdKHOdKHUdKKdKKAdKKEdKKEEdKKIdKKOdKKUdLAdLEdLEEdLHAdLHEdLHEEdLHIdLHOdLHU",
    "dLIdLOdLUdMAdMEdMEEdMIdMOdMUdNAdNEdNEEdNGdNIdNOdNUdPdPAdPEdPEEdPIdPOdPUdRAdREdREEdRIdRO",
    "dRUdSAdSEdSEEdSHdSHAdSHEdSHEEdSHIdSHOdSHUdSIdSOdSUdTHAdTHEdTHEEdTHIdTHOdTHUdTLAdTLEdTLEE",
    "dTLHAdTLHEdTLHEEdTLHIdTLHOdTLHUdTLIdTLOdTLUdTSAdTSEdTSEEdTSIdTSOdTSUdTTAdTTEdTTEEdTTI",
    "dTTOdTTSAdTTSEdTTSEEdTTSIdTTSOdTTSUdTTUdWAdWEdWEEdWIdWOdWUdYAdYEdYEEdYIdYOdYUdZdZAdZE",
    "dZEEdZIdZOdZUcCEcCHI SIGNcCIcCIIcCOcCOOcCWAcCWAAcCWEcCWIcCWIIcCWOcCWOOcEcEASTERN WcENcF",
    "cFAcFAAcFAAIcFEcFIcFIIcFINAL ACUTEdBOTTOM HALF RINGdDOUBLE ACUTEeSHORT VERTICAL STROKES",
    "dDOWN TACKdGRAVEdMIDDLE DOTdPLUSdRAISED DOTdRIGHT HALF RINGdRINGdSHORT HORIZONTAL STROKE",
    "dSMALL RINGdTOP HALF RINGcFOcFOOcFULL STOPcFWAAcGLOTTAL STOPcHKcHYPHENcIcIIcINcKcKAcKAA",
    "cKAAIcKAYcKEcKIcKIIcKOcKOOcKWcKWAcKWAAcKWAYcKWEcKWIcKWIIcKWOcKWOOcLcLAcLAAcLAAIcLAYcLE",
    "cLHcLHAcLHAAcLHIcLHIIcLHOcLHOOcLIcLIIcLOcLOOcLWAcLWAAcLWEcLWIcLWIIcLWOcLWOOcMcMAcMAA",
    "cMAAIcMAYcMEcMEDIAL LdRcMHcMIcMIIcMOcMOOcMOOSE-CREE SKcMWAcMWAAcMWEcMWIcMWIIcMWOcMWOOcN",
    "cN-CREE THEdTHIdTHIIcNAcNAAcNAAIcNASKAPI CWAAdKWAAdMWAAdNWAAdS-WdSCWAdSKWdSKWAdSPWAdSTWA",
    "dSWAAdTWAAdWAAdWOOdYWAAcNATTILIK HAdHAAdHIdHIIdHOdHOOdSHRAdSHRAAdSHRIdSHRIIdSHROdSHROO",
    "cNAYcNEcNGcNGAcNGAAcNGAAIcNGAIcNGIcNGIIcNGOcNGOOcNHcNIcNIIcNNGcNNGAcNNGAAcNNGIcNNGII",
    "cNNGOcNNGOOcNOcNOOcNOYcNUNAVIK HdHAdHAAdHEdHIdHIIdHOdHOOcNUNAVUT HcNWAcNWAAcNWEcNWIcNWII",
    "cNWOcNWOOcOcOJIBWAY CdKdMdNdNWIdNWIIdNWOdNWOOdPdSdSHdTcONcOOcOYcPcPAcPAAcPAAIcPAYcPEcPI",
    "cPIIcPOcPOOcPOYcPWAcPWAAcPWEcPWIcPWIIcPWOcPWOOcPWOYcQcQAcQAAcQAAIcQAIcQIcQIIcQOcQOOcR",
    "cR-CREE REdRWEcRAcRAAcRAAIcRAYcREcRIcRIIcROcROOcRWAcRWAAcRWEEcRWIcRWIIcRWOcRWOOcScSAcSAA",
    "cSAAIcSAYcSAYISI HAdHEdHIdHOdHOOdJIdJUdJUUdMdSHAdSHEdSHIdSHOdSHOOdSHWEdTHdYIcSEcSHcSHA",
    "cSHAAcSHAYcSHEcSHIcSHIIcSHOcSHOOcSHOYcSHWAcSHWAAcSHWEcSHWIcSHWIIcSHWOcSHWOOcSHWOYcSIcSII",
    "cSOcSOOcSOUTH-SLAVEY KAHdKEHdKIHdKOHcSOYcSPAcSPEcSPIcSPOcSWcSWAcSWAAcSWEcSWIcSWIIcSWO",
    "cSWOOcTcTAcTAAcTAAIcTAYcTEcTHcTH-CREE THdTHAdTHAAdTHEdTHIdTHIIdTHOdTHOOcTHAcTHAAcTHEcTHI",
    "cTHIIcTHOcTHOOcTHWAcTHWAAcTHWEcTIcTIIcTLHAcTLHEcTLHIcTLHOcTLHOOcTLHWEcTOcTOOcTTAcTTEcTTH",
    "cTTHAcTTHAAcTTHEcTTHIcTTHOcTTHOOcTTHWEcTTIcTTOcTWAcTWAAcTWEcTWIcTWIIcTWOcTWOOcTYAcTYE",
    "cTYIcTYOcWAcWAAcWAYcWEcWEST-CREE CWAdCWAAdCWEdCWIdCWIIdCWOdCWOOdFWAAdKWAdKWAAdKWEdKWI",
    "dKWIIdKWOdKWOOdLdLAdLAAdLEdLOdLOOdLWAdLWAAdLWEdLWIdLWIIdLWOdLWOOdMdMWAdMWAAdMWEdMWIdMWII",
    "dMWOdMWOOdNWAdNWAAdNWEdPdPWAdPWAAdPWEdPWIdPWIIdPWOdPWOOdRdRAdREdRIdROdRWAAdSHWAdSHWAA",
    "dSHWEdSHWIdSHWIIdSHWOdSHWOOdSWAdSWAAdSWEdSWIdSWIIdSWOdSWOOdTHWAAdTWAdTWAAdTWEdTWIdTWII",
    "dTWOdTWOOdWAdWAAdWEdWIdWIIdWOdWOOdYdYWAdYWAAdYWEdYWIdYWIIdYWOdYWOOcWESTERN WcWIcWIIcWO",
    "cWOOcWOODS-CREE FINAL THdTHdTHAdTHEdTHIdTHOdTHWAdTHWAAdTHWEEdTHWIdTHWIIdTHWOdTHWOOcY",
    "cY-CREE COOdKOOdLOOdMOOdNOOdOOdPOOdPWAAdSOOdTOOdWdYOOcYAcYAAcYAAIcYAYcYEcYIcYIIcYOcYOO",
    "cYOYcYWAcYWAAcYWEcYWIcYWIIcYWOcYWOOaCANCELbCHARACTERbTAGaCANCELLATION XaCANCERaCANDLE",
    "aCANDYaCANNED FOODaCANOEaCAPITULUMaCAPRICORNaCAR SLIDINGaCARD FILE BOXbINDEXcDIVIDERS",
    "aCARE OFaCARETbINSERTION POINTaCARIAN LETTER AcA2cBcC-18cC-39cDcD2cEcE2cGcG2cIcIIcKcK2cL",
    "cLDcLD2cMcMBcMB2cMB3cMB4cNcNDcNGcNNcOcPcP2cQcRcRRcScSHcSH2cSScSTcST2cTcTTcTT2cUcUUcUUU",
    "cUUU2cUUU3cUUUUcXaCARONaCAROUSEL HORSEaCARP STREAMERaCARPENTRY SAWaCARRIAGE RETURN",
    "aCARROTaCASTLEaCATbFACEcWITH TEARS OF JOYdWRY SMILEaCAUCASIAN ALBANIAN CITATION MARK",
    "cLETTER ALTdAORdBETdCARdCAYNdCHAdCHATdCHIdCHOYdCYAWdCYAYdDATdDYANdDZAYdDZYAYdEBdEYNdFAM",
    "dGHEYSdGIMdHEYTdINYAdIRBdIWNdJAYNdJHOXdKARdKIWdLANdLYITdMAQdNOWCdONdPENdPIWRdQARdQAYdRAT",
    "dSEYKdSHAdSHAKdSHOYdTASdTIWRdTYAYdVEYZdXEYNdYAYDdYOWDdZARLdZHAdZHILaCAUTION SIGNaCCH",
    "aCEDI SIGNaCEDILLAaCELTIC CROSSaCENT SIGNaCENTRE LINE SYMBOLaCENTRELINE LOW LINE",
    "bOVERLINEaCERESaCGJaCHAINSaCHAIRaCHAKMA AU MARKbDANDAbDIGIT EIGHTcFIVEcFOURcNINEcONE",
    "cSEVENcSIXcTHREEcTWOcZERObDOUBLE DANDAbLETTER AAcBAAcBHAAcCAAcCHAAcDAAcDDAAcDDHAAcDHAAcE",
    "cGAAcGHAAcHAAcIcJAAcJHAAcKAAcKHAAcLAAcLHAAcMAAcNAAcNGAAcNNAAcNYAAcPAAcPHAAcRAAcSAAcTAA",
    "cTHAAcTTAAcTTHAAcUcVAAcWAAcYAAcYYAAbMAAYYAAbO MARKbQUESTION MARKbSECTION MARK",
    "bSIGN ANUSVARAcCANDRABINDUcVISARGAbVIRAMAbVOWEL SIGN AdAAdAIdAUdEdEIdIdIIdOdOIdUdUU",
    "aCHAM CONSONANT SIGN FINAL HeMeNGdLAdRAdWAdYAbDIGIT EIGHTcFIVEcFOURcNINEcONEcSEVENcSIX",
    "cTHREEcTWOcZERObLETTER AcAIcBAcBBAcBHAcCHAcCHHAcDAcDDAcDHAcEcFINAL CHdGdKdLdNdNGdPdRdSS",
    "dTdYcGAcGHAcHAcIcJAcJHAcKAcKHAcLAcMAcMUEcNAcNGAcNGUEcNHAcNHJAcNHUEcNUEcOcPAcPHAcPPAcRA",
    "cSAcSSAcTAcTHAcUcVAcYAbPUNCTUATION DANDAcDOUBLE DANDAcSPIRALcTRIPLE DANDAbVOWEL SIGN AA",
    "dAIdAUdEIdIdIIdOdOEdUdUEaCHARACTER TABULATIONcSETcWITH JUSTIFICATIONbTIE",
    "aCHART WITH DOWNWARDS TRENDcUPWARDS TRENDeAND YEN SIGNaCHECK MARKaCHECKER BOARDcFILL",
    "aCHEERING MEGAPHONEaCHEESE WEDGEaCHEQUERED FLAGaCHEROKEE LETTER AcDAcDEcDIcDLAcDOcDUcDV",
    "cEcGAcGEcGIcGOcGUcGVcHAcHEcHIcHNAcHOcHUcHVcIcKAcLAcLEcLIcLOcLUcLVcMAcMEcMIcMOcMUcMVcNA",
    "cNAHcNEcNIcNOcNUcNVcOcQUAcQUEcQUIcQUOcQUUcQUVcScSAcSEcSIcSOcSUcSVcTAcTEcTIcTLAcTLEcTLI",
    "cTLOcTLUcTLVcTSAcTSEcTSIcTSOcTSUcTSVcUcVcWAcWEcWIcWOcWUcWVcYAcYEcYIcYOcYUcYV",
    "bSMALL LETTER AdDAdDEdDIdDLAdDOdDUdDVdEdGAdGEdGIdGOdGUdGVdHAdHEdHIdHNAdHOdHUdHVdIdKAdLA",
    "dLEdLIdLOdLUdLVdMAdMEdMIdMOdMUdMVdNAdNAHdNEdNIdNOdNUdNVdOdQUAdQUEdQUIdQUOdQUUdQUVdSdSA",
    "dSEdSIdSOdSUdSVdTAdTEdTIdTLAdTLEdTLIdTLOdTLUdTLVdTSAdTSEdTSIdTSOdTSUdTSVdUdVdWAdWEdWIdWO",
    "dWUdWVdYAdYEdYIdYOdYUdYVaCHERRIESaCHERRY BLOSSOMaCHESTNUTaCHI RHOaCHICKENaCHILD",
    "aCHILDREN CROSSINGaCHIPMUNKaCHIRONaCHOCOLATE BARaCHOPSTICKSaCHORASMIAN LETTER ALEPHcAYIN",
    "cBETHcCURLED WAWcDALETHcGIMELcHEcHETHcKAPHcLAMEDHcMEMcNUNcPEcRESHcSAMEKHcSHIN",
    "cSMALL ALEPHcTAWcWAWcYODHcZAYINbNUMBER FOURcONEdHUNDREDcTENcTHREEcTWENTYcTWO",
    "aCHRISTMAS TREEaCHURCHaCINEMA",
    "aCIRCLE DIVIDED BY HORIZONTAL BAR AND TOP HALF DIVIDED BY VERTICAL BAR",
    "bWITH ALL BUT UPPER LEFT QUADRANT BLACKcHORIZONTAL BARcLEFT HALF BLACKcLOWER HALF BLACK",
    "cRIGHT HALF BLACKcSMALL CIRCLE TO THE RIGHTcSUPERIMPOSED X",
    "cTWO HORIZONTAL STROKES TO THE RIGHTcUPPER HALF BLACKdRIGHT QUADRANT BLACKcVERTICAL FILL",
    "aCIRCLED ANTICLOCKWISE ARROWbANTICLOCKWISE-ROTATED DIVISION SIGNbASTERISK OPERATOR",
    "bBOLD XbBULLETbC WITH OVERLAID BACKSLASHbCCbCDbCROSS FORMEEdWITH FOUR DOTSeTWO DOTS",
    "cPOMMEEbCROSSING LANESbDASHbDIGIT EIGHTcFIVEcFOURcNINEcONEcSEVENcSIXcTHREEcTWOcZERO",
    "bDIVISION SIGNcSLASHbDOLLAR SIGN WITH OVERLAID BACKSLASHbDOT OPERATORbEQUALS",
    "bGREATER-THANbHANGUL CHIEUCHdAcCIEUCdAcHIEUHdAcIEUNGdAdUcKHIEUKHdAcKIYEOKdAcMIEUMdA",
    "cNIEUNdAcPHIEUPHdAcPIEUPdAcRIEULdAcSIOSdAcTHIEUTHdAcTIKEUTdA",
    "bHEAVY WHITE RIGHTWARDS ARROWbHORIZONTAL BAR WITH NOTCHbHUMAN FIGUREbIDEOGRAPH ACCEPT",
    "cADVANTAGEcALLIANCEcATTENTIONcCENTREcCONGRATULATIONcCOPYcCORRECTcEARTHcEIGHTcENTERPRISE",
    "cEXCELLENTcFEMALEcFINANCIALcFIREcFIVEcFOURcHAVEcHIGHcITEMcKINDERGARTENcKOTOcLABORcLEFT",
    "cLOWcMALEcMEDICINEcMETALcMOONcNAMEcNIGHTcNINEcONEcPRINTcQUESTIONcRELIGIONcRESOURCEcREST",
    "cRIGHTcSCHOOLcSECRETcSEVENcSIXcSOCIETYcSPECIALcSTOCKcSTUDYcSUITABLEcSUNcSUPERVISEcTEN",
    "cTHREEcTWOcWATERcWOODbINFORMATION SOURCEbITALIC LATIN CAPITAL LETTER CfRbKATAKANA AcEcHA",
    "cHEcHIcHOcHUcIcKAcKEcKIcKOcKUcMAcMEcMIcMOcMUcNAcNEcNIcNOcNUcOcRAcREcRIcROcRUcSAcSEcSIcSO",
    "cSUcTAcTEcTIcTOcTUcUcWAcWEcWIcWOcYAcYOcYUbKOREAN CHARACTER CHAMKOdJUEUI",
    "bLATIN CAPITAL LETTER AeBeCeDeEeFeGeHeIeJeKeLeMeNeOePeQeReSeTeUeVeWeXeYeZcSMALL LETTER A",
    "eBeCeDeEeFeGeHeIeJeKeLeMeNeOePeQeReSeTeUeVeWeXeYeZbLESS-THANbMINUS",
    "bMULTIPLICATION SIGN WITH CIRCUMFLEX ACCENTbNUMBER EIGHTEENcEIGHTY ON BLACK SQUARE",
    "cELEVENcFIFTEENcFIFTYdON BLACK SQUAREcFORTYdEIGHTdFIVEdFOURdNINEdON BLACK SQUAREdONE",
    "dSEVENdSIXdTHREEdTWOcFOURTEENcNINETEENcSEVENTEENcSEVENTY ON BLACK SQUAREcSIXTEEN",
    "cSIXTY ON BLACK SQUAREcTENdON BLACK SQUAREcTHIRTEENcTHIRTYdEIGHTdFIVEdFOURdNINE",
    "dON BLACK SQUAREdONEdSEVENdSIXdTHREEdTWOcTWELVEcTWENTYdEIGHTdFIVEdFOURdNINE",
    "dON BLACK SQUAREdONEdSEVENdSIXdTHREEdTWObOPEN CENTRE EIGHT POINTED STARbPARALLEL",
    "bPERPENDICULARbPLUSbPOSTAL MARKbREVERSE SOLIDUSbRING OPERATORbSQUAREbTIMESbTRIANGLEcDOWN",
    "bVERTICAL BARbWHITE BULLETcSTARbWZbXbZERO WITH SLASHaCIRCULATION FUNCTION",
    "aCIRCUMFLEX ACCENTaCIRCUS TENTaCITYSCAPEbAT DUSKaCJK RADICAL BAMBOOcBLUEcBOLT OF CLOTH",
    "cBONEcBOXcBRUSH ONEdTWOcC-SIMPLIFIED BIRDdCARTdDRAGONdEATdEVENdFISHdFLYdFROGdGATEdGOLD",
    "dHORSEdLEAFdLONGdSALTdSEEdSHELLdSILKdSPEECHdTANNED LEATHERdTOOTHdTURTLEdWINDcCHOKEcCITY",
    "cCIVILIANcCLIFFcCLOTHEScCOWcDEATHcDIVINATIONcDOGcEAT ONEdTHREEdTWOcEWEcEYEcFIREcFOOT",
    "cGHOSTcGRASS ONEdTHREEdTWOcHANDcHEADcHEART ONEdTWOcHORNcJ-SIMPLIFIED DRAGONdEVENdTOOTH",
    "dTURTLEcJADEcKNIFE ONEdTWOcLAME FOURdONEdTHREEdTWOcLONG ONEdTWOcMEATcMESHcMOONcMORTAR",
    "cMOTHERcMOUND ONEdTWOcNET FOURdONEdTHREEdTWOcOLDcPAW ONEdTWOcPERSONcRAINcRAMcRAPcREPEAT",
    "cSEALcSECOND ONEdTHREEdTWOcSHEEPcSILKcSIMPLIFIED HALF TREE TRUNKdHORNdWALKdWHEATdYELLOW",
    "cSMALL ONEdTWOcSNAKEcSNOUT ONEdTWOcSPIRIT ONEdTWOcSUNcTABLEcTHREADcTIGERcTURTLEcWALK ONE",
    "dTWOcWATER ONEdTWOcWEST ONEdTWObSTROKE BXGcDcHcHGcHPcHPWGcHXWGcHZcHZGcHZTcHZWcHZWGcHZZ",
    "cHZZPcHZZZcHZZZGcNcPcPDcPGcPZcQcScSGcSPcSTcSWcSWGcSWZcSZcSZWGcSZZcTcTNcWGcXG",
    "aCLAMSHELL MOBILE PHONEaCLAPPER BOARDaCLAPPING HANDS SIGNaCLASSICAL BUILDING",
    "aCLEAR SCREEN SYMBOLaCLINKING BEER MUGSbGLASSESaCLIPBOARDaCLOCK FACE EIGHT OCLOCK",
    "cEIGHT-THIRTYcELEVEN OCLOCKcELEVEN-THIRTYcFIVE OCLOCKcFIVE-THIRTYcFOUR OCLOCK",
    "cFOUR-THIRTYcNINE OCLOCKcNINE-THIRTYcONE OCLOCKcONE-THIRTYcSEVEN OCLOCKcSEVEN-THIRTY",
    "cSIX OCLOCKcSIX-THIRTYcTEN OCLOCKcTEN-THIRTYcTHREE OCLOCKcTHREE-THIRTYcTWELVE OCLOCK",
    "cTWELVE-THIRTYcTWO OCLOCKcTWO-THIRTYaCLOCKWISE CLOSED CIRCLE ARROWbCONTOUR INTEGRAL",
    "bDOWNWARDS AND UPWARDS OPEN CIRCLE ARROWSbGAPPED CIRCLE ARROWbINTEGRALbOPEN CIRCLE ARROW",
    "bRIGHT AND LEFT SEMICIRCLE ARROWSbRIGHTWARDS AND LEFTWARDS OPEN CIRCLE ARROWS",
    "hWITH CIRCLED ONE OVERLAYbTOP SEMICIRCLE ARROWbTRIANGLE-HEADED OPEN CIRCLE ARROW",
    "aCLOSE UPaCLOSED BOOKbINTERSECTION WITH SERIFSbLOCK WITH KEYbMAILBOX WITH LOWERED FLAG",
    "dRAISED FLAGbSUBSETcOR EQUAL TObSUPERSETcOR EQUAL TObUMBRELLAbUNION WITH SERIFS",
    "eAND SMASH PRODUCTaCLOUDbWITH LIGHTNINGcRAINcSNOWcTORNADOaCLOWN FACEaCOATaCOCKROACH",
    "aCOCKTAIL GLASSaCOCONUTaCOFFINaCOINaCOLLISION SYMBOLaCOLONbEQUALSbSIGN",
    "aCOMBINING ACUTE ACCENTdBELOWcTONE MARKbACUTE-GRAVE-ACUTEbACUTE-MACRON",
    "bALMOST EQUAL TO ABOVEeBELOWbANNUITY SYMBOLbANTICLOCKWISE ARROW ABOVEcRING OVERLAY",
    "bASTERISK ABOVEcBELOWbBINDU BELOWbBREVEcBELOWbBREVE-MACRONbBRIDGE ABOVEcBELOW",
    "bCANDRABINDUbCARONcBELOWbCEDILLAbCIRCUMFLEX ACCENTdBELOWbCLOCKWISE ARROW ABOVE",
    "cRING OVERLAYbCOMMA ABOVEdRIGHTcBELOWbCONJOINING MACRONdBELOWbCYRILLIC DASIA PNEUMATA",
    "cHUNDRED MILLIONS SIGNdTHOUSANDS SIGNcKAVYKAcLETTER AdBEdBIG YUSdCHEdDEdDJERVdEFdELdEM",
    "dENdERdESdES-TEdFITAdGHEdHAdHARD SIGNdIdIEdIOTIFIED AeBIG YUSeEdKAdLITTLE YUS",
    "dMONOGRAPH UKdOdOMEGAdPEdSHAdSHCHAdSOFT SIGNdTEdTSEdUdUKRAINIAN IEdVEdYATdYERUdYIdYUdZE",
    "dZHEcMILLIONS SIGNcPALATALIZATIONcPAYEROKcPOKRYTIEcPSILI PNEUMATAcTEN MILLIONS SIGN",
    "cTHOUSAND MILLIONS SIGNcTITLOdLEFT HALFdRIGHT HALFcVZMETbDELETION MARK",
    "bDEVANAGARI DIGIT EIGHTdFIVEdFOURdNINEdONEdSEVENdSIXdTHREEdTWOdZEROcLETTER AdKAdNAdPAdRA",
    "dUdVIcSIGN AVAGRAHAbDIAERESIScBELOWbDIAERESIS-RINGbDOT ABOVEdLEFTdRIGHTcBELOWdLEFT",
    "bDOTTED ACUTE ACCENTcGRAVE ACCENTbDOUBLE ACUTE ACCENTcBREVEdBELOWcCIRCUMFLEX ABOVE",
    "cGRAVE ACCENTcINVERTED BREVEeBELOWcLOW LINEcMACRONdBELOWcOPEN MARK BELOWcOVERLINE",
    "cPARENTHESES ABOVEcPLUS SIGN ABOVEeBELOWcRIGHTWARDS ARROW BELOWcRING BELOWcTILDE",
    "dLEFT HALFdRIGHT HALFcVERTICAL LINE ABOVEeBELOWdSTROKE OVERLAYbDOUBLED CIRCUMFLEX ACCENT",
    "bDOWN TACK BELOWbDOWNWARDS ARROWbENCLOSING CIRCLEdBACKSLASHcDIAMONDcKEYCAPcSCREENcSQUARE",
    "cUPWARD POINTING TRIANGLEbEQUALS SIGN BELOWbFERMATAbFOUR DOTS ABOVE",
    "bGLAGOLITIC LETTER AZUdBIG YUSdBUKYdCHRIVIdDJERVIdDOBROdFITAdFRITUdGLAGOLIdHERUdI",
    "dINITIAL IZHEdIOTATED BIG YUSeSMALL YUSdIZHEdKAKOdLJUDIJEdMYSLITEdNASHIdONUdPOKOJIdRITSI",
    "dSHAdSHTAdSLOVOdSMALL YUSdTSIdTVRIDOdUKUdVEDEdYATIdYERIdYERUdYESTUdYOdYUdZEMLJAdZHIVETE",
    "bGRANTHA DIGIT FIVEdFOURdONEdSIXdTHREEdTWOdZEROcLETTER AdKAdNAdPAdVIbGRAPHEME JOINER",
    "bGRAVE ACCENTdBELOWcTONE MARKbGRAVE-ACUTE-GRAVEbGRAVE-MACRONbGREEK DIALYTIKA TONOS",
    "cKORONIScMUSICAL PENTASEMEdTETRASEMEdTRISEMEcPERISPOMENIcYPOGEGRAMMENIbHOMOTHETIC ABOVE",
    "bHOOK ABOVEbHORNbINFINITYbINVERTED BREVEdBELOWcBRIDGE BELOWcDOUBLE ARCH ABOVEeBELOW",
    "bIS BELOWbKATAKANA-HIRAGANA SEMI-VOICED SOUND MARKcVOICED SOUND MARKbKAVYKA ABOVE LEFT",
    "dRIGHTbLATIN LETTER SMALL CAPITAL GfLfMfNfRcSMALL LETTER AfWITH DIAERESISeAEeALPHAeAOeAV",
    "eBeBETAeCfCEDILLAeDeEeESHeETHeFeFLATTENED OPEN A ABOVEeGeHeIeINSULAR DfGfRfTeKeL",
    "fWITH DOUBLE MIDDLE TILDEeLONG SeMeNeOfWITH DIAERESISgLIGHT CENTRALIZATION STROKEePeR",
    "fBELOWfROTUNDAeSeSCHWAeTeTURNED W BELOWeUfWITH DIAERESISgLIGHT CENTRALIZATION STROKEeVeW",
    "fBELOWeXeZbLEFT ANGLE ABOVEdBELOWcARROW ABOVEdBELOWcARROWHEAD ABOVEdBELOW",
    "cHALF RING ABOVEeBELOWcHARPOON ABOVEcPARENTHESIS ABOVE LEFTdBELOW LEFTcRIGHT ARROW ABOVE",
    "eBELOWcTACK BELOWbLEFTWARDS ARROW OVERLAYcHARPOON WITH BARB DOWNWARDSbLIGATURE LEFT HALF",
    "eBELOWcRIGHT HALFeBELOWbLIGHT CENTRALIZATION STROKE BELOWbLONG DOUBLE SOLIDUS OVERLAY",
    "cSOLIDUS OVERLAYcSTROKE OVERLAYcVERTICAL LINE OVERLAYbLOW LINEbMACRONcBELOWcLEFT HALF",
    "eBELOWcRIGHT HALFeBELOWbMACRON-ACUTEbMACRON-BREVEbMACRON-GRAVEbMINUS SIGN BELOW",
    "bNOT TILDE ABOVEbNUMBER SIGN ABOVEbOGONEKcABOVEbOLD PERMIC LETTER ANeDOIeNENOEeSIIeZATA",
    "bOPEN MARK BELOWbOVERLINEbPALATALIZED HOOK BELOWbPARENTHESES ABOVEcBELOWcOVERLAY",
    "bPLUS SIGN ABOVEdBELOWbRETROFLEX HOOK BELOWbREVERSE SOLIDUS OVERLAYbREVERSED COMMA ABOVE",
    "bRIGHT ARROW ABOVEdBELOWcARROWHEAD ABOVEdAND DOWN ARROWHEAD BELOWeUP ARROWHEAD BELOW",
    "dBELOWcHALF RING ABOVEeBELOWcHARPOON ABOVEcPARENTHESIS ABOVE RIGHTdBELOW RIGHT",
    "cTACK BELOWbRIGHTWARDS HARPOON WITH BARB DOWNWARDSbRING ABOVEcBELOWcOVERLAY",
    "bSEAGULL BELOWbSHORT SOLIDUS OVERLAYcSTROKE OVERLAYcVERTICAL LINE OVERLAYbSNAKE BELOW",
    "bSQUARE BELOWcBRACKETS ABOVEbSTRONG CENTRALIZATION STROKE BELOWbSUSPENSION MARK",
    "bTHREE DOTS ABOVEbTILDEcBELOWcLEFT HALF BELOWcOVERLAYcRIGHT HALF BELOW",
    "bTRIPLE ACUTE ACCENTcDOTcUNDERDOTbTURNED COMMA ABOVEbUP TACK ABOVEdBELOW",
    "bUPWARDS ARROW BELOWbUR ABOVEbUS ABOVEbVERTICAL LINE ABOVEdBELOWcTILDEbWIDE BRIDGE ABOVE",
    "cINVERTED BRIDGE BELOWbWIGGLY LINE BELOWbX ABOVEcBELOWbX-X BELOWbZIGZAG ABOVEcBELOW",
    "aCOMETaCOMMAaCOMMERCIAL ATbMINUS SIGNaCOMPASSaCOMPLEMENTaCOMPOSITION SYMBOLaCOMPRESSION",
    "aCONFETTI BALLaCONFOUNDED FACEaCONFUSED FACEaCONGRUENT WITH DOT ABOVEaCONICAL TAPER",
    "aCONJUNCTIONaCONSTRUCTION SIGNbWORKERaCONTAINS AS MEMBERcNORMAL SUBGROUPeOR EQUAL TO",
    "bWITH LONG HORIZONTAL STROKEcOVERBARcVERTICAL BAR AT END OF HORIZONTAL STROKE",
    "aCONTINUOUS UNDERLINE SYMBOLaCONTOUR INTEGRALaCONTROL KNOBSbSEQUENCE INTRODUCER",
    "aCONVENIENCE STOREaCOOKED RICEaCOOKIEaCOOKINGaCOPTIC CAPITAL LETTER AKHMIMIC KHEIdALFA",
    "dBOHAIRIC KHEIdCROSSED SHEIdCRYPTOGRAMMIC EIEeGANGIAeNIeSHEIdDALDAdDEIdDIALECT-P ALEF",
    "eHORIeKAPAeNIdEIEdFEIdFIdGAMMAdGANGIAdHATEdHORIdIAUDAdKAPAdKHEIdKHIdKSIdL-SHAPED HA",
    "dLAULAdMIdNIdOdOLD COPTIC AINfDJAfESHfGANGIAfHAfHATfHEIfHORIfOOUfSHEIfSHIMAeNUBIAN NGI",
    "fNYIfSHIMAfWAUdOOUdPIdPSIdROdSAMPIdSHEIdSHIMAdSIMAdSOUdTAUdTHETHEdUAdVIDAdZATA",
    "bCOMBINING NI ABOVEcSPIRITUS ASPERdLENISbEPACT DIGIT EIGHTdFIVEdFOURdNINEdONEdSEVENdSIX",
    "dTHREEdTWOcNUMBER EIGHT HUNDREDdEIGHTYdFIFTYdFIVE HUNDREDdFORTYdFOUR HUNDRED",
    "dNINE HUNDREDdNINETYdONE HUNDREDdSEVEN HUNDREDdSEVENTYdSIX HUNDREDdSIXTYdTENdTHIRTY",
    "dTHREE HUNDREDdTWENTYdTWO HUNDREDcTHOUSANDS MARKbFRACTION ONE HALFbFULL STOP",
    "bMORPHOLOGICAL DIVIDERbOLD NUBIAN DIRECT QUESTION MARKdFULL STOPdINDIRECT QUESTION MARK",
    "dVERSE DIVIDERbSMALL LETTER AKHMIMIC KHEIdALFAdBOHAIRIC KHEIdCROSSED SHEI",
    "dCRYPTOGRAMMIC EIEeGANGIAeNIeSHEIdDALDAdDEIdDIALECT-P ALEFeHORIeKAPAeNIdEIEdFEIdFIdGAMMA",
    "dGANGIAdHATEdHORIdIAUDAdKAPAdKHEIdKHIdKSIdL-SHAPED HAdLAULAdMIdNIdOdOLD COPTIC AINfDJA",
    "fESHfGANGIAfHAfHATfHEIfHORIfOOUfSHEIfSHIMAeNUBIAN NGIfNYIfSHIMAfWAUdOOUdPIdPSIdROdSAMPI",
    "dSHEIdSHIMAdSIMAdSOUdTAUdTHETHEdUAdVIDAdZATAbSYMBOL KAIcKHI ROcMI ROcPI ROcSHIMA SIMA",
    "cSTAUROScTAU ROaCOPYLEFT SYMBOLaCOPYRIGHT SIGNaCORALaCORNISH VERSE DIVIDER",
    "aCORRESPONDS TOaCOUCH AND LAMPaCOUNTERBOREaCOUNTERSINKaCOUNTING ROD TENS DIGIT EIGHT",
    "eFIVEeFOUReNINEeONEeSEVENeSIXeTHREEeTWOcUNIT DIGIT EIGHTeFIVEeFOUReNINEeONEeSEVENeSIX",
    "eTHREEeTWOaCOUPLE WITH HEARTaCOWbFACEaCRaCRABaCREDIT CARDaCRESCENT MOONaCRICKET",
    "bBAT AND BALLaCROCODILEaCROISSANTaCROSS MARKbOF JERUSALEMcLORRAINE",
    "bPATTY WITH LEFT CROSSBARdRIGHT CROSSBARbPOMMEEcWITH HALF-CIRCLE BELOWaCROSSED FLAGS",
    "bNEGATIVE SQUARED LATIN CAPITAL LETTER PbSWORDSaCROSSING LANESaCROWNaCRUTCH",
    "aCRUZEIRO SIGNaCRYING CAT FACEbFACEaCRYSTAL BALLaCSIaCUBE ROOTaCUCUMBER",
    "aCUNEIFORM NUMERIC SIGN EIGHT ASHeDISHeGESH2eSHAR2eUfVARIANT FORMeVARIANT FORM USSU",
    "gUSSU3dELAMITE FIFTYeFORTYeONE THIRDeTWO THIRDSdFIVE ASHfTENUeBAN2fVARIANT FORMeBURU",
    "eDISHeGESH2eGESHUeSHAR2eSHARUeSIXTHS DISHeUfVARIANT FORMdFOUR ASHfTENUeBAN2fVARIANT FORM",
    "eBURUeDISHeGESH2eGESHUeSHAR2eSHARUeUfVARIANT FORMeVARIANT FORM LIMMUhAhBgLIMMU4",
    "dNIGIDAESHdNIGIDAMINdNINE ASHeDISHeGESH2eSHAR2eUfVARIANT FORMeVARIANT FORM ILIMMUhA",
    "gILIMMU3gILIMMU4dOLD ASSYRIAN ONE QUARTERgSIXTHdONE BAN2eBURUeEIGHTH ASHeESHE3eGESH2",
    "eGESHUeHALF GUReQUARTER ASHfGUReSHARUeTHIRD DISHfVARIANT FORM AdSEVEN ASHeDISHeGESH2",
    "eSHAR2eUfVARIANT FORMeVARIANT FORM IMIN AhBgIMIN3dSHAR2 TIMES GAL PLUS DISHhMINdSIX ASH",
    "fTENUeDISHeGESH2eSHAR2eUfVARIANT FORMeVARIANT FORM ASH9dTHREE ASHfTENUeBAN2eBURU",
    "fVARIANT FORMeDISHeGESH2eGESHUeSHAR2fVARIANT FORMeSHARUfVARIANT FORMeVARIANT FORM ESH16",
    "gESH21dTWO ASHfTENUeBAN2eBURUeESHE3eGESH2eGESHUeSHAR2eSHARUeTHIRDS DISHfVARIANT FORM A",
    "bPUNCTUATION SIGN DIAGONAL COLONeQUADCOLONeTRICOLONdOLD ASSYRIAN WORD DIVIDER",
    "dVERTICAL COLONbSIGN AdTIMES AeBADeGAN2 TENUeHAeIGIeLAGAR GUNUeMUSHeSAGcA2cABdGUNU",
    "dTIMES ASH2eDUN3 GUNUeGALeGAN2 TENUeHAeIGI GUNUeIMINeLAGABeNUNfTENUeSHESHeSHU2",
    "eU PLUS U PLUS UcAB2dTIMES AeBALAGeGAN2 TENUeME PLUS ENeSHA3eTAK4cADdTIMES ESH2cAK",
    "dTIMES ERIN2eSHITA PLUS GISHcALdTIMES ALeDIM2eGISHeHAeKAD3eKIeSHEeUSHcALANcALEPHcAMAR",
    "dTIMES KUGeSHEcANdOVER ANdPLUS NAGA OPPOSING AN PLUS NAGAfSQUAREDdTHREE TIMEScANSHEcAPIN",
    "cARADdTIMES KURcARKABcASAL2cASHdKABA TENUdOVER ASH OVER ASH",
    "hCROSSING ASH OVER ASH OVER ASHfTUG2 OVER TUG2 TUG2 OVER TUG2 PAPdZIDA TENUcASH2cASHGAB",
    "cBAcBADdTIMES DISH TENUcBAG3cBAHAR2dTIMES AB2eNIeZAcBALdOVER BALcBALAGcBARcBARA2cBI",
    "dTIMES AeGAReIGI GUNUcBUdCROSSING BUdOVER BU ABfTIMES NA2fUNcBULUGdOVER BULUGcBURcBUR2",
    "cDAdTIMES TAK4cDAGdKISIM5 TIMES A PLUS MASHfAMARfBALAGfBIfGAgPLUS MASHfGIfGIR2fGUDfHAfIR",
    "gPLUS LUfKAKfLAfLUgPLUS MASH2fLUMfNEfPAP PLUS PAPfSIfTAK4fU2 PLUS GIR2hMASHfUSH",
    "dTIMES KURcDAG3cDAMcDARcDARA3cDARA4cDIcDIBcDIMdTIMES IGIeSHEeU U UcDIM2dTIMES UDcDIN",
    "dKASKAL U GUNU DISHcDISHdPLUS SHUcDUdGUNUdOVER DUdSHESHIGcDUBdTIMES ESH2eSHEcDUB2cDUG",
    "dTIMES ANSHEeASHfAT LEFTeDINeDUNeERIN2eGAeGIeGIR2 GUNUeGISHeHAeHIeIGI GUNUeKASKALeKUR",
    "eKUSHU2fPLUS KASKALeLAK-020eLAMfTIMES KUReLUH PLUS GISHeMASHeMESeMIeNIePIeSHEeSI GUNU",
    "cDUGUDcDUHcDUNcDUN3dGUNUeGUNUcDUN4cDUR2cEdOVER E NUN OVER NUNdTIMES PAPcE2",
    "dTIMES A PLUS HA PLUS DAeGAReKUReMIePAPeSALeSHEeUcEDINcEGIRcELcENdCROSSING EN",
    "dOPPOSING ENdSQUAREDdTIMES GAN2fTENUeMEcERENcERIN2dXcESH2dCROSSING ESH2cEZEN",
    "dSHESHIG TIMES ASHfHIfIGI GUNUfLAfLALfMEfMESfSUdTIMES AfPLUS LALhTIMES LALeANeBAD",
    "eDUN3 GUNUgGUNUeGUDeHAfGUNUeIGI GUNUeKASKALfSQUAREDeKU3eLAeLAL TIMES LALeLIeLUeSHEeSUeU2",
    "eUDcGAdGUNUcGA2dOVER GA2dTIMES A PLUS DA PLUS HAgHAgIGIeAB2 TENU PLUS TABeAN",
    "fPLUS KAK PLUS AeASHeASH2fPLUS GALeBADeBAHAR2eBAR PLUS RAeBURfPLUS RAeDAeDIeDIM GUNU",
    "fTIMES SHEeDUBeDUG TIMES IGI GUNUgKASKALeELfPLUS LAeENfTIMES GAN2 TENUeERENeGAeGAN2 TENU",
    "eGARfPLUS DIgNEeGIeGI4fPLUS AeGIR2 PLUS SUeHA PLUS AgLU PLUS ESH2eHALfPLUS LAeHI PLUS LI",
    "eHUB2eIGI GUNUeISH PLUS HU PLUS ASHeKAKeKASKALeKIDfPLUS LALeKU3 PLUS AN",
    "eKUSHU2 PLUS KASKALeLAeLAMfTIMES KUReLUHeME PLUS ENeMIeMUSHeNEfPLUS E2gGIeNUNfOVER NUN",
    "ePAeSALeSAReSHEfPLUS TUReSHIDeSHIMeSUMeTAK4eUeUDfPLUS DUeZIZ2cGABAdCROSSING GABA",
    "dROTATED NINETY DEGREEScGADdOVER GAD GAR OVER GARcGALdGAD OVER GAD GAR OVER GARcGALAM",
    "cGAMcGANcGAN2dCROSSING GAN2dOVER GAN2dTENUcGARcGAR3cGASHANcGE22cGESHTINdTIMES KUReUcGI",
    "dCROSSING GIdTIMES EeUcGI4dCROSSING GI4dOVER GI4cGIDIMcGIGcGIR2dGUNUcGIR3",
    "dTIMES A PLUS IGIeGAN2 TENUeIGIeLU PLUS IGIePAcGISALcGISHdCROSSING GISHdTENUdTIMES BAD",
    "eGISH CROSSING GISHeTAK4cGUdCROSSING GUcGU2dGUNUdTIMES IGI GUNUeKAKfTIMES IGI GUNUeNUN",
    "eSAL PLUS TUG2cGUDdOVER GUD LUGALdPLUS GISH TIMES TAK4dTIMES A PLUS KUReKURcGULcGUM",
    "dTIMES SHEcGURcGUR7cGURUNcGURUSHcHAdGUNUdTENUeGUNUcHALcHIdTIMES ASHfOVER HI TIMES ASH",
    "eASH2eBADeDISHeGADeKINeNUNeSHEeUcHUcHUB2dTIMES ANeHALeKASKALeLISHeUDcHUL2cHUSHcIdAcIB",
    "cIDIMdOVER IDIM BURfSQUAREDcIGcIGIdDIBdGUNUdOVER IGI SHIR OVER SHIR UD OVER UDdRIcIL",
    "dTIMES GAN2 TENUcIL2cIMdCROSSING IMdOPPOSING IMdSQUAREDdTIMES TAK4cIMINcINcIRcISHcKA",
    "dTIMES AeADfPLUS KU3eANSHEeASH2eASH3eBADeBALAGeBAReBIeBUeERIN2eESH2eGAeGALeGAN2 TENUeGAR",
    "fPLUS SHA3 PLUS AeGIeGIR2eGISHfCROSSING GISHfPLUS SAReGUeGUDeGUR7eHI TIMES ASH2eIGIeIM",
    "eKAeKAKeKIeKIDeLIeLUeLUMeMEfPLUS DUgGIgTEeMIfPLUS NUNUZeNEeNUNePAePIeRUeSAeSAReSHAeSHE",
    "eSHIDeSHUeSHULeSIGeSUHUReTAReTUeUfU UeU2eUDeUMUM TIMES PAeUReUR2eUSHeZIcKA2dCROSSING KA2",
    "cKABcKAD2cKAD3cKAD4cKAD5dOVER KAD5cKAKdTIMES IGI GUNUcKALdCROSSING KALdTIMES BADcKAM2",
    "cKAM4cKAP ELAMITEcKASKALdLAGAB TIMES U OVER LAGAB TIMES U",
    "dOVER KASKAL LAGAB TIMES U OVER LAGAB TIMES UcKESH2cKIdTIMES BADeUeUDcKIDcKINcKISALcKISH",
    "cKISIM5dOVER KISIM5cKUdOVER HI TIMES ASH2 KU OVER HI TIMES ASH2cKU3cKU4dVARIANT FORMcKU7",
    "cKULdGUNUcKUNcKURdOPPOSING KURcKUSHU2cKWU318cLAcLAGABdSQUAREDdTIMES AfPLUS DA PLUS HA",
    "gGARgLALeALeANeASH ZIDA TENUeBADeBIeDAReENeGAeGAReGIeGUDfPLUS GUDeHAeHALeHI TIMES NUN",
    "eIGI GUNUeIMfPLUS HAgLUeKIeKINeKU3eKULfPLUS HI PLUS AeLAGABeLISHeLUeLULeMEfPLUS ENeMUSH",
    "eNEeSHE PLUS SUMeSHITA PLUS GISH PLUS ERIN2hTENUeSHU2fPLUS SHU2eSUMeTAGeTAK4",
    "eTE PLUS A PLUS SU PLUS NAeUfPLUS AgU PLUS UeU2 PLUS ASHeUDeUSHeZU OVER ZUcLAGARdGUNU",
    "eOVER LAGAR GUNU SHEdTIMES SHEfPLUS SUMcLAHSHUcLAK-003cLAK-021cLAK-025cLAK-030cLAK-050",
    "cLAK-051cLAK-062cLAK-079 OVER LAK-079 GUNUcLAK-080cLAK-081 OVER LAK-081cLAK-092cLAK-130",
    "cLAK-142cLAK-210cLAK-219cLAK-220cLAK-225cLAK-228cLAK-238cLAK-265cLAK-266cLAK-343cLAK-347",
    "cLAK-348cLAK-383cLAK-384cLAK-390cLAK-441cLAK-449dTIMES GUeIGIePAP PLUS LU3gPAP PLUS LU3",
    "eU2 PLUS BAcLAK-450cLAK-457cLAK-470cLAK-483cLAK-490cLAK-492cLAK-493cLAK-495cLAK-550",
    "cLAK-608cLAK-617dTIMES ASHeBADeDUN3 GUNU GUNUeKU3eLAeTAReTEeU2eUDeURUDAcLAK-636cLAK-648",
    "dTIMES DUBeGAeIGIfGUNUeNIePAP PLUS PAP PLUS LU3eSHESH PLUS KIeUDeURUDAcLAK-724cLAK-749",
    "cLALdTIMES LALcLAMdTIMES KURfPLUS RUcLIcLILcLIMMU2cLISHcLUdTIMES BADcLU2dCROSSING LU2",
    "dGUNU TIMES ASHdOPPOSING LU2dSHESHIGeTIMES BADdSQUAREDdTENUdTIMES ALeBADeDISHeESH2",
    "fPLUS LALfTENUeGAN2 TENUeHALeHI TIMES BADeIMeKAD2eKAD3fPLUS ASHeKIeLA PLUS ASHeLAGAB",
    "eME PLUS ENeNEeNUePAPfPLUS PAP PLUS LU3eSHUeSI PLUS ASHeSIK2 PLUS BUeTAK4eTUG2cLU3cLUGAL",
    "dOPPOSING LUGALdOVER LUGALdSHESHIGcLUHcLULcLUMdOVER LUMfGAR OVER GARcMAdGUNUdTIMES TAK4",
    "cMA2cMAHcMARcMASHcMASH2cMEcMEScMESHcMIdPLUS ZA7cMINcMUdOVER MUcMUGdGUNUcMUNSUBcMURGU2",
    "cMUSHdCROSSING MUSHdOVER MUSHfTIMES A PLUS NAgGAgKAKdTIMES AeKUReZAcMUSH3dGUNUdTIMES A",
    "fPLUS DIeDIeZAcNAcNA2cNA4cNAGAdINVERTEDdOPPOSING NAGAdTIMES SHU TENUcNAGARcNAMdNUTILLU",
    "cNAM2cNEdSHESHIGdTIMES AeUDcNIdTIMES EcNI2cNIMdTIMES GAN2 TENUeGAR PLUS GAN2 TENUcNIN",
    "cNIN9cNINDA2dTIMES ANeASHfPLUS ASHeBALeDIM GUNUeGIeGISHeGUDeGULeHIeKESH2eLAK-050eMASH",
    "eME PLUS GAN2 TENUeNEeNUNePAP PLUS PAPeSHEfPLUS A ANgASHhPLUS ASHeUfPLUS UeU2 PLUS ASH",
    "eURUDAeUSHcNISAGcNUcNU11dOVER NU11 BUR OVER BURdROTATED NINETY DEGREESdTENUcNUN",
    "dCROSSING NUNfLAGAR OVER LAGARdLAGAR TIMES GARfMASHfSALgOVER NUN LAGAR TIMES SALfUSH",
    "dOVER NUNdTENUcNUNUZdAB2 TIMES ASHGABfBIfDUGfGUDfIGI GUNUfKAD3fLAfNEfSILA3fU2",
    "dKISIM5 TIMES BIgUcPAcPADcPANcPAPcPESH2dASTERISKcPIdCROSSING PIdTIMES AeABeBIeBUeEeIeIB",
    "eUeU2cPIR2cPIRIGdOPPOSING PIRIGdTIMES KALeUDeZAcRAcRABcRIcRUcSAcSAGdGUNUeTIMES HA",
    "dNUTILLUdOVER SAGdTIMES AeDUeDUBeENeHAeIGI GUNUeKAKeKUReLUMeMIeNUNeSALeSHE AT LEFTeSHID",
    "eTABeTAK4eU2eUBeUMeUReUSHcSALdLAGAB TIMES ASH2cSANGA2cSARcSHAcSHA3dTIMES AeBADeGISHeNE",
    "eSHU2eTUReUfPLUS AcSHA6dTENUcSHAB6cSHAR2cSHEdHUdOVER SHEfGAD OVER GAD GAR OVER GAR",
    "fTAB OVER TAB GAR OVER GARdPLUS HUB2eNAM2eSARcSHEG9cSHENcSHESHcSHESH2cSHESHLAMcSHID",
    "dTIMES AeIMcSHIMdTIMES AeBALeBULUGeDINeGAReIGIfGUNUeKUSHU2eLULeMUGeSALcSHINIGcSHIR",
    "dOVER SHIR BUR OVER BURdTENUcSHITAcSHUdOVER INVERTED SHUcSHU2dPLUS DUG TIMES NI",
    "eE2 TIMES ANcSHUBURcSIdGUNUdTIMES TAK4cSIGcSIG4dOVER SIG4 SHU2cSIK2cSILA3cSUdOVER SUcSUD",
    "cSUD2cSUHURcSUMcSUMASHcSURcSUR9cTAdASTERISKdGUNUdTIMES HIeMIcTAB",
    "dOVER TAB NI OVER NI DISH OVER DISHdSQUAREDcTAGdTIMES BIeGUDeSHEeSHUeTUG2eUDcTAK4",
    "dPLUS SAGcTARcTEdGUNUcTIdTENUcTI2cTILcTIRdOVER TIRfGAD OVER GAD GAR OVER GARdTIMES TAK4",
    "cTUcTUG2cTUKcTUMdTIMES GAN2 TENUeTHREE DISHcTURdOVER TUR ZA OVER ZAcUdGUD",
    "dOVER U PA OVER PA GAR OVER GARfSUR OVER SURfU REVERSED OVER U REVERSEDdUeUcU2cUBcUD",
    "dGUNUdKUSHU2dSHESHIGeTIMES BADdTIMES BADeMIeU PLUS U PLUS UjGUNUcUDUGcUMdTIMES LAGABeME",
    "fPLUS DAeSHA3eUcUMBINcUMUMdTIMES KASKALePAcUNdGUNUcURdCROSSING URdSHESHIGcUR2dINVERTED",
    "dTIMES A PLUS HAgNAeALeHAeNUNeU2fPLUS ASHgBIeUDcUR4cURIcURI3cURUdTIMES AeASHGABeBAR",
    "eDARA3eDUNeGAeGALeGAN2 TENUeGAReGUeHAeIGIeIMeISHeKIeLAK-668eLU3eLUMeMINePAeSHEeSIG4eTU",
    "eU PLUS GUDeUDeURUDAcURUDAdTIMES UcUSHdTIMES AeKUeKUReTAK4cUSH2cUSHUMXcUSHXcUTUKIcUZ3",
    "dTIMES KASKALcUZUcZAdSQUARED TIMES KURdTENUcZA7cZAGcZAMXcZE2cZIdOVER ZIcZI3cZIB",
    "dKABA TENUcZIGcZIZ2cZUdOVER ZU PLUS SARcZU5dTIMES AeTHREE DISH TENUcZUBURcZUM",
    "aCUP ON BLACK SQUAREbWITH STRAWaCUPCAKEaCUPIDOaCURLING STONEaCURLY BRACKET EXTENSION",
    "bLOGICAL ANDcORbLOOPaCURRENCY EXCHANGEbSIGNaCURRY AND RICE",
    "aCURVED STEM PARAGRAPH SIGN ORNAMENTaCUSTARDaCUSTOMSaCUT OF MEATaCYCLONEaCYLINDRICITY",
    "aCYPRIOT SYLLABLE AcEcIcJAcJOcKAcKEcKIcKOcKUcLAcLEcLIcLOcLUcMAcMEcMIcMOcMUcNAcNEcNIcNO",
    "cNUcOcPAcPEcPIcPOcPUcRAcREcRIcROcRUcSAcSEcSIcSOcSUcTAcTEcTIcTOcTUcUcWAcWEcWIcWOcXAcXEcZA",
    "cZOaCYPRO-MINOAN SIGN CM001cCM002cCM004cCM005cCM006cCM007cCM008cCM009cCM010cCM011cCM012",
    "cCM012BcCM013cCM015cCM017cCM019cCM021cCM023cCM024cCM025cCM026cCM027cCM028cCM029cCM030",
    "cCM033cCM034cCM035cCM036cCM037cCM038cCM039cCM040cCM041cCM044cCM046cCM047cCM049cCM050",
    "cCM051cCM052cCM053cCM054cCM055cCM056cCM058cCM059cCM060cCM061cCM062cCM063cCM064cCM066",
    "cCM067cCM068cCM069cCM070cCM071cCM072cCM073cCM074cCM075cCM075BcCM076cCM078cCM079cCM080",
    "cCM081cCM082cCM083cCM084cCM085cCM086cCM087cCM088cCM089cCM090cCM091cCM092cCM094cCM095",
    "cCM096cCM097cCM098cCM099cCM100cCM101cCM102cCM103cCM104cCM105cCM107cCM108cCM109cCM110",
    "cCM112cCM114cCM301cCM302aCYRILLIC CAPITAL LETTER AeWITH BREVEfDIAERESISdABKHASIAN CHE",
    "fWITH DESCENDEReDZEeHAdALEUT KAdBARRED OfWITH DIAERESISdBASHKIR KAdBEdBIG YUS",
    "dBINOCULAR OdBLENDED YUSdBROAD OMEGAdBYELORUSSIAN-UKRAINIAN IdCCHEdCHEeWITH DESCENDER",
    "fDIAERESISfVERTICAL STROKEdCLOSED LITTLE YUSdCROSSED OdDCHEdDEdDJEdDJERV",
    "dDOUBLE MONOCULAR OeOdDWEdDZEdDZELOdDZHEdDZWEdDZZEdDZZHEdEeWITH DIAERESISdEFdEL",
    "eWITH DESCENDERfHOOKfMIDDLE HOOKfTAILdEMeWITH TAILdENeWITH DESCENDERfHOOKfLEFT HOOK",
    "fMIDDLE HOOKfTAILdEReWITH TICKdESeWITH DESCENDERdFITAdGHEeWITH DESCENDERfMIDDLE HOOK",
    "fSTROKEgAND HOOKfUPTURNdGJEdHAeWITH DESCENDERfHOOKfSTROKEdHARD SIGNdHWEdIeWITH DIAERESIS",
    "fGRAVEfMACRONdIEeWITH BREVEfGRAVEdIOdIOTAdIOTIFIED AeBIG YUSeCLOSED LITTLE YUSeE",
    "eLITTLE YUSeYATdIZHITSAeWITH DOUBLE GRAVE ACCENTdJEdKAeWITH DESCENDERfHOOKfSTROKE",
    "fVERTICAL STROKEdKHAKASSIAN CHEdKJEdKOMI DEeDJEeDZJEeLJEeNJEeSJEeTJEeZJEdKOPPAdKSIdLHA",
    "dLITTLE YUSdLJEdMONOCULAR OdMONOGRAPH UKdNEUTRAL YERdNJEdOeWITH DIAERESISdOMEGA",
    "eWITH TITLOdOTdPEeWITH DESCENDERfMIDDLE HOOKdPSIdQAdREVERSED DZEeTSEeYUeZEdRHA",
    "dROUND OMEGAdSCHWAeWITH DIAERESISdSEMISOFT SIGNdSHAdSHCHAdSHHAeWITH DESCENDERdSHORT I",
    "fWITH TAILeUdSHWEdSOFT DEeELeEMeSIGNdSTRAIGHT UfWITH STROKEdTCHEdTEeWITH DESCENDER",
    "fMIDDLE HOOKdTSEdTSHEdTSSEdTSWEdTWEdUeWITH DIAERESISfDOUBLE ACUTEfMACRONdUKdUKRAINIAN IE",
    "dVEdWEdYAdYAEdYATdYERUeWITH BACK YERfDIAERESISdYIdYNdYUdZEeWITH DESCENDERfDIAERESIS",
    "dZEMLYAdZHEeWITH BREVEfDESCENDERfDIAERESISdZHWEcLIGATURE A IEdEN GHEdTE TSEbKAVYKA",
    "bLETTER MULTIOCULAR OcPALOCHKAcSMALL CAPITAL ELbPAYEROKbSMALL LETTER AeWITH BREVE",
    "fDIAERESISdABKHASIAN CHEfWITH DESCENDEReDZEeHAdALEUT KAdBARRED OfWITH DIAERESIS",
    "dBASHKIR KAdBEdBIG YUSdBINOCULAR OdBLENDED YUSdBROAD OMEGAdBYELORUSSIAN-UKRAINIAN IdCCHE",
    "dCHEeWITH DESCENDERfDIAERESISfVERTICAL STROKEdCLOSED LITTLE YUSdCROSSED OdDCHEdDEdDJE",
    "dDJERVdDOUBLE MONOCULAR OeOdDWEdDZEdDZELOdDZHEdDZWEdDZZEdDZZHEdEeWITH DIAERESISdEFdEL",
    "eWITH DESCENDERfHOOKfMIDDLE HOOKfTAILdEMeWITH TAILdENeWITH DESCENDERfHOOKfLEFT HOOK",
    "fMIDDLE HOOKfTAILdEReWITH TICKdESeWITH DESCENDERdFITAdGHEeWITH DESCENDERfMIDDLE HOOK",
    "fSTROKEgAND HOOKfUPTURNdGJEdHAeWITH DESCENDERfHOOKfSTROKEdHARD SIGNdHWEdIeWITH DIAERESIS",
    "fGRAVEfMACRONdIEeWITH BREVEfGRAVEdIOdIOTAdIOTIFIED AeBIG YUSeCLOSED LITTLE YUSeE",
    "eLITTLE YUSeYATdIZHITSAeWITH DOUBLE GRAVE ACCENTdJEdKAeWITH DESCENDERfHOOKfSTROKE",
    "fVERTICAL STROKEdKHAKASSIAN CHEdKJEdKOMI DEeDJEeDZJEeLJEeNJEeSJEeTJEeZJEdKOPPAdKSIdLHA",
    "dLITTLE YUSdLJEdLONG-LEGGED DEdMONOCULAR OdMONOGRAPH UKdNARROW OdNEUTRAL YERdNJEdO",
    "eWITH DIAERESISdOMEGAeWITH TITLOdOTdPALOCHKAdPEeWITH DESCENDERfMIDDLE HOOKdPSIdQA",
    "dREVERSED DZEeTSEeYUeZEdRHAdROUND OMEGAdROUNDED VEdSCHWAeWITH DIAERESISdSEMISOFT SIGN",
    "dSHAdSHCHAdSHHAeWITH DESCENDERdSHORT IfWITH TAILeUdSHWEdSOFT DEeELeEMeSIGNdSTRAIGHT U",
    "fWITH STROKEdTALL HARD SIGNeTEeYATdTCHEdTEeWITH DESCENDERfMIDDLE HOOKdTHREE-LEGGED TE",
    "dTSEdTSHEdTSSEdTSWEdTWEdUeWITH DIAERESISfDOUBLE ACUTEfMACRONdUKdUKRAINIAN IE",
    "dUNBLENDED UKdVEdWEdWIDE ESdYAdYAEdYATdYERUeWITH BACK YERfDIAERESISdYIdYNdYUdZE",
    "eWITH DESCENDERfDIAERESISdZEMLYAdZHEeWITH BREVEfDESCENDERfDIAERESISdZHWEcLIGATURE A IE",
    "dEN GHEdTE TSEbTHOUSANDS SIGN"]

end CharacterName

end ElementBindings
