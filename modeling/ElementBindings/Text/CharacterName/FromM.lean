/-
  The names that start with M.  A small letter in front of a
  name says how many words it shares with the name before it,
  from a for none on; only its further words are written.

  Key definitions include:
    * `CharacterName.fromM`
-/

namespace ElementBindings

namespace CharacterName

------------------------------------------------------------
-- Names
------------------------------------------------------------

/- The names that start with M. -/
def fromM : List String := [
    "aMACRONaMAGEaMAGIC WANDaMAGNETaMAHAJANI ABBREVIATION SIGNbLETTER AcBAcBHAcCAcCHAcDAcDDA",
    "cDDHAcDHAcEcGAcGHAcHAcIcJAcJHAcKAcKHAcLAcMAcNAcNNAcNYAcOcPAcPHAcRAcRRAcSAcTAcTHAcTTA",
    "cTTHAcUcVAbLIGATURE SHRIbSECTION MARKbSIGN NUKTAaMAHJONG TILE AUTUMNcBACKcBAMBOO",
    "cCHRYSANTHEMUMcEAST WINDcEIGHT OF BAMBOOSeCHARACTERSeCIRCLEScFIVE OF BAMBOOSeCHARACTERS",
    "eCIRCLEScFOUR OF BAMBOOSeCHARACTERSeCIRCLEScGREEN DRAGONcJOKERcNINE OF BAMBOOS",
    "eCHARACTERSeCIRCLEScNORTH WINDcONE OF BAMBOOSeCHARACTERSeCIRCLEScORCHIDcPLUMcRED DRAGON",
    "cSEVEN OF BAMBOOSeCHARACTERSeCIRCLEScSIX OF BAMBOOSeCHARACTERSeCIRCLEScSOUTH WINDcSPRING",
    "cSUMMERcTHREE OF BAMBOOSeCHARACTERSeCIRCLEScTWO OF BAMBOOSeCHARACTERSeCIRCLEScWEST WIND",
    "cWHITE DRAGONcWINTERaMAKASAR ANGKAbEND OF SECTIONbLETTER AcBAcCAcDAcGAcJAcKAcLAcMAcNA",
    "cNGAcNYAcPAcRAcSAcTAcVAcYAbPASSIMBANGbVOWEL SIGN EdIdOdUaMALAYALAM AU LENGTH MARK",
    "bDATE MARKbDIGIT EIGHTcFIVEcFOURcNINEcONEcSEVENcSIXcTHREEcTWOcZERObFRACTION ONE EIGHTH",
    "dFIFTHdFORTIETHdHALFdONE-HUNDRED-AND-SIXTIETHdQUARTERdSIXTEENTHdTENTHdTWENTIETH",
    "cTHREE EIGHTIETHSdQUARTERSdSIXTEENTHSdTWENTIETHSbLETTER AcAAcAIcARCHAIC IIcAUcBAcBHAcCA",
    "cCHAcCHILLU KdLdLLdLLLdMdNdNNdRRdYcDAcDDAcDDHAcDHAcDOT REPHcEcEEcGAcGHAcHAcIcIIcJAcJHA",
    "cKAcKHAcLAcLLAcLLLAcMAcNAcNGAcNNAcNNNAcNYAcOcOOcPAcPHAcRAcRRAcSAcSHAcSSAcTAcTHAcTTAcTTHA",
    "cTTTAcUcUUcVAcVEDIC ANUSVARAcVOCALIC LdLLdRdRRcYAbNUMBER ONE HUNDREDdTHOUSANDcTEN",
    "bSIGN ANUSVARAcAVAGRAHAcCANDRABINDUcCIRCULAR VIRAMAcCOMBINING ANUSVARA ABOVEcPARA",
    "cVERTICAL BAR VIRAMAcVIRAMAcVISARGAbVOWEL SIGN AAdAIdAUdEdEEdIdIIdOdOOdUdUUdVOCALIC LeLL",
    "eReRRaMALE AND FEMALE SIGNbSIGNbWITH STROKE AND MALE AND FEMALE SIGNdSIGNaMALTESE CROSS",
    "aMAMMOTHaMANbAND WOMAN HOLDING HANDSbDANCINGbIN BUSINESS SUIT LEVITATINGcTUXEDO",
    "bWITH GUA PI MAOcTURBANaMANAT SIGNaMANDAIC AFFRICATION MARKbGEMINATION MARKbLETTER ABcAD",
    "cAGcAHcAINcAKcAKSAcALcAMcANcAPcAQcARcAScASHcASZcATcATTcAZcDUSHENNAcHALQAcINcITcKAD",
    "cUSHENNAbPUNCTUATIONbVOCALIZATION MARKaMANGOaMANICHAEAN ABBREVIATION MARK ABOVEdBELOW",
    "bLETTER AAYINcALEPHcAYINcBETHcBHETHcDALETHcDHAMEDHcFEcGHIMELcGIMELcHEcHETHcJAYINcJHAYIN",
    "cKAPHcKHAPHcLAMEDHcMEMcNUNcPEcQHOPHcQOPHcRESHcSADHEcSAMEKHcSHINcSSHINcTAWcTETHcTHAMEDH",
    "cWAWcXAPHcXOPHcYODHcZAYINcZHAYINbNUMBER FIVEcONEdHUNDREDcTENcTWENTYbPUNCTUATION DOT",
    "dWITHIN DOTcDOUBLE DOT WITHIN DOTcFLEURONcLINE FILLERcSTARcTWO DOTSbSIGN UDaMANS SHOE",
    "aMANTELPIECE CLOCKaMANUAL WHEELCHAIRaMAP SYMBOL FOR LIGHTHOUSEaMAPLE LEAF",
    "aMARCHEN HEAD MARKbLETTER -AcAcBAcCAcCHAcDAcDZAcGAcHAcJAcKAcKHAcLAcMAcNAcNGAcNYAcPAcPHA",
    "cRAcSAcSHAcTAcTHAcTSAcTSHAcWAcYAcZAcZHAbMARK SHADbSIGN ANUSVARAcCANDRABINDU",
    "bSUBJOINED LETTER AdBAdCAdCHAdDAdDZAdGAdHAdJAdKAdKHAdLAdMAdNAdNGAdNYAdPAdPHAdRAdSAdSHA",
    "dTAdTHAdTSAdTSHAdWAdYAdZAdZHAbVOWEL SIGN AAdEdIdOdUaMARRIAGE SYMBOLaMARTIAL ARTS UNIFORM",
    "aMASARAM GONDI DIGIT EIGHTdFIVEdFOURdNINEdONEdSEVENdSIXdTHREEdTWOdZEROcLETTER AdAAdAIdAU",
    "dBAdBHAdCAdCHAdDAdDDAdDDHAdDHAdEdGAdGHAdHAdIdIIdJAdJHAdJNYAdKAdKHAdKSSAdLAdLLAdMAdNAdNGA",
    "dNNAdNYAdOdPAdPHAdRAdSAdSHAdSSAdTAdTHAdTRAdTTAdTTHAdUdUUdVAdYAcRA-KARAcREPHA",
    "cSIGN ANUSVARAdCANDRAdHALANTAdNUKTAdVISARGAcVIRAMAcVOWEL SIGN AAeAIeAUeEeIeIIeOeUeUU",
    "eVOCALIC RaMASCULINE ORDINAL INDICATORaMASK WORK SYMBOLaMASU MARKaMATE DRINK",
    "aMATHEMATICAL BOLD CAPITAL AdALPHAdBdBETAdCdCHIdDdDELTAdDIGAMMAdEdEPSILONdETAdFdGdGAMMA",
    "dHdIdIOTAdJdKdKAPPAdLdLAMDAdMdMUdNdNUdOdOMEGAdOMICRONdPdPHIdPIdPSIdQdRdRHOdSdSIGMAdTdTAU",
    "dTHETAeSYMBOLdUdUPSILONdVdWdXdXIdYdZdZETAcDIGIT EIGHTdFIVEdFOURdNINEdONEdSEVENdSIXdTHREE",
    "dTWOdZEROcEPSILON SYMBOLcFRAKTUR CAPITAL AeBeCeDeEeFeGeHeIeJeKeLeMeNeOePeQeReSeTeUeVeWeX",
    "eYeZdSMALL AeBeCeDeEeFeGeHeIeJeKeLeMeNeOePeQeReSeTeUeVeWeXeYeZcITALIC CAPITAL AeALPHAeB",
    "eBETAeCeCHIeDeDELTAeEeEPSILONeETAeFeGeGAMMAeHeIeIOTAeJeKeKAPPAeLeLAMDAeMeMUeNeNUeOeOMEGA",
    "eOMICRONePePHIePIePSIeQeReRHOeSeSIGMAeTeTAUeTHETAfSYMBOLeUeUPSILONeVeWeXeXIeYeZeZETA",
    "dEPSILON SYMBOLdKAPPA SYMBOLdNABLAdPARTIAL DIFFERENTIALdPHI SYMBOLdPI SYMBOLdRHO SYMBOL",
    "dSMALL AeALPHAeBeBETAeCeCHIeDeDELTAeEeEPSILONeETAeFeFINAL SIGMAeGeGAMMAeHeIeIOTAeJeK",
    "eKAPPAeLeLAMDAeMeMUeNeNUeOeOMEGAeOMICRONePePHIePIePSIeQeReRHOeSeSIGMAeTeTAUeTHETAeU",
    "eUPSILONeVeWeXeXIeYeZeZETAdTHETA SYMBOLcKAPPA SYMBOLcNABLAcPARTIAL DIFFERENTIAL",
    "cPHI SYMBOLcPI SYMBOLcRHO SYMBOLcSCRIPT CAPITAL AeBeCeDeEeFeGeHeIeJeKeLeMeNeOePeQeReSeT",
    "eUeVeWeXeYeZdSMALL AeBeCeDeEeFeGeHeIeJeKeLeMeNeOePeQeReSeTeUeVeWeXeYeZcSMALL AdALPHAdB",
    "dBETAdCdCHIdDdDELTAdDIGAMMAdEdEPSILONdETAdFdFINAL SIGMAdGdGAMMAdHdIdIOTAdJdKdKAPPAdL",
    "dLAMDAdMdMUdNdNUdOdOMEGAdOMICRONdPdPHIdPIdPSIdQdRdRHOdSdSIGMAdTdTAUdTHETAdUdUPSILONdVdW",
    "dXdXIdYdZdZETAcTHETA SYMBOLbDOUBLE-STRUCK CAPITAL AdBdDdEdFdGdIdJdKdLdMdOdSdTdUdVdWdXdY",
    "cDIGIT EIGHTdFIVEdFOURdNINEdONEdSEVENdSIXdTHREEdTWOdZEROcSMALL AdBdCdDdEdFdGdHdIdJdKdLdM",
    "dNdOdPdQdRdSdTdUdVdWdXdYdZbFALLING DIAGONALbFRAKTUR CAPITAL AdBdDdEdFdGdJdKdLdMdNdOdPdQ",
    "dSdTdUdVdWdXdYcSMALL AdBdCdDdEdFdGdHdIdJdKdLdMdNdOdPdQdRdSdTdUdVdWdXdYdZ",
    "bITALIC CAPITAL AdALPHAdBdBETAdCdCHIdDdDELTAdEdEPSILONdETAdFdGdGAMMAdHdIdIOTAdJdKdKAPPA",
    "dLdLAMDAdMdMUdNdNUdOdOMEGAdOMICRONdPdPHIdPIdPSIdQdRdRHOdSdSIGMAdTdTAUdTHETAeSYMBOLdU",
    "dUPSILONdVdWdXdXIdYdZdZETAcEPSILON SYMBOLcKAPPA SYMBOLcNABLAcPARTIAL DIFFERENTIAL",
    "cPHI SYMBOLcPI SYMBOLcRHO SYMBOLcSMALL AdALPHAdBdBETAdCdCHIdDdDELTAdDOTLESS IeJdE",
    "dEPSILONdETAdFdFINAL SIGMAdGdGAMMAdIdIOTAdJdKdKAPPAdLdLAMDAdMdMUdNdNUdOdOMEGAdOMICRONdP",
    "dPHIdPIdPSIdQdRdRHOdSdSIGMAdTdTAUdTHETAdUdUPSILONdVdWdXdXIdYdZdZETAcTHETA SYMBOL",
    "bLEFT ANGLE BRACKETcDOUBLE ANGLE BRACKETcFLATTENED PARENTHESIScWHITE SQUARE BRACKET",
    "dTORTOISE SHELL BRACKETbMONOSPACE CAPITAL AdBdCdDdEdFdGdHdIdJdKdLdMdNdOdPdQdRdSdTdUdVdW",
    "dXdYdZcDIGIT EIGHTdFIVEdFOURdNINEdONEdSEVENdSIXdTHREEdTWOdZEROcSMALL AdBdCdDdEdFdGdHdIdJ",
    "dKdLdMdNdOdPdQdRdSdTdUdVdWdXdYdZbRIGHT ANGLE BRACKETcDOUBLE ANGLE BRACKET",
    "cFLATTENED PARENTHESIScWHITE SQUARE BRACKETdTORTOISE SHELL BRACKETbRISING DIAGONAL",
    "bSANS-SERIF BOLD CAPITAL AeALPHAeBeBETAeCeCHIeDeDELTAeEeEPSILONeETAeFeGeGAMMAeHeIeIOTAeJ",
    "eKeKAPPAeLeLAMDAeMeMUeNeNUeOeOMEGAeOMICRONePePHIePIePSIeQeReRHOeSeSIGMAeTeTAUeTHETA",
    "fSYMBOLeUeUPSILONeVeWeXeXIeYeZeZETAdDIGIT EIGHTeFIVEeFOUReNINEeONEeSEVENeSIXeTHREEeTWO",
    "eZEROdEPSILON SYMBOLdITALIC CAPITAL AfALPHAfBfBETAfCfCHIfDfDELTAfEfEPSILONfETAfFfGfGAMMA",
    "fHfIfIOTAfJfKfKAPPAfLfLAMDAfMfMUfNfNUfOfOMEGAfOMICRONfPfPHIfPIfPSIfQfRfRHOfSfSIGMAfTfTAU",
    "fTHETAgSYMBOLfUfUPSILONfVfWfXfXIfYfZfZETAeEPSILON SYMBOLeKAPPA SYMBOLeNABLA",
    "ePARTIAL DIFFERENTIALePHI SYMBOLePI SYMBOLeRHO SYMBOLeSMALL AfALPHAfBfBETAfCfCHIfDfDELTA",
    "fEfEPSILONfETAfFfFINAL SIGMAfGfGAMMAfHfIfIOTAfJfKfKAPPAfLfLAMDAfMfMUfNfNUfOfOMEGA",
    "fOMICRONfPfPHIfPIfPSIfQfRfRHOfSfSIGMAfTfTAUfTHETAfUfUPSILONfVfWfXfXIfYfZfZETA",
    "eTHETA SYMBOLdKAPPA SYMBOLdNABLAdPARTIAL DIFFERENTIALdPHI SYMBOLdPI SYMBOLdRHO SYMBOL",
    "dSMALL AeALPHAeBeBETAeCeCHIeDeDELTAeEeEPSILONeETAeFeFINAL SIGMAeGeGAMMAeHeIeIOTAeJeK",
    "eKAPPAeLeLAMDAeMeMUeNeNUeOeOMEGAeOMICRONePePHIePIePSIeQeReRHOeSeSIGMAeTeTAUeTHETAeU",
    "eUPSILONeVeWeXeXIeYeZeZETAdTHETA SYMBOLcCAPITAL AdBdCdDdEdFdGdHdIdJdKdLdMdNdOdPdQdRdSdT",
    "dUdVdWdXdYdZcDIGIT EIGHTdFIVEdFOURdNINEdONEdSEVENdSIXdTHREEdTWOdZEROcITALIC CAPITAL AeB",
    "eCeDeEeFeGeHeIeJeKeLeMeNeOePeQeReSeTeUeVeWeXeYeZdSMALL AeBeCeDeEeFeGeHeIeJeKeLeMeNeOePeQ",
    "eReSeTeUeVeWeXeYeZcSMALL AdBdCdDdEdFdGdHdIdJdKdLdMdNdOdPdQdRdSdTdUdVdWdXdYdZ",
    "bSCRIPT CAPITAL AdCdDdGdJdKdNdOdPdQdSdTdUdVdWdXdYdZcSMALL AdBdCdDdFdHdIdJdKdLdMdNdPdQdR",
    "dSdTdUdVdWdXdYdZaMAXIMIZEaMAYAN NUMERAL EIGHTcEIGHTEENcELEVENcFIFTEENcFIVEcFOURcFOURTEEN",
    "cNINEcNINETEENcONEcSEVENcSEVENTEENcSIXcSIXTEENcTENcTHIRTEENcTHREEcTWELVEcTWOcZERO",
    "aMEASURED ANGLEcOPENING LEFTcWITH OPEN ARM ENDING IN ARROW POINTING DOWN AND LEFTlRIGHT",
    "jLEFT AND DOWNlUPjRIGHT AND DOWNlUPjUP AND LEFTlRIGHTbBYbRIGHT ANGLE WITH DOT",
    "aMEAT ON BONEaMECHANICAL ARMbLEGaMEDEFAIDRIN CAPITAL LETTER AdAIdATIUdBdCdDdEdFdGdHdHPdI",
    "dJdKdKPdLdMdNdNGdNYdOdOEdPdQdRdSdTdUdVdWdXdYdYUdZbCOMMAbDIGIT EIGHTcFIVEcFOURcNINEcONE",
    "dALTERNATE FORMcSEVENcSIXcTHREEdALTERNATE FORMcTWOdALTERNATE FORMcZERObEXCLAMATION OH",
    "bFULL STOPbNUMBER EIGHTEENcELEVENcFIFTEENcFOURTEENcNINETEENcSEVENTEENcSIXTEENcTEN",
    "cTHIRTEENcTWELVEbSMALL LETTER AdAIdATIUdBdCdDdEdFdGdHdHPdIdJdKdKPdLdMdNdNGdNYdOdOEdPdQdR",
    "dSdTdUdVdWdXdYdYUdZbSYMBOL AIVAaMEDIEVAL COMMAbEXCLAMATION MARKbQUESTION MARK",
    "aMEDIUM BLACK CIRCLEbBOLD WHITE CIRCLEbEIGHT POINTED BLACK STARcSPOKED ASTERISK",
    "bFIVE SPOKED ASTERISKbFLATTENED LEFT PARENTHESIS ORNAMENTcRIGHT PARENTHESIS ORNAMENT",
    "bFOUR POINTED BLACK STARdPINWHEEL STARbGREEK CROSSbLEFT CURLY BRACKET ORNAMENT",
    "cPARENTHESIS ORNAMENTbLEFT-POINTING ANGLE BRACKET ORNAMENTbMATHEMATICAL SPACE",
    "bRIGHT CURLY BRACKET ORNAMENTcPARENTHESIS ORNAMENTbRIGHT-POINTING ANGLE BRACKET ORNAMENT",
    "bSALTIREbSHADEbSIX POINTED BLACK STARcSPOKED ASTERISKbSMALL WHITE CIRCLE",
    "bTHREE POINTED BLACK STARdPINWHEEL STARbVERTICAL BARbWHITE CIRCLEcSQUARE",
    "aMEETEI MAYEK AHANG KHUDAMcANJIcAPUN IYEKcCHEIKHANcCHEIKHEIcDIGIT EIGHTdFIVEdFOURdNINE",
    "dONEdSEVENdSIXdTHREEdTWOdZEROcLETTER ATIYAdBAdBHAMdCHAdCHILdDDAdDDHAdDHOUdDILdEdGHOUdGOK",
    "dHUKdIeLONSUMdJHAMdJILdKHOUdKOKeLONSUMdLAIeLONSUMdMITeLONSUMdNAeLONSUMdNGOUeLONSUMdNNA",
    "dNYAdOdPAeLONSUMdPHAMdRAIdSAMdSHAdSSAdTHOUdTILeLONSUMdTTAdTTHAdUNdWAIdYANGcLUM IYEK",
    "cSYLLABLE REPETITION MARKcVIRAMAcVOWEL SIGN AAIeAAUeANAPeAUeCHEINAPeIIeINAPeNUNGeONAP",
    "eSOUNAPeUNAPeUUeVISARGAeYENAPcWORD REPETITION MARKaMELONaMELTING FACEaMEMO",
    "aMENDE KIKAKUI COMBINING NUMBER HUNDRED THOUSANDSeHUNDREDSeMILLIONSeTEENSeTEN THOUSANDS",
    "eTENSeTHOUSANDScDIGIT EIGHTdFIVEdFOURdNINEdONEdSEVENdSIXdTHREEdTWOcSYLLABLE M001 KI",
    "dM002 KAdM003 KUdM004 WIdM005 WAdM006 WUdM007 MINdM008 MANdM009 MUNdM010 BIdM011 BA",
    "dM012 BUdM013 IdM014 AdM015 UdM016 DIdM017 DAdM018 DUdM019 SIdM020 SAdM021 SUdM022 TI",
    "dM023 TAdM024 TUdM025 LIdM026 LAdM027 LUdM028 JIdM029 JAdM030 JUdM031 YIdM032 YAdM033 YU",
    "dM034 FIdM035 FAdM036 FUdM037 NINdM038 NANdM039 NUNdM040 HEEdM041 HAdM042 HOOdM043 NGGA",
    "dM044 KPEEdM045 WOdM046 HUANdM047 MBEEdM048 KOdM049 WVAdM050 PUdM051 PEdM052 HEN",
    "dM053 HINdM054 LOOdM055 TEdM056 GBAdM057 NGONdM058 NYANdM059 MENdM060 NYONdM061 WVI",
    "dM062 MBAdM063 JOdM064 NDOdM065 KEEdM066 POdM067 NDOOdM068 PIdM069 TOdM070 GBOdM071 GBOO",
    "dM072 MBEdM073 LEdM074 KPUdM075 FEdM076 KOOdM077 VOdM078 FEEdM079 SOdM080 YEdM081 PEE",
    "dM082 NGGUdM083 HEEIdM084 LEEdM085 VEdM086 LONG NGGEdM087 HUNdM088 FOdM089 DEEdM090 NGGI",
    "dM091 TEEdM092 KPAdM093 GBEEdM094 MONdM095 KEdM096 HEdM097 BEdM098 NYENdM099 PAdM100 E",
    "dM101 FANdM102 POOdM103 BOOdM104 TOOdM105 LONG MBOOdM106 LONG NGGOOdM107 GBEdM108 KPE",
    "dM109 YEEdM110 LONG LEdM111 GAdM112 KPOOdM113 JEdM114 WOOdM115 NGGEEdM116 SEdM117 NEN",
    "dM118 WEdM119 NDEdM120 NGGOdM121 YOdM122 MBUdM123 NDIdM124 GBIdM125 NDUdM126 WEE",
    "dM127 NGGUAdM128 HOOUdM129 NDAdM130 HANdM131 INdM132 KPIdM133 FOOdM134 NJOOdM135 IN",
    "dM136 SOOdM137 EIdM138 BOdM139 WVEdM140 HOdM141 YOOdM142 LONG MBOdM143 WEIdM144 VOO",
    "dM145 MBIdM146 NGGEdM147 OdM148 GBUdM149 NJEEdM150 BEEdM151 VUdM152 NJAdM153 LO",
    "dM154 MUANdM155 GIdM156 NGGOOdM157 JEEdM158 KPOdM159 NGGAAdM160 JOOdM161 LONG MBE",
    "dM162 SEEdM163 EEdM164 NYINdM165 OOdM166 GUEIdM167 GUANdM168 GUdM169 NONdM170 NYUN",
    "dM171 RAdM172 MBOOdM173 VEEdM174 MBOdM175 LONG JOdM176 HIdM177 NGUANdM178 ENdM179 KUA",
    "dM180 DOOdM181 DOdM182 VIdM183 LONG NGGOdM184 NGENdM185 VAdM186 HUdM187 MBUUdM188 MBEE",
    "dM189 MUENdM190 GEEdM191 NDEEdM192 NJUdM193 HONdM194 WUIdM195 ANdM196 SIAdM197 FUA",
    "aMENORAH WITH NINE BRANCHESaMENS SYMBOLaMERCURYaMEROITIC CURSIVE FRACTION EIGHT TWELFTHS",
    "dELEVEN TWELFTHSdFIVE TWELFTHSdFOUR TWELFTHSdNINE TWELFTHSdONE HALFeTWELFTH",
    "dSEVEN TWELFTHSdSIX TWELFTHSdTEN TWELFTHSdTHREE TWELFTHSdTWO TWELFTHScLETTER A",
    "dARCHAIC SAdBAdDAdEdHHAdIdKAdKHAdLAdMAdNAdNEdOdPAdQAdRAdSAdSEdTAdTEdTOdWAdYA",
    "cLOGOGRAM IMNdRMTcNUMBER EIGHTeHUNDREDfTHOUSANDeTHOUSANDdEIGHTY THOUSANDdFIFTYeTHOUSAND",
    "dFIVEeHUNDREDfTHOUSANDeTHOUSANDdFORTYeTHOUSANDdFOUReHUNDREDfTHOUSANDeTHOUSANDdNINE",
    "eHUNDREDfTHOUSANDeTHOUSANDdNINETY THOUSANDdONEeHUNDREDfTHOUSANDeTHOUSANDdSEVENeHUNDRED",
    "fTHOUSANDeTHOUSANDdSEVENTYeTHOUSANDdSIXeHUNDREDfTHOUSANDeTHOUSANDdSIXTYeTHOUSANDdTEN",
    "eTHOUSANDdTHIRTYeTHOUSANDdTHREEeHUNDREDfTHOUSANDeTHOUSANDdTWENTYeTHOUSANDdTWOeHUNDRED",
    "fTHOUSANDeTHOUSANDbHIEROGLYPHIC LETTER AdBAdBA-2dDAdEdHHAdIdKAdKHAdLAdMAdNAdNA-2dNEdNE-2",
    "dOdPAdQAdRAdRA-2dSAdSA-2dSEdTAdTA-2dTEdTE-2dTOdWAdYAcSYMBOL VIDJdVIDJ-2aMERPERSON",
    "aMESSAGE WAITINGaMETRICAL BREVEbLONG OVER SHORTdTWO SHORTSbPENTASEMEbSHORT OVER LONG",
    "bTETRASEMEbTRISEMEbTWO SHORTS JOINEDdOVER LONGaMETROaMIAO LETTER AHcARCHAIC MAdNAdNGA",
    "dZZAcBAcBRIcDAcDDAcDLHAcDLHYAcDZAcDZHAcDZYIcDZZAcFAcGAcGHAcGHHAcHAcHHAcKAcLAcLHAcLHYA",
    "cLYAcMAcMHAcNAcNASALIZATIONcNGAcNGHAcNHAcNNAcNNHAcNYAcNYHAcPAcPLAcQAcQGAcREFORMED TONE-1",
    "dTONE-2dTONE-4dTONE-5dTONE-6dTONE-8dTSHAcRTEcSAcSHAcSSAcSYIcTAcTEcTLHAcTLHYAcTONE-2",
    "cTONE-3cTONE-4cTONE-5cTONE-6cTONE-7cTONE-8cTSAcTSEcTSHAcTSSAcTTAcVAcVFAcWAcXAcYI DZHAdKA",
    "dNNAdPAdTAdTSAdTSHAdTTAcZAcZHAcZSAcZSHAcZZAcZZSAcZZSYAcZZYAbSIGN ASPIRATION",
    "cCONSONANT MODIFIER BARcREFORMED ASPIRATIONdVOICINGbTONE ABOVEcBELOWcRIGHTcTOP RIGHT",
    "bVOWEL SIGN AdAAdAEdAEEdAHHdAIdANdANGdAUdEdEAdEIdENdENGdERdERRdIdIAdIANdIANGdIEdIGdII",
    "dINGdIOdIONGdIUdNdNGdOdOERdOEYdOGdOOdOUdROUNDED EReERRdUdUAdUANdUANGdUEIdUIdUNGdUOGdUU",
    "dVWdWdWOdYdYIdYUIaMICR DASH SYMBOLbON US SYMBOLaMICRO SIGNaMICROBEaMICROPHONEaMICROSCOPE",
    "aMIDDLE DOTbTHIRD WHITE RIGHT POINTING INDEXaMIDLINE HORIZONTAL ELLIPSISaMILITARY HELMET",
    "bMEDALaMILKY WAYaMILL SIGNaMINIBUSaMINIDISCaMINIMIZEaMINUS SIGNcIN TRIANGLE",
    "cWITH COMMA ABOVEdDOT BELOWdFALLING DOTSdRISING DOTSbTILDEaMINUS-OR-PLUS SIGNaMINY",
    "aMIRRORbBALLaMMSPaMOBILE PHONEcOFFcWITH RIGHTWARDS ARROW AT LEFTaMODELS",
    "aMODERN PENTATHLONaMODI ABBREVIATION SIGNbDANDAbDIGIT EIGHTcFIVEcFOURcNINEcONEcSEVENcSIX",
    "cTHREEcTWOcZERObDOUBLE DANDAbLETTER AcAAcAIcAUcBAcBHAcCAcCHAcDAcDDAcDDHAcDHAcEcGAcGHAcHA",
    "cIcIIcJAcJHAcKAcKHAcLAcLLAcMAcNAcNGAcNNAcNYAcOcPAcPHAcRAcSAcSHAcSSAcTAcTHAcTTAcTTHAcUcUU",
    "cVAcVOCALIC LdLLdRdRRcYAbSIGN ANUSVARAcARDHACANDRAcHUVAcVIRAMAcVISARGAbVOWEL SIGN AAdAI",
    "dAUdEdIdIIdOdUdUUdVOCALIC LeLLeReRRaMODIFIER BREVE WITH INVERTED BREVE",
    "bLETTER ACUTE ACCENTcALVEOLAR CLICKcAPOSTROPHEcBEGIN HIGH TONEdLOW TONEcBILABIAL CLICK",
    "cCAPITAL AdAEdBdBARRED BdCdDdEdFdGdHeWITH STROKEdIdJdKdLdMdNdOdOUdPdQdRdREVERSED EeNdTdU",
    "dVdWcCENTRED LEFT HALF RINGdRIGHT HALF RINGcCHINESE TONE YANG PINGfQUfRUfSHANGeYIN PING",
    "fQUfRUfSHANGcCIRCUMFLEX ACCENTcCOLONcCROSS ACCENTcCYRILLIC ENdHARD SIGNdSOFT SIGN",
    "cDENTAL CLICKcDOT HORIZONTAL BARdSLASHdVERTICAL BARcDOUBLE APOSTROPHEdPRIME",
    "cDOWN ARROWHEADdTACKcEND HIGH TONEdLOW TONEcEXTRA-HIGH DOTTED LEFT-STEM TONE BAR",
    "eTONE BARdLEFT-STEM TONE BARdTONE BARcEXTRA-LOW DOTTED LEFT-STEM TONE BAReTONE BAR",
    "dLEFT-STEM TONE BARdTONE BARcGEORGIAN NARcGLOTTAL STOPeWITH STROKEcGRAVE ACCENT",
    "cHALF TRIANGULAR COLONcHIGH DOTTED LEFT-STEM TONE BAReTONE BARdLEFT-STEM TONE BAR",
    "dTONE BARcLATERAL CLICKcLEFT ARROWHEADdHALF RINGdTACKcLOW ACUTE ACCENTdCIRCUMFLEX ACCENT",
    "dDOTTED LEFT-STEM TONE BAReTONE BARdDOWN ARROWHEADdGRAVE ACCENT",
    "dINVERTED EXCLAMATION MARKdLEFT ARROWeARROWHEADdLEFT-STEM TONE BARdMACRON",
    "dRIGHT ARROWHEADdRINGdTILDEdTONE BARdUP ARROWHEADdVERTICAL LINEcLOWER RIGHT CORNER ANGLE",
    "cMACRONcMID DOTTED LEFT-STEM TONE BAReTONE BARdLEFT-STEM TONE BARdTONE BAR",
    "cMIDDLE DOUBLE ACUTE ACCENTeGRAVE ACCENTdGRAVE ACCENTcMINUS SIGNcOPEN SHELFcPLUS SIGN",
    "cPRIMEcRAISED COLONdDOWN ARROWdEXCLAMATION MARKdINVERTED EXCLAMATION MARKdUP ARROW",
    "cRETROFLEX CLICK WITH RETROFLEX HOOKcREVERSED COMMAdGLOTTAL STOPfWITH STROKEcRHOTIC HOOK",
    "cRIGHT ARROWHEADdHALF RINGdTACKcSHELFcSHORT EQUALS SIGNcSMALL AdAEdAINdALPHAdBeWITH HOOK",
    "dBARRED OdBETAdBOTTOM HALF OdCeWITH CURLdCAPITAL AAeBeGfWITH HOOKeHeIfWITH STROKE",
    "eINVERTED ReLfWITH BELTeNeOEeReUeYdCHIdCLOSED OMEGAeREVERSED OPEN EdDeWITH HOOKgAND TAIL",
    "fTAILdDELTAdDEZH DIGRAPHdDOTLESS J WITH STROKEhAND HOOKdDZ DIGRAPHfWITH CURL",
    "gRETROFLEX HOOKdEdENGdESHdETHdEZHdFdFENG DIGRAPHdGeWITH HOOKdGAMMAdGREEK GAMMAePHIdH",
    "eWITH HOOKfSTROKEdHENGeWITH HOOKdI WITH STROKEdIOTAdJeWITH CROSSED-TAILdKdLeWITH BELT",
    "fINVERTED LAZY SfMIDDLE TILDEfPALATAL HOOKfRETROFLEX HOOKhAND BELTdLEZH",
    "eWITH RETROFLEX HOOKdLIGATURE OEdLS DIGRAPHdLZ DIGRAPHdMeWITH HOOKdN WITH LEFT HOOK",
    "fRETROFLEX HOOKdOeWITH STROKEdOPEN EeOdPdPHIdQdReWITH FISHHOOKfTAILdRAMS HORNdREVERSED E",
    "eGLOTTAL STOPeOPEN EdSeWITH CURLfHOOKdSCHWAdSCRIPT GdSIDEWAYS UdTeWITH PALATAL HOOK",
    "fRETROFLEX HOOKdTC DIGRAPH WITH CURLdTESH DIGRAPHdTHETAdTOP HALF OdTS DIGRAPH",
    "fWITH RETROFLEX HOOKdTURNED AeAEeALPHAeHeIeMfWITH LONG LEGeOPEN EeRfWITH HOOKgLONG LEG",
    "iAND RETROFLEX HOOKeVeWeYfWITH BELTdUeBAReWITH LEFT HOOKdUPSILONdVeWITH HOOKfRIGHT HOOK",
    "dWdXdYdZeWITH CURLfRETROFLEX HOOKcSTRESS AND HIGH TONEeLOW TONE",
    "cSUPERSCRIPT HALF TRIANGULAR COLONdTRIANGULAR COLONcTRIANGULAR COLONcTURNED COMMA",
    "cUNASPIRATEDcUP ARROWHEADdTACKcUScVERTICAL LINEcVOICINGcYANG DEPARTING TONE MARK",
    "cYIN DEPARTING TONE MARKaMODULO TWO SUMaMONEY BAGbWITH WINGSaMONEY-MOUTH FACE",
    "aMONGOLIAN BIRGAcWITH DOUBLE ORNAMENTdORNAMENTbCOLONbCOMMAbDIGIT EIGHTcFIVEcFOURcNINE",
    "cONEcSEVENcSIXcTHREEcTWOcZERObDOUBLE BIRGA WITH ORNAMENTbELLIPSISbFOUR DOTS",
    "bFREE VARIATION SELECTOR FOUReONEeTHREEeTWObFULL STOPbINVERTED BIRGA",
    "dWITH DOUBLE ORNAMENTbLETTER AcALI GALI AeAHeANUSVARA ONEeBALUDAeCAeDAeDAGALGAeDAMARU",
    "eDDAeHALF UfYAeIeINVERTED UBADAMAeKAeNGAeNNAePAePHAeSSAeTAeTHREE BALUDAeTTAeTTHAeUBADAMA",
    "eVISARGA ONEeZAeZHAcANGcBAcCHAdWITH TWO DOTScCHIcDAcEcEEcFAcGAcHAAcIcJAcKAcKHAcLAcLHAcMA",
    "cMANCHU ALI GALI BHAfCAfCYAfDDHAfDHAfGHAfJHAfLHAfNGAfSSAfTAfTTAfZAfZHAdFAdIdKAdRAdZHAcNA",
    "cOcOEcPAcQAcRAcSAcSHAcSIBE ANGdCHAdDAdEdFAdGAdGAAdHAdHAAdIdIYdJAdKAdPAdRAAdSHAdTAdTSAdU",
    "dUEdZAdZHAcTAcTODO ALI GALI TAfZHAdANGdBAdCHAdDAdDZAdEdGAdGAAdHAAdIdJAdJIAdKA",
    "dLONG VOWEL SIGNdMAdNIAdOdOEdPAdQAdTAdTSAdUdUEdWAdYAcTSAcUcUEcWAcYAcZAcZHIcZRA",
    "bMANCHU COMMAcFULL STOPbNIRUGUbROTATED BIRGAdWITH DOUBLE ORNAMENTeORNAMENT",
    "bSIBE SYLLABLE BOUNDARY MARKERbSWIRL BIRGAdWITH DOUBLE ORNAMENTeORNAMENT",
    "bTODO SOFT HYPHENbTRIPLE BIRGA WITH ORNAMENTbTURNED SWIRL BIRGA WITH DOUBLE ORNAMENT",
    "bVOWEL SEPARATORaMONKEYbFACEaMONOGRAM FOR EARTHcYANGcYINaMONORAILaMONOSTABLE SYMBOL",
    "aMOOD BUBBLEaMOON CAKEbVIEWING CEREMONYaMOSQUEaMOSQUITOaMOTHER CHRISTMASaMOTOR BOAT",
    "bSCOOTERaMOTORIZED WHEELCHAIRaMOTORWAYaMOUNT FUJIaMOUNTAINbBICYCLISTbCABLEWAYbRAILWAY",
    "aMOUSEbFACEbTRAPaMOUTHaMOVIE CAMERAaMOYAIaMRO DANDAbDIGIT EIGHTcFIVEcFOURcNINEcONEcSEVEN",
    "cSIXcTHREEcTWOcZERObDOUBLE DANDAbLETTER AcBAcCHUcDAcDAIcEcEAcHAIcHAOcKEAAEcKHAIcKOcLA",
    "cLANcMAEMcMIMcNGIcNINcOcOLcOOcPAcPHIcRIcROcSHIcTAcTEKcTHEAcWAcYOaMUCH GREATER-THAN",
    "bLESS-THANaMULTANI LETTER AcBAcBHAcCAcCHAcDAcDDAcDDDAcDDHAcDHAcEcGAcGHAcHAcIcJAcJJAcKA",
    "cKHAcLAcMAcNAcNNAcNYAcPAcPHAcRAcRHAcRRAcSAcTAcTHAcTTAcTTHAcUcVAcYAbSECTION MARKaMULTIMAP",
    "aMULTIPLE MUSICAL NOTESaMULTIPLICATION SIGNcIN DOUBLE CIRCLEdLEFT HALF CIRCLE",
    "dRIGHT HALF CIRCLEdTRIANGLEcWITH DOT ABOVEdUNDERBARbXaMULTISETbMULTIPLICATIONbUNION",
    "aMUSHROOMaMUSIC FLAT SIGNbNATURAL SIGNbSHARP SIGNaMUSICAL KEYBOARDcWITH JACKSbNOTEbSCORE",
    "bSYMBOL ARPEGGIATO DOWNdUPcBEGIN BEAMdPHRASEdSLURdTIEcBRACEcBRACKETcBREATH MARKcBREVE",
    "cBREVISdRESTcC CLEFcCAESURAcCIRCLE X NOTEHEADcCLIMACUScCLIVIScCLUSTER NOTEHEAD BLACK",
    "eWHITEcCODAcCOMBINING ACCENTdACCENT-STACCATOdAUGMENTATION DOTdBENDdDOITdDOUBLE TONGUE",
    "dDOWN BOWdFLAG-1dFLAG-2dFLAG-3dFLAG-4dFLAG-5dFLIPdHARMONICdLOUREdMARCATO",
    "dMARCATO-STACCATOdRIPdSMEARdSNAP PIZZICATOdSPRECHGESANG STEMdSTACCATISSIMOdSTACCATOdSTEM",
    "dTENUTOdTREMOLO-1dTREMOLO-2dTREMOLO-3dTRIPLE TONGUEdUP BOWcCOMMON TIMEcCRESCENDOcCROIX",
    "cCUT TIMEcDA CAPOcDAL SEGNOcDAMPdALLcDASHED BARLINEcDECRESCENDOcDEGREE SLASH",
    "cDOUBLE BARLINEdFLATdSHARPcDRUM CLEF-1dCLEF-2cEIGHTH NOTEdRESTcEND BEAMdOF STIMMEdPHRASE",
    "dSLURdTIEcF CLEFeOTTAVA ALTAfBASSAcFERMATAdBELOWcFINAL BARLINEcFINGERED TREMOLO-1",
    "dTREMOLO-2dTREMOLO-3cFIVE-LINE STAFFcFLAT DOWNdUPcFORTEcFOUR-LINE STAFF",
    "cFOUR-STRING FRETBOARDcFUSA BLACKdWHITEcG CLEFeOTTAVA ALTAfBASSAcGLISSANDO DOWNdUP",
    "cGRACE NOTE NO SLASHeSLASHcGREGORIAN C CLEFdF CLEFcHALF NOTEdPEDAL MARKdRESTcHAUPTSTIMME",
    "cINVERTED TURNcKIEVAN C CLEFdEIGHTH NOTE STEM DOWNgUPdEND OF PIECEdFINAL NOTEdFLAT SIGN",
    "dHALF NOTEdQUARTER NOTE STEM DOWNgUPdRECITATIVE MARKdWHOLE NOTEcKORONcLEFT REPEAT SIGN",
    "cLONGAdIMPERFECTA RESTdPERFECTA RESTcMAXIMAcMEZZOcMINIMAdBLACKdRESTcMOON NOTEHEAD BLACK",
    "eWHITEcMULTI RESTcMULTIPLE MEASURE RESTcNATURAL DOWNdUPcNEBENSTIMMEcNOTEHEAD BLACK",
    "cNULL NOTEHEADcONE HUNDRED TWENTY-EIGHTH NOTEfRESTcONE-LINE STAFFcORNAMENT STROKE-1",
    "dSTROKE-10dSTROKE-11dSTROKE-2dSTROKE-3dSTROKE-4dSTROKE-5dSTROKE-6dSTROKE-7dSTROKE-8",
    "dSTROKE-9cOTTAVA ALTAdBASSAcPARENTHESIS NOTEHEADcPEDAL MARKdUP MARKcPES SUBPUNCTIScPIANO",
    "cPLUS NOTEHEADcPODATUScPORRECTUSdFLEXUScQUARTER NOTEdRESTdTONE FLATeSHARP",
    "cQUINDICESIMA ALTAdBASSAcREPEAT DOTScREPEATED FIGURE-1dFIGURE-2dFIGURE-3",
    "cREVERSE FINAL BARLINEcRIGHT REPEAT SIGNcRINFORZANDOcSCANDICUSdFLEXUScSEGNO",
    "cSEMIBREVIS BLACKdRESTdWHITEcSEMIMINIMA BLACKdRESTdWHITEcSHARP DOWNdUPcSHORT BARLINE",
    "cSINGLE BARLINEcSIX-LINE STAFFcSIX-STRING FRETBOARDcSIXTEENTH NOTEdREST",
    "cSIXTY-FOURTH NOTEdRESTcSORIcSQUARE BdNOTEHEAD BLACKeWHITEcSUBITO",
    "cTEMPUS IMPERFECTUM CUM PROLATIONE IMPERFECTAhDIMINUTION-1hDIMINUTION-2hDIMINUTION-3",
    "gPERFECTAdPERFECTUM CUM PROLATIONE IMPERFECTAgPERFECTAhDIMINUTION-1cTHIRTY-SECOND NOTE",
    "dRESTcTHREE-LINE STAFFcTORCULUSdRESUPINUScTRcTRIANGLE NOTEHEAD DOWN BLACKfWHITE",
    "eLEFT BLACKfWHITEeRIGHT BLACKfWHITEeUP BLACKfRIGHT BLACKgWHITEfWHITE",
    "cTRIANGLE-ROUND NOTEHEAD DOWN BLACKfWHITEcTURNdSLASHdUPcTWO-LINE STAFFcVIRGA",
    "cVOID NOTEHEADcWHOLE NOTEdRESTcWITH FINGERNAILScX NOTEHEADcZaMVSaMW",
    "aMYANMAR CONSONANT SIGN MEDIAL HAeRAeWAeYAdMON MEDIAL LAfMAfNAdSHAN MEDIAL WA",
    "bDIGIT EIGHTcFIVEcFOURcNINEcONEcSEVENcSIXcTHREEcTWOcZERObLETTER AcAITON RAcAUcBAcBHAcCA",
    "cCHAcDAcDDAcDDHAcDHAcEcEASTERN PWO KAREN GHWAfNNAfYWAcGAcGHAcGREAT SAcHAcIcIIcJAcJHAcKA",
    "cKHAcKHAMTI CAdCHAdDDAdDDHAdDHAdFAdGAdHAdHHAdJAdJHAdLLAdNAdNYAdRAdSAdTTAdTTHAdXAdZAcLA",
    "cLLAcMAcMON BBAdBBEdEdJHAdNGAcNAcNGAcNNAcNNYAcNYAcOcPAcPHAcRAcRUMAI PALAUNG FAcSA",
    "cSGAW KAREN SHAcSHAcSHAN AdBAdBHAdCAdCHAdDAdFAdGAdGHAdHAdJHAdKAdKHAdNAdNNAdNYAdPHAdTHA",
    "dZAcSHWE PALAUNG CHAeSHAcSSAcTAcTAI LAING BAeBHAeDAeDDAeDDHAeDHAeFAeGAeGHAeJAeJHAeLLA",
    "eNNAeNYAcTHAcTTAcTTHAcUcUUcVOCALIC LdLLdRdRRcWAcWESTERN PWO KAREN PWAfTHAcYA",
    "bLOGOGRAM KHAMTI HMdOAYdQNbMODIFIER LETTER KHAMTI REDUPLICATIONdSHAN REDUPLICATION",
    "bSHAN DIGIT EIGHTdFIVEdFOURdNINEdONEdSEVENdSIXdTHREEdTWOdZERObSIGN ANUSVARAcASAT",
    "cDOT BELOWcKHAMTI TONE-1dTONE-3cLITTLE SECTIONcPAO KAREN TONEcRUMAI PALAUNG TONE-5",
    "cSECTIONcSHAN COUNCIL EMPHATIC TONEeTONE-2eTONE-3dSAWdTONE-2dTONE-3dTONE-5dTONE-6",
    "cTAI LAING TONE-2eTONE-5cVIRAMAcVISARGAcWESTERN PWO KAREN TONE-1fTONE-2fTONE-3fTONE-4",
    "fTONE-5bSYMBOL AFOREMENTIONEDcAITON EXCLAMATIONdONEdTWOcCOMPLETEDcGENITIVEcLOCATIVE",
    "cSHAN EXCLAMATIONdONEbTAI LAING DIGIT EIGHTeFIVEeFOUReNINEeONEeSEVENeSIXeTHREEeTWOeZERO",
    "bTONE MARK SGAW KAREN HATHIfKE PHObVOWEL SIGN AAdAIdAITON AeAIdEeABOVEdGEBA KAREN IdIdII",
    "dKAYAH EEeOEeUdMON IIeOdSGAW KAREN EUdSHAN AAeEfABOVEeFINAL YdTALL AAdUdUUdVOCALIC LeLL",
    "eReRRdWESTERN PWO KAREN EUgUE"]

end CharacterName

end ElementBindings
