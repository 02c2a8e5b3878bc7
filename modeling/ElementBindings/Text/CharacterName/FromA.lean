/-
  The names that start with A.  A small letter in front of a
  name says how many words it shares with the name before it,
  from a for none on; only its further words are written.

  Key definitions include:
    * `CharacterName.fromA`
-/

namespace ElementBindings

namespace CharacterName

------------------------------------------------------------
-- Names
------------------------------------------------------------

/- The names that start with A. -/
def fromA : List String := [
    "aABACUSaAC CURRENTaACCORDIONaACCOUNT OFaACKaACKNOWLEDGEaACTIVATE ARABIC FORM SHAPING",
    "bSYMMETRIC SWAPPINGaACUTE ACCENTbANGLEaADDRESSED TO THE SUBJECTaADHESIVE BANDAGE",
    "aADI SHAKTIaADLAM ALIF LENGTHENERbCAPITAL LETTER ALIFdBAdBHEdCHIdDAALIdDHAdEdFAdGAdGBE",
    "dHAdIdJIIMdKAFdKHAdKPOdLAAMdMIIMdNHAdNUNdNYAdOdPEdQAAFdRAdSHAdSINNYIIYHEdTUdUdVAdWAWdYA",
    "dYHEdZALbCONSONANT MODIFIERbDIGIT EIGHTcFIVEcFOURcNINEcONEcSEVENcSIXcTHREEcTWOcZERO",
    "bGEMINATE CONSONANT MODIFIERbGEMINATION MARKbHAMZAbINITIAL EXCLAMATION MARK",
    "cQUESTION MARKbNASALIZATION MARKbNUKTAbSMALL LETTER ALIFdBAdBHEdCHIdDAALIdDHAdEdFAdGA",
    "dGBEdHAdIdJIIMdKAFdKHAdKPOdLAAMdMIIMdNHAdNUNdNYAdOdPEdQAAFdRAdSHAdSINNYIIYHEdTUdUdVAdWAW",
    "dYAdYHEdZALbVOWEL LENGTHENERaADMETOSaADMISSION TICKETSaADULTaAEGEAN CHECK MARK",
    "bDRY MEASURE FIRST SUBUNITbLIQUID MEASURE FIRST SUBUNITbMEASURE SECOND SUBUNIT",
    "cTHIRD SUBUNITbNUMBER EIGHTdHUNDREDdTHOUSANDcEIGHTYdTHOUSANDcFIFTYdTHOUSANDcFIVEdHUNDRED",
    "dTHOUSANDcFORTYdTHOUSANDcFOURdHUNDREDdTHOUSANDcNINEdHUNDREDdTHOUSANDcNINETYdTHOUSANDcONE",
    "dHUNDREDdTHOUSANDcSEVENdHUNDREDdTHOUSANDcSEVENTYdTHOUSANDcSIXdHUNDREDdTHOUSANDcSIXTY",
    "dTHOUSANDcTENdTHOUSANDcTHIRTYdTHOUSANDcTHREEdHUNDREDdTHOUSANDcTWENTYdTHOUSANDcTWO",
    "dHUNDREDdTHOUSANDbWEIGHT BASE UNITcFIRST SUBUNITcFOURTH SUBUNITcSECOND SUBUNIT",
    "cTHIRD SUBUNITbWORD SEPARATOR DOTdLINEaAERIAL TRAMWAYaAFGHANI SIGN",
    "aAHOM CONSONANT SIGN MEDIAL LAeLIGATING RAeRAbDIGIT EIGHTcFIVEcFOURcNINEcONEcSEVENcSIX",
    "cTHREEcTWOcZERObLETTER AcALTERNATE BAdGAdTAcBAcBHAcCAcCHAcDAcDDAcDDHAcDHAcGAcGHAcHAcJA",
    "cJHAcKAcKHAcLAcLLAcMAcNAcNGAcNNAcNYAcPAcPHAcRAcSAcTAcTHAcTTAcTTHAbNUMBER TENcTWENTY",
    "bSIGN KILLERcRULAIcSECTIONcSMALL SECTIONbSYMBOL VIbVOWEL SIGN AdAAdAIdAMdAWdEdIdIIdOdU",
    "dUUaAIRPLANEbARRIVINGbDEPARTUREaAKTIESELSKABaALARM CLOCKaALCHEMICAL SYMBOL FOR AIR",
    "dALEMBICdALKALIdALKALI-2dALUMdAMALGAMdANTIMONY OREdAQUA REGIAeREGIA-2eVITAEeVITAE-2",
    "dAQUAFORTISdARSENICdASHESdAURIPIGMENTdBATH OF MARYfVAPOURSdBISMUTH OREdBLACK SULFUR",
    "dBORAXdBORAX-2dBORAX-3dBRICKdCADUCEUSdCALXdCAPUT MORTUUMdCINNABARdCOPPER ANTIMONIATEeORE",
    "dCROCUS OF COPPERfCOPPER-2fIRONdCRUCIBLEdCRUCIBLE-2dCRUCIBLE-3dCRUCIBLE-4dCRUCIBLE-5",
    "dDAY-NIGHTdDISSOLVEdDISSOLVE-2dDISTILLdEARTHdFIREdGOLDdGUMdHALF DRAMeOUNCEdHORSE DUNG",
    "dHOURdIRON OREeORE-2dIRON-COPPER OREdLEAD OREdLODESTONEdMARCASITEdMERCURY SUBLIMATE",
    "eSUBLIMATE-2eSUBLIMATE-3dMONTHdNIGHTdNITREdOILdPHILOSOPHERS SULFURdPOT ASHESdPOWDER",
    "dPOWDERED BRICKdPRECIPITATEdPURIFYdPUTREFACTIONdQUICK LIMEdQUINTESSENCEdREALGAR",
    "dREALGAR-2dREGULUSeOF ANTIMONYfANTIMONY-2fIRONdREGULUS-2dREGULUS-3dREGULUS-4dRETORT",
    "dROCK SALTeSALT-2dSAL-AMMONIACdSALTeOF ANTIMONYfCOPPER ANTIMONIATEdSCEPTER OF JOVE",
    "dSILVERdSOAPdSPIRITdSTARRED TRIDENTdSTRATUM SUPER STRATUMfSTRATUM-2",
    "dSUBLIMATE OF ANTIMONYfCOPPERfSALT OF ANTIMONYhCOPPERdSUBLIMATIONdSULFURdTARTARdTARTAR-2",
    "dTIN OREdTINCTUREdTRIDENTdTUTTYdURINEdVERDIGRISdVINEGAReOF ANTIMONYdVINEGAR-2dVINEGAR-3",
    "dVITRIOLdVITRIOL-2dWATERdWAXaALEF SYMBOLaALEMBICaALERTaALIEN MONSTERaALL AROUND-PROFILE",
    "bEQUAL TOaALMaALMOST EQUAL OR EQUAL TOcTOdWITH CIRCUMFLEX ACCENT",
    "aALTERNATE ONE-WAY LEFT WAY TRAFFICaALTERNATIVE KEY SYMBOLaAMALGAMATION OR COPRODUCT",
    "aAMBULANCEaAMERICAN FOOTBALLaAMPERSANDaAMPHORAaANATOLIAN HIEROGLYPH A001cA002cA003cA004",
    "cA005cA006cA007cA008cA009cA010cA010AcA011cA012cA013cA014cA015cA016cA017cA018cA019cA020",
    "cA021cA022cA023cA024cA025cA026cA026AcA027cA028cA029cA030cA031cA032cA033cA034cA035cA036",
    "cA037cA038cA039cA039AcA040cA041cA041AcA042cA043cA044cA045cA045AcA046cA046AcA046BcA047",
    "cA048cA049cA050cA051cA052cA053cA054cA055cA056cA057cA058cA059cA060cA061cA062cA063cA064",
    "cA065cA066cA066AcA066BcA066CcA067cA068cA069cA070cA071cA072cA073cA074cA075cA076cA077cA078",
    "cA079cA080cA081cA082cA083cA084cA085cA086cA087cA088cA089cA090cA091cA092cA093cA094cA095",
    "cA096cA097cA097AcA098cA098AcA099cA100cA100AcA101cA101AcA102cA102AcA103cA104cA104AcA104B",
    "cA104CcA105cA105AcA105BcA106cA107cA107AcA107BcA107CcA108cA109cA110cA110AcA110BcA111cA112",
    "cA113cA114cA115cA115AcA116cA117cA118cA119cA120cA121cA122cA123cA124cA125cA125AcA126cA127",
    "cA128cA129cA130cA131cA132cA133cA134cA135cA135AcA136cA137cA138cA139cA140cA141cA142cA143",
    "cA144cA145cA146cA147cA148cA149cA150cA151cA152cA153cA154cA155cA156cA157cA158cA159cA160",
    "cA161cA162cA163cA164cA165cA166cA167cA168cA169cA170cA171cA172cA173cA174cA175cA176cA177",
    "cA178cA179cA180cA181cA182cA183cA184cA185cA186cA187cA188cA189cA190cA191cA192cA193cA194",
    "cA195cA196cA197cA198cA199cA200cA201cA202cA202AcA202BcA203cA204cA205cA206cA207cA207AcA208",
    "cA209cA209AcA210cA211cA212cA213cA214cA215cA215AcA216cA216AcA217cA218cA219cA220cA221cA222",
    "cA223cA224cA225cA226cA227cA227AcA228cA229cA230cA231cA232cA233cA234cA235cA236cA237cA238",
    "cA239cA240cA241cA242cA243cA244cA245cA246cA247cA248cA249cA250cA251cA252cA253cA254cA255",
    "cA256cA257cA258cA259cA260cA261cA262cA263cA264cA265cA266cA267cA267AcA268cA269cA270cA271",
    "cA272cA273cA274cA275cA276cA277cA278cA279cA280cA281cA282cA283cA284cA285cA286cA287cA288",
    "cA289cA289AcA290cA291cA292cA293cA294cA294AcA295cA296cA297cA298cA299cA299AcA300cA301cA302",
    "cA303cA304cA305cA306cA307cA308cA309cA309AcA310cA311cA312cA313cA314cA315cA316cA317cA318",
    "cA319cA320cA321cA322cA323cA324cA325cA326cA327cA328cA329cA329AcA330cA331cA332AcA332B",
    "cA332CcA333cA334cA335cA336cA336AcA336BcA336CcA337cA338cA339cA340cA341cA342cA343cA344",
    "cA345cA346cA347cA348cA349cA350cA351cA352cA353cA354cA355cA356cA357cA358cA359cA359AcA360",
    "cA361cA362cA363cA364cA364AcA365cA366cA367cA368cA368AcA369cA370cA371cA371AcA372cA373cA374",
    "cA375cA376cA377cA378cA379cA380cA381cA381AcA382cA383 RA OR RIcA383AcA384cA385cA386cA386A",
    "cA387cA388cA389cA390cA391cA392cA393 EIGHTcA394cA395cA396cA397cA398cA399cA400cA401cA402",
    "cA403cA404cA405cA406cA407cA408cA409cA410 BEGIN LOGOGRAM MARKcA410A END LOGOGRAM MARK",
    "cA411cA412cA413cA414cA415cA416cA417cA418cA419cA420cA421cA422cA423cA424cA425cA426cA427",
    "cA428cA429cA430cA431cA432cA433cA434cA435cA436cA437cA438cA439cA440cA441cA442cA443cA444",
    "cA445cA446cA447cA448cA449cA450cA450AcA451cA452cA453cA454cA455cA456cA457cA457AcA458cA459",
    "cA460cA461cA462cA463cA464cA465cA466cA467cA468cA469cA470cA471cA472cA473cA474cA475cA476",
    "cA477cA478cA479cA480cA481cA482cA483cA484cA485cA486cA487cA488cA489cA490cA491cA492cA493",
    "cA494cA495cA496cA497cA501cA502cA503cA504cA505cA506cA507cA508cA509cA510cA511cA512cA513",
    "cA514cA515cA516cA517cA518cA519cA520cA521cA522cA523cA524cA525cA526cA527cA528cA529cA530",
    "aANATOMICAL HEARTaANCHORaAND WITH DOTaANGER SYMBOLaANGLEbWITH S INSIDEcUNDERBAR",
    "aANGRY FACEaANGSTROM SIGNaANGUISHED FACEaANKHaANTaANTENNA WITH BARS",
    "aANTICLOCKWISE CLOSED CIRCLE ARROWbCONTOUR INTEGRAL",
    "bDOWNWARDS AND UPWARDS OPEN CIRCLE ARROWSbGAPPED CIRCLE ARROWbINTEGRATION",
    "bOPEN CIRCLE ARROWbTOP SEMICIRCLE ARROWbTRIANGLE-HEADED BOTTOM U-SHAPED ARROW",
    "cLEFT U-SHAPED ARROWcOPEN CIRCLE ARROWcRIGHT U-SHAPED ARROWcTOP U-SHAPED ARROWaAPC",
    "aAPL FUNCTIONAL SYMBOL ALPHAeUNDERBARdBACKSLASH BARdCIRCLE BACKSLASHeDIAERESISeJOTeSTAR",
    "eSTILEeUNDERBARdCOMMA BARdDEL DIAERESISeSTILEeTILDEdDELTA STILEeUNDERBAR",
    "dDIAMOND UNDERBARdDOWN CARET TILDEeSHOE STILEeTACK JOTfUNDERBARdDOWNWARDS VANE",
    "dEPSILON UNDERBARdGREATER-THAN DIAERESISdI-BEAMdIOTAeUNDERBARdJOT DIAERESISeUNDERBAR",
    "dLEFT SHOE STILEdLEFTWARDS VANEdOMEGAeUNDERBARdQUADeBACKSLASHeCIRCLEeCOLONeDELeDELTA",
    "eDIAMONDeDIVIDEeDOWN CARETeDOWNWARDS ARROWeEQUALeGREATER-THANeJOTeLEFTWARDS ARROW",
    "eLESS-THANeNOT EQUALeQUESTIONeRIGHTWARDS ARROWeSLASHeUP CARETeUPWARDS ARROWdQUOTE QUAD",
    "eUNDERBARdRHOdRIGHTWARDS VANEdSEMICOLON UNDERBARdSLASH BARdSQUISH QUADdSTAR DIAERESIS",
    "dSTILE TILDEdTILDE DIAERESISdUP CARET TILDEeSHOE JOTeTACK DIAERESISfJOTfOVERBAR",
    "dUPWARDS VANEdZILDEaAPOLLONaAPOSTROPHEaAPPLICATION PROGRAM COMMANDaAPPROACHES THE LIMIT",
    "aAPPROXIMATELY BUT NOT ACTUALLY EQUAL TObEQUAL OR EQUAL TOcTOdOR THE IMAGE OFaAQUARIUS",
    "aARABIC BASELINE ROUND DOTbCOMMAbCURLY DAMMAcDAMMATANcFATHAcFATHATANcKASRAcKASRATAN",
    "bDAMMAcISOLATED FORMcMEDIAL FORMcWITH DOTbDAMMATANcISOLATED FORMbDATE SEPARATOR",
    "bDECIMAL SEPARATORbDISPUTED END OF AYAHbDOUBLE RIGHT ARROWHEAD ABOVEfWITH DOT",
    "bDOUBLED MADDAbEMPTY CENTRE HIGH STOPdLOW STOPbEND OF AYAHdTEXT MARKbFATHAcISOLATED FORM",
    "cMEDIAL FORMcWITH DOT ABOVEdRINGdTWO DOTSbFATHATANcISOLATED FORMbFIVE POINTED STAR",
    "bFOOTNOTE MARKERbFULL STOPbHALF MADDA OVER MADDAbHAMZA ABOVEcBELOWbINVERTED DAMMAbKASRA",
    "cISOLATED FORMcMEDIAL FORMcWITH DOT BELOWbKASRATANcISOLATED FORMbLARGE CIRCLE BELOW",
    "cROUND DOT ABOVEeBELOWeINSIDE CIRCLE BELOWbLEFT ARROWHEAD ABOVEdBELOWbLETTER AE",
    "cAFRICAN FEHdNOONdQAFeWITH THREE DOTS ABOVEcAINdFINAL FORMdINITIAL FORMdISOLATED FORM",
    "dMEDIAL FORMdWITH THREE DOTS ABOVEgBELOWgPOINTING DOWNWARDS ABOVEeTWO DOTS ABOVE",
    "gVERTICALLY ABOVEcALEFdFINAL FORMdISOLATED FORMdMAKSURAeFINAL FORMeISOLATED FORMdWASLA",
    "eFINAL FORMeISOLATED FORMdWITH ATTACHED BOTTOM RIGHT KASRAiAND DOT ABOVEjLEFT RINGfFATHA",
    "fKASRAfLEFT HAMZAgROUND DOTfRIGHT HAMZAgROUND DOTfROUND DOT ABOVEhBELOWfTOP RIGHT FATHA",
    "iAND DOT ABOVEjLEFT RINGeDOT ABOVEeEXTENDED ARABIC-INDIC DIGIT THREE ABOVEhTWO ABOVE",
    "eHAMZA ABOVEgFINAL FORMgISOLATED FORMfBELOWgFINAL FORMgISOLATED FORMeLEFT MIDDLE STROKE",
    "eMADDA ABOVEgFINAL FORMgISOLATED FORMeRIGHT MIDDLE STROKEhAND DOT ABOVEiLEFT RING",
    "eWAVY HAMZA ABOVEgBELOWcBEEHdFINAL FORMdINITIAL FORMdISOLATED FORMdMEDIAL FORMcBEH",
    "dFINAL FORMdINITIAL FORMdISOLATED FORMdMEDIAL FORMdWITH DOT BELOW AND THREE DOTS ABOVE",
    "eHAMZA ABOVEeINVERTED SMALL V BELOWeSMALL MEEM ABOVEfVgBELOW",
    "eTHREE DOTS HORIZONTALLY BELOWgPOINTING UPWARDS BELOWjAND TWO DOTS ABOVE",
    "eTWO DOTS BELOW AND DOT ABOVEcBEHEHdFINAL FORMdINITIAL FORMdISOLATED FORMdMEDIAL FORM",
    "cDADdFINAL FORMdINITIAL FORMdISOLATED FORMdMEDIAL FORMdWITH DOT BELOWcDAHALdFINAL FORM",
    "dISOLATED FORMcDALdFINAL FORMdISOLATED FORMdWITH DOT BELOWgAND SMALL TAHeFOUR DOTS ABOVE",
    "eINVERTED SMALL V BELOWfVeRINGeTHREE DOTS ABOVE DOWNWARDSgBELOW",
    "eTWO DOTS VERTICALLY BELOW AND SMALL TAHcDDAHALdFINAL FORMdISOLATED FORMcDDALdFINAL FORM",
    "dISOLATED FORMcDOTLESS BEHdFEHdQAFcDULdFINAL FORMdISOLATED FORMcDYEHdFINAL FORM",
    "dINITIAL FORMdISOLATED FORMdMEDIAL FORMcEdFINAL FORMdINITIAL FORMdISOLATED FORM",
    "dMEDIAL FORMcFARSI YEHeFINAL FORMeINITIAL FORMeISOLATED FORMeMEDIAL FORM",
    "eWITH EXTENDED ARABIC-INDIC DIGIT FOUR BELOWiTHREE ABOVEiTWO ABOVEfINVERTED V",
    "fTHREE DOTS ABOVEfTWO DOTS ABOVEcFEHdFINAL FORMdINITIAL FORMdISOLATED FORMdMEDIAL FORM",
    "dWITH DOT BELOWgAND THREE DOTS ABOVEfMOVED BELOWeTHREE DOTS BELOWgPOINTING UPWARDS BELOW",
    "eTWO DOTS BELOWcGAFdFINAL FORMdINITIAL FORMdISOLATED FORMdMEDIAL FORM",
    "dWITH INVERTED STROKEeRINGeTHREE DOTS ABOVEeTWO DOTS BELOWcGHAINdFINAL FORMdINITIAL FORM",
    "dISOLATED FORMdMEDIAL FORMdWITH DOT BELOWeTHREE DOTS ABOVEcGRAFcGUEHdFINAL FORM",
    "dINITIAL FORMdISOLATED FORMdMEDIAL FORMcHAHdFINAL FORMdINITIAL FORMdISOLATED FORM",
    "dMEDIAL FORMdWITH EXTENDED ARABIC-INDIC DIGIT FOUR BELOWeHAMZA ABOVE",
    "eINVERTED SMALL V BELOWeSMALL ARABIC LETTER TAH ABOVEiAND TWO DOTSiBELOW",
    "eTHREE DOTS ABOVEgPOINTING UPWARDS BELOWeTWO DOTS ABOVEgVERTICAL ABOVEcHAMZA",
    "dISOLATED FORMcHEHdDOACHASHMEEeFINAL FORMeINITIAL FORMeISOLATED FORMeMEDIAL FORM",
    "dFINAL FORMdGOALeFINAL FORMeINITIAL FORMeISOLATED FORMeMEDIAL FORMeWITH HAMZA ABOVE",
    "dINITIAL FORMdISOLATED FORMdMEDIAL FORMdWITH INVERTED VeYEH ABOVEgFINAL FORM",
    "gISOLATED FORMcHIGH HAMZAeALEFeWAWeYEHcJEEMdFINAL FORMdINITIAL FORMdISOLATED FORM",
    "dMEDIAL FORMdWITH THREE DOTS ABOVEgBELOWeTWO DOTS ABOVEcJEHdFINAL FORMdISOLATED FORMcKAF",
    "dFINAL FORMdINITIAL FORMdISOLATED FORMdMEDIAL FORMdWITH DOT ABOVEfBELOWeRING",
    "eTHREE DOTS BELOWeTWO DOTS ABOVEcKASHMIRI YEHcKEHEHdFINAL FORMdINITIAL FORM",
    "dISOLATED FORMdMEDIAL FORMdWITH DOT ABOVEeSMALL VeTHREE DOTS ABOVEgBELOW",
    "gPOINTING UPWARDS BELOWeTWO DOTS ABOVEgVERTICALLY BELOWcKHAHdFINAL FORMdINITIAL FORM",
    "dISOLATED FORMdMEDIAL FORMcKIRGHIZ OEeFINAL FORMeISOLATED FORMdYUeFINAL FORM",
    "eISOLATED FORMcLAMdFINAL FORMdINITIAL FORMdISOLATED FORMdMEDIAL FORMdWITH BAReDOT ABOVE",
    "eDOUBLE BAReSMALL ARABIC LETTER TAH ABOVEfVeTHREE DOTS ABOVEgBELOWcLOW ALEFcMARKcMEEM",
    "dFINAL FORMdINITIAL FORMdISOLATED FORMdMEDIAL FORMdWITH DOT ABOVEfBELOWeTHREE DOTS ABOVE",
    "cNGdFINAL FORMdINITIAL FORMdISOLATED FORMdMEDIAL FORMcNGOEHdFINAL FORMdINITIAL FORM",
    "dISOLATED FORMdMEDIAL FORMcNOONdFINAL FORMdGHUNNAeFINAL FORMeISOLATED FORMdINITIAL FORM",
    "dISOLATED FORMdMEDIAL FORMdWITH DOT BELOWeINVERTED SMALL VeRINGeSMALL TAHfV",
    "eTHREE DOTS ABOVEeTWO DOTS BELOWcNYEHdFINAL FORMdINITIAL FORMdISOLATED FORMdMEDIAL FORM",
    "cOEdFINAL FORMdISOLATED FORMcPEHdFINAL FORMdINITIAL FORMdISOLATED FORMdMEDIAL FORM",
    "dWITH SMALL MEEM ABOVEfVcPEHEHdFINAL FORMdINITIAL FORMdISOLATED FORMdMEDIAL FORMcQAF",
    "dFINAL FORMdINITIAL FORMdISOLATED FORMdMEDIAL FORMdWITH DOT ABOVEfBELOW",
    "gAND NO DOTS ABOVEeTHREE DOTS ABOVEcREHdFINAL FORMdISOLATED FORMdWITH DOT BELOW",
    "gAND DOT ABOVEeFOUR DOTS ABOVEeHAMZA ABOVEeINVERTED VeLOOPeRING",
    "eSMALL ARABIC LETTER TAH AND TWO DOTSfNOON ABOVEfVgBELOWeSTROKEeTWO DOTS ABOVE",
    "gVERTICALLY ABOVEcRNOONdFINAL FORMdINITIAL FORMdISOLATED FORMdMEDIAL FORMcROHINGYA YEH",
    "cRREHdFINAL FORMdISOLATED FORMcSADdFINAL FORMdINITIAL FORMdISOLATED FORMdMEDIAL FORM",
    "dWITH THREE DOTS ABOVEgBELOWeTWO DOTS BELOWcSEENdFINAL FORMdINITIAL FORMdISOLATED FORM",
    "dMEDIAL FORMdWITH DOT BELOW AND DOT ABOVEeEXTENDED ARABIC-INDIC DIGIT FOUR ABOVE",
    "eFOUR DOTS ABOVEeINVERTED VeSMALL ARABIC LETTER TAH AND TWO DOTSeTHREE DOTS BELOW",
    "hAND THREE DOTS ABOVEeTWO DOTS VERTICALLY ABOVEcSHEENdFINAL FORMdINITIAL FORM",
    "dISOLATED FORMdMEDIAL FORMdWITH DOT BELOWcSTRAIGHT WAWcSUPERSCRIPT ALEFcSWASH KAFcTAH",
    "dFINAL FORMdINITIAL FORMdISOLATED FORMdMEDIAL FORMdWITH DOT BELOWeTHREE DOTS ABOVEgBELOW",
    "eTWO DOTS ABOVEcTCHEHdFINAL FORMdINITIAL FORMdISOLATED FORMdMEDIAL FORMdWITH DOT ABOVE",
    "eSMALL VcTCHEHEHdFINAL FORMdINITIAL FORMdISOLATED FORMdMEDIAL FORMcTEHdFINAL FORM",
    "dINITIAL FORMdISOLATED FORMdMARBUTAeFINAL FORMeGOALeISOLATED FORMdMEDIAL FORMdWITH RING",
    "eSMALL TEH ABOVEfVeTHREE DOTS ABOVE DOWNWARDScTEHEHdFINAL FORMdINITIAL FORM",
    "dISOLATED FORMdMEDIAL FORMcTHALdFINAL FORMdISOLATED FORMcTHEHdFINAL FORMdINITIAL FORM",
    "dISOLATED FORMdMEDIAL FORMcTHIN YEHcTTEHdFINAL FORMdINITIAL FORMdISOLATED FORM",
    "dMEDIAL FORMdWITH SMALL VcTTEHEHdFINAL FORMdINITIAL FORMdISOLATED FORMdMEDIAL FORMcU",
    "dFINAL FORMdISOLATED FORMdWITH HAMZA ABOVEgISOLATED FORM",
    "cUIGHUR KAZAKH KIRGHIZ ALEF MAKSURA INITIAL FORMhMEDIAL FORMcVEdFINAL FORMdISOLATED FORM",
    "cVEHdFINAL FORMdINITIAL FORMdISOLATED FORMdMEDIAL FORMcWAWdFINAL FORMdISOLATED FORM",
    "dWITH DOT ABOVEfWITHINeEXTENDED ARABIC-INDIC DIGIT THREE ABOVEhTWO ABOVEeHAMZA ABOVE",
    "gFINAL FORMgISOLATED FORMeRINGeTWO DOTS ABOVEcYEHdBARREEeFINAL FORMeISOLATED FORM",
    "eWITH EXTENDED ARABIC-INDIC DIGIT THREE ABOVEiTWO ABOVEfHAMZA ABOVEhFINAL FORM",
    "hISOLATED FORMdFINAL FORMdINITIAL FORMdISOLATED FORMdMEDIAL FORMdWITH HAMZA ABOVE",
    "gFINAL FORMgINITIAL FORMgISOLATED FORMgMEDIAL FORMeSMALL VeTAILeTHREE DOTS BELOW",
    "eTWO DOTS BELOW AND DOT ABOVEiHAMZA ABOVEiSMALL NOON ABOVEcYUdFINAL FORMdISOLATED FORM",
    "cZAHdFINAL FORMdINITIAL FORMdISOLATED FORMdMEDIAL FORMcZAINdFINAL FORMdISOLATED FORM",
    "dWITH INVERTED V ABOVEbLIGATURE AIN WITH ALEF MAKSURA FINAL FORMgISOLATED FORM",
    "eJEEM INITIAL FORMfISOLATED FORMfWITH MEEM FINAL FORMhINITIAL FORMeMEEM INITIAL FORM",
    "fISOLATED FORMfWITH ALEF MAKSURA FINAL FORMgMEEM FINAL FORMhINITIAL FORMgYEH FINAL FORM",
    "eYEH FINAL FORMfISOLATED FORMcAKBAR ISOLATED FORMcALAYHAA AS-SALAAMcALAYHE ISOLATED FORM",
    "cALAYHI AS-SALAAMdAS-SALAATU WAS-SALAAMcALAYHIM AS-SALAAMcALAYHIMAA AS-SALAAM",
    "cALEF MAKSURA WITH SUPERSCRIPT ALEF FINAL FORMhISOLATED FORMdWITH FATHATAN FINAL FORM",
    "fISOLATED FORMcALLAH ISOLATED FORMcAZZA WA JALLcBEH WITH ALEF MAKSURA FINAL FORM",
    "gISOLATED FORMeHAH INITIAL FORMfISOLATED FORMfWITH YEH FINAL FORMeHEH INITIAL FORM",
    "fMEDIAL FORMeJEEM INITIAL FORMfISOLATED FORMeKHAH INITIAL FORMfISOLATED FORM",
    "fWITH YEH FINAL FORMeMEEM FINAL FORMfINITIAL FORMfISOLATED FORMfMEDIAL FORM",
    "eNOON FINAL FORMeREH FINAL FORMeYEH FINAL FORMfISOLATED FORMeZAIN FINAL FORM",
    "cBISMILLAH AR-RAHMAN AR-RAHEEMcDAD WITH ALEF MAKSURA FINAL FORMgISOLATED FORM",
    "eHAH INITIAL FORMfISOLATED FORMfWITH ALEF MAKSURA FINAL FORMgYEH FINAL FORM",
    "eJEEM INITIAL FORMfISOLATED FORMeKHAH INITIAL FORMfISOLATED FORMfWITH MEEM FINAL FORM",
    "hINITIAL FORMeMEEM INITIAL FORMfISOLATED FORMeREH FINAL FORMfISOLATED FORM",
    "eYEH FINAL FORMfISOLATED FORMcFEH WITH ALEF MAKSURA FINAL FORMgISOLATED FORM",
    "eHAH INITIAL FORMfISOLATED FORMeJEEM INITIAL FORMfISOLATED FORMeKHAH INITIAL FORM",
    "fISOLATED FORMfWITH MEEM FINAL FORMhINITIAL FORMeMEEM INITIAL FORMfISOLATED FORM",
    "fWITH YEH FINAL FORMeYEH FINAL FORMfISOLATED FORMcGHAIN WITH ALEF MAKSURA FINAL FORM",
    "gISOLATED FORMeJEEM INITIAL FORMfISOLATED FORMeMEEM INITIAL FORMfISOLATED FORM",
    "fWITH ALEF MAKSURA FINAL FORMgMEEM FINAL FORMgYEH FINAL FORMeYEH FINAL FORM",
    "fISOLATED FORMcHAH WITH ALEF MAKSURA FINAL FORMgISOLATED FORMeJEEM INITIAL FORM",
    "fISOLATED FORMfWITH YEH FINAL FORMeMEEM INITIAL FORMfISOLATED FORM",
    "fWITH ALEF MAKSURA FINAL FORMgYEH FINAL FORMeYEH FINAL FORMfISOLATED FORM",
    "cHEH WITH ALEF MAKSURA ISOLATED FORMeJEEM INITIAL FORMfISOLATED FORMeMEEM INITIAL FORM",
    "fISOLATED FORMfWITH JEEM INITIAL FORMgMEEM INITIAL FORMeSUPERSCRIPT ALEF INITIAL FORM",
    "eYEH ISOLATED FORMcJALLAJALALOUHOUcJEEM WITH ALEF MAKSURA FINAL FORMgISOLATED FORM",
    "eHAH INITIAL FORMfISOLATED FORMfWITH ALEF MAKSURA FINAL FORMgYEH FINAL FORM",
    "eMEEM INITIAL FORMfISOLATED FORMfWITH ALEF MAKSURA FINAL FORMgHAH FINAL FORM",
    "hINITIAL FORMgYEH FINAL FORMeYEH FINAL FORMfISOLATED FORMcKAF WITH ALEF FINAL FORM",
    "fISOLATED FORMfMAKSURA FINAL FORMgISOLATED FORMeHAH INITIAL FORMfISOLATED FORM",
    "eJEEM INITIAL FORMfISOLATED FORMeKHAH INITIAL FORMfISOLATED FORMeLAM FINAL FORM",
    "fINITIAL FORMfISOLATED FORMfMEDIAL FORMeMEEM FINAL FORMfINITIAL FORMfISOLATED FORM",
    "fMEDIAL FORMfWITH MEEM FINAL FORMhINITIAL FORMgYEH FINAL FORMeYEH FINAL FORM",
    "fISOLATED FORMcKHAH WITH ALEF MAKSURA FINAL FORMgISOLATED FORMeHAH ISOLATED FORM",
    "eJEEM INITIAL FORMfISOLATED FORMeMEEM INITIAL FORMfISOLATED FORMeYEH FINAL FORM",
    "fISOLATED FORMcLAM WITH ALEF FINAL FORMfISOLATED FORMfMAKSURA FINAL FORMgISOLATED FORM",
    "fWITH HAMZA ABOVE FINAL FORMiISOLATED FORMhBELOW FINAL FORMiISOLATED FORM",
    "gMADDA ABOVE FINAL FORMiISOLATED FORMeHAH INITIAL FORMfISOLATED FORM",
    "fWITH ALEF MAKSURA FINAL FORMgMEEM FINAL FORMhINITIAL FORMgYEH FINAL FORM",
    "eHEH INITIAL FORMeJEEM INITIAL FORMfISOLATED FORMfWITH JEEM FINAL FORMhINITIAL FORM",
    "gMEEM FINAL FORMhINITIAL FORMgYEH FINAL FORMeKHAH INITIAL FORMfISOLATED FORM",
    "fWITH MEEM FINAL FORMhINITIAL FORMeMEEM FINAL FORMfINITIAL FORMfISOLATED FORM",
    "fMEDIAL FORMfWITH HAH FINAL FORMhINITIAL FORMgYEH FINAL FORMeYEH FINAL FORM",
    "fISOLATED FORMcMEEM WITH ALEF FINAL FORMfMAKSURA ISOLATED FORMeHAH INITIAL FORM",
    "fISOLATED FORMfWITH JEEM INITIAL FORMgMEEM INITIAL FORMgYEH FINAL FORMeJEEM INITIAL FORM",
    "fISOLATED FORMfWITH HAH INITIAL FORMgKHAH INITIAL FORMgMEEM INITIAL FORMgYEH FINAL FORM",
    "eKHAH INITIAL FORMfISOLATED FORMfWITH JEEM INITIAL FORMgMEEM INITIAL FORMgYEH FINAL FORM",
    "eMEEM FINAL FORMfINITIAL FORMfISOLATED FORMfWITH YEH FINAL FORMeYEH ISOLATED FORM",
    "cMOHAMMAD ISOLATED FORMcNOON WITH ALEF MAKSURA FINAL FORMgISOLATED FORMeHAH INITIAL FORM",
    "fISOLATED FORMfWITH ALEF MAKSURA FINAL FORMgMEEM INITIAL FORMgYEH FINAL FORM",
    "eHEH INITIAL FORMfMEDIAL FORMeJEEM INITIAL FORMfISOLATED FORM",
    "fWITH ALEF MAKSURA FINAL FORMgHAH FINAL FORMhINITIAL FORMgMEEM FINAL FORMhINITIAL FORM",
    "gYEH FINAL FORMeKHAH INITIAL FORMfISOLATED FORMeMEEM FINAL FORMfINITIAL FORM",
    "fISOLATED FORMfMEDIAL FORMfWITH ALEF MAKSURA FINAL FORMgYEH FINAL FORMeNOON FINAL FORM",
    "eREH FINAL FORMeYEH FINAL FORMfISOLATED FORMeZAIN FINAL FORM",
    "cQAF WITH ALEF MAKSURA FINAL FORMgISOLATED FORMeHAH INITIAL FORMfISOLATED FORM",
    "eMEEM INITIAL FORMfISOLATED FORMfWITH HAH FINAL FORMhINITIAL FORMgMEEM FINAL FORM",
    "gYEH FINAL FORMeYEH FINAL FORMfISOLATED FORM",
    "cQALA USED AS KORANIC STOP SIGN ISOLATED FORMcQUDDISA SIRRAHcRADI ALLAAHU ANHeANHAA",
    "eANHUMeANHUMAAeANHUNNAcRAHIMAHU ALLAAHcRAHIMAHUM ALLAAHcRASOUL ISOLATED FORM",
    "cREH WITH SUPERSCRIPT ALEF ISOLATED FORMcSAD WITH ALEF MAKSURA FINAL FORMgISOLATED FORM",
    "eHAH INITIAL FORMfISOLATED FORMfWITH HAH FINAL FORMhINITIAL FORMgYEH FINAL FORM",
    "eKHAH INITIAL FORMeMEEM INITIAL FORMfISOLATED FORMfWITH MEEM FINAL FORMhINITIAL FORM",
    "eREH FINAL FORMfISOLATED FORMeYEH FINAL FORMfISOLATED FORMcSALAAMUHU ALAYNAA",
    "cSALAM ISOLATED FORMcSALLA ISOLATED FORMdUSED AS KORANIC STOP SIGN ISOLATED FORM",
    "cSALLALLAAHU ALAYHI WA-AALIHcSALLALLAHOU ALAYHE WASALLAM",
    "cSALLALLAHU ALAYHI WAAALIHEE WA-SALLAMcSEEN WITH ALEF MAKSURA FINAL FORMgISOLATED FORM",
    "eHAH INITIAL FORMfISOLATED FORMfMEDIAL FORMfWITH JEEM INITIAL FORMeHEH INITIAL FORM",
    "fMEDIAL FORMeJEEM INITIAL FORMfISOLATED FORMfMEDIAL FORMfWITH ALEF MAKSURA FINAL FORM",
    "gHAH INITIAL FORMeKHAH INITIAL FORMfISOLATED FORMfMEDIAL FORM",
    "fWITH ALEF MAKSURA FINAL FORMgYEH FINAL FORMeMEEM INITIAL FORMfISOLATED FORMfMEDIAL FORM",
    "fWITH HAH FINAL FORMhINITIAL FORMgJEEM INITIAL FORMgMEEM FINAL FORMhINITIAL FORM",
    "eREH FINAL FORMfISOLATED FORMeYEH FINAL FORMfISOLATED FORM",
    "cSHADDA WITH DAMMA ISOLATED FORMfMEDIAL FORMeDAMMATAN ISOLATED FORMeFATHA ISOLATED FORM",
    "fMEDIAL FORMeKASRA ISOLATED FORMfMEDIAL FORMeKASRATAN ISOLATED FORM",
    "eSUPERSCRIPT ALEF ISOLATED FORMcSHEEN WITH ALEF MAKSURA FINAL FORMgISOLATED FORM",
    "eHAH FINAL FORMfINITIAL FORMfISOLATED FORMfMEDIAL FORMfWITH MEEM FINAL FORMhINITIAL FORM",
    "gYEH FINAL FORMeHEH INITIAL FORMfMEDIAL FORMeJEEM FINAL FORMfINITIAL FORMfISOLATED FORM",
    "fMEDIAL FORMfWITH YEH FINAL FORMeKHAH FINAL FORMfINITIAL FORMfISOLATED FORMfMEDIAL FORM",
    "eMEEM FINAL FORMfINITIAL FORMfISOLATED FORMfMEDIAL FORMfWITH KHAH FINAL FORM",
    "hINITIAL FORMgMEEM FINAL FORMhINITIAL FORMeREH FINAL FORMfISOLATED FORMeYEH FINAL FORM",
    "fISOLATED FORMcSUBHAANAHU WA TAAALAAcTABAARAKA WA-TAAALAA",
    "cTAH WITH ALEF MAKSURA FINAL FORMgISOLATED FORMeHAH INITIAL FORMfISOLATED FORM",
    "eMEEM INITIAL FORMfISOLATED FORMfMEDIAL FORMfWITH HAH FINAL FORMhINITIAL FORM",
    "gMEEM INITIAL FORMgYEH FINAL FORMeYEH FINAL FORMfISOLATED FORM",
    "cTEH WITH ALEF MAKSURA FINAL FORMgISOLATED FORMeHAH INITIAL FORMfISOLATED FORM",
    "fWITH JEEM FINAL FORMhINITIAL FORMgMEEM INITIAL FORMeHEH INITIAL FORMfMEDIAL FORM",
    "eJEEM INITIAL FORMfISOLATED FORMfWITH ALEF MAKSURA FINAL FORMgMEEM INITIAL FORM",
    "gYEH FINAL FORMeKHAH INITIAL FORMfISOLATED FORMfWITH ALEF MAKSURA FINAL FORM",
    "gMEEM INITIAL FORMgYEH FINAL FORMeMEEM FINAL FORMfINITIAL FORMfISOLATED FORMfMEDIAL FORM",
    "fWITH ALEF MAKSURA FINAL FORMgHAH INITIAL FORMgJEEM INITIAL FORMgKHAH INITIAL FORM",
    "gYEH FINAL FORMeNOON FINAL FORMeREH FINAL FORMeYEH FINAL FORMfISOLATED FORM",
    "eZAIN FINAL FORMcTHAL WITH SUPERSCRIPT ALEF ISOLATED FORM",
    "cTHEH WITH ALEF MAKSURA FINAL FORMgISOLATED FORMeHEH MEDIAL FORMeJEEM ISOLATED FORM",
    "eMEEM FINAL FORMfINITIAL FORMfISOLATED FORMfMEDIAL FORMeNOON FINAL FORMeREH FINAL FORM",
    "eYEH FINAL FORMfISOLATED FORMeZAIN FINAL FORM",
    "cUIGHUR KIRGHIZ YEH WITH HAMZA ABOVE WITH ALEF MAKSURA FINAL FORMlINITIAL FORM",
    "lISOLATED FORMcWASALLAM ISOLATED FORMcYEH WITH ALEF MAKSURA FINAL FORMgISOLATED FORM",
    "eHAH INITIAL FORMfISOLATED FORMfWITH YEH FINAL FORMeHAMZA ABOVE WITH AE FINAL FORM",
    "iISOLATED FORMhALEF FINAL FORMiISOLATED FORMiMAKSURA FINAL FORMjISOLATED FORM",
    "hE FINAL FORMiINITIAL FORMiISOLATED FORMhHAH INITIAL FORMiISOLATED FORMhHEH INITIAL FORM",
    "iMEDIAL FORMhJEEM INITIAL FORMiISOLATED FORMhKHAH INITIAL FORMhMEEM FINAL FORM",
    "iINITIAL FORMiISOLATED FORMiMEDIAL FORMhNOON FINAL FORMhOE FINAL FORMiISOLATED FORM",
    "hREH FINAL FORMhU FINAL FORMiISOLATED FORMhWAW FINAL FORMiISOLATED FORMhYEH FINAL FORM",
    "iISOLATED FORMhYU FINAL FORMiISOLATED FORMhZAIN FINAL FORMeHEH INITIAL FORMfMEDIAL FORM",
    "eJEEM INITIAL FORMfISOLATED FORMfWITH YEH FINAL FORMeKHAH INITIAL FORMfISOLATED FORM",
    "eMEEM FINAL FORMfINITIAL FORMfISOLATED FORMfMEDIAL FORMfWITH MEEM FINAL FORM",
    "hINITIAL FORMgYEH FINAL FORMeNOON FINAL FORMeREH FINAL FORMeYEH FINAL FORMfISOLATED FORM",
    "eZAIN FINAL FORMcZAH WITH MEEM INITIAL FORMfISOLATED FORMfMEDIAL FORMbMADDA WAAJIB",
    "bMADDAH ABOVEbMARK NOON GHUNNAcSIDEWAYS NOON GHUNNAbMATHEMATICAL AINcALEFcBEHcDADcDAL",
    "cDOTLESS BEHdFEHdNOONdQAFcDOUBLE-STRUCK AINdBEHdDADdDALdFEHdGHAINdHAHdJEEMdKHAHdLAMdMEEM",
    "dNOONdQAFdREHdSADdSEENdSHEENdTAHdTEHdTHALdTHEHdWAWdYEHdZAHdZAINcFEHcGHAINcHAH",
    "cINITIAL AINdBEHdDADdFEHdGHAINdHAHdHEHdJEEMdKAFdKHAHdLAMdMEEMdNOONdQAFdSADdSEENdSHEEN",
    "dTEHdTHEHdYEHcJEEMcKAFcKHAHcLAMcLOOPED AINdALEFdBEHdDADdDALdFEHdGHAINdHAHdHEHdJEEMdKHAH",
    "dLAMdMEEMdNOONdQAFdREHdSADdSEENdSHEENdTAHdTEHdTHALdTHEHdWAWdYEHdZAHdZAINcMEEMcNOON",
    "cOPERATOR HAH WITH DALdMEEM WITH HAH WITH TATWEELcQAFcREHcSADcSEENcSHEENcSTRETCHED AIN",
    "dBEHdDADdDOTLESS BEHeFEHdFEHdGHAINdHAHdHEHdJEEMdKAFdKHAHdMEEMdNOONdQAFdSADdSEENdSHEEN",
    "dTAHdTEHdTHEHdYEHdZAHcTAHcTAILED AINdDADdDOTLESS NOONeQAFdGHAINdHAHdJEEMdKHAHdLAMdNOON",
    "dQAFdSADdSEENdSHEENdYEHcTEHcTHALcTHEHcWAWcYEHcZAHcZAINbNUMBER MARK ABOVEcSIGN",
    "bOPEN DAMMATANcFATHATANcKASRATANbPERCENT SIGNbPIASTRE MARK ABOVEbPLACE OF SAJDAH",
    "bPOETIC VERSE SIGNbPOUND MARK ABOVEbQUESTION MARKbRAISED ROUND DOTbRAYbREVERSED DAMMA",
    "bRIGHT ARROWHEAD ABOVEeWITH DOTdBELOWbROUNDED HIGH STOP WITH FILLED CENTREbSEMICOLON",
    "bSHADDAcISOLATED FORMcMEDIAL FORMbSIGN ALAYHE ASSALLAMcMISRAcRADI ALLAHOU ANHU",
    "cRAHMATULLAH ALAYHEcSAFHAcSALLALLAHOU ALAYHE WASSALLAMcSAMVATcSANAHcSINDHI AMPERSAND",
    "dPOSTPOSITION MENcTAKHALLUSbSMALL DAMMAcFARSI YEHcFATHAcHIGH AINdDOTLESS HEAD OF KHAH",
    "dFARSI YEHdFOOTNOTE MARKERdJEEMdLAM ALEFdLIGATURE ALEF WITH LAM WITH YEH",
    "eQAF WITH LAM WITH ALEF MAKSURAeSAD WITH LAM WITH ALEF MAKSURAdMADDAdMEEM INITIAL FORM",
    "eISOLATED FORMdNOONeWITH KASRAdQAFdROUNDED ZEROdSADdSEENdSIGN SAFHAdTAHdTHREE DOTS",
    "dUPRIGHT RECTANGULAR ZEROdWAWdWORD AL-JUZeAN-NISFeAR-RUBeAS-SAJDAeATH-THALATHAeQIFeSAH",
    "eSAKTAeWAQFAdYEHeBARREE WITH TWO DOTS BELOWdZAHdZAINcKASRAcLOW MEEMdNOON WITH KASRAdSEEN",
    "dWAWdWORD IMAALAeISHMAAMeTASHEELcWAWcYEHbSTART OF RUB EL HIZBbSUBSCRIPT ALEFbSUKUNcBELOW",
    "cISOLATED FORMcMEDIAL FORMbSUPERSCRIPT ALEF MOKHASSASbSYMBOL DOT ABOVEdBELOW",
    "cDOUBLE VERTICAL BAR BELOWcFOUR DOTS ABOVEeBELOWcRINGcSMALL TAH ABOVEeBELOW",
    "cTHREE DOTS ABOVEeBELOWePOINTING DOWNWARDS ABOVEgBELOWcTWO DOTS ABOVEeBELOW",
    "eVERTICALLY ABOVEfBELOWcWASLA ABOVEbTAIL FRAGMENTbTATWEELcWITH FATHATAN ABOVE",
    "dOVERSTRUCK HAMZAeWAWdTWO DOTS BELOWbTHOUSANDS SEPARATORbTONE LOOP ABOVEdBELOW",
    "cONE DOT ABOVEeBELOWcTWO DOTS ABOVEeBELOWbTRIPLE DOT PUNCTUATION MARKbTURNED DAMMA BELOW",
    "bVERTICAL TAILbVOWEL SIGN DOT BELOWdINVERTED SMALL V ABOVEdSMALL V ABOVE",
    "bWAVY HAMZA BELOWbZWARAKAYaARABIC-INDIC CUBE ROOTbDIGIT EIGHTcFIVEcFOURcNINEcONEcSEVEN",
    "cSIXcTHREEcTWOcZERObFOURTH ROOTbPER MILLE SIGNcTEN THOUSAND SIGNaARCaARIES",
    "aARMENIAN ABBREVIATION MARKbAPOSTROPHEbCAPITAL LETTER AYBdBENdCAdCHAdCHEHdCOdDAdECHdEH",
    "dETdFEHdGHADdGIMdHOdINIdJAdJHEHdKEHdKENdLIWNdMENdNOWdOHdPEHdPIWRdRAdREHdSEHdSHAdTIWNdTO",
    "dVEWdVOdXEHdYIdYIWNdZAdZHEbCOMMAbDRAM SIGNbEMPHASIS MARKbEXCLAMATION MARKbFULL STOP",
    "bHYPHENbMODIFIER LETTER LEFT HALF RINGbQUESTION MARKbSMALL LETTER AYBdBENdCAdCHAdCHEHdCO",
    "dDAdECHdEHdETdFEHdGHADdGIMdHOdINIdJAdJHEHdKEHdKENdLIWNdMENdNOWdOHdPEHdPIWRdRAdREHdSEH",
    "dSHAdTIWNdTOdTURNED AYBdVEWdVOdXEHdYIeWITH STROKEdYIWNdZAdZHEcLIGATURE ECH YIWNdMEN ECH",
    "eINIeNOWeXEHdVEW NOWaARROW POINTING DOWNWARDS THEN CURVING LEFTWARDSfRIGHTWARDS",
    "cRIGHTWARDS THEN CURVING DOWNWARDSfSOUTH WESTfUPWARDScUPWARDS THEN NORTH WEST",
    "aARROWHEAD-SHAPED POINTERaARTICULATED LORRYaARTIST PALETTEaASCENDING NODEaASCIA SYMBOL",
    "aASSERTIONaASTERISKbOPERATORaASTERISMaASTONISHED FACEaASTRAEA",
    "aASTRONOMICAL SYMBOL FOR URANUSaASYMPTOTICALLY EQUAL TOaATHLETIC SHOEaATOM SYMBOL",
    "aAUBERGINEaAUSTRAL SIGNaAUTO RICKSHAWaAUTOMATED TELLER MACHINEaAUTOMOBILE",
    "aAVESTAN ABBREVIATION MARKbLETTER AcAAcAANcAAOcAEcAEEcANcAOcBEcBHEcCEcDEcDHEcEcEEcFEcGE",
    "cGGEcGHEcHEcHMEcIcIIcJEcKEcLEcMEcNEcNGEcNGVEcNGYEcNNEcNYEcOcOOcPEcREcSEcSHEcSHYEcSSHEcTE",
    "cTHEcTTEcUcUUcVEcXEcXVEcXYEcYEcYYEcZEcZHEaAVOCADOaAXE"]

end CharacterName

end ElementBindings
