/-
  The names that start with L.  A small letter in front of a
  name says how many words it shares with the name before it,
  from a for none on; only its further words are written.

  Key definitions include:
    * `CharacterName.fromL`
-/

namespace ElementBindings

namespace CharacterName

------------------------------------------------------------
-- Names
------------------------------------------------------------

/- The names that start with L. -/
def fromL : List String := [
    "aL B BAR SYMBOLaLAB COATaLABELaLACROSSE STICK AND BALLaLADDERaLADY BEETLEaLANGUAGE TAG",
    "aLAO CANCELLATION MARKbDIGIT EIGHTcFIVEcFOURcNINEcONEcSEVENcSIXcTHREEcTWOcZERObELLIPSIS",
    "bHO MOcNObKO LAbLETTER BOcCOcDOcFO FAYdFONdSUNGdTAMcHO SUNGdTAMcKHMU GOdNYOcKHO SUNGdTAM",
    "cKOcLOdLINGdLOOTcMOcNGOcNOcNYOcOcPALI BHAdCHAdDDAdDDHAdDHAdGHAdJHAdLLAdNNAdNYAdTTAdTTHA",
    "cPHO SUNGdTAMcPOcROcSANSKRIT SHAdSSAcSO SUNGdTAMcTHO SUNGdTAMcTOcWOcYObNIGGAHITA",
    "bSEMIVOWEL SIGN LOdNYObSIGN PALI VIRAMAbTONE MAI CATAWAdEKdTHOdTIbVOWEL SIGN AdAAdAIdAM",
    "dAYdEdEIdIdIIdMAI KANeKONdOdUdUUdYdYYaLARGE BLUE CIRCLEcDIAMONDcSQUAREbBROWN CIRCLE",
    "cSQUAREbCIRCLEbDOWN TACKbGREEN CIRCLEcSQUAREbLEFT TRIANGLE OPERATOR",
    "bONE DOT OVER TWO DOTS PUNCTUATIONcRING OVER TWO RINGS PUNCTUATIONbORANGE CIRCLEcDIAMOND",
    "cSQUAREbPURPLE CIRCLEcSQUAREbRED CIRCLEcSQUAREbTRIPLE VERTICAL BAR OPERATOR",
    "bTWO DOTS OVER ONE DOT PUNCTUATIONcRINGS OVER ONE RING PUNCTUATIONbUP TACKbYELLOW CIRCLE",
    "cSQUAREaLARGER THANcOR EQUAL TOaLARI SIGNaLAST QUARTER MOONdSYMBOLdWITH FACE",
    "aLATIN CAPITAL LETTER AeWITH ACUTEfBREVEgAND ACUTEhDOT BELOWhGRAVEhHOOK ABOVEhTILDE",
    "fCARONfCIRCUMFLEXgAND ACUTEhDOT BELOWhGRAVEhHOOK ABOVEhTILDEfDIAERESISgAND MACRON",
    "fDOT ABOVEhAND MACRONgBELOWfDOUBLE GRAVEfGRAVEfHOOK ABOVEfINVERTED BREVEfMACRONfOGONEK",
    "fRING ABOVEhAND ACUTEgBELOWfSTROKEfTILDEdAAdAEeWITH ACUTEfMACRONdAFRICAN DdALPHA",
    "dANGLICANA WdAOdAUdAVeWITH HORIZONTAL BARdAYdBeWITH DOT ABOVEgBELOWfFLOURISHfHOOK",
    "fLINE BELOWfSTROKEfTOPBARdBETAdBROKEN LdCeWITH ACUTEfBARfCARONfCEDILLAgAND ACUTE",
    "fCIRCUMFLEXfDOT ABOVEfHOOKfPALATAL HOOKfSTROKEdCHIdCLOSED INSULAR GdCONdCUATRILLO",
    "eWITH COMMAdDeWITH CARONfCEDILLAfCIRCUMFLEX BELOWfDOT ABOVEgBELOWfHOOKfLINE BELOW",
    "fSHORT STROKE OVERLAYfSMALL LETTER ZiWITH CARONfSTROKEfTOPBARdDZeWITH CARONdEeWITH ACUTE",
    "fBREVEfCARONfCEDILLAgAND BREVEfCIRCUMFLEXgAND ACUTEhDOT BELOWhGRAVEhHOOK ABOVEhTILDE",
    "gBELOWfDIAERESISfDOT ABOVEgBELOWfDOUBLE GRAVEfGRAVEfHOOK ABOVEfINVERTED BREVEfMACRON",
    "gAND ACUTEhGRAVEfOGONEKfSTROKEfTILDEgBELOWdEGYPTOLOGICAL AINeALEFdENGdESHdETdETHdEZH",
    "eREVERSEDeWITH CARONdFeWITH DOT ABOVEfHOOKfSTROKEdGeWITH ACUTEfBREVEfCARONfCEDILLA",
    "fCIRCUMFLEXfDOT ABOVEfHOOKfMACRONfOBLIQUE STROKEfSTROKEdGAMMAdGHAdGLOTTAL AeIeSTOPeUdH",
    "eWITH BREVE BELOWfCARONfCEDILLAfCIRCUMFLEXfDESCENDERfDIAERESISfDOT ABOVEgBELOWfHOOK",
    "fSTROKEdHALF HdHENGdHWAIRdIeWITH ACUTEfBREVEfCARONfCIRCUMFLEXfDIAERESISgAND ACUTE",
    "fDOT ABOVEgBELOWfDOUBLE GRAVEfGRAVEfHOOK ABOVEfINVERTED BREVEfMACRONfOGONEKfSTROKEfTILDE",
    "gBELOWdINSULAR DeFeGeReSeTdIOTAdISdJeWITH CIRCUMFLEXfCROSSED-TAILfSTROKEdKeWITH ACUTE",
    "fCARONfCEDILLAfDESCENDERfDIAGONAL STROKEfDOT BELOWfHOOKfLINE BELOWfOBLIQUE STROKEfSTROKE",
    "gAND DIAGONAL STROKEdLeWITH ACUTEfBARfBELTfCARONfCEDILLAfCIRCUMFLEX BELOWfDOT BELOW",
    "hAND MACRONfDOUBLE BARfHIGH STROKEfLINE BELOWfMIDDLE DOTgTILDEfSMALL LETTER JfSTROKEdLJ",
    "dMeWITH ACUTEfDOT ABOVEgBELOWfHOOKdMIDDLE SCOTS SdMIDDLE-WELSH LLeVdNeWITH ACUTEfCARON",
    "fCEDILLAfCIRCUMFLEX BELOWfDESCENDERfDOT ABOVEgBELOWfGRAVEfLEFT HOOKfLINE BELOW",
    "fLONG RIGHT LEGfOBLIQUE STROKEfSMALL LETTER JfTILDEdNJdOeWITH ACUTEfBREVEfCARON",
    "fCIRCUMFLEXgAND ACUTEhDOT BELOWhGRAVEhHOOK ABOVEhTILDEfDIAERESISgAND MACRONfDOT ABOVE",
    "hAND MACRONgBELOWfDOUBLE ACUTEgGRAVEfGRAVEfHOOK ABOVEfHORNgAND ACUTEhDOT BELOWhGRAVE",
    "hHOOK ABOVEhTILDEfINVERTED BREVEfLONG STROKE OVERLAYfLOOPfMACRONgAND ACUTEhGRAVE",
    "fMIDDLE TILDEfOGONEKgAND MACRONfSTROKEgAND ACUTEfTILDEgAND ACUTEhDIAERESIShMACRONdOI",
    "dOLD POLISH OdOMEGAdOOdOPEN EeOdOUdPeWITH ACUTEfDOT ABOVEfFLOURISHfHOOKfSQUIRREL TAIL",
    "fSTROKEgTHROUGH DESCENDERdQeWITH DIAGONAL STROKEfSTROKE THROUGH DESCENDERdReROTUNDA",
    "eWITH ACUTEfCARONfCEDILLAfDOT ABOVEgBELOWhAND MACRONfDOUBLE GRAVEfINVERTED BREVE",
    "fLINE BELOWfOBLIQUE STROKEfSTROKEfTAILdREVERSED C WITH DOTeEeHALF HeOPEN EdRUM ROTUNDAdS",
    "eWITH ACUTEgAND DOT ABOVEfCARONgAND DOT ABOVEfCEDILLAfCIRCUMFLEXfCOMMA BELOWfDOT ABOVE",
    "gBELOWhAND DOT ABOVEfHOOKfOBLIQUE STROKEfSHORT STROKE OVERLAYfSWASH TAILdSALTILLOdSCHWA",
    "dSCRIPT GdSHARP SdSIGMOID SdSMALL CAPITAL IeQ WITH HOOK TAILdTeWITH CARONfCEDILLA",
    "fCIRCUMFLEX BELOWfCOMMA BELOWfDIAGONAL STROKEfDOT ABOVEgBELOWfHOOKfLINE BELOW",
    "fRETROFLEX HOOKfSTROKEdTHORNeWITH STROKEgTHROUGH DESCENDERdTONE FIVEeSIXeTWOdTRESILLO",
    "dTURNED AeALPHAeHeINSULAR GeKeLeMeTeVdTZdUeBAReWITH ACUTEfBREVEfCARONfCIRCUMFLEXgBELOW",
    "fDIAERESISgAND ACUTEhCARONhGRAVEhMACRONgBELOWfDOT BELOWfDOUBLE ACUTEgGRAVEfGRAVE",
    "fHOOK ABOVEfHORNgAND ACUTEhDOT BELOWhGRAVEhHOOK ABOVEhTILDEfINVERTED BREVEfMACRON",
    "gAND DIAERESISfOGONEKfRING ABOVEfSTROKEfTILDEgAND ACUTEgBELOWdUPSILONdV",
    "eWITH DIAGONAL STROKEfDOT BELOWfHOOKfTILDEdVENDdVISIGOTHIC ZdVOLAPUK AEeOEeUEdVYdW",
    "eWITH ACUTEfCIRCUMFLEXfDIAERESISfDOT ABOVEgBELOWfGRAVEfHOOKdWYNNdXeWITH DIAERESIS",
    "fDOT ABOVEdYeWITH ACUTEfCIRCUMFLEXfDIAERESISfDOT ABOVEgBELOWfGRAVEfHOOKgABOVEfLOOP",
    "fMACRONfSTROKEfTILDEdYOGHdZeWITH ACUTEfCARONfCIRCUMFLEXfDESCENDERfDOT ABOVEgBELOWfHOOK",
    "fLINE BELOWfPALATAL HOOKfSTROKEfSWASH TAILcLIGATURE IJdOEbCROSS",
    "bEPIGRAPHIC LETTER ARCHAIC MdI LONGAdINVERTED MdREVERSED FePdSIDEWAYS IbLETTER AIN",
    "cALVEOLAR CLICKcBIDENTAL PERCUSSIVEcBILABIAL CLICKdPERCUSSIVEcDENTAL CLICKcGLOTTAL STOP",
    "eWITH STROKEcINVERTED GLOTTAL STOPfWITH CURLgSTROKEcLATERAL CLICK",
    "cPHARYNGEAL VOICED FRICATIVEcRETROFLEX CLICKeWITH RETROFLEX HOOKcREVERSED ESH LOOP",
    "dGLOTTAL STOP WITH STROKEcSINOLOGICAL DOTcSMALL CAPITAL AeAEeBeBARRED BeCeDeEeETHeEZHeF",
    "eGfWITH HOOKeHeIeINVERTED ReJeKeLfWITH BELTgSTROKEeMeNeOeOEeOPEN OeOUePeQeR",
    "fWITH RIGHT LEGeREVERSED NfReRUMeSeTeTURNED EfGfKfMfReUeVeWeYeZcSTRETCHED CeWITH CURL",
    "cTWO WITH STROKEcVOICED LARYNGEAL SPIRANTcWYNNcYRbSMALL CAPITAL LETTER I WITH STROKE",
    "eU WITH STROKEcLETTER AeREVERSED-SCHWAeWITH ACUTEfBREVEgAND ACUTEhDOT BELOWhGRAVE",
    "hHOOK ABOVEhTILDEfCARONfCIRCUMFLEXgAND ACUTEhDOT BELOWhGRAVEhHOOK ABOVEhTILDEfDIAERESIS",
    "gAND MACRONfDOT ABOVEhAND MACRONgBELOWfDOUBLE GRAVEfGRAVEfHOOK ABOVEfINVERTED BREVE",
    "fMACRONfOGONEKfRETROFLEX HOOKfRIGHT HALF RINGfRING ABOVEhAND ACUTEgBELOWfSTROKEfTILDEdAA",
    "dAEeWITH ACUTEfMACRONdALPHAeWITH RETROFLEX HOOKdANGLICANA WdAOdAUdAVeWITH HORIZONTAL BAR",
    "dAYdBeWITH DOT ABOVEgBELOWfFLOURISHfHOOKfLINE BELOWfMIDDLE TILDEfPALATAL HOOKfSTROKE",
    "fTOPBARdBARRED ALPHAeEeOdBASELINE ESHdBETAdBLACKLETTER EeOfWITH STROKEdBOTTOM HALF O",
    "dBROKEN LdCeWITH ACUTEfBARfCARONfCEDILLAgAND ACUTEfCIRCUMFLEXfCURLfDOT ABOVEfHOOK",
    "fPALATAL HOOKfRETROFLEX HOOKfSTROKEdCHIeWITH LOW LEFT SERIFgRIGHT RINGdCLOSED INSULAR G",
    "eOMEGAeOPEN EeREVERSED OPEN EdCONdCUATRILLOeWITH COMMAdDeWITH CARONfCEDILLA",
    "fCIRCUMFLEX BELOWfCURLfDOT ABOVEgBELOWfHOOKgAND TAILfLINE BELOWfMIDDLE TILDE",
    "fPALATAL HOOKfSHORT STROKE OVERLAYfSTROKEfTAILfTOPBARdDB DIGRAPHdDELTAdDEZH DIGRAPH",
    "fWITH PALATAL HOOKgRETROFLEX HOOKdDOTLESS IeJfWITH STROKEhAND HOOKdDOUBLE R",
    "fWITH CROSSED-TAILeTHORNeWYNNdDUMdDZeDIGRAPHfWITH CURLgRETROFLEX HOOKeWITH CARONdE",
    "eWITH ACUTEfBREVEfCARONfCEDILLAgAND BREVEfCIRCUMFLEXgAND ACUTEhDOT BELOWhGRAVE",
    "hHOOK ABOVEhTILDEgBELOWfDIAERESISfDOT ABOVEgBELOWfDOUBLE GRAVEfFLOURISHfGRAVEfHOOK ABOVE",
    "fINVERTED BREVEfMACRONgAND ACUTEhGRAVEfNOTCHfOGONEKfRETROFLEX HOOKfSTROKEfTILDEgBELOW",
    "dEGYPTOLOGICAL AINeALEFdENGeWITH CROSSED-TAILfPALATAL HOOKdESHeWITH CURLfDOUBLE BAR",
    "hAND CURLfPALATAL HOOKfRETROFLEX HOOKdETdETHdEZHeREVERSEDeWITH CARONfCURLfPALATAL HOOK",
    "fRETROFLEX HOOKfTAILdFeWITH DOT ABOVEfHOOKfMIDDLE TILDEfPALATAL HOOKfSTROKEdFENG DIGRAPH",
    "fWITH TRILLdGeWITH ACUTEfBREVEfCARONfCEDILLAfCIRCUMFLEXfDOT ABOVEfHOOKfMACRON",
    "fOBLIQUE STROKEfPALATAL HOOKfSTROKEdGAMMAdGHAdGLOTTAL AeIeSTOPeUdHeWITH BREVE BELOW",
    "fCARONfCEDILLAfCIRCUMFLEXfDESCENDERfDIAERESISfDOT ABOVEgBELOWfHOOKfLINE BELOW",
    "fPALATAL HOOKfSTROKEdHALF HdHENGeWITH HOOKdHVdIeWITH ACUTEfBREVEfCARONfCIRCUMFLEX",
    "fDIAERESISgAND ACUTEfDOT BELOWfDOUBLE GRAVEfGRAVEfHOOK ABOVEfINVERTED BREVEfMACRON",
    "fOGONEKfRETROFLEX HOOKfSTROKEgAND RETROFLEX HOOKfTILDEgBELOWdINSULAR DeFeGeReSeT",
    "dINVERTED ALPHAeOEdIOTAeWITH STROKEdIOTIFIED EdISdJeWITH CARONfCIRCUMFLEXfCROSSED-TAIL",
    "fSTROKEdKeWITH ACUTEfCARONfCEDILLAfDESCENDERfDIAGONAL STROKEfDOT BELOWfHOOKfLINE BELOW",
    "fOBLIQUE STROKEfPALATAL HOOKfSTROKEgAND DIAGONAL STROKEdKRAdLeWITH ACUTEfBARfBELT",
    "gAND PALATAL HOOKfCARONfCEDILLAfCIRCUMFLEX BELOWfCURLfDOT BELOWhAND MACRONfDOUBLE BAR",
    "gMIDDLE TILDEfFISHHOOKfHIGH STROKEfINVERTED LAZY SfLINE BELOWfMIDDLE DOTgRINGgTILDE",
    "fPALATAL HOOKfRETROFLEX HOOKhAND BELTfSTROKEdLAMBDA WITH STROKEdLENIS FdLEZH",
    "eWITH RETROFLEX HOOKdLJdLONG SfWITH DIAGONAL STROKEgDOT ABOVEgHIGH STROKEdLS DIGRAPHdLUM",
    "dLZ DIGRAPHdMeWITH ACUTEfCROSSED-TAILfDOT ABOVEgBELOWfHOOKfMIDDLE TILDEfPALATAL HOOK",
    "dMIDDLE SCOTS SdMIDDLE-WELSH LLeVdMUMdNePRECEDED BY APOSTROPHEeWITH ACUTEfCARONfCEDILLA",
    "fCIRCUMFLEX BELOWfCROSSED-TAILfCURLfDESCENDERfDOT ABOVEgBELOWfGRAVEfLEFT HOOKfLINE BELOW",
    "fLONG RIGHT LEGfMIDDLE TILDEfOBLIQUE STROKEfPALATAL HOOKfRETROFLEX HOOKfTILDEdNJdNUMdO",
    "eWITH ACUTEfBREVEfCARONfCIRCUMFLEXgAND ACUTEhDOT BELOWhGRAVEhHOOK ABOVEhTILDEfDIAERESIS",
    "gAND MACRONfDOT ABOVEhAND MACRONgBELOWfDOUBLE ACUTEgGRAVEfGRAVEfHOOK ABOVEfHORN",
    "gAND ACUTEhDOT BELOWhGRAVEhHOOK ABOVEhTILDEfINVERTED BREVEfLONG STROKE OVERLAYfLOOP",
    "fLOW RING INSIDEfMACRONgAND ACUTEhGRAVEfOGONEKgAND MACRONfRETROFLEX HOOKfSTROKE",
    "gAND ACUTEfTILDEgAND ACUTEhDIAERESIShMACRONdOIdOLD POLISH OdOMEGAdOOdOPEN E",
    "fWITH RETROFLEX HOOKeOfWITH RETROFLEX HOOKgSTROKEeOEdOUdPeWITH ACUTEfDOT ABOVEfFLOURISH",
    "fHOOKfMIDDLE TILDEfPALATAL HOOKfSQUIRREL TAILfSTROKEgTHROUGH DESCENDERdPHIdQ",
    "eWITH DIAGONAL STROKEfHOOKgTAILfSTROKE THROUGH DESCENDERdQP DIGRAPHdReROTUNDAeWITH ACUTE",
    "fCARONfCEDILLAfCROSSED-TAILfDOT ABOVEgBELOWhAND MACRONfDOUBLE GRAVEfFISHHOOK",
    "gAND MIDDLE TILDEhPALATAL HOOKfINVERTED BREVEfLINE BELOWfLONG LEGfMIDDLE TILDE",
    "fOBLIQUE STROKEfPALATAL HOOKfSTROKEfTAILeWITHOUT HANDLEdRAMS HORNdREVERSED CfWITH DOTeE",
    "eENGeHALF HeKeOPEN EgWITH HOOKhRETROFLEX HOOKeR WITH FISHHOOKeSCRIPT GdRUMeROTUNDAdS",
    "eWITH ACUTEgAND DOT ABOVEfCARONgAND DOT ABOVEfCEDILLAfCIRCUMFLEXfCOMMA BELOWfCURL",
    "fDOT ABOVEgBELOWhAND DOT ABOVEfHOOKfMIDDLE TILDEfOBLIQUE STROKEfPALATAL HOOK",
    "fSHORT STROKE OVERLAYfSWASH TAILdSAKHA YATdSALTILLOdSCHWAeWITH HOOKfRETROFLEX HOOK",
    "dSCRIPT GfWITH CROSSED-TAILeRfWITH RINGdSHARP SdSIDEWAYS DIAERESIZED UeOfWITH STROKE",
    "eOPEN OeTURNED MeUdSIGMOID SdSQUAT REVERSED ESHdSTIRRUP RdTeWITH CARONfCEDILLA",
    "fCIRCUMFLEX BELOWfCOMMA BELOWfCURLfDIAERESISfDIAGONAL STROKEfDOT ABOVEgBELOWfHOOK",
    "gAND RETROFLEX HOOKfLINE BELOWfMIDDLE TILDEfPALATAL HOOKfRETROFLEX HOOKfSTROKE",
    "dTAILLESS PHIdTC DIGRAPH WITH CURLdTESH DIGRAPHfWITH PALATAL HOOKgRETROFLEX HOOK",
    "dTH WITH STRIKETHROUGHdTHORNeWITH STROKEgTHROUGH DESCENDERdTONE FIVEeSIXeTWOdTOP HALF O",
    "dTRESILLOdTS DIGRAPHfWITH RETROFLEX HOOKdTUMdTURNED AeAEeALPHAeDELTAeEeGeHfWITH FISHHOOK",
    "hAND TAILeIeINSULAR GeKeLeMfWITH LONG LEGeO OPEN-OgWITH STROKEeOEfWITH HORIZONTAL STROKE",
    "gSTROKEeOPEN EeRfWITH HOOKgLONG LEGiAND RETROFLEX HOOKgMIDDLE TILDEgPALATAL HOOKgTAILeT",
    "fWITH CURLeUIeVeWeYfWITH BELTdTZdUeBARfWITH SHORT RIGHT LEGeWITH ACUTEfBREVEfCARON",
    "fCIRCUMFLEXgBELOWfDIAERESISgAND ACUTEhCARONhGRAVEhMACRONgBELOWfDOT BELOWfDOUBLE ACUTE",
    "gGRAVEfGRAVEfHOOK ABOVEfHORNgAND ACUTEhDOT BELOWhGRAVEhHOOK ABOVEhTILDEfINVERTED BREVE",
    "fLEFT HOOKfMACRONgAND DIAERESISfOGONEKfRETROFLEX HOOKfRING ABOVEfSHORT RIGHT LEGfSTROKE",
    "fTILDEgAND ACUTEgBELOWdUEdUIdUMdUOdUPSILONeWITH STROKEdVeWITH CURLfDIAGONAL STROKE",
    "fDOT BELOWfHOOKfPALATAL HOOKfRIGHT HOOKfTILDEdVENDdVISIGOTHIC ZdVOLAPUK AEeOEeUEdVYdW",
    "eWITH ACUTEfCIRCUMFLEXfDIAERESISfDOT ABOVEgBELOWfGRAVEfHOOKfRING ABOVEdXeWITH DIAERESIS",
    "fDOT ABOVEfLONG LEFT LEGiAND LOW RIGHT RINGiWITH SERIFfLOW RIGHT RINGfPALATAL HOOKdY",
    "eWITH ACUTEfCIRCUMFLEXfDIAERESISfDOT ABOVEgBELOWfGRAVEfHOOKgABOVEfLOOPfMACRONfRING ABOVE",
    "fSHORT RIGHT LEGfSTROKEfTILDEdYOGHdZeWITH ACUTEfCARONfCIRCUMFLEXfCURLfDESCENDER",
    "fDOT ABOVEgBELOWfHOOKfLINE BELOWfMIDDLE TILDEfPALATAL HOOKfRETROFLEX HOOKfSTROKE",
    "fSWASH TAILcLIGATURE FFdFFIdFFLdFIdFLdIJdLONG S TdOEdSTbSUBSCRIPT SMALL LETTER AeEeHeIeJ",
    "eKeLeMeNeOePeReSeSCHWAeTeUeVeXaLEAF FLUTTERING IN WINDaLEAFY GREENaLEDGER",
    "aLEFT AND LOWER AND RIGHT TRIANGULAR THREE QUARTERS BLOCKdONE EIGHTH BLOCK",
    "cRIGHT DOUBLE TURNSTILEdTACKdTRIANGULAR HALF BLOCK",
    "cUPPER AND RIGHT TRIANGULAR THREE QUARTERS BLOCKdONE EIGHTH BLOCKbANGER BUBBLE",
    "bANGLE BRACKETdWITH DOTbARC LESS-THAN BRACKETbARROW WITH CIRCLED PLUSdSMALL CIRCLE",
    "bBARB DOWN RIGHT BARB DOWN HARPOONfUP HARPOONcUP RIGHT BARB DOWN HARPOONfUP HARPOON",
    "bBLACK LENTICULAR BRACKETcTORTOISE SHELL BRACKETbCEILINGbCLOSED ENTRYbCORNER BRACKET",
    "bCURLY BRACKETdLOWER HOOKdMIDDLE PIECEdUPPER HOOKbDOTTED SUBSTITUTION BRACKET",
    "bDOUBLE ANGLE BRACKETcPARENTHESIScQUOTATION MARKcWIGGLY FENCEbFISH TAIL",
    "bFIVE EIGHTHS BLOCKbFLOORbHALF BLACK CIRCLEdSTARcBLOCKcCIRCLEdWITH DOTeFOUR DOTS",
    "eTHREE DOTSeTWO DOTScFOLDERcINVERSE MEDIUM SHADE AND RIGHT HALF BLOCKcMEDIUM SHADE",
    "cRUNNING MANbHAND TELEPHONE RECEIVERbLOW PARAPHRASE BRACKETbLUGGAGEbMULTIMAP",
    "bNORMAL FACTOR SEMIDIRECT PRODUCTbONE EIGHTH BLOCKcQUARTER BLOCKbOUTER JOINbPARENTHESIS",
    "cEXTENSIONcLOWER HOOKcUPPER HOOKbRAISED OMISSION BRACKETbRIGHT ARROW",
    "dTHROUGH SMALL CIRCLEdWITH DOUBLE VERTICAL STROKEeSTROKEeVERTICAL STROKEcBLACK ARROW",
    "cDOUBLE ARROWeWITH STROKEfVERTICAL STROKEcOPEN-HEADED ARROWcSANS-SERIF ARROW",
    "cTRIANGLE-HEADED ARROWcWAVE ARROWcWHITE ARROWbS-SHAPED BAG DELIMITERbSEMIDIRECT PRODUCT",
    "bSEVEN EIGHTHS BLOCKbSIDEWAYS U BRACKETbSINGLE QUOTATION MARKbSPEECH BUBBLE",
    "bSQUARE BRACKETdEXTENSIONdLOWER CORNERdUPPER CORNERdWITH DOUBLE STROKEeQUILLeSTROKE",
    "eTICK IN BOTTOM CORNERgTOP CORNEReUNDERBARbSUBSTITUTION BRACKETbTACK",
    "bTHIRD WHITE RIGHT POINTING INDEXbTHOUGHT BUBBLEbTHREE EIGHTHS BLOCKcQUARTERS BLOCK",
    "bTORTOISE SHELL BRACKETbTRANSPOSITION BRACKETbTRIANGLE BESIDE VERTICAL BAR",
    "bTRIANGULAR ONE QUARTER BLOCKbVERTICAL BAR WITH QUILLcBOX LINEbWHITE CORNER BRACKET",
    "cCURLY BRACKETcLENTICULAR BRACKETcPARENTHESIScSQUARE BRACKETcTORTOISE SHELL BRACKET",
    "bWIGGLY FENCEbWRITING HANDaLEFT-FACING ARMENIAN ETERNITY SIGNbFISTbSVASTI SIGNdWITH DOTS",
    "aLEFT-HANDED INTERLACED PENTAGRAMaLEFT-POINTING ANGLE BRACKETbCURVED ANGLE BRACKET",
    "bDOUBLE ANGLE QUOTATION MARKbMAGNIFYING GLASSaLEFT-SHADED WHITE RIGHTWARDS ARROW",
    "aLEFT-SIDE ARC ANTICLOCKWISE ARROWaLEFT-TO-RIGHT EMBEDDINGbISOLATEbMARKbOVERRIDE",
    "aLEFTWARDS ARROWcABOVE ALMOST EQUAL TOdREVERSE ALMOST EQUAL TOeTILDE OPERATOR",
    "dSHORT RIGHTWARDS ARROWdTILDE OPERATORcAND UPPER AND LOWER ONE EIGHTH BLOCKcFROM BAR",
    "eTO BLACK DIAMONDcOVER RIGHTWARDS ARROWcTHROUGH LESS-THANdSUBSETdXcTO BAR",
    "eOVER RIGHTWARDS ARROW TO BARdBLACK DIAMONDcWITH DOTTED STEMdDOUBLE VERTICAL STROKE",
    "dEQUILATERAL ARROWHEADdHOOKdLARGE TRIANGLE ARROWHEADdLOOPdMEDIUM TRIANGLE ARROWHEAD",
    "dNOTCHED TAILdPLUS BELOWdSMALL EQUILATERAL ARROWHEADeTRIANGLE ARROWHEADdSTROKEdTAIL",
    "eWITH DOUBLE VERTICAL STROKEfVERTICAL STROKEdTIP DOWNWARDSeUPWARDSdVERTICAL STROKE",
    "bARROW-TAILbBACK-TILTED SHADOWED WHITE ARROWbBLACK ARROWcCIRCLED WHITE ARROW",
    "bBOTTOM-SHADED WHITE ARROWbCOMPRESSED ARROWbDASHED ARROWbDOUBLE ARROWdFROM BAR",
    "dWITH STROKEeVERTICAL STROKEcARROW-TAILcDASH ARROWbFINGER-POST ARROW",
    "bFRONT-TILTED SHADOWED WHITE ARROWbHANDbHARPOON OVER RIGHTWARDS HARPOON",
    "cWITH BARB DOWN ABOVE RIGHTWARDS HARPOON WITH BARB DOWNfBELOW LONG DASHfFROM BARfTO BAR",
    "eDOWNWARDSeUP ABOVE LEFTWARDS HARPOON WITH BARB DOWNgLONG DASH",
    "gRIGHTWARDS HARPOON WITH BARB UPfFROM BARfTO BAReUPWARDSbHEAVY ARROWcCOMPRESSED ARROW",
    "bLEFT-SHADED WHITE ARROWbOPEN-HEADED ARROWbPAIRED ARROWSbQUADRUPLE ARROW",
    "bRIGHT-SHADED WHITE ARROWbROCKETbSANS-SERIF ARROWbSQUARED ARROWbSQUIGGLE ARROW",
    "bTOP SHADED WHITE ARROWbTRIANGLE ARROWHEADbTRIANGLE-HEADED ARROW",
    "dOVER RIGHTWARDS TRIANGLE-HEADED ARROWdTO BARdWITH BOLD SHAFTeDOUBLE HORIZONTAL STROKE",
    "fVERTICAL STROKEeHEAVY SHAFTeLONG TIP DOWNWARDSgUPWARDSeMEDIUM SHAFTeNARROW SHAFT",
    "eVERY HEAVY SHAFTcDASHED ARROWcPAIRED ARROWSbTRIPLE ARROWcDASH ARROWbTWO HEADED ARROW",
    "bTWO-HEADED ARROW FROM BARdWITH DOUBLE VERTICAL STROKEeTAILfWITH DOUBLE VERTICAL STROKE",
    "gVERTICAL STROKEeTRIANGLE ARROWHEADSeVERTICAL STROKEcTRIPLE DASH ARROWbWAVE ARROW",
    "bWHITE ARROWdWITHIN TRIANGLE ARROWHEADaLEGaLEMONaLEOaLEOPARDaLEPCHA CONSONANT SIGN K",
    "dKANGdLdMdNdNYIN-DOdPdRdTbDIGIT EIGHTcFIVEcFOURcNINEcONEcSEVENcSIXcTHREEcTWOcZERO",
    "bLETTER AcBAcBLAcCAcCHAcDAcDDAcDZAcFAcFLAcGAcGLAcHAcHLAcJAcKAcKHAcKLAcLAcMAcMLAcNAcNGA",
    "cNYAcPAcPHAcPLAcRAcSAcSHAcTAcTHAcTSAcTSHAcTTAcTTHAcVAcWAcYAbPUNCTUATION CER-WA",
    "cNYET THYOOM TA-ROLcTA-ROLcTSHOOKdCER-WAbSIGN NUKTAcRANbSUBJOINED LETTER RAdYA",
    "bVOWEL SIGN AAdEdIdOdOOdUdUUaLESS-THAN ABOVE DOUBLE-LINE EQUAL ABOVE GREATER-THAN",
    "cGREATER-THAN ABOVE DOUBLE-LINE EQUALcLEFTWARDS ARROWcSIMILAR ABOVE GREATER-THAN",
    "dOR EQUALcSLANTED EQUAL ABOVE GREATER-THAN ABOVE SLANTED EQUALbAND NOT APPROXIMATE",
    "cSINGLE-LINE NOT EQUAL TObBUT NOT EQUAL TOdEQUIVALENT TObCLOSED BY CURVE",
    "eABOVE SLANTED EQUALbEQUAL TO OR GREATER-THANbOR APPROXIMATEcEQUAL TOcEQUIVALENT TO",
    "cGREATER-THANcSLANTED EQUAL TOfWITH DOT ABOVEiRIGHThINSIDEbOVER EQUAL TObSIGN",
    "bWITH CIRCLE INSIDEcDOTcQUESTION MARK ABOVEaLEVEL SLIDERaLFaLIBRA",
    "aLIGATURE OPEN ET ORNAMENTaLIGHT CHECK MARKbEIGHT SPOKED ASTERISK",
    "bFIVE POINTED BLACK STARcSPOKED ASTERISKbFOUR POINTED BLACK CUSPeSTARbGREEK CROSS",
    "bLEFT TORTOISE SHELL BRACKET ORNAMENTbRAILbRIGHT TORTOISE SHELL BRACKET ORNAMENTbSALTIRE",
    "bSHADEbSIX SPOKED ASTERISKbTHREE POINTED BLACK STARbTWELVE POINTED BLACK STAR",
    "bVERTICAL BARbWHITE SQUAREaLIGHTNINGbMOODcBUBBLEaLIMBU DIGIT EIGHTcFIVEcFOURcNINEcONE",
    "cSEVENcSIXcTHREEcTWOcZERObEXCLAMATION MARKbLETTER BAcBHAcCAcCHAcDAcDHAcGAcGHAcGYANcHAcJA",
    "cJHAcKAcKHAcLAcMAcNAcNGAcPAcPHAcRAcSAcSHAcSSAcTAcTHAcTRAcWAcYAcYANbQUESTION MARK",
    "bSIGN KEMPHRENGcLOOcMUKPHRENGcSA-IbSMALL LETTER ANUSVARAdKAdLAdMAdNAdNGAdPAdRAdTA",
    "bSUBJOINED LETTER RAdWAdYAbVOWEL SIGN AdAIdAUdEdEEdIdOdOOdUbVOWEL-CARRIER LETTER",
    "aLIMITED LIABILITY SIGNaLINE FEEDbINTEGRATION NOT INCLUDING THE POLE",
    "cWITH RECTANGULAR PATH AROUND POLEdSEMICIRCULAR PATH AROUND POLEbSEPARATORbTABULATION",
    "cSETaLINEAR A SIGN A028BdA100-102dA120BdA131CdA301dA302dA303dA304dA305dA306dA307dA308",
    "dA309AdA309BdA309CdA310dA311dA312dA313AdA313BdA313CdA314dA315dA316dA317dA318dA319dA320",
    "dA321dA322dA323dA324dA325dA326dA327dA328dA329dA330dA331dA332dA333dA334dA335dA336dA337",
    "dA338dA339dA340dA341dA342dA343dA344dA345dA346dA347dA348dA349dA350dA351dA352dA353dA354",
    "dA355dA356dA357dA358dA359dA360dA361dA362dA363dA364dA365dA366dA367dA368dA369dA370dA371",
    "dA400-VASdA401-VASdA402-VASdA403-VASdA404-VASdA405-VASdA406-VASdA407-VASdA408-VAS",
    "dA409-VASdA410-VASdA411-VASdA412-VASdA413-VASdA414-VASdA415-VASdA416-VASdA417-VAS",
    "dA418-VASdA501dA502dA503dA504dA505dA506dA508dA509dA510dA511dA512dA513dA515dA516dA520",
    "dA521dA523dA524dA525dA526dA527dA528dA529dA530dA531dA532dA534dA535dA536dA537dA538dA539",
    "dA540dA541dA542dA545dA547dA548dA549dA550dA551dA552dA553dA554dA555dA556dA557dA559dA563",
    "dA564dA565dA566dA568dA569dA570dA571dA572dA573dA574dA575dA576dA577dA578dA579dA580dA581",
    "dA582dA583dA584dA585dA586dA587dA588dA589dA591dA592dA594dA595dA596dA598dA600dA601dA602",
    "dA603dA604dA606dA608dA609dA610dA611dA612dA613dA614dA615dA616dA617dA618dA619dA620dA621",
    "dA622dA623dA624dA626dA627dA628dA629dA634dA637dA638dA640dA642dA643dA644dA645dA646dA648",
    "dA649dA651dA652dA653dA654dA655dA656dA657dA658dA659dA660dA661dA662dA663dA664dA701 A",
    "dA702 BdA703 DdA704 EdA705 FdA706 HdA707 JdA708 KdA709 LdA709-2 L2dA709-3 L3dA709-4 L4",
    "dA709-6 L6dA710 WdA711 XdA712 YdA713 OMEGAdA714 ABBdA715 BBdA717 DDdA726 EYYYdA732 JE",
    "dA800dA801dA802dA803dA804dA805dA806dA807dAB001dAB002dAB003dAB004dAB005dAB006dAB007dAB008",
    "dAB009dAB010dAB011dAB013dAB016dAB017dAB020dAB021dAB021FdAB021MdAB022dAB022FdAB022MdAB023",
    "dAB023MdAB024dAB026dAB027dAB028dAB029dAB030dAB031dAB034dAB037dAB038dAB039dAB040dAB041",
    "dAB044dAB045dAB046dAB047dAB048dAB049dAB050dAB051dAB053dAB054dAB055dAB056dAB057dAB058",
    "dAB059dAB060dAB061dAB065dAB066dAB067dAB069dAB070dAB073dAB074dAB076dAB077dAB078dAB079",
    "dAB080dAB081dAB082dAB085dAB086dAB087dAB118dAB120dAB122dAB123dAB131AdAB131BdAB164dAB171",
    "dAB180dAB188dAB191bB IDEOGRAM B100 MANdB102 WOMANdB104 DEERdB105 EQUIDdB105F MARE",
    "dB105M STALLIONdB106F EWEdB106M RAMdB107F SHE-GOATdB107M HE-GOATdB108F SOWdB108M BOAR",
    "dB109F COWdB109M BULLdB120 WHEATdB121 BARLEYdB122 OLIVEdB123 SPICEdB125 CYPERUSdB130 OIL",
    "dB131 WINEdB132dB140 BRONZEdB141 GOLDdB142dB145 WOOLdB146dB150dB151 HORNdB152dB153dB154",
    "dB157dB158dB159 CLOTHdB160dB161dB162 GARMENTdB163 ARMOURdB164dB165dB166dB167dB168dB169",
    "dB170dB171dB172dB173 MONTHdB174dB176 TREEdB177dB178dB179dB180dB181dB182dB183dB184dB185",
    "dB189dB190dB191 HELMETdB220 FOOTSTOOLdB225 BATHTUBdB230 SPEARdB231 ARROWdB232dB233 SWORD",
    "dB234dB236dB240 WHEELED CHARIOTdB241 CHARIOTdB242 CHARIOT FRAMEdB243 WHEELdB245dB246",
    "dB248dB249dB251dB252dB253dB254 DARTdB255dB256dB257dB258dB259dVESSEL B155eB200eB201eB202",
    "eB203eB204eB205eB206eB207eB208eB209eB210eB211eB212eB213eB214eB215eB216eB217eB218eB219",
    "eB221eB222eB226eB227eB228eB229eB250eB305cMONOGRAM B127 KAPOdB128 KANAKOdB133 AREPA",
    "dB135 MERIdB156 TURO2dB247 DIPTEcSYLLABLE B001 DAdB002 ROdB003 PAdB004 TEdB005 TO",
    "dB006 NAdB007 DIdB008 AdB009 SEdB010 UdB011 POdB012 SOdB013 MEdB014 DOdB015 MOdB016 QA",
    "dB017 ZAdB020 ZOdB021 QIdB023 MUdB024 NEdB025 A2dB026 RUdB027 REdB028 IdB029 PU2dB030 NI",
    "dB031 SAdB032 QOdB033 RA3dB036 JOdB037 TIdB038 EdB039 PIdB040 WIdB041 SIdB042 WOdB043 A3",
    "dB044 KEdB045 DEdB046 JEdB048 NWAdB050 PUdB051 DUdB052 NOdB053 RIdB054 WAdB055 NU",
    "dB057 JAdB058 SUdB059 TAdB060 RAdB061 OdB062 PTEdB065 JUdB066 TA2dB067 KIdB068 RO2",
    "dB069 TUdB070 KOdB071 DWEdB072 PEdB073 MIdB074 ZEdB075 WEdB076 RA2dB077 KAdB078 QE",
    "dB080 MAdB081 KUdB085 AUdB087 TWEdB090 DWOdB091 TWOcSYMBOL B018dB019dB022dB034dB047dB049",
    "dB056dB063dB064dB079dB082dB083dB086dB089aLINK SYMBOLaLINKED PAPERCLIPSaLION FACEaLIPS",
    "aLIPSTICKaLIRA SIGNaLISU LETTER AcAEcBAcCAcCHAcDAcDZAcEcEUcFAcGAcGHAcHAcHHAcIcJAcKAcKHA",
    "cLAcMAcNAcNGAcOcOEcPAcPHAcSAcSHAcTAcTHAcTONE MYA BOeCYAeJEUeNAeTIdNA POcTSAcTSHAcUcUEcUH",
    "cWAcXAcYAcYHAcZAcZHAbPUNCTUATION COMMAcFULL STOPaLIVRE TOURNOIS SIGNaLIZARDaLLAMA",
    "aLOBSTERaLOCKbWITH INK PENaLOCKING-SHIFT ONEbZEROaLOGICAL ANDcWITH DOT ABOVE",
    "dDOUBLE OVERBAReUNDERBARdHORIZONTAL DASHdMIDDLE STEMdUNDERBARbORcOVERLAPPING LOGICAL AND",
    "cWITH DOT ABOVEdDOUBLE OVERBAReUNDERBARdHORIZONTAL DASHdMIDDLE STEMaLOLLIPOP",
    "aLONG DASH FROM LEFT MEMBER OF DOUBLE VERTICALbDIVISIONbDRUMbLEFT RIGHT ARROW",
    "dDOUBLE ARROWcTACKbLEFTWARDS ARROWdFROM BARcDOUBLE ARROWeFROM BARcSQUIGGLE ARROW",
    "bRIGHT TACKbRIGHTWARDS ARROWdFROM BARcDOUBLE ARROWeFROM BARcSQUIGGLE ARROWaLOTION BOTTLE",
    "aLOTUSaLOUDLY CRYING FACEaLOVE HOTELbLETTERaLOW ASTERISKbBATTERYbBRIGHTNESS SYMBOL",
    "bDOUBLE PRIME QUOTATION MARKbKAVYKAcWITH DOTbLINEaLOWER BLADE SCISSORS",
    "bFIVE EIGHTHS BLOCKbHALF BLOCKcCIRCLEcINVERSE WHITE CIRCLEcMEDIUM SHADE",
    "bLEFT BALLPOINT PENcBLOCK DIAGONAL LOWER MIDDLE LEFT TO LOWER CENTREjRIGHT",
    "eUPPER CENTRE TO LOWER MIDDLE RIGHTiRIGHThUPPER MIDDLE RIGHTfLEFT TO LOWER CENTRE",
    "iMIDDLE RIGHThUPPER MIDDLE RIGHTfMIDDLE LEFT TO LOWER CENTREjMIDDLE RIGHTjRIGHTcCRAYON",
    "cFOUNTAIN PENcPAINTBRUSHcPENCILcQUADRANT CIRCULAR ARCcSEMICIRCULAR ANTICLOCKWISE ARROW",
    "cTRIANGLEcTRIANGULAR MEDIUM SHADEbONE EIGHTH BLOCKcQUARTER BLOCK",
    "bRIGHT BLOCK DIAGONAL LOWER CENTRE TO LOWER MIDDLE RIGHThUPPER MIDDLE RIGHTiRIGHT",
    "fLEFT TO LOWER MIDDLE RIGHThUPPER CENTREiMIDDLE RIGHTfMIDDLE LEFT TO UPPER CENTRE",
    "jMIDDLE RIGHTjRIGHTeUPPER MIDDLE LEFT TO UPPER CENTREjRIGHTcCORNER WITH DOT",
    "cDROP-SHADOWED WHITE SQUAREcPENCILcQUADRANT CIRCULAR ARCcSEMICIRCULAR CLOCKWISE ARROW",
    "cSHADOWED WHITE CIRCLEeSQUAREcTRIANGLEcTRIANGULAR MEDIUM SHADEbSEVEN EIGHTHS BLOCK",
    "bTHREE EIGHTHS BLOCKcQUARTERS BLOCKbTRIANGULAR ONE QUARTER BLOCKaLOZENGE",
    "bDIVIDED BY HORIZONTAL RULEaLREaLRIaLRMaLROaLUGGAGEaLUNGSaLYCIAN LETTER AcANcBcBHcDcEcEN",
    "cGcHcIcJcKcKKcLcMcMMcNcNNcPcQcRcScTcTHcTTcUcWcXcZaLYDIAN LETTER AcANcBcCcDcEcENcFcGcIcK",
    "cLcLYcMcNcNNcOcQcRcScSScTcTTcUcVcYbTRIANGULAR MARKaLYING FACE"]

end CharacterName

end ElementBindings
