/-!
# Names of characters, eighth part

The names of the characters from U+FD7B to U+11237, in the shortened form of
character names.
-/

namespace LintScaffold.Text.CharName

/-- The rows of names from U+FD7B on. -/
def eighthRows : List String := [
  "ynALEF MAKSURA FINAL FORMqFEH WITH KHAH WITH MEEM FINAL FORMyqINITIAL FORM",
  "qQAF WITH MEEM WITH HAH FINAL FORMylMEEM FINAL FORMqLAM WITH HAH WITH MEEM FINAL FORM",
  "ykYEH FINAL FORMykALEF MAKSURA FINAL FORMybJEEM WITH JEEM INITIAL FORMyqFINAL FORM",
  "ybKHAH WITH MEEM FINAL FORMyqINITIAL FORMybMEEM WITH HAH FINAL FORMypINITIAL FORM",
  "qMEEM WITH HAH WITH JEEM INITIAL FORMylMEEM INITIAL FORMylYEH FINAL FORM",
  "ycJEEM WITH HAH INITIAL FORMymMEEM INITIAL FORMycKHAH WITH JEEM INITIAL FORM",
  "ymMEEM INITIAL FORM*2ycJEEM WITH KHAH INITIAL FORMqHEH WITH MEEM WITH JEEM INITIAL FORM",
  "ylMEEM INITIAL FORMqNOON WITH HAH WITH MEEM INITIAL FORMylALEF MAKSURA FINAL FORM",
  "ycJEEM WITH MEEM FINAL FORMyrINITIAL FORMymALEF MAKSURA FINAL FORMycMEEM WITH YEH FINAL FORM",
  "ymALEF MAKSURA FINAL FORMqYEH WITH MEEM WITH MEEM FINAL FORMyqINITIAL FORM",
  "qBEH WITH KHAH WITH YEH FINAL FORMqTEH WITH JEEM WITH YEH FINAL FORMylALEF MAKSURA FINAL FORM",
  "ybKHAH WITH YEH FINAL FORMylALEF MAKSURA FINAL FORMybMEEM WITH YEH FINAL FORM",
  "ylALEF MAKSURA FINAL FORMqJEEM WITH MEEM WITH YEH FINAL FORM",
  "ycHAH WITH ALEF MAKSURA FINAL FORMycMEEM WITH ALEF MAKSURA FINAL FORM",
  "qSEEN WITH KHAH WITH ALEF MAKSURA FINAL FORMrAD WITH HAH WITH YEH FINAL FORM",
  "rHEEN WITH HAH WITH YEH FINAL FORMqDAD WITH HAH WITH YEH FINAL FORM",
  "qLAM WITH JEEM WITH YEH FINAL FORMybMEEM WITH YEH FINAL FORMqYEH WITH HAH WITH YEH FINAL FORM",
  "ybJEEM WITH YEH FINAL FORMybMEEM WITH YEH FINAL FORMqMEEM WITH MEEM WITH YEH FINAL FORM",
  "qQAF WITH MEEM WITH YEH FINAL FORMqNOON WITH HAH WITH YEH FINAL FORM",
  "qQAF WITH MEEM WITH HAH INITIAL FORMqLAM WITH HAH WITH MEEM INITIAL FORM",
  "qAIN WITH MEEM WITH YEH FINAL FORMqKAF WITH MEEM WITH YEH FINAL FORM",
  "qNOON WITH JEEM WITH HAH INITIAL FORMqMEEM WITH KHAH WITH YEH FINAL FORM",
  "qLAM WITH JEEM WITH MEEM INITIAL FORMqKAF WITH MEEM WITH MEEM FINAL FORM",
  "qLAM WITH JEEM WITH MEEM FINAL FORMqNOON WITH JEEM WITH HAH FINAL FORM",
  "qJEEM WITH HAH WITH YEH FINAL FORMqHAH WITH JEEM WITH YEH FINAL FORM",
  "qMEEM WITH JEEM WITH YEH FINAL FORMqFEH WITH MEEM WITH YEH FINAL FORM",
  "qBEH WITH HAH WITH YEH FINAL FORMqKAF WITH MEEM WITH MEEM INITIAL FORM",
  "qAIN WITH JEEM WITH MEEM INITIAL FORMqSAD WITH MEEM WITH MEEM INITIAL FORM",
  "rEEN WITH KHAH WITH YEH FINAL FORMqNOON WITH JEEM WITH YEH FINAL FORM*7qSALAAMUHU ALAYNAA",
  "*32tLA USED AS KORANIC STOP SIGN ISOLATED FORMqQALA USED AS KORANIC STOP SIGN ISOLATED FORM",
  "qALLAH ISOLATED FORMrKBAR ISOLATED FORMqMOHAMMAD ISOLATED FORMqSALAM ISOLATED FORM",
  "qRASOUL ISOLATED FORMqALAYHE ISOLATED FORMqWASALLAM ISOLATED FORMqSALLA ISOLATED FORM",
  "vLLAHOU ALAYHE WASALLAMqJALLAJALALOUHOUaRIAL SIGN",
  "aARABIC LIGATURE BISMILLAH AR-RAHMAN AR-RAHEEMqSUBHAANAHU WA TAAALAAqAZZA WA JALL",
  "aVARIATION SELECTOR-1t2t3t4t5t6t7t8t9t10u1u2u3u4u5u6aPRESENTATION FORM FOR VERTICAL COMMA",
  "yhIDEOGRAPHIC COMMAytFULL STOPyhCOLONyhSEMICOLONyhEXCLAMATION MARKyhQUESTION MARK",
  "yhLEFT WHITE LENTICULAR BRACKETyhRIGHT WHITE LENTICULAR BRAKCETyhHORIZONTAL ELLIPSIS",
  "*6aCOMBINING LIGATURE LEFT HALFtRIGHT HALFkDOUBLE TILDE LEFT HALFxRIGHT HALFkMACRON LEFT HALF",
  "rRIGHT HALFkCONJOINING MACRONkLIGATURE LEFT HALF BELOWtRIGHT HALF BELOWkTILDE LEFT HALF BELOW",
  "qRIGHT HALF BELOWkMACRON LEFT HALF BELOWrRIGHT HALF BELOWkCONJOINING MACRON BELOW",
  "lYRILLIC TITLO LEFT HALFybRIGHT HALFaPRESENTATION FORM FOR VERTICAL TWO DOT LEADERyhEM DASH",
  "yiN DASHyhLOW LINEyhWAVY LOW LINEyhLEFT PARENTHESISyhRIGHT PARENTHESISyhLEFT CURLY BRACKET",
  "yhRIGHT CURLY BRACKETyhLEFT TORTOISE SHELL BRACKETyhRIGHT TORTOISE SHELL BRACKET",
  "yhLEFT BLACK LENTICULAR BRACKETyhRIGHT BLACK LENTICULAR BRACKETyhLEFT DOUBLE ANGLE BRACKET",
  "yhRIGHT DOUBLE ANGLE BRACKETyhLEFT ANGLE BRACKETyhRIGHT ANGLE BRACKETyhLEFT CORNER BRACKET",
  "yhRIGHT CORNER BRACKETyhLEFT WHITE CORNER BRACKETyhRIGHT WHITE CORNER BRACKETaSESAME DOT",
  "aWHITE SESAME DOTaPRESENTATION FORM FOR VERTICAL LEFT SQUARE BRACKETyhRIGHT SQUARE BRACKET",
  "aDASHED OVERLINEaCENTRELINE OVERLINEaWAVY OVERLINEaDOUBLE WAVY OVERLINEbASHED LOW LINE",
  "aCENTRELINE LOW LINEaWAVY LOW LINEaSMALL COMMAgIDEOGRAPHIC COMMAgFULL STOP*1gSEMICOLONgCOLON",
  "gQUESTION MARKgEXCLAMATION MARKhM DASHgLEFT PARENTHESISgRIGHT PARENTHESISgLEFT CURLY BRACKET",
  "gRIGHT CURLY BRACKETgLEFT TORTOISE SHELL BRACKETgRIGHT TORTOISE SHELL BRACKETgNUMBER SIGN",
  "gAMPERSANDhSTERISKgPLUS SIGNgHYPHEN-MINUSgLESS-THAN SIGNgGREATER-THAN SIGNgEQUALS SIGN",
  "*1gREVERSE SOLIDUSgDOLLAR SIGNgPERCENT SIGNgCOMMERCIAL AT*4aARABIC FATHATAN ISOLATED FORM",
  "hTATWEEL WITH FATHATAN ABOVEhDAMMATAN ISOLATED FORMhTAIL FRAGMENThKASRATAN ISOLATED FORM",
  "*1hFATHA ISOLATED FORMnMEDIAL FORMhDAMMA ISOLATED FORMnMEDIAL FORMhKASRA ISOLATED FORM",
  "nMEDIAL FORMhSHADDA ISOLATED FORMoMEDIAL FORMiUKUN ISOLATED FORMnMEDIAL FORM",
  "hLETTER HAMZA ISOLATED FORMoALEF WITH MADDA ABOVE ISOLATED FORMymFINAL FORM",
  "yaHAMZA ABOVE ISOLATED FORMymFINAL FORMoWAW WITH HAMZA ABOVE ISOLATED FORMylFINAL FORM",
  "oALEF WITH HAMZA BELOW ISOLATED FORMymFINAL FORMoYEH WITH HAMZA ABOVE ISOLATED FORM",
  "ylFINAL FORMylINITIAL FORMylMEDIAL FORMoALEF ISOLATED FORMtFINAL FORMoBEH ISOLATED FORM",
  "sFINAL FORMsINITIAL FORMsMEDIAL FORMoTEH MARBUTA ISOLATED FORMycFINAL FORMsISOLATED FORM",
  "sFINAL FORMsINITIAL FORMsMEDIAL FORMpHEH ISOLATED FORMtFINAL FORMtINITIAL FORMtMEDIAL FORM",
  "oJEEM ISOLATED FORMtFINAL FORMtINITIAL FORMtMEDIAL FORMoHAH ISOLATED FORMsFINAL FORM",
  "sINITIAL FORMsMEDIAL FORMoKHAH ISOLATED FORMtFINAL FORMtINITIAL FORMtMEDIAL FORM",
  "oDAL ISOLATED FORMsFINAL FORMoTHAL ISOLATED FORMtFINAL FORMoREH ISOLATED FORMsFINAL FORM",
  "oZAIN ISOLATED FORMtFINAL FORMoSEEN ISOLATED FORMtFINAL FORMtINITIAL FORMtMEDIAL FORM",
  "pHEEN ISOLATED FORMuFINAL FORMuINITIAL FORMuMEDIAL FORMpAD ISOLATED FORMsFINAL FORM",
  "sINITIAL FORMsMEDIAL FORMoDAD ISOLATED FORMsFINAL FORMsINITIAL FORMsMEDIAL FORM",
  "oTAH ISOLATED FORMsFINAL FORMsINITIAL FORMsMEDIAL FORMoZAH ISOLATED FORMsFINAL FORM",
  "sINITIAL FORMsMEDIAL FORMoAIN ISOLATED FORMsFINAL FORMsINITIAL FORMsMEDIAL FORM",
  "oGHAIN ISOLATED FORMuFINAL FORMuINITIAL FORMuMEDIAL FORMoFEH ISOLATED FORMsFINAL FORM",
  "sINITIAL FORMsMEDIAL FORMoQAF ISOLATED FORMsFINAL FORMsINITIAL FORMsMEDIAL FORM",
  "oKAF ISOLATED FORMsFINAL FORMsINITIAL FORMsMEDIAL FORMoLAM ISOLATED FORMsFINAL FORM",
  "sINITIAL FORMsMEDIAL FORMoMEEM ISOLATED FORMtFINAL FORMtINITIAL FORMtMEDIAL FORM",
  "oNOON ISOLATED FORMtFINAL FORMtINITIAL FORMtMEDIAL FORMoHEH ISOLATED FORMsFINAL FORM",
  "sINITIAL FORMsMEDIAL FORMoWAW ISOLATED FORMsFINAL FORMoALEF MAKSURA ISOLATED FORMydFINAL FORM",
  "oYEH ISOLATED FORMsFINAL FORMsINITIAL FORMsMEDIAL FORM",
  "iIGATURE LAM WITH ALEF WITH MADDA ABOVE ISOLATED FORMyxFINAL FORMylHAMZA ABOVE ISOLATED FORM",
  "yxFINAL FORMyrBELOW ISOLATED FORMyxFINAL FORMygISOLATED FORMygFINAL FORM",
  "*2aZERO WIDTH NO-BREAK SPACE*1aFULLWIDTH EXCLAMATION MARKkQUOTATION MARKkNUMBER SIGN",
  "kDOLLAR SIGNkPERCENT SIGNkAMPERSANDlPOSTROPHEkLEFT PARENTHESISkRIGHT PARENTHESISkASTERISK",
  "kPLUS SIGNkCOMMAkHYPHEN-MINUSkFULL STOPkSOLIDUSkDIGIT ZEROqONEqTWOrHREEqFOURrIVEqSIXrEVEN",
  "qEIGHTqNINEkCOLONkSEMICOLONkLESS-THAN SIGNkEQUALS SIGNkGREATER-THAN SIGNkQUESTION MARK",
  "kCOMMERCIAL ATkLATIN CAPITAL LETTER AyhByhCyhDyhEyhFyhGyhHyhIyhJyhKyhLyhMyhNyhOyhPyhQyhRyhS",
  "yhTyhUyhVyhWyhXyhYyhZlEFT SQUARE BRACKETkREVERSE SOLIDUSlIGHT SQUARE BRACKET",
  "kCIRCUMFLEX ACCENTkLOW LINEkGRAVE ACCENTkLATIN SMALL LETTER AyfByfCyfDyfEyfFyfGyfHyfIyfJyfK",
  "yfLyfMyfNyfOyfPyfQyfRyfSyfTyfUyfVyfWyfXyfYyfZlEFT CURLY BRACKETkVERTICAL LINE",
  "kRIGHT CURLY BRACKETkTILDEkLEFT WHITE PARENTHESISkRIGHT WHITE PARENTHESIS",
  "aHALFWIDTH IDEOGRAPHIC FULL STOPkLEFT CORNER BRACKETkRIGHT CORNER BRACKETkIDEOGRAPHIC COMMA",
  "kKATAKANA MIDDLE DOTtLETTER WOycSMALL AyiIyiUyiEyiOyiYAyjUyjOyiTU",
  "s-HIRAGANA PROLONGED SOUND MARKs LETTER AycIycUycEycOycKAydIydUydEydOycSAydIydUydEydOycTAydI",
  "ydUydEydOycNAydIydUydEydOycHAydIydUydEydOycMAydIydUydEydOycYAydUydOycRAydIydUydEydOycWAycN",
  "tVOICED SOUND MARKtSEMI-VOICED SOUND MARKkHANGUL FILLERrLETTER KIYEOKyaSSANGKIYEOK",
  "yaKIYEOK-SIOSyaNIEUNyf-CIEUCygHIEUHyaTIKEUTyaSSANGTIKEUTyaRIEULyf-KIYEOKygMIEUMygPIEUPygSIOS",
  "ygTHIEUTHygPHIEUPHygHIEUHyaMIEUMyaPIEUPyaSSANGPIEUPyaPIEUP-SIOSyaSIOSybSANGSIOSyaIEUNGyaCIEUC",
  "yaSSANGCIEUCyaCHIEUCHyaKHIEUKHyaTHIEUTHyaPHIEUPHyaHIEUH*3yaAybEyaYAycEyaEOyb*2yaYEOycyaOyaWA",
  "ycEyaOE*2yaYOyaUyaWEOycybIyaYU*2yaEUyaYIyaI*3aFULLWIDTH CENT SIGNkPOUND SIGNkNOT SIGNkMACRON",
  "kBROKEN BARkYEN SIGNkWON SIGN*1aHALFWIDTH FORMS LIGHT VERTICALkLEFTWARDS ARROWkUPWARDS ARROW",
  "kRIGHTWARDS ARROWkDOWNWARDS ARROWkBLACK SQUAREkWHITE CIRCLE*10aINTERLINEAR ANNOTATION ANCHOR",
  "xSEPARATORxTERMINATORaOBJECT REPLACEMENT CHARACTERaREPLACEMENT CHARACTER",
  "*2aLINEAR B SYLLABLE B008 Au38 Eu28 Iu61 Ou10 Uu01 DAu45 DEu07 DIu14 DOu51 DUv7 JAu46 JE",
  "*1u36 JOu65 JUu77 KAu44 KEu67 KIu70 KOu81 KUv0 MAu13 MEu73 MIu15 MOu23 MUu06 NAu24 NEu30 NI",
  "u52 NOv5 NUu03 PAu72 PEu39 PIu11 POu50 PUu16 QAu78 QEu21 QIu32 QO*1u60 RAu27 REu53 RIu02 RO",
  "u26 RUu31 SAu09 SEu41 SIu12 SOu58 SUv9 TAu04 TEu37 TIu05 TOu69 TUu54 WAu75 WEu40 WIv2 WO",
  "*1u17 ZAu74 ZE*1u20 ZOv5 A2u43 A3u85 AUu71 DWEu90 DWOu48 NWAu29 PU2u62 PTEu76 RA2u33 RA3",
  "u68 RO2v6 TA2u87 TWEu91 TWO*2lMBOL B018t9s22s34s47t9s56s63t4s79s82t3t6t9*34jIDEOGRAM B100 MAN",
  "v2 WOMANv4 DEERv5 EQUIDwF MAREwM STALLIONv6F EWEwM RAMv7F SHE-GOATwM HE-GOATv8F SOWwM BOAR",
  "v9F COWwM BULLu20 WHEATv1 BARLEYv2 OLIVEv3 SPICEv5 CYPERUSjMONOGRAM B127 KAPOv8 KANAKO",
  "jIDEOGRAM B130 OILv1 WINEv2jMONOGRAM B133 AREPAv5 MERIjIDEOGRAM B140 BRONZEv1 GOLDv2v5 WOOLv6",
  "u50v1 HORNv2v3v4jMONOGRAM B156 TURO2jIDEOGRAM B157v8v9 CLOTHu60v1v2 GARMENTv3 ARMOURv4v5v6v7",
  "v8v9u70v1v2v3 MONTHv4v6 TREEv7v8v9u80v1v2v3v4v5v9u90v1 HELMETt220 FOOTSTOOLv5 BATHTUB",
  "u30 SPEARv1 ARROWv2v3 SWORDv4v6u40 WHEELED CHARIOTv1 CHARIOTv2 CHARIOT FRAMEv3 WHEELv5v6",
  "jMONOGRAM B247 DIPTEjIDEOGRAM B248v9u51v2v3v4 DARTv5v6v7v8v9sVESSEL B155yc200ye1ye2ye3ye4ye5",
  "ye6ye7ye8ye9yd10ye1ye2ye3ye4ye5ye6ye7ye8ye9yd21ye2ye6ye7ye8ye9yd50yc305",
  "*5aAEGEAN WORD SEPARATOR LINEwDOThCHECK MARK*4hNUMBER ONEoTWOpHREEoFOURpIVEoSIXpEVENoEIGHT",
  "oNINEoTENpWENTYpHIRTYoFORTYpIFTYoSIXTYpEVENTYoEIGHTYoNINETYoONE HUNDREDoTWO HUNDRED",
  "pHREE HUNDREDoFOUR HUNDREDpIVE HUNDREDoSIX HUNDREDpEVEN HUNDREDoEIGHT HUNDREDoNINE HUNDRED",
  "oONE THOUSANDoTWO THOUSANDpHREE THOUSANDoFOUR THOUSANDpIVE THOUSANDoSIX THOUSAND",
  "pEVEN THOUSANDoEIGHT THOUSANDoNINE THOUSANDoTEN THOUSANDpWENTY THOUSANDpHIRTY THOUSAND",
  "oFORTY THOUSANDpIFTY THOUSANDoSIXTY THOUSANDpEVENTY THOUSANDoEIGHTY THOUSANDoNINETY THOUSAND",
  "*3hWEIGHT BASE UNIToFIRST SUBUNIToSECOND SUBUNIToTHIRD SUBUNIToFOURTH SUBUNIT",
  "hDRY MEASURE FIRST SUBUNIThLIQUID MEASURE FIRST SUBUNIThMEASURE SECOND SUBUNITpTHIRD SUBUNIT",
  "aGREEK ACROPHONIC ATTIC ONE QUARTERydHALFydDRACHMAxFIVEybFTYybVE HUNDREDyeTHOUSAND",
  "ybFTY THOUSANDybVE TALENTSxTEN TALENTSxFIFTY TALENTSxONE HUNDRED TALENTSxFIVE HUNDRED TALENTS",
  "xONE THOUSAND TALENTSxFIVE THOUSAND TALENTSyeSTATERSxTEN STATERSxFIFTY STATERS",
  "xONE HUNDRED STATERSxFIVE HUNDRED STATERSxONE THOUSAND STATERSxTEN THOUSAND STATERS",
  "xFIFTY THOUSAND STATERSxTEN MNASrHERAEUM ONE PLETHRONrTHESPIAN ONErHERMIONIAN ONE",
  "rEPIDAUREAN TWOrTHESPIAN TWOrCYRENAIC TWO DRACHMASrEPIDAUREAN TWO DRACHMASrTROEZENIAN FIVE",
  "yeTENyh ALTERNATE FORMrHERMIONIAN TENrMESSENIAN TENrTHESPIAN TENydHIRTYsROEZENIAN FIFTY",
  "yj ALTERNATE FORMrHERMIONIAN FIFTYrTHESPIAN FIFTYycONE HUNDREDycTHREE HUNDRED",
  "rEPIDAUREAN FIVE HUNDREDrTROEZENIAN FIVE HUNDREDsHESPIAN FIVE HUNDREDrCARYSTIAN FIVE HUNDRED",
  "rNAXIAN FIVE HUNDREDrTHESPIAN ONE THOUSANDycFIVE THOUSANDrDELPHIC FIVE MNAS",
  "rSTRATIAN FIFTY MNASgONE HALF SIGNt ALTERNATE FORMgTWO THIRDS SIGNhHREE QUARTERS SIGN",
  "gYEAR SIGNgTALENT SIGNgDRACHMA SIGNgOBOL SIGNgTWO OBOLS SIGNhHREE OBOLS SIGNgFOUR OBOLS SIGN",
  "hIVE OBOLS SIGNgMETRETES SIGNgKYATHOS BASE SIGNgLITRA SIGNgOUNKIA SIGNgXESTES SIGN",
  "gARTABE SIGNiOURA SIGNgGRAMMA SIGNgTRYBLION BASE SIGNgZERO SIGNgONE QUARTER SIGN",
  "gSINUSOID SIGNgINDICTION SIGNaNOMISMA SIGN*1aROMAN SEXTANS SIGNgUNCIA SIGNgSEMUNCIA SIGN",
  "iXTULA SIGNgDIMIDIA SEXTULA SIGNgSILIQUA SIGNgDENARIUS SIGNgQUINARIUS SIGNgSESTERTIUS SIGN",
  "gDUPONDIUS SIGNgAS SIGNgCENTURIAL SIGNaASCIA SYMBOL*3aGREEK SYMBOL TAU RHO",
  "*47aPHAISTOS DISC SIGN PEDESTRIANuLUMED HEADtTATTOOED HEADtCAPTIVEuHILDtWOMANtHELMETtGAUNTLET",
  "tTIARAtARROWtBOWtSHIELDtCLUBtMANACLESvTTOCKtSAWtLIDtBOOMERANGtCARPENTRY PLANEtDOLIUMtCOMB",
  "tSLINGtCOLUMNtBEEHIVEtSHIPtHORNuIDEtBULLS LEGtCATtRAMtEAGLEtDOVEtTUNNYtBEEtPLANE TREEtVINE",
  "tPAPYRUStROSETTEtLILYtOX BACKtFLUTEtGRATERtSTRAINERuMALL AXEtWAVY BAND",
  "tCOMBINING OBLIQUE STROKE*130aLYCIAN LETTER AoEoBpHoGoDoIoWoZoTHoJoKoQoLoMoNoMMoNNoUoPoKKoRoS",
  "oTpToANoENoHoX*3aCARIAN LETTER AoP2oDoLoUUUoRoLDoA2oQoBoMoOoD2oToSHq2poC-18oUoNNoXoNoTT2oPoSS",
  "oIoEoUUUUoKp2oNDoUUoGp2oSTq2oNGoIIoC-39oTToUUU2oRRoMBq2q3q4oLD2oE2oUUU3",
  "*15bOPTIC EPACT THOUSANDS MARKnDIGIT ONEtTWOuHREEtFOURuIVEtSIXuEVENtEIGHTtNINEnNUMBER TEN",
  "vWENTYvHIRTYuFORTYvIFTYuSIXTYvEVENTYuEIGHTYuNINETYuONE HUNDREDuTWO HUNDREDvHREE HUNDRED",
  "uFOUR HUNDREDvIVE HUNDREDuSIX HUNDREDvEVEN HUNDREDuEIGHT HUNDREDuNINE HUNDRED",
  "*4aOLD ITALIC LETTER AsBEsKEsDEsEsVEsZEsHEsTHEsIsKAsELtMtNtSHsOsPEsSHEsKUsERtSsTEsUsEKSsPHE",
  "sKHEsEFtRSsCHEsIIsUUsESSlNUMERAL ONEtFIVEtTENtFIFTY*9lLETTER YEsNORTHERN TSEsSOUTHERN TSE",
  "aGOTHIC LETTER AHSAoBAIRKANoGIBAoDAGSoAIHVUSoQAIRTHRAoIUJAoHAGLoTHIUTHoEISoKUSMAoLAGUSoMANNA",
  "oNAUTHSoJERoURUSoPAIRTHRAoNINETYoRAIDAoSAUILoTEIWSoWINJAoFAIHUoIGGWSoHWAIRoOTHALoNINE HUNDRED",
  "*5aOLD PERMIC LETTER ANsBURsGAIsDOIsEsZHOIsDZHOIsZATAsDZITAsIsKOKEsLEIsMENOEsNENOEsVOOIsPEEI",
  "sREIsSIIsTAIsUsCHERYsSHOOIuCHOOIsYRYtERUsOtOsEFsHAsTSIUsVERsYERvItATsIEsYUtAsIA",
  "aCOMBINING OLD PERMIC LETTER ANyeDOIyeZATAyeNENOEyeSII*5aUGARITIC LETTER ALPAqBETAqGAMLAqKHA",
  "qDELTAqHOqWOqZETAqHOTAqTETqYODqKAFqSHINqLAMDAqMEMqDHALqNUNqZUqSAMKAqAINqPUqSADEqQOPAqRASHA",
  "qTHANNAqGHAINqTOqIqUqSSU*1jWORD DIVIDERaOLD PERSIAN SIGN ArIrUrKAsUrGAsUrXArCArJAsIrTAsUrDAsI",
  "sUrTHArPArBArFArNAsUrMAsIsUrYArVAsIrRAsUrLArSArZArSHAsSArHA*4rAURAMAZDAAyd-2ydHArXSHAAYATHIYA",
  "rDAHYAAUSHyc-2rBAGAsUUMISHmWORD DIVIDERmNUMBER ONEtTWOuENuWENTYtHUNDRED",
  "*42aDESERET CAPITAL LETTER LONG IyeEyeAyfHyeOyfOxSHORT IyfEyfAygHyfOygOxAYxOWxWUxYEExHxPEE",
  "xBEExTEExDEExCHEExJEExKAYxGAYxEFxVEExETHxTHEExESxZEExESHxZHEExERyaLyaMyaNybGxOIxEW",
  "iSMALL LETTER LONG IycEycAydHycOydOvSHORT IydEydAyeHydOyeOvAYvOWvWUvYEEvHvPEEvBEEvTEEvDEE",
  "vCHEEvJEEvKAYvGAYvEFvVEEvETHvTHEEvESvZEEvESHvZHEEvERwLwMwNxGvOIvEWaSHAVIAN LETTER PEEPpTOT",
  "pKICKpFEEpTHIGHpSOqUREpCHURCHpYEApHUNGpBIBpDEADpGAGpVOWpTHEYpZOOpMEASUREpJUDGEpWOEpHA-HApLOLL",
  "pMIMEpIFpEGGpASHqDOpONpWOOLpOUTpAHpROARpNUNpEATpAGEpICEpUPpOAKqOZEqILpAWEqREpORpAIRpERRpARRAY",
  "pEARpIANpYEWaOSMANYA LETTER ALEFpBApTApJApXApKHApDEELpRApSAqHIINpDHApCAYNpGApFApQAAFpKAAF",
  "pLAANpMIINpNUUNpWAWpHApYApApEpIpOpUpAApEEpOO*2iDIGIT ZEROoONEoTWOpHREEoFOURpIVEoSIXpEVEN",
  "oEIGHToNINE*6cAGE CAPITAL LETTER AwIxNwHvBRAvCHAvEHCHAwwINvHAwYAvIvKAvEHKAvKYAvLAvMAvNAvOwIN",
  "vPAvEHPAvSAwHAvTAvEHTAvTSAvEHTSAvTSHAvDHAvUvWAvKHAvGHAvZAwHA*4gSMALL LETTER AuIvNuHtBRAtCHA",
  "tEHCHAuuINtHAuYAtItKAtEHKAtKYAtLAtMAtNAtOuINtPAtEHPAtSAuHAtTAtEHTAtTSAtEHTSAtTSHAtDHAtUtWA",
  "tKHAtGHAtZAuHA*4aELBASAN LETTER ApBEpCEqHEpDEpNDEpDHEpEIqpFEpGEqJEpHEpIpJEpKEpLEqLEpMEpNEqA",
  "qJEpOpPEpQEpREqREpSEqHEpTEqHEpUpVEpXEpYpZEqHEpGHErAMMApKHE*8aCAUCASIAN ALBANIAN LETTER ALT",
  "ycBETycGIMycDATycEBycZARLycEYNycZHILycTASycCHAycYOWDycZHAycIRBycSHAycLANycINYAycXEYNycDYAN",
  "ycCARycJHOXycKARycLYITycHEYTycQAYycAORycCHOYyeIydYAYycMAQycQARycNOWCycDZYAYycSHAKycJAYNycON",
  "ycTYAYycFAMycDZAYycCHATycPENycGHEYSycRATycSEYKycVEYZycTIWRycSHOYycIWNycCYAWydAYNycYAYDycPIWR",
  "ycKIW*11tCITATION MARKaVITHKUQI CAPITAL LETTER AyaBBEybEyaCEybHEyaDEybHEyaEIybyaFEyaGA*1yaHA",
  "ybHAyaIybJEyaJEyaKAyaLAybLAyaMEyaNEybJEyaOyaPEyaQAyaRE*1yaSEybHEyaTEybHEyaUyaVEyaXE*1yaYyaZE",
  "*1jSMALL LETTER AwBBExEwCExHEwDExHEwEIxwFEwGA*1wHAxHAwIxJEwJEwKAwLAxLAwMEwNExJEwOwPEwQAwRE",
  "*1wSExHEwTExHEwUwVEwXE*1wYwZE*67aLINEAR A SIGN AB001s2s3s4s5s6s7s8s9r10s1s3s6s7r20s1tFtMs2tF",
  "tMs3tMs4s6s7s8p028BpB029r30s1s4s7s8s9r40s1s4s5s6s7s8s9r50s1s3s4s5s6s7s8s9r60s1s5s6s7s9r70s3s4",
  "s6s7s8s9r80s1s2s5s6s7p100-102pB118r20p120BpB122s3r31AtBp131CpB164r71r80s8r91p301r2r3r4r5r6r7",
  "r8r9AsBsCq10r1r2r3AsBsCr4r5r6r7r8r9q20r1r2r3r4r5r6r7r8r9q30r1r2r3r4r5r6r7r8r9q40r1r2r3r4r5r6",
  "r7r8r9q50r1r2r3r4r5r6r7r8r9q60r1r2r3r4r5r6r7r8r9q70r1p400-VASr1-VASr2-VASr3-VASr4-VASr5-VAS",
  "r6-VASr7-VASr8-VASr9-VASq10-VASr1-VASr2-VASr3-VASr4-VASr5-VASr6-VASr7-VASr8-VASp501r2r3r4r5r6",
  "r8r9q10r1r2r3r5r6q20r1r3r4r5r6r7r8r9q30r1r2r4r5r6r7r8r9q40r1r2r5r7r8r9q50r1r2r3r4r5r6r7r9q63",
  "r4r5r6r8r9q70r1r2r3r4r5r6r7r8r9q80r1r2r3r4r5r6r7r8r9q91r2r4r5r6r8p600r1r2r3r4r6r8r9q10r1r2r3",
  "r4r5r6r7r8r9q20r1r2r3r4r6r7r8r9q34r7r8q40r2r3r4r5r6r8r9q51r2r3r4r5r6r7r8r9q60r1r2r3r4*9p701 A",
  "r2 Br3 Dr4 Er5 Fr6 Hr7 Jr8 Kr9 Ls-2 L2t3 L3t4 L4t6 L6q10 Wr1 Xr2 Yr3 OMEGAr4 ABBr5 BBr7 DD",
  "q26 EYYYq32 JE*10p800r1r2r3r4r5r6r7*24aMODIFIER LETTER SMALL CAPITAL AA",
  "rUPERSCRIPT TRIANGULAR COLONyeHALF TRIANGULAR COLONrMALL AEwCAPITAL BwB WITH HOOK",
  "*1wDZ DIGRAPHyi WITH RETROFLEX HOOKyoCURLxEZH DIGRAPHx WITH TAILyfHOOKyj AND TAILwREVERSED E",
  "wCLOSED REVERSED OPEN EwFENG DIGRAPHwRAMS HORNwCAPITAL GwG WITH HOOKwCAPITAL G WITH HOOK",
  "wH WITH STROKEwCAPITAL HwHENG WITH HOOKwDOTLESS J WITH STROKE AND HOOKwLS DIGRAPHxZ DIGRAPH",
  "x WITH BELTwCAPITAL L WITH BELTwL WITH RETROFLEX HOOK AND BELTxEZHyc WITH RETROFLEX HOOK",
  "wTURNED Yyg WITH BELTwO WITH STROKEwCAPITAL OExLOSED OMEGAwQwTURNED R WITH LONG LEG",
  "yu AND RETROFLEX HOOKwR WITH TAILyfFISHHOOKwCAPITAL RwTC DIGRAPH WITH CURLxS DIGRAPH",
  "yi WITH RETROFLEX HOOKxESH DIGRAPHx WITH RETROFLEX HOOKwV WITH RIGHT HOOK*1wCAPITAL Y",
  "qGLOTTAL STOP WITH STROKEqREVERSED GLOTTAL STOP WITH STROKEqBILABIAL CLICKqDENTAL CLICK",
  "qLATERAL CLICKqALVEOLAR CLICKqRETROFLEX CLICK WITH RETROFLEX HOOKqSMALL S WITH CURL",
  "*69aCYPRIOT SYLLABLE ArErIrOrUrJA*2sO*1rKAsEsIsOsUrLAsEsIsOsUrMAsEsIsOsUrNAsEsIsOsUrPAsEsIsO",
  "sUrRAsEsIsOsUrSAsEsIsOsUrTAsEsIsOsUrWAsEsIsO*1rXAsE*3rZA*2sOaIMPERIAL ARAMAIC LETTER ALEPH",
  "yaBETHyaGIMELyaDALETHyaHEyaWAWyaZAYINyaHETHyaTETHyaYODHyaKAPHyaLAMEDHyaMEMyaNUNyaSAMEKHyaAYIN",
  "yaPEyaSADHEyaQOPHyaRESHyaSHINyaTAW*1rSECTION SIGNrNUMBER ONEyaTWOybHREEybENybWENTY",
  "yaONE HUNDREDyeTHOUSANDyaTEN THOUSANDaPALMYRENE LETTER ALEPHrBETHrGIMELrDALETHrHErWAWrZAYIN",
  "rHETHrTETHrYODHrKAPHrLAMEDHrMEMrFINAL NUNrNUNrSAMEKHrAYINrPErSADHErQOPHrRESHrSHINrTAW",
  "mFT-POINTING FLEURONkRIGHT-POINTING FLEURONkNUMBER ONErTWOsHREErFOURsIVErTENsWENTY",
  "aNABATAEAN LETTER FINAL ALEPHrALEPHrFINAL BETHrBETHrGIMELrDALETHrFINAL HErHErWAWrZAYINrHETH",
  "rTETHrFINAL YODHrYODHrFINAL KAPHrKAPHrFINAL LAMEDHrLAMEDHrFINAL MEMrMEMrFINAL NUNrNUNrSAMEKH",
  "rAYINrPErSADHErQOPHrRESHrFINAL SHINrSHINrTAW*8kNUMBER ONErTWOsHREErFOURkCRUCIFORM NUMBER FOUR",
  "kNUMBER FIVErTENsWENTYrONE HUNDRED*48aHATRAN LETTER ALEPHoBETHoGIMELoDALETH-RESHoHEoWAWoZAYN",
  "oHETHoTETHoYODHoKAPHoLAMEDHoMEMoNUNoSAMEKHoAYNoPEoSADHEoQOPH*1oSHINoTAW*5hNUMBER ONEoFIVEoTEN",
  "pWENTYoONE HUNDREDaPHOENICIAN LETTER ALFsBETsGAMLsDELTsHEsWAUsZAIsHETsTETsYODsKAFsLAMDsMEM",
  "sNUNsSEMKsAINsPEsSADEsQOFsROSHsSHINsTAUlNUMBER ONEsTENtWENTYsONE HUNDREDsTWOtHREE",
  "*3lWORD SEPARATORaLYDIAN LETTER AoBoGoDoEoVoIoYoKoLoMoNoOoRoSSoToUoFoQoSoTToANoENoLYoNNoC",
  "*5hTRIANGULAR MARK*64aMEROITIC HIEROGLYPHIC LETTER AyfEyfIyfOyfYAyfWAyfBAyh-2yfPAyfMAyfNAyh-2",
  "ygEyh-2yfRAyh-2yfLAyfKHAyfHHAyfSAyh-2ygEyfKAyfQAyfTAyh-2ygEyh-2ygOyfDAwSYMBOL VIDJyj-2",
  "jCURSIVE LETTER AyaEyaIyaOyaYAyaWAyaBAyaPAyaMAyaNAybEyaRAyaLAyaKHAyaHHAyaSAyaARCHAIC SAyaSE",
  "yaKAyaQAyaTAybEybOyaDA*4rFRACTION ELEVEN TWELFTHSycONE HALFrLOGOGRAM RMTycIMNrNUMBER ONEyaTWO",
  "ybHREEyaFOURybIVEyaSIXybEVENyaEIGHTyaNINEyaTENybWENTYybHIRTYyaFORTYybIFTYyaSIXTYybEVENTY",
  "*2yaONE HUNDREDyaTWO HUNDREDybHREE HUNDREDyaFOUR HUNDREDybIVE HUNDREDyaSIX HUNDRED",
  "ybEVEN HUNDREDyaEIGHT HUNDREDyaNINE HUNDREDyaONE THOUSANDyaTWO THOUSANDybHREE THOUSAND",
  "yaFOUR THOUSANDybIVE THOUSANDyaSIX THOUSANDybEVEN THOUSANDyaEIGHT THOUSANDyaNINE THOUSAND",
  "yaTEN THOUSANDybWENTY THOUSANDybHIRTY THOUSANDyaFORTY THOUSANDybIFTY THOUSANDyaSIXTY THOUSAND",
  "ybEVENTY THOUSANDyaEIGHTY THOUSANDyaNINETY THOUSANDyaONE HUNDRED THOUSAND",
  "yaTWO HUNDRED THOUSANDybHREE HUNDRED THOUSANDyaFOUR HUNDRED THOUSANDybIVE HUNDRED THOUSAND",
  "yaSIX HUNDRED THOUSANDybEVEN HUNDRED THOUSANDyaEIGHT HUNDRED THOUSANDyaNINE HUNDRED THOUSAND",
  "rFRACTION ONE TWELFTHycTWO TWELFTHSydHREE TWELFTHSycFOUR TWELFTHSydIVE TWELFTHSycSIX TWELFTHS",
  "ydEVEN TWELFTHSycEIGHT TWELFTHSycNINE TWELFTHSycTEN TWELFTHSaKHAROSHTHI LETTER AlVOWEL SIGN I",
  "wUwVOCALIC R*1wEwO*5rLENGTH MARKlSIGN DOUBLE RING BELOWqANUSVARAqVISARGAlLETTER KAtHAsGAtHA",
  "*1sCAtHAsJA*1sNYAsTTAuHAsDDAuHAsNNAsTAtHAsDAtHAsNAsPAtHAsBAtHAsMAsYAsRAsLAsVAsSHAtSAtAsZAsHA",
  "sKKAsTTTHAvAsVHA*2lSIGN BAR ABOVEqCAUDAqDOT BELOW*4lVIRAMAlDIGIT ONErTWOsHREErFOURlNUMBER TEN",
  "tWENTYsONE HUNDREDwTHOUSANDlFRACTION ONE HALF*7lPUNCTUATION DOTxSMALL CIRCLExCIRCLE",
  "yaRESCENT BARxMANGALAMxLOTUSxDANDAyaOUBLE DANDAxLINES*7aOLD SOUTH ARABIAN LETTER HEybLAMEDH",
  "ybHETHybMEMybQOPHybWAWybSHINybRESHybBETHybTAWybSATybKAPHybNUNybKHETHybSADHEydMEKHybFEybALEF",
  "ycYNybDHADHEybGIMELybDALETHybGHAYNybTETHybZAYNybDHALETHybYODHybTHAWydETHsNUMBER ONEybFIFTY",
  "vERIC INDICATOReNORTH ARABIAN LETTER HEHybLAMybHAHybMEEMybQAFybWAWybES-2ybREHybBEHybTEHybES-1",
  "ybKAFybNOONybKHAHybSADybES-3ybFEHybALEFycINybDADybGEEMybDALybGHAINybTAHybZAINybTHALybYEH",
  "ybTHEHybZAHsNUMBER ONEybTENycWENTY*32aMANICHAEAN LETTER ALEPHsBETHtHETHsGIMELtHIMELsDALETHsHE",
  "sWAWlSIGN UDlLETTER ZAYINtHAYINsJAYINtHAYINsHETHsTETHsYODHsKAPHsXAPHsKHAPHsLAMEDHsDHAMEDH",
  "sTHAMEDHsMEMsNUNsSAMEKHsAYINtAYINsPEsFEsSADHEsQOPHsXOPHsQHOPHsRESHsSHINtSHINsTAW",
  "lABBREVIATION MARK ABOVEyfBELOW*4lNUMBER ONEsFIVEsTENtWENTYsONE HUNDREDlPUNCTUATION STAR",
  "xFLEURONxDOUBLE DOT WITHIN DOTybT WITHIN DOTycxTWO DOTSxLINE FILLER*9aAVESTAN LETTER AqAqOqAO",
  "qNqANqErEpEqEpOqOpIqIpUqUpKEpXEqYEqVEpGEqGEqHEpCEpJEpTEqHEpDEqHEpTTEpPEpFEpBEqHEpNGErYErVEqE",
  "qYEqNEpMEpHMEpYYEqEpVEpREpLEpSEpZEpSHEpZHEpSHYEqSHEpHE*3iABBREVIATION MARK",
  "aTINY TWO DOTS OVER ONE DOT PUNCTUATIONaSMALL TWO DOTS OVER ONE DOT PUNCTUATION",
  "aLARGE TWO DOTS OVER ONE DOT PUNCTUATIONgONE DOT OVER TWO DOTS PUNCTUATION",
  "gTWO RINGS OVER ONE RING PUNCTUATIONgONE RING OVER TWO RINGS PUNCTUATION",
  "aINSCRIPTIONAL PARTHIAN LETTER ALEPHygBETHygGIMELygDALETHygHEygWAWygZAYINygHETHygTETHygYODH",
  "ygKAPHygLAMEDHygMEMygNUNygSAMEKHygAYINygPEygSADHEygQOPHygRESHygSHINygTAW*2xNUMBER ONEygTWO",
  "yhHREEygFOURygTENyhWENTYygONE HUNDREDykTHOUSANDqHLAVI LETTER ALEPHyfBETHyfGIMELyfDALETHyfHE",
  "yfWAW-AYIN-RESHyfZAYINyfHETHyfTETHyfYODHyfKAPHyfLAMEDHyfMEM-QOPHyfNUNyfSAMEKHyfPEyfSADHEygHIN",
  "yfTAW*5wNUMBER ONEyfTWOygHREEyfFOURyfTENygWENTYyfONE HUNDREDyjTHOUSAND",
  "aPSALTER PAHLAVI LETTER ALEPHxBETHxGIMELxDALETHxHExWAW-AYIN-RESHxZAYINxHETHxYODHxKAPHxLAMEDH",
  "xMEM-QOPHxNUNxSAMEKHxPExSADHEyaHINxTAW*7qSECTION MARKqTURNED SECTION MARK",
  "qFOUR DOTS WITH CROSSyhDOT*12qNUMBER ONExTWOyaHREExFOURxTENyaWENTYxONE HUNDRED",
  "*80aOLD TURKIC LETTER ORKHON AsYENISEI AydEsORKHON IsYENISEI IycEsORKHON OycEsYENISEI OE",
  "sORKHON ABsYENISEI ABsORKHON AEBsYENISEI AEBsORKHON AGsYENISEI AGsORKHON AEGsYENISEI AEG",
  "sORKHON ADsYENISEI ADsORKHON AEDybEZsYENISEI EZsORKHON AYsYENISEI AYsORKHON AEYsYENISEI AEY",
  "sORKHON AEKsYENISEI AEKsORKHON OEKsYENISEI OEKsORKHON ALsYENISEI ALsORKHON AELybELTycMybAN",
  "ycENsYENISEI AENsORKHON ENTsYENISEI ENTsORKHON ENCsYENISEI ENCsORKHON ENYsYENISEI ENYycANG",
  "sORKHON ENGsYENISEI AENGsORKHON EPybOPybICybECsYENISEI ECsORKHON AQsYENISEI AQsORKHON IQ",
  "sYENISEI IQsORKHON OQsYENISEI OQsORKHON ARsYENISEI ARsORKHON AERycSycESycSHsYENISEI ASH",
  "sORKHON ESHsYENISEI ESHsORKHON ATsYENISEI ATsORKHON AETsYENISEI AETsORKHON OTybBASH",
  "*55eHUNGARIAN CAPITAL LETTER AygAyfEByfAMByfECygNCygCSygDyfANDyfEyfCLOSE EyfEEygFygGyhYygHyfI",
  "ygIyfEJygKyfAKyfUNKyfELyhYygMygNyhYyfOygOyfNIKOLSBURG OEyfRUDIMENTA OEyfOEEyfEPygMPygR",
  "yfSHORT ERyfESyhZygTygNTygTYygCHyfUygUyfNIKOLSBURG UEyfRUDIMENTA UEyfEVygZyhSygNT-SHAPED SIGN",
  "yfUS*13oSMALL LETTER AyeAydEBydAMBydECyeNCyeCSyeDydANDydEydCLOSE EydEEyeFyeGyfYyeHydIyeIydEJ",
  "yeKydAKydUNKydELyfYyeMyeNyfYydOyeOydNIKOLSBURG OEydRUDIMENTA OEydOEEydEPyeMPyeRydSHORT ERydES",
  "yfZyeTyeNTyeTYyeCHydUyeUydNIKOLSBURG UEydRUDIMENTA UEydEVyeZyfSyeNT-SHAPED SIGNydUS",
  "*7oNUMBER ONEvFIVEvTENvFIFTYvONE HUNDREDybTHOUSANDaHANIFI ROHINGYA LETTER AxBAxPAxTAyaTAxJA",
  "xCAxHAxKHAxFAxDAyaDAxRAyaRAxZAxSAyaHAxKAxGAxLAxMAxNAxWAxKINNA WAxYAxKINNA YAxNGAyaYAxVA",
  "qVOWEL AwIwUwEwOqMARK SAKINvNA KHONNAqSIGN HARBAHAYvTAHALAxNAxSSI*8qDIGIT ZEROwONEwTWOxHREE",
  "wFOURxIVEwSIXxEVENwEIGHTwNINE*294aRUMI DIGIT ONElTWOmHREElFOURmIVElSIXmEVENlEIGHTlNINE",
  "fNUMBER TENnWENTYnHIRTYmFORTYnIFTYmSIXTYnEVENTYmEIGHTYmNINETYmONE HUNDREDmTWO HUNDRED",
  "nHREE HUNDREDmFOUR HUNDREDnIVE HUNDREDmSIX HUNDREDnEVEN HUNDREDmEIGHT HUNDREDmNINE HUNDRED",
  "fFRACTION ONE HALFsQUARTERsTHIRDoTWO THIRDS*1aYEZIDI LETTER ELIFoBEoPEpHEoTHEoSEoCIMpHIMqHIM",
  "oHHAoXAoDALoZALoRApHAoZAoJAoSINpHINpADoDADoTAoZEoEYNoXHEYNoFAoVAq ALTERNATE FORMoQAFoKAFpHAF",
  "oGAFoLAMoMIMoNUNoUMoWAWoOWoEWoHAYoYOToET*1hCOMBINING HAMZA MARKrMADDA MARKhHYPHENATION MARK",
  "*2hLETTER LAM WITH DOT ABOVEoYOT WITH CIRCUMFLEX ABOVE*78aOLD SOGDIAN LETTER ALEPH",
  "tFINAL ALEPHtBETHtFINAL BETHtGIMELtHEtFINAL HEtWAWtZAYINtHETHtYODHtKAPHtLAMEDHtMEMtNUN",
  "tFINAL NUNye WITH VERTICAL TAILtSAMEKHtAYINuLTERNATE AYINtPEtSADHEtFINAL SADHE",
  "yg WITH VERTICAL TAILtRESH-AYIN-DALETHtSHINtTAWtFINAL TAWye WITH VERTICAL TAILmNUMBER ONEtTWO",
  "uHREEtFOURuIVEtTENuWENTYuHIRTYtONE HUNDREDmFRACTION ONE HALFmLIGATURE AYIN-DALETH",
  "*8aSOGDIAN LETTER ALEPHpBETHpGIMELpHEpWAWpZAYINpHETHpYODHpKAPHpLAMEDHpMEMpNUNpSAMEKHpAYINpPE",
  "pSADHEpRESH-AYINpSHINpTAWpFETHpLESHiINDEPENDENT SHINiCOMBINING DOT BELOWsTWO DOTS BELOW",
  "sDOT ABOVEsTWO DOTS ABOVEsCURVE ABOVEyaBELOWsHOOK ABOVExBELOWsLONG HOOK BELOWsRESH BELOW",
  "sSTROKE BELOWiNUMBER ONEpTENqWENTYpONE HUNDREDiPUNCTUATION TWO VERTICAL BARSyn WITH DOTS",
  "uCIRCLE WITH DOTuTWO CIRCLES WITH DOTSuHALF CIRCLE WITH DOT*22aOLD UYGHUR LETTER ALEPHsBETH",
  "sGIMEL-HETHsWAWsZAYINsFINAL HETHsYODHsKAPHsLAMEDHsMEMsNUNsSAMEKHsPEsSADHEsRESHsSHINsTAWsLESH",
  "lCOMBINING DOT ABOVEybBELOWvTWO DOTS ABOVEygBELOWlPUNCTUATION BARxTWO BARSydDOTSxFOUR DOTS",
  "*38aCHORASMIAN LETTER ALEPHsSMALL ALEPHsBETHsGIMELsDALETHsHEsWAWsCURLED WAWsZAYINsHETHsYODH",
  "sKAPHsLAMEDHsMEMsNUNsSAMEKHsAYINsPEsRESHsSHINsTAWlNUMBER ONEsTWOtHREEsFOURsTENtWENTY",
  "sONE HUNDRED*20aELYMAIC LETTER ALEPHpBETHpGIMELpDALETHpHEpWAWpZAYINpHETHpTETHpYODHpKAPH",
  "pLAMEDHpMEMpNUNpSAMEKHpAYINpPEpSADHEpQOPHpRESHpSHINpTAWjIGATURE ZAYIN-YODH",
  "*9aBRAHMI SIGN CANDRABINDUmANUSVARAmVISARGAmJIHVAMULIYAmUPADHMANIYAhLETTER ApAoIpIoUpU",
  "oVOCALIC RxRwLxLoEoAIoOoAUoKApHAoGApHAoNGAoCApHAoJApHAoNYAoTTAqHAoDDAqHAoNNAoTApHAoDApHAoNA",
  "oPApHAoBApHAoMAoYAoRAoLAoVAoSHApSApAoHAoLLAoOLD TAMIL LLLAyaRRAyaNNNAhVOWEL SIGN AA",
  "sBHATTIPROLU AAsItIsUtUsVOCALIC RydRycLydLsEsAIsOsAUiIRAMAhDANDAiOUBLE DANDAhPUNCTUATION DOT",
  "vUBLE DOTtLINEtCRESCENT BARtLOTUS*4hNUMBER ONEoTWOpHREEoFOURpIVEoSIXpEVENoEIGHToNINEoTEN",
  "pWENTYpHIRTYoFORTYpIFTYoSIXTYpEVENTYoEIGHTYoNINETYoONE HUNDREDsTHOUSANDhDIGIT ZEROnONEnTWO",
  "oHREEnFOURoIVEnSIXoEVENnEIGHTnNINEhSIGN OLD TAMIL VIRAMAhLETTER OLD TAMIL SHORT EygO",
  "hVOWEL SIGN OLD TAMIL SHORT EykOhLETTER OLD TAMIL LLA*9hNUMBER JOINERaKAITHI SIGN CANDRABINDU",
  "mANUSVARAmVISARGAhLETTER ApAoIpIoUpUoEoAIoOoAUoKApHAoGApHAoNGAoCApHAoJApHAoNYAoTTAqHAoDDAqDHA",
  "qHAoRHAoNNAoTApHAoDApHAoNAoPApHAoBApHAoMAoYAoRAoLAoVAoSHApSApAoHAhVOWEL SIGN AAsItIsUtUsEsAI",
  "sOsAUhSIGN VIRAMAmNUKTAhABBREVIATION SIGNhENUMERATION SIGNhNUMBER SIGNhSECTION MARK",
  "hDOUBLE SECTION MARKiANDAiOUBLE DANDAhVOWEL SIGN VOCALIC R*10hNUMBER SIGN ABOVE",
  "*2aSORA SOMPENG LETTER SAHuTAHuBAHuCAHuDAHuGAHuMAHuNGAHuLAHuNAHuVAHuPAHuYAHuRAHuHAHuKAHuJAH",
  "uNYAHuAHuEEHuIHuUHuOHuEHuMAE*7nDIGIT ZEROtONEtTWOuHREEtFOURuIVEtSIXuEVENtEIGHTtNINE",
  "*6aCHAKMA SIGN CANDRABINDUmANUSVARAmVISARGAhLETTER AAoIoUoEoKAApHAAoGAApHAAoNGAAoCAApHAAoJAA",
  "pHAAoNYAAoTTAAqHAAoDDAAqHAAoNNAAoTAApHAAoDAApHAAoNAAoPAApHAAoBAApHAAoMAAoYYAApAAoRAAoLAAoWAA",
  "oSAAoHAAhVOWEL SIGN AsItIsUtUsEsAIsOsAUsOIhO MARKhAU MARKhVIRAMAhMAAYYAA*1hDIGIT ZEROnONEnTWO",
  "oHREEnFOURoIVEnSIXoEVENnEIGHTnNINEhSECTION MARKhDANDAiOUBLE DANDAhQUESTION MARKhLETTER LHAA",
  "hVOWEL SIGN AAsEIhLETTER VAA*8aMAHAJANI LETTER AqIqUqEqOqKArHAqGArHAqCArHAqJArHAqNYAqTTAsHA",
  "qDDAsHAqNNAqTArHAqDArHAqNAqPArHAqBArHAqMAqRAqLAqVAqSAqHAqRRAjSIGN NUKTAjABBREVIATION SIGN",
  "jSECTION MARKjLIGATURE SHRI*9aSHARADA SIGN CANDRABINDUnANUSVARAnVISARGAiLETTER AqApIqIpUqU",
  "pVOCALIC RyaRxLyaLpEpAIpOpAUpKAqHApGAqHApNGApCAqHApJAqHApNYApTTArHApDDArHApNNApTAqHApDAqHApNA",
  "pPAqHApBAqHApMApYApRApLAqLApVApSHAqSAqApHAiVOWEL SIGN AAtIuItUuUtVOCALIC RyeRydLyeLtEtAItOtAU",
  "iSIGN VIRAMAnAVAGRAHAnJIHVAMULIYAnUPADHMANIYAiOMiDANDAjOUBLE DANDAiABBREVIATION SIGN",
  "iSEPARATORjANDHI MARKjIGN NUKTAiVOWEL MODIFIER MARKiEXTRA SHORT VOWEL MARKiSUTRA MARK",
  "iVOWEL SIGN PRISHTHAMATRA EiSIGN INVERTED CANDRABINDUiDIGIT ZEROoONEoTWOpHREEoFOURpIVEoSIX",
  "pEVENoEIGHToNINEiEKAMiSIGN SIDDHAMiHEADSTROKEiCONTINUATION SIGNiSECTION MARK-1v2",
  "*1bINHALA ARCHAIC DIGIT ONEwTWOxHREEwFOURxIVEwSIXxEVENwEIGHTwNINEqNUMBER TENyaWENTYyaHIRTY",
  "xFORTYyaIFTYxSIXTYyaEVENTYxEIGHTYxNINETYxONE HUNDREDydTHOUSAND*11aKHOJKI LETTER ApAoIoUoEoAI",
  "oOoAUoKApHAoGApGApHAoNGAoCApHAoJApJA*1oNYAoTTAqHAoDDAqHAoNNAoTApHAoDApDDApHAoNAoPApHAoBApBA",
  "pHAoMAoYAoRAoLAoVAoSAoHAoLLAhVOWEL SIGN AAsItIsUsEsAIsOsAUhSIGN ANUSVARAmVIRAMAmNUKTAmSHADDA"]

end LintScaffold.Text.CharName
