/-!
# Names of characters, second part

The names of the characters from U+06AE to U+17D8, in the shortened form of
character names.
-/

namespace LintScaffold.Text.CharName

/-- The rows of names from U+06AE on. -/
def secondRows : List String := [
  "oKAF WITH THREE DOTS BELOWoGAFr WITH RINGoNGOEHoGAF WITH TWO DOTS BELOWpUEH",
  "pAF WITH THREE DOTS ABOVEoLAM WITH SMALL VxDOT ABOVExTHREE DOTS ABOVEykBELOW",
  "oNOON WITH DOT BELOWtGHUNNAoRNOONoNOON WITH RINGyaTHREE DOTS ABOVEoHEH DOACHASHMEE",
  "oTCHEH WITH DOT ABOVEoHEH WITH YEH ABOVEsGOALw WITH HAMZA ABOVEoTEH MARBUTA GOAL",
  "oWAW WITH RINGoKIRGHIZ OEoOEoUoYUoKIRGHIZ YUoWAW WITH TWO DOTS ABOVEoVEoFARSI YEH",
  "oYEH WITH TAILxSMALL VoWAW WITH DOT ABOVEoEoYEH WITH THREE DOTS BELOWsBARREE",
  "ya WITH HAMZA ABOVEhFULL STOPhLETTER AEhSMALL HIGH LIGATURE SAD WITH LAM WITH ALEF MAKSURA",
  "ydQAF WITH LAM WITH ALEF MAKSURAsMEEM INITIAL FORMsLAM ALEFsJEEMsTHREE DOTSsSEENhEND OF AYAH",
  "hSTART OF RUB EL HIZBiMALL HIGH ROUNDED ZEROsUPRIGHT RECTANGULAR ZEROsDOTLESS HEAD OF KHAH",
  "sMEEM ISOLATED FORMnLOW SEENnHIGH MADDAnWAWnYEHnHIGH YEHsNOONhPLACE OF SAJDAH",
  "hEMPTY CENTRE LOW STOPuHIGH STOPhROUNDED HIGH STOP WITH FILLED CENTREhSMALL LOW MEEM",
  "hLETTER DAL WITH INVERTED VoREH WITH INVERTED VaEXTENDED ARABIC-INDIC DIGIT ZEROyeONEyeTWO",
  "yfHREEyeFOURyfIVEyeSIXyfEVENyeEIGHTyeNINEaARABIC LETTER SHEEN WITH DOT BELOW",
  "oDAD WITH DOT BELOWoGHAIN WITH DOT BELOWhSIGN SINDHI AMPERSANDtPOSTPOSITION MEN",
  "hLETTER HEH WITH INVERTED VaSYRIAC END OF PARAGRAPHhSUPRALINEAR FULL STOPjBLINEAR FULL STOP",
  "jPRALINEAR COLONjBLINEAR COLONhHORIZONTAL COLONhCOLON SKEWED LEFTuRIGHT",
  "hSUPRALINEAR COLON SKEWED LEFTjBLINEAR COLON SKEWED RIGHThCONTRACTIONhHARKLEAN OBELUS",
  "qMETOBELUSqASTERISCUS*1hABBREVIATION MARKhLETTER ALAPHoSUPERSCRIPT ALAPHoBETHoGAMALt GARSHUNI",
  "oDALATHpOTLESS DALATH RISHoHEoWAWoZAINoHETHoTETHs GARSHUNIoYUDHs HEoKAPHoLAMADHoMIMoNUN",
  "oSEMKATHoFINAL SEMKATHoEoPEoREVERSED PEoSADHEoQAPHoRISHoSHINoTAWoPERSIAN BHETHwGHAMALwDHALATH",
  "hPTHAHA ABOVEoBELOWoDOTTEDhZQAPHA ABOVEoBELOWoDOTTEDhRBASA ABOVEnBELOW",
  "hDOTTED ZLAMA HORIZONTALuANGULARhHBASA ABOVEnBELOWm-ESASA DOTTEDhESASA ABOVEnBELOWhRWAHA",
  "hFEMININE DOThQUSHSHAYAhRUKKAKHAhTWO VERTICAL DOTS ABOVEybBELOWiHREE DOTS ABOVEsBELOW",
  "hOBLIQUE LINE ABOVEuBELOWhMUSIChBARREKH*2hLETTER SOGDIAN ZHAINwKHAPHwFE",
  "aARABIC LETTER BEH WITH THREE DOTS HORIZONTALLY BELOWxDOT BELOW AND THREE DOTS ABOVE",
  "xTHREE DOTS POINTING UPWARDS BELOWzg AND TWO DOTS ABOVEyaWO DOTS BELOW AND DOT ABOVE",
  "xINVERTED SMALL V BELOWxSMALL VoHAH WITH TWO DOTS ABOVEyaHREE DOTS POINTING UPWARDS BELOW",
  "oDAL WITH TWO DOTS VERTICALLY BELOW AND SMALL TAHxINVERTED SMALL V BELOWoREH WITH STROKE",
  "oSEEN WITH FOUR DOTS ABOVEoAIN WITH TWO DOTS ABOVEyaHREE DOTS POINTING DOWNWARDS ABOVE",
  "yaWO DOTS VERTICALLY ABOVEoFEH WITH TWO DOTS BELOWyaHREE DOTS POINTING UPWARDS BELOW",
  "oKEHEH WITH DOT ABOVEybTHREE DOTS ABOVEymPOINTING UPWARDS BELOWoMEEM WITH DOT ABOVEyeBELOW",
  "oNOON WITH TWO DOTS BELOWyaSMALL TAHygVoLAM WITH BARoREH WITH TWO DOTS VERTICALLY ABOVE",
  "xHAMZA ABOVEoSEEN WITH TWO DOTS VERTICALLY ABOVEoHAH WITH SMALL ARABIC LETTER TAH BELOW",
  "yxAND TWO DOTSoSEEN WITH SMALL ARABIC LETTER TAH AND TWO DOTS",
  "oREH WITH SMALL ARABIC LETTER TAH AND TWO DOTSoHAH WITH SMALL ARABIC LETTER TAH ABOVE",
  "oALEF WITH EXTENDED ARABIC-INDIC DIGIT TWO ABOVEzdHREE ABOVE",
  "oFARSI YEH WITH EXTENDED ARABIC-INDIC DIGIT TWO ABOVEziHREE ABOVEzhFOUR BELOW",
  "oWAW WITH EXTENDED ARABIC-INDIC DIGIT TWO ABOVEzcHREE ABOVE",
  "oYEH BARREE WITH EXTENDED ARABIC-INDIC DIGIT TWO ABOVEzjHREE ABOVE",
  "oHAH WITH EXTENDED ARABIC-INDIC DIGIT FOUR BELOW",
  "oSEEN WITH EXTENDED ARABIC-INDIC DIGIT FOUR ABOVEyaINVERTED VoKAF WITH TWO DOTS ABOVE",
  "aTHAANA LETTER HAAoSHAVIYANIoNOONUoRAAoBAAoLHAVIYANIoKAAFUoALIFUoVAAVUoMEEMUoFAAFUoDHAALU",
  "oTHAAoLAAMUoGAAFUpNAVIYANIoSEENUoDAVIYANIoZAVIYANIoTAVIYANIoYAAoPAVIYANIoJAVIYANIoCHAVIYANI",
  "oTTAAoHHAAoKHAAoTHAALUoZAAoSHEENUpAADHUoDAADHUoTOoZOoAINUoGHAINUoQAAFUoWAAVUhABAFILIiABAAFILI",
  "hIBIFILIhEEBEEFILIhUBUFILIhOOBOOFILIhEBEFILIiYBEYFILIhOBOFILIiABOAFILIhSUKUNhLETTER NAA",
  "*14aNKO DIGIT ZEROkONEkTWOlHREEkFOURlIVEkSIXlEVENkEIGHTkNINEeLETTER AlEElIlElUlOOmlDAGBASINNA",
  "lNlBAlPAlTAlJAlCHAlDAlRAmRAlSAlGBAlFAlKAlLAlNA WOLOSOlMAlNYAmAlHAlWAlYAlNYA WOLOSOlJONA JA",
  "qCHAqRAeCOMBINING SHORT HIGH TONEuLOW TONEuRISING TONEoLONG DESCENDING TONEtHIGH TONE",
  "tLOW TONEtRISING TONEoNASALIZATION MARKoDOUBLE DOT ABOVEeHIGH TONE APOSTROPHE",
  "eLOW TONE APOSTROPHEeSYMBOL OO DENNENlGBAKURUNENeCOMMAeEXCLAMATION MARKeLAJANYALAN",
  "*2eDANTAYALANfOROME SIGNeTAMAN SIGNaSAMARITAN LETTER ALAFrBITrGAMANrDALATrIYrBAArZENrITrTIT",
  "rYUTrKAAFrLABATrMIMrNUNrSINGAATrINrFIrTSAADIYrQUFrRISHrSHANrTAAFkMARK INr-ALAFpOCCLUSION",
  "pDAGESHlODIFIER LETTER EPENTHETIC YUTlARK EPENTHETIC YUTkVOWEL SIGN LONG EvEvOVERLONG AA",
  "vLONG AAvAAvOVERLONG AvLONG AvAkMODIFIER LETTER SHORT AkVOWEL SIGN SHORT AvLONG UvU",
  "kMODIFIER LETTER IkVOWEL SIGN LONG IvIvOvSUKUNkMARK NEQUDAA*2kPUNCTUATION NEQUDAAwAFSAAQxNGED",
  "wBAUwATMAAUwSHIYYAALAAkABBREVIATION MARKkPUNCTUATION MELODIC QITSAwZIQAAwQITSAwZAEFwTURU",
  "wARKAANUwSOF MASHFAATwANNAAU*1aMANDAIC LETTER HALQApABqGqDqHpUSHENNApAZpITpATTqKSArqLqMqNqS",
  "pINpAPqSZqQqRqSHqTpDUSHENNApKADpAINiAFFRICATION MARKiVOCALIZATION MARKiGEMINATION MARK",
  "*2iPUNCTUATION*1aSYRIAC LETTER MALAYALAM NGAyaJAyaNYAyaTTAyaNNAycNAyaBHAyaRAyaLLAycLAyaSSA",
  "*5aARABIC LETTER ALEF WITH ATTACHED FATHAyjTOP RIGHT FATHAyaRIGHT MIDDLE STROKE",
  "yaLEFT MIDDLE STROKEyaATTACHED KASRAyjBOTTOM RIGHT KASRAyjROUND DOT ABOVEykIGHT ROUND DOT",
  "yjLEFT ROUND DOTyjROUND DOT BELOWyaDOT ABOVEyaATTACHED TOP RIGHT FATHA AND DOT ABOVE",
  "yaRIGHT MIDDLE STROKE AND DOT ABOVEyaATTACHED BOTTOM RIGHT KASRA AND DOT ABOVE",
  "yjTOP RIGHT FATHA AND LEFT RINGyaRIGHT MIDDLE STROKE AND LEFT RING",
  "yaATTACHED BOTTOM RIGHT KASRA AND LEFT RINGyjRIGHT HAMZAyjLEFT HAMZA",
  "hTATWEEL WITH OVERSTRUCK HAMZAyhWAWuTWO DOTS BELOWhLETTER THIN YEHhBASELINE ROUND DOT",
  "hRAISED ROUND DOThLETTER NOON WITH INVERTED SMALL VoHAH WITH INVERTED SMALL V BELOW",
  "oTAH WITH DOT BELOWxTHREE DOTS BELOWoKEHEH WITH TWO DOTS VERTICALLY BELOWhVERTICAL TAIL",
  "*1hPOUND MARK ABOVEiIASTRE MARK ABOVE*6hSMALL HIGH WORD AL-JUZnLOW WORD ISHMAAMxMAALAwTASHEEL",
  "hMADDA WAAJIBhSUPERSCRIPT ALEF MOKHASSAShDOUBLED MADDAhHALF MADDA OVER MADDA",
  "hLETTER BEH WITH SMALL V BELOWxHAMZA ABOVEoJEEM WITH TWO DOTS ABOVEoTAH WITH TWO DOTS ABOVE",
  "oFEH WITH DOT BELOW AND THREE DOTS ABOVEoQAF WITH DOT BELOWoLAM WITH DOUBLE BAR",
  "oMEEM WITH THREE DOTS ABOVEoYEH WITH TWO DOTS BELOW AND HAMZA ABOVEysDOT ABOVEoREH WITH LOOP",
  "oWAW WITH DOT WITHINoROHINGYA YEHoLOW ALEFoDAL WITH THREE DOTS BELOW",
  "oSAD WITH THREE DOTS BELOWoGAF WITH INVERTED STROKEoSTRAIGHT WAWoZAIN WITH INVERTED V ABOVE",
  "oAIN WITH THREE DOTS BELOWoKAF WITH DOT BELOWoQAF WITH DOT BELOW AND NO DOTS ABOVE",
  "oBEH WITH SMALL MEEM ABOVEoPEH WITH SMALL MEEM ABOVEoTEH WITH SMALL TEH ABOVE",
  "oREH WITH SMALL NOON ABOVEoYEH WITH TWO DOTS BELOW AND SMALL NOON ABOVEoAFRICAN FEHwQAFwNOON",
  "oPEH WITH SMALL VoTEH WITH SMALL VpTEH WITH SMALL VpCHEH WITH SMALL VoKEHEH WITH SMALL V",
  "oGHAIN WITH THREE DOTS ABOVEoAFRICAN QAF WITH THREE DOTS ABOVEoJEEM WITH THREE DOTS ABOVE",
  "ylBELOWoLAM WITH SMALL ARABIC LETTER TAH ABOVEoGRAFhSMALL FARSI YEHnHIGH FARSI YEH",
  "sYEH BARREE WITH TWO DOTS BELOWsWORD SAHsZAHhLARGE ROUND DOT ABOVExBELOWhSUKUN BELOW",
  "hLARGE CIRCLE BELOWnROUND DOT INSIDE CIRCLE BELOWhSMALL LOW WAWnHIGH WORD AR-RUBsSADsAINsQAF",
  "sNOON WITH KASRAnLOW NOON WITH KASRAnHIGH WORD ATH-THALATHAyaS-SAJDAyaN-NISFxSAKTAxQIFxWAQFA",
  "sFOOTNOTE MARKERsSIGN SAFHAhDISPUTED END OF AYAHhTURNED DAMMA BELOWhCURLY FATHAnDAMMAnKASRA",
  "nFATHATANnDAMMATANnKASRATANhTONE ONE DOT ABOVEmTWO DOTS ABOVEmLOOP ABOVEmONE DOT BELOW",
  "mTWO DOTS BELOWmLOOP BELOWhOPEN FATHATANmDAMMATANmKASRATANhSMALL HIGH WAWhFATHA WITH RING",
  "sDOT ABOVEhKASRA WITH DOT BELOWhLEFT ARROWHEAD ABOVEhRIGHT ARROWHEAD ABOVE",
  "hLEFT ARROWHEAD BELOWhRIGHT ARROWHEAD BELOWhDOUBLE RIGHT ARROWHEAD ABOVEyl WITH DOT",
  "hRIGHT ARROWHEAD ABOVE WITH DOThDAMMA WITH DOThMARK SIDEWAYS NOON GHUNNA",
  "aDEVANAGARI SIGN INVERTED CANDRABINDUqCANDRABINDUqANUSVARAqVISARGAlLETTER SHORT AsAtAsItIsUtU",
  "sVOCALIC RycLsCANDRA EsSHORT EsEsAIsCANDRA OsSHORT OsOsAUsKAtHAsGAtHAsNGAsCAtHAsJAtHAsNYAsTTA",
  "uHAsDDAuHAsNNAsTAtHAsDAtHAsNAtNNAsPAtHAsBAtHAsMAsYAsRAtRAsLAtLAuLAsVAsSHAtSAtAsHA",
  "lVOWEL SIGN OExOElSIGN NUKTAqAVAGRAHAlVOWEL SIGN AAwIxIwUxUwVOCALIC RyhRwCANDRA EwSHORT EwE",
  "wAIwCANDRA OwSHORT OwOwAUlSIGN VIRAMAlVOWEL SIGN PRISHTHAMATRA EwAWlOMlSTRESS SIGN UDATTA",
  "xANUDATTAlGRAVE ACCENTlACUTE ACCENTlVOWEL SIGN CANDRA LONG EwUExUElLETTER QAsKHHAsGHHAsZA",
  "sDDDHAsRHAsFAsYYAsVOCALIC RRycLLlVOWEL SIGN VOCALIC LyhLlDANDAmOUBLE DANDAmIGIT ZEROrONErTWO",
  "sHREErFOURsIVErSIXsEVENrEIGHTrNINElABBREVIATION SIGNlSIGN HIGH SPACING DOTlLETTER CANDRA AsOE",
  "tOEsAWsUEtUEsMARWARI DDAsZHAsHEAVY YAsGGAsJJAsGLOTTAL STOPsDDDAsBBAaBENGALI ANJI",
  "iSIGN CANDRABINDUnANUSVARAnVISARGA*1iLETTER AqApIqIpUqUpVOCALIC RxL*2pEpAI*2pOpAUpKAqHApGAqHA",
  "pNGApCAqHApJAqHApNYApTTArHApDDArHApNNApTAqHApDAqHApNA*1pPAqHApBAqHApMApYApRA*1pLA*3pSHAqSAqA",
  "pHA*2iSIGN NUKTAnAVAGRAHAiVOWEL SIGN AAtIuItUuUtVOCALIC RyeR*2tEtAI*2tOtAUiSIGN VIRAMA",
  "iLETTER KHANDA TA*8iAU LENGTH MARK*4iLETTER RRAqHA*1pYYApVOCALIC RRxLLiVOWEL SIGN VOCALIC L",
  "yeL*2iDIGIT ZEROoONEoTWOpHREEoFOURpIVEoSIXpEVENoEIGHToNINEiLETTER RA WITH MIDDLE DIAGONAL",
  "xLOWER DIAGONALiRUPEE MARKoSIGNiCURRENCY NUMERATOR ONEydTWOyeHREEydFOUR",
  "ydONE LESS THAN THE DENOMINATORrDENOMINATOR SIXTEENiISSHARiGANDA MARKiLETTER VEDIC ANUSVARA",
  "iABBREVIATION SIGNiSANDHI MARK*2aGURMUKHI SIGN ADAK BINDIoBINDIoVISARGA*1jLETTER ArAqIrIqUrU",
  "*4qEEqAI*2qOOqAUqKArHAqGArHAqNGAqCArHAqJArHAqNYAqTTAsHAqDDAsHAqNNAqTArHAqDArHAqNA*1qPArHAqBA",
  "rHAqMAqYAqRA*1qLArLA*1qVAqSHA*1rAqHA*2jSIGN NUKTA*1jVOWEL SIGN AAuIvIuUvU*4uEEuAI*2uOOuAU",
  "jSIGN VIRAMA*3oUDAAT*7jLETTER KHHAqGHHAqZAqRRA*1qFA*7jDIGIT ZEROpONEpTWOqHREEpFOURqIVEpSIX",
  "qEVENpEIGHTpNINEjTIPPIjADDAKjIRIjURAjEK ONKARjSIGN YAKASHjABBREVIATION SIGN",
  "*10cJARATI SIGN CANDRABINDUoANUSVARAoVISARGA*1jLETTER ArAqIrIqUrUqVOCALIC RyaLjVOWEL CANDRA E",
  "*1jLETTER EqAIjVOWEL CANDRA O*1jLETTER OqAUqKArHAqGArHAqNGAqCArHAqJArHAqNYAqTTAsHAqDDAsHAqNNA",
  "qTArHAqDArHAqNA*1qPArHAqBArHAqMAqYAqRA*1qLArLA*1qVAqSHArSArAqHA*2jSIGN NUKTAoAVAGRAHA",
  "jVOWEL SIGN AAuIvIuUvUuVOCALIC RyfRuCANDRA E*1uEuAIuCANDRA O*1uOuAUjSIGN VIRAMA*2jOM",
  "*15jLETTER VOCALIC RRyaLLjVOWEL SIGN VOCALIC LyfL*2jDIGIT ZEROpONEpTWOqHREEpFOURqIVEpSIXqEVEN",
  "pEIGHTpNINEjABBREVIATION SIGNjRUPEE SIGN*7jLETTER ZHAjSIGN SUKUNpHADDAoMADDAH",
  "oTHREE-DOT NUKTA ABOVEoCIRCLE NUKTA ABOVEoTWO-CIRCLE NUKTA ABOVE*1aORIYA SIGN CANDRABINDU",
  "lANUSVARAlVISARGA*1gLETTER AoAnIoInUoUnVOCALIC RvL*2nEnAI*2nOnAUnKAoHAnGAoHAnNGAnCAoHAnJAoHA",
  "nNYAnTTApHAnDDApHAnNNAnTAoHAnDAoHAnNA*1nPAoHAnBAoHAnMAnYAnRA*1nLAoLA*1nVAnSHAoSAoAnHA",
  "*2gSIGN NUKTAlAVAGRAHAgVOWEL SIGN AArIsIrUsUrVOCALIC RycR*2rErAI*2rOrAUgSIGN VIRAMA",
  "*7lOVERLINEgAI LENGTH MARKhU LENGTH MARK*4gLETTER RRAoHA*1nYYAnVOCALIC RRvLL",
  "gVOWEL SIGN VOCALIC LycL*2gDIGIT ZEROmONEmTWOnHREEmFOURnIVEmSIXnEVENmEIGHTmNINEgISSHAR",
  "gLETTER WAgFRACTION ONE QUARTERtHALFpTHREE QUARTERSpONE SIXTEENTHtEIGHTHpTHREE SIXTEENTHS",
  "*10aTAMIL SIGN ANUSVARAlVISARGA*1gLETTER AoAnIoInUoU*3nEoEnAI*1nOoOnAUnKA*3nNGAnCA*1nJA*1nNYA",
  "nTTA*3nNNAnTA*3nNAoNNAnPA*3nMAnYAnRAoRAnLAoLApLAnVAnSHAoSAoAnHA*4gVOWEL SIGN AArIsIrUsU*3rEsE",
  "rAI*1rOsOrAUgSIGN VIRAMA*2gOM*6gAU LENGTH MARK*14gDIGIT ZEROmONEmTWOnHREEmFOURnIVEmSIXnEVEN",
  "mEIGHTmNINEgNUMBER TENnONE HUNDREDrTHOUSANDgDAY SIGNgMONTH SIGNgYEAR SIGNgDEBIT SIGN",
  "gCREDIT SIGNgAS ABOVE SIGNgRUPEE SIGNgNUMBER SIGN*5bELUGU SIGN COMBINING CANDRABINDU ABOVE",
  "nANDRABINDUmANUSVARAmVISARGAmCOMBINING ANUSVARA ABOVEhLETTER ApAoIpIoUpUoVOCALIC RwL*1oEpEoAI",
  "*1oOpOoAUoKApHAoGApHAoNGAoCApHAoJApHAoNYAoTTAqHAoDDAqHAoNNAoTApHAoDApHAoNA*1oPApHAoBApHAoMA",
  "oYAoRApRAoLApLAqLAoVAoSHApSApAoHA*2hSIGN NUKTAmAVAGRAHAhVOWEL SIGN AAsItIsUtUsVOCALIC RydR",
  "*1sEtEsAI*1sOtOsAUhSIGN VIRAMA*7hLENGTH MARKhAI LENGTH MARK*1hLETTER TSAoDZAoRRRA",
  "*2oNAKAARA POLLU*2oVOCALIC RRwLLhVOWEL SIGN VOCALIC LydL*2hDIGIT ZEROnONEnTWOoHREEnFOURoIVE",
  "nSIXoEVENnEIGHTnNINE*7hSIGN SIDDHAMhFRACTION DIGIT ZERO FOR ODD POWERS OF FOUR",
  "wONE FOR ODD POWERS OF FOURwTWO FOR ODD POWERS OF FOURxHREE FOR ODD POWERS OF FOUR",
  "wONE FOR EVEN POWERS OF FOURwTWO FOR EVEN POWERS OF FOURxHREE FOR EVEN POWERS OF FOUR",
  "hSIGN TUUMUaKANNADA SIGN SPACING CANDRABINDUnCANDRABINDUnANUSVARAnVISARGAnSIDDHAMiLETTER AqA",
  "pIqIpUqUpVOCALIC RxL*1pEqEpAI*1pOqOpAUpKAqHApGAqHApNGApCAqHApJAqHApNYApTTArHApDDArHApNNApTA",
  "qHApDAqHApNA*1pPAqHApBAqHApMApYApRAqRApLAqLA*1pVApSHAqSAqApHA*2iSIGN NUKTAnAVAGRAHA",
  "iVOWEL SIGN AAtIuItUuUtVOCALIC RyeR*1tEuEtAI*1tOuOtAUiSIGN VIRAMA*7iLENGTH MARK",
  "iAI LENGTH MARK*6iLETTER NAKAARA POLLUpFA*1pVOCALIC RRxLLiVOWEL SIGN VOCALIC LyeL",
  "*2iDIGIT ZEROoONEoTWOpHREEoFOURpIVEoSIXpEVENoEIGHToNINE*1iSIGN JIHVAMULIYAnUPADHMANIYA",
  "*13aMALAYALAM SIGN COMBINING ANUSVARA ABOVEqANDRABINDUpANUSVARApVISARGAkLETTER VEDIC ANUSVARA",
  "rAsArIsIrUsUrVOCALIC RybL*1rEsErAI*1rOsOrAUrKAsHArGAsHArNGArCAsHArJAsHArNYArTTAtHArDDAtHArNNA",
  "rTAsHArDAsHArNAsNNArPAsHArBAsHArMArYArRAsRArLAsLAtLArVArSHAsSAsArHArTTTA",
  "kSIGN VERTICAL BAR VIRAMApCIRCULAR VIRAMApAVAGRAHAkVOWEL SIGN AAvIwIvUwUvVOCALIC RygR*1vEwE",
  "vAI*1vOwOvAUkSIGN VIRAMAkLETTER DOT REPHkSIGN PARA*4kLETTER CHILLU MyaYyaLLLkAU LENGTH MARK",
  "kFRACTION ONE ONE-HUNDRED-AND-SIXTIETHxFORTIETHtTHREE EIGHTIETHStONE TWENTIETHyaENTH",
  "tTHREE TWENTIETHStONE FIFTHkLETTER ARCHAIC IIrVOCALIC RRybLLkVOWEL SIGN VOCALIC LygL",
  "*2kDIGIT ZEROqONEqTWOrHREEqFOURrIVEqSIXrEVENqEIGHTqNINEkNUMBER TENrONE HUNDREDvTHOUSAND",
  "kFRACTION ONE QUARTERxHALFtTHREE QUARTERStONE SIXTEENTHxEIGHTHtTHREE SIXTEENTHSkDATE MARK",
  "kLETTER CHILLU NNybyaRRyaLybLyaK*1aSINHALA SIGN CANDRABINDUnANUSVARAYAnVISARGAYA",
  "*1iLETTER AYANNAqAYANNAqEYANNArEYANNApIYANNAqIYANNApUYANNAqUYANNApIRUYANNAsUYANNAqLUYANNA",
  "sUYANNApEYANNAqEYANNApAIYANNApOYANNAqOYANNApAUYANNA*3qLPAPRAANA KAYANNApMAHAAPRAANA KAYANNA",
  "pALPAPRAANA GAYANNApMAHAAPRAANA GAYANNApKANTAJA NAASIKYAYApSANYAKA GAYANNApALPAPRAANA CAYANNA",
  "pMAHAAPRAANA CAYANNApALPAPRAANA JAYANNApMAHAAPRAANA JAYANNApTAALUJA NAASIKYAYA",
  "xSANYOOGA NAAKSIKYAYApSANYAKA JAYANNApALPAPRAANA TTAYANNApMAHAAPRAANA TTAYANNA",
  "pALPAPRAANA DDAYANNApMAHAAPRAANA DDAYANNAqUURDHAJA NAYANNApSANYAKA DDAYANNA",
  "pALPAPRAANA TAYANNApMAHAAPRAANA TAYANNApALPAPRAANA DAYANNApMAHAAPRAANA DAYANNA",
  "pDANTAJA NAYANNA*1pSANYAKA DAYANNApALPAPRAANA PAYANNApMAHAAPRAANA PAYANNApALPAPRAANA BAYANNA",
  "pMAHAAPRAANA BAYANNArYANNApAMBA BAYANNApYAYANNApRAYANNA*1pDANTAJA LAYANNA*2pVAYANNA",
  "pTAALUJA SAYANNApMUURDHAJA SAYANNApDANTAJA SAYANNApHAYANNApMUURDHAJA LAYANNApFAYANNA",
  "*3iSIGN AL-LAKUNA*4iVOWEL SIGN AELA-PILLAtKETTI AEDA-PILLAtDIGA AEDA-PILLAtKETTI IS-PILLA",
  "tDIGA IS-PILLAtKETTI PAA-PILLA*1tDIGA PAA-PILLA*1tGAETTA-PILLAtKOMBUVAtDIGA KOMBUVA",
  "tKOMBU DEKAyaVA HAA AELA-PILLAyhDIGA AELA-PILLAyhGAYANUKITTAtGAYANUKITTA*6iLITH DIGIT ZERO",
  "tONEtTWOuHREEtFOURuIVEtSIXuEVENtEIGHTtNINE*2iVOWEL SIGN DIGA GAETTA-PILLAycYANUKITTA",
  "iPUNCTUATION KUNDDALIYA*12aTHAI CHARACTER KO KAIqHO KHAIvUATvWAIvONtRAKHANGpNGO NGUpCHO CHAN",
  "vINGvANGpSO SOpCHO CHOEpYO YINGpDO CHADApTO PATAKqHO THANtNANGMONTHOtPHUTHAOpNO NENpDO DEK",
  "pTO TAOqHO THUNGvAHANvONGpNO NUpBO BAIMAIpPO PLAqHO PHUNGpFO FApPHO PHANpFO FANpPHO SAMPHAO",
  "pMO MApYO YAKpRO RUAqUpLO LINGqUpWO WAENpSO SALAsRUSIsSUApHO HIPpLO CHULApO ANGpHO NOKHUK",
  "pPAIYANNOIpSARA ApMAI HAN-AKATpSARA AAvMuIvIuUEwEvvUpPHINTHU*4gURRENCY SYMBOL BAHT",
  "gHARACTER SARA EuAEuOuAI MAIMUANydALAIpLAKKHANGYAOpMAIYAMOKsTAIKHUs EKtTHOuRItCHATTAWA",
  "pTHANTHAKHATpNIKHAHITpYAMAKKANpFONGMANfDIGIT ZEROlONElTWOmHREElFOURmIVElSIXmEVENlEIGHTlNINE",
  "fCHARACTER ANGKHANKHUpKHOMUT*37aLAO LETTER KOmHO SUNG*1pTAM*1lPALI GHAlNGOlCOlPALI CHAlSO TAM",
  "*1lPALI JHAlNYOlPALI NYAqTTAsHAqDDAsHAqNNAlDOlTOmHO SUNGpTAMlPALI DHAlNOlBOlPOmHO SUNGlFO TAM",
  "lPHO TAMlFO SUNGlPALI BHAlMOlYOlLO LING*1pOOT*1lWOlSANSKRIT SHAvSAmO SUNGlHO SUNGlPALI LLAlO",
  "lHO TAMeELLIPSISeVOWEL SIGN ApMAI KANpAAqMpIqIpYqYpUqUeSIGN PALI VIRAMAeVOWEL SIGN MAI KON",
  "eSEMIVOWEL SIGN LOtNYO*2eVOWEL SIGN EqIpOpAYqI*1eKO LA*1eTONE MAI EKnTHOoInCATAWA",
  "eCANCELLATION MARKeNIGGAHITA*2eDIGIT ZEROkONEkTWOlHREEkFOURlIVEkSIXlEVENkEIGHTkNINE*2eHO NO",
  "hMOeLETTER KHMU GOqNYO*32aTIBETAN SYLLABLE OMiMARK GTER YIG MGO TRUNCATED Ayc-UM RNAM BCAD MA",
  "ygGTER TSHEG MAnINITIAL YIG MGO MDUN MAnCLOSING YIG MGO SGAB MAoARET YIG MGO PHUR SHAD MA",
  "nYIG MGO TSHEG SHAD MAnSBRUL SHADnBSKUR YIG MGOoKA- SHOG YIG MGOnINTERSYLLABIC TSHEG",
  "nDELIMITER TSHEG BSTARnSHADnNYIS SHADnTSHEG SHADnNYIS TSHEG SHADnRIN CHEN SPUNGS SHAD",
  "oGYA GRAM SHADnCARET -DZUD RTAGS ME LONG CANnGTER TSHEGiLOGOTYPE SIGN CHAD RTAGSwLHAG RTAGS",
  "iASTROLOGICAL SIGN SGRA GCAN -CHAR RTAGSyc-KHYUD PAycSDONG TSHUGSiSIGN RDEL DKAR GCIGyaNYIS",
  "yaSUMsNAG GCIGxNYISsDKAR RDEL NAGiDIGIT ZEROoONEoTWOpHREEoFOURpIVEoSIXpEVENoEIGHToNINE",
  "oHALF ONEtTWOuHREEtFOURuIVEtSIXuEVENtEIGHTtNINEtZEROiMARK BSDUS RTAGSnNGAS BZUNG NYI ZLA",
  "nCARET -DZUD RTAGS BZHI MIG CANnNGAS BZUNG SGOR RTAGSnCHE MGOnTSA -PHRUnGUG RTAGS GYONybAS",
  "nANG KHANG GYONybASiSIGN YAR TSHESnMAR TSHESiLETTER KAqHApGAqHApNGApCAqHApJA*1pNYApTTArHApDDA",
  "rHApNNApTAqHApDAqHApNApPAqHApBAqHApMApTSArHApDZArHApWApZHAqAp-ApYApRApLApSHAqSAqApHApApKSSA",
  "pFIXED-FORM RApKKApRRA*4iVOWEL SIGN AAtIuItUuUtVOCALIC RyeRydLyeLtEuEtOuOiSIGN RJES SU NGA RO",
  "oNAM BCADiVOWEL SIGN REVERSED IyfIiSIGN NYI ZLA NAA DAnSNA LDANiMARK HALANTAnPALUTA",
  "iSIGN LCI RTAGSnYANG RTAGSnLCE TSA CANnMCHU CANnGRU CAN RGYINGSrMED RGYINGSnINVERTED MCHU CAN",
  "jUBJOINED SIGN LCE TSA CANxMCHU CANxINVERTED MCHU CANsLETTER KAycHAybGAycHAybNGAybCAycHAybJA",
  "*1ybNYAybTTAydHAybDDAydHAybNNAybTAycHAybDAycHAybNAybPAycHAybBAycHAybMAybTSAydHAybDZAydHAybWA",
  "ybZHAycAyb-AybYAybRAybLAybSHAycSAycAybHAybAybKSSAybFIXED-FORM WAymYAymRA*1iKU RU KHA",
  "r BZHI MIG CANiCANTILLATION SIGN HEAVY BEATycLIGHT BEATycCANG TE-UycSBUB -CHALiSYMBOL DRIL BU",
  "pRDO RJEpPADMA GDANpRDO RJE RGYA GRAMpPHUR PApNOR BUv NYIS -KHYILwGSUM -KHYILwBZHI -KHYIL",
  "*1jIGN RDEL NAG RDEL DKARwGSUMiMARK BSKA- SHOG GI MGO RGYANnMNYAM YIG GI MGO RGYANnNYIS TSHEG",
  "nINITIAL BRDA RNYING YIG MGO MDUN MAnCLOSING BRDA RNYING YIG MGO SGAB MA",
  "aRIGHT-FACING SVASTI SIGNaLEFT-FACING SVASTI SIGNaRIGHT-FACING SVASTI SIGN WITH DOTS",
  "aLEFT-FACING SVASTI SIGN WITH DOTSaTIBETAN MARK LEADING MCHAN RTAGSnTRAILING MCHAN RTAGS",
  "*37aMYANMAR LETTER KAqHApGAqHApNGApCAqHApJAqHApNYAqNYApTTArHApDDArHApNNApTAqHApDAqHApNApPAqHA",
  "pBAqHApMApYApRApLApWApSApHApLLApApSHAN ApIqIpUqUpEpMON EpOpAUiVOWEL SIGN TALL AAtAAtIuItUuUtE",
  "tAItMON IIxOtE ABOVEiSIGN ANUSVARAnDOT BELOWnVISARGApRAMAnASATiCONSONANT SIGN MEDIAL YAygRA",
  "ygWAygHAiLETTER GREAT SAiDIGIT ZEROoONEoTWOpHREEoFOURpIVEoSIXpEVENoEIGHToNINE",
  "iSIGN LITTLE SECTIONnSECTIONjYMBOL LOCATIVEpCOMPLETEDpAFOREMENTIONEDpGENITIVEiLETTER SHAqSA",
  "pVOCALIC RyaRxLyaLiVOWEL SIGN VOCALIC RyeRydLyeLiLETTER MON NGAtJHAtBBAvE",
  "iCONSONANT SIGN MON MEDIAL NAykMAykLAiLETTER SGAW KAREN SHAiVOWEL SIGN SGAW KAREN EU",
  "iTONE MARK SGAW KAREN HATHIyfKE PHOiLETTER WESTERN PWO KAREN THAyjPWA",
  "iVOWEL SIGN WESTERN PWO KAREN EUynUEiSIGN WESTERN PWO KAREN TONE-1ym2ym3ym4ym5",
  "iLETTER EASTERN PWO KAREN NNAyjYWAyjGHWAiVOWEL SIGN GEBA KAREN ItKAYAH OEybUybEE",
  "iLETTER SHAN KAvHAuGAuCAuZAuNYAuDAuNAuPHAuFAuBAuTHAuHAiCONSONANT SIGN SHAN MEDIAL WA",
  "iVOWEL SIGN SHAN AAyaEyb ABOVEyaFINAL YiSIGN SHAN TONE-2x3x5x6sCOUNCIL TONE-2yh3",
  "ycEMPHATIC TONEiLETTER RUMAI PALAUNG FAiSIGN RUMAI PALAUNG TONE-5jHAN DIGIT ZEROtONEtTWOuHREE",
  "tFOURuIVEtSIXuEVENtEIGHTtNINEjIGN KHAMTI TONE-1yb3iVOWEL SIGN AITON AycIiSYMBOL SHAN ONE",
  "uEXCLAMATIONaGEORGIAN CAPITAL LETTER ANyaBANyaGANyaDONyaENyaVINyaZENyaTANyaINyaKANyaLASyaMAN",
  "yaNARyaONyaPARyaZHARyaRAEyaSANyaTARyaUNyaPHARyaKHARyaGHANyaQARyaSHINyaCHINybANyaJILyaCILybHAR",
  "yaXANyaJHANyaHAEybEybIEyaWEyaHARybOE*1yaYN*5yaAEN*2jLETTER ANqBANqGANqDONqENqVINqZENqTANqIN",
  "qKANqLASqMANqNARqONqPARqZHARqRAEqSANqTARqUNqPHARqKHARqGHANqQARqSHINqCHINrANqJILqCILrHARqXAN",
  "qJHANqHAErErIEqWEqHARrOEqFIqYNqELIFIqTURNED GANqAINjPARAGRAPH SEPARATOR",
  "aMODIFIER LETTER GEORGIAN NARaGEORGIAN LETTER AENqHARD SIGNqLABIAL SIGN",
  "aHANGUL CHOSEONG KIYEOKqSSANGKIYEOKqNIEUNqTIKEUTqSSANGTIKEUTqRIEULqMIEUMqPIEUPqSSANGPIEUPrIOS",
  "rSANGSIOSqIEUNGqCIEUCqSSANGCIEUCqCHIEUCHqKHIEUKHqTHIEUTHqPHIEUPHqHIEUHqNIEUN-KIYEOK",
  "qSSANGNIEUNqNIEUN-TIKEUTwPIEUPqTIKEUT-KIYEOKqRIEUL-NIEUNqSSANGRIEULqRIEUL-HIEUHqKAPYEOUNRIEUL",
  "qMIEUM-PIEUPqKAPYEOUNMIEUMqPIEUP-KIYEOKwNIEUNwTIKEUTwSIOSyc-KIYEOKydTIKEUTydPIEUPxSANGSIOS",
  "xIOS-CIEUCwCIEUCxHIEUCHwTHIEUTHwPHIEUPHqKAPYEOUNPIEUPyaSSANGPIEUPqSIOS-KIYEOKvNIEUNvTIKEUT",
  "vRIEULvMIEUMvPIEUPyc-KIYEOKvSSANGSIOSvIEUNGvCIEUCwHIEUCHvKHIEUKHvTHIEUTHvPHIEUPHvHIEUH",
  "qCHITUEUMSIOSybSANGSIOSrEONGCHIEUMSIOSyeSANGSIOSqPANSIOSqIEUNG-KIYEOKwTIKEUTwMIEUMwPIEUPwSIOS",
  "wPANSIOSqSSANGIEUNGqIEUNG-CIEUCxHIEUCHwTHIEUTHwPHIEUPHqYESIEUNGqCIEUC-IEUNGrHITUEUMCIEUC",
  "yaSSANGCIEUCrEONGCHIEUMCIEUCydSSANGCIEUCrHIEUCH-KHIEUKHyaHIEUHtTUEUMCHIEUCHrEONGCHIEUMCHIEUCH",
  "qPHIEUPH-PIEUPqKAPYEOUNPHIEUPHqSSANGHIEUHqYEORINHIEUHqKIYEOK-TIKEUTqNIEUN-SIOSwCIEUCwHIEUH",
  "qTIKEUT-RIEULqFILLERhJUNGSEONG FILLERrAsErYAtErEOsrYEOtrOrWAtErOErYOrUrWEOtsIrYUrEUrYIrIrA-O",
  "tUrYA-OuYOrEO-OuUuEUrYEO-OvUrO-EOutYEtOtUrYO-YAwEvEOuOuIrU-AuEtEO-EUtYEtUrYU-AuEOvuYEOwuUuI",
  "rEU-UuEUrYI-UrI-AtYAtOtUtEUtARAEArARAEAw-EOxUxIrSSANGARAEArA-EUrYA-UsEO-YArO-YAvE",
  "iONGSEONG KIYEOKrSSANGKIYEOKrKIYEOK-SIOSrNIEUNw-CIEUCxHIEUHrTIKEUTrRIEULw-KIYEOKxMIEUMxPIEUP",
  "xSIOSxTHIEUTHxPHIEUPHxHIEUHrMIEUMrPIEUPw-SIOSrSIOSsSANGSIOSrIEUNGrCIEUCsHIEUCHrKHIEUKH",
  "rTHIEUTHrPHIEUPHrHIEUHrKIYEOK-RIEULyaSIOS-KIYEOKrNIEUN-KIYEOKxTIKEUTxSIOSxPANSIOSxTHIEUTH",
  "rTIKEUT-KIYEOKyaRIEULrRIEUL-KIYEOK-SIOSxNIEUNxTIKEUTyf-HIEUHrSSANGRIEULrRIEUL-MIEUM-KIYEOK",
  "yfSIOSxPIEUP-SIOSyfHIEUHxKAPYEOUNPIEUPxSSANGSIOSxPANSIOSxKHIEUKHxYEORINHIEUHrMIEUM-KIYEOK",
  "xRIEULxPIEUPxSIOSyaSANGSIOSxPANSIOSxCHIEUCHxHIEUHrKAPYEOUNMIEUMrPIEUP-RIEULxPHIEUPHxHIEUH",
  "rKAPYEOUNPIEUPrSIOS-KIYEOKwTIKEUTwRIEULwPIEUPrPANSIOSrIEUNG-KIYEOKxSSANGKIYEOKrSSANGIEUNG",
  "rIEUNG-KHIEUKHrYESIEUNGyb-SIOSycPANSIOSrPHIEUPH-PIEUPrKAPYEOUNPHIEUPHrHIEUH-NIEUNxRIEULxMIEUM",
  "xPIEUPrYEORINHIEUHrKIYEOK-NIEUNyaPIEUPyaCHIEUCHyaKHIEUKHyaHIEUHrSSANGNIEUN",
  "aETHIOPIC SYLLABLE HAtUtItAAtEEutOuAsLAtUtItAAtEEutOtWAsHHAuUuIuAAuEEvuOuWAsMAtUtItAAtEEutO",
  "tWAsSZAuUuIuAAuEEvuOuWAsRAtUtItAAtEEutOtWAsSAtUtItAAtEEutOtWAtHAuUuIuAAuEEvuOuWAsQAtUtItAAtEE",
  "utOuAtWA*1uIuAAuEEv*2tHAuUuIuAAuEEvuO*1uWA*1vIvAAvEEw*2sBAtUtItAAtEEutOtWAsVAtUtItAAtEEutOtWA",
  "sTAtUtItAAtEEutOtWAsCAtUtItAAtEEutOtWAsXAtUtItAAtEEutOuAtWA*1uIuAAuEEv*2sNAtUtItAAtEEutOtWA",
  "tYAuUuIuAAuEEvuOuWAsGLOTTAL AycUycIycAAycEEydycOycWAsKAtUtItAAtEEutOuAtWA*1uIuAAuEEv*2tXAuUuI",
  "uAAuEEvuO*1uWA*1vIvAAvEEw*2sWAtUtItAAtEEutOuAsPHARYNGEAL AyfUyfIyfAAyfEEygyfO*1sZAtUtItAAtEEu",
  "tOtWAtHAuUuIuAAuEEvuOuWAsYAtUtItAAtEEutOuAsDAtUtItAAtEEutOtWAtDAuUuIuAAuEEvuOuWAsJAtUtItAAtEE",
  "utOtWAsGAtUtItAAtEEutOuAtWA*1uIuAAuEEv*2tGAuUuIuAAuEEvuOuWAAsTHAuUuIuAAuEEvuOuWAsCHAuUuIuAA",
  "uEEvuOuWAsPHAuUuIuAAuEEvuOuWAsTSAuUuIuAAuEEvuOuWAtZAuUuIuAAuEEvuOvAsFAtUtItAAtEEutOtWAsPAtUtI",
  "tAAtEEutOtWAsRYAsMYAsFYA*2jCOMBINING GEMINATION AND VOWEL LENGTH MARKtVOWEL LENGTH MARK",
  "tGEMINATION MARKjSECTION MARKjWORDSPACEjFULL STOPjCOMMAjSEMICOLONjCOLONjPREFACE COLON",
  "jQUESTION MARKjPARAGRAPH SEPARATORjDIGIT ONEpTWOqHREEpFOURqIVEpSIXqEVENpEIGHTpNINEjNUMBER TEN",
  "rWENTYrHIRTYqFORTYrIFTYqSIXTYrEVENTYqEIGHTYqNINETYqHUNDREDqTEN THOUSAND",
  "*3jSYLLABLE SEBATBEIT MWAsMWIuEEvsSEBATBEIT BWAsBWIuEEvsSEBATBEIT FWAsFWIuEEvsSEBATBEIT PWA",
  "sPWIuEEvjTONAL MARK YIZETuDERETuRIKRIKuSHORT RIKRIKuDIFATuKENATuCHIRETuHIDETuDERET-HIDETuKURT",
  "*6aCHEROKEE LETTER AqEqIqOqUqVqGAqKAqGErIrOrUrVqHArErIrOrUrVqLArErIrOrUrVqMArErIrOrUqNAqHNA",
  "qNAHrErIrOrUrVqQUAsEsIsOsUsVqSArrErIrOrUrVqDAqTAqDEqTEqDIqTIqDOrUrVrLAqTLAsEsIsOsUsVrSAsEsIsO",
  "sUsVqWArErIrOrUrVqYArErIrOrUrVqMV*2jSMALL LETTER YExIxOxUxVwMV*2bANADIAN SYLLABICS HYPHENtE",
  "tAAItIuItOuOtY-CREE OOtCARRIER EEydItAuAtWEvST-CREE WEuIuEST-CREE WIuIIuEST-CREE WIIuO",
  "uEST-CREE WOuOOuEST-CREE WOOtNASKAPI WOOtWAuEST-CREE WAuAAuEST-CREE WAAtNASKAPI WAAtAI",
  "tY-CREE WtGLOTTAL STOPtFINAL ACUTEybGRAVEybBOTTOM HALF RINGybTOP HALF RINGybRIGHT HALF RING",
  "ydNGybDOUBLE ACUTEyiSHORT VERTICAL STROKESybMIDDLE DOTybSHORT HORIZONTAL STROKEybPLUS",
  "ybDOWN TACKtENtINtONtANtPEuAAIuIvIuOvOtY-CREE POOtCARRIER HEEyeItPAvAuWEtWEST-CREE PWEtPWI",
  "tWEST-CREE PWItPWIItWEST-CREE PWIItPWOtWEST-CREE PWOtPWOOtWEST-CREE PWOOtPWAtWEST-CREE PWA",
  "tPWAAtWEST-CREE PWAAtY-CREE PWAAtPtWEST-CREE PtCARRIER HtTEuAAIuIvIuOvOtY-CREE TOO",
  "tCARRIER DEEyeItTAvAuWEtWEST-CREE TWEtTWItWEST-CREE TWItTWIItWEST-CREE TWIItTWOtWEST-CREE TWO",
  "tTWOOtWEST-CREE TWOOtTWAtWEST-CREE TWAtTWAAtWEST-CREE TWAAtNASKAPI TWAAtTuTEvIvOvAtKEuAAIuIvI",
  "uOvOtY-CREE KOOtKAvAuWEtWEST-CREE KWEtKWItWEST-CREE KWItKWIItWEST-CREE KWIItKWOtWEST-CREE KWO",
  "tKWOOtWEST-CREE KWOOtKWAtWEST-CREE KWAtKWAAtWEST-CREE KWAAtNASKAPI KWAAtKuWtSOUTH-SLAVEY KEH",
  "yjIHyjOHyjAHtCEuAAIuIvIuOvOtY-CREE COOtCAvAuWEtWEST-CREE CWEtCWItWEST-CREE CWItCWII",
  "tWEST-CREE CWIItCWOtWEST-CREE CWOtCWOOtWEST-CREE CWOOtCWAtWEST-CREE CWAtCWAAtWEST-CREE CWAA",
  "tNASKAPI CWAAtCtSAYISI THtMEuAAIuIvIuOvOtY-CREE MOOtMAvAuWEtWEST-CREE MWEtMWItWEST-CREE MWI",
  "tMWIItWEST-CREE MWIItMWOtWEST-CREE MWOtMWOOtWEST-CREE MWOOtMWAtWEST-CREE MWAtMWAA",
  "tWEST-CREE MWAAtNASKAPI MWAAtMtWEST-CREE MtMHtATHAPASCAN MtSAYISI MtNEuAAIuIvIuOvOtY-CREE NOO",
  "tNAvAuWEtWEST-CREE NWEtNWAtWEST-CREE NWAtNWAAtWEST-CREE NWAAtNASKAPI NWAAutCARRIER NGtNHtLE",
  "uAAIuIvIuOvOtY-CREE LOOtLAvAuWEtWEST-CREE LWEtLWItWEST-CREE LWItLWIItWEST-CREE LWIItLWO",
  "tWEST-CREE LWOtLWOOtWEST-CREE LWOOtLWAtWEST-CREE LWAtLWAAtWEST-CREE LWAAtLtWEST-CREE L",
  "tMEDIAL LtSEuAAIuIvIuOvOtY-CREE SOOtSAvAuWEtWEST-CREE SWEtSWItWEST-CREE SWItSWII",
  "tWEST-CREE SWIItSWOtWEST-CREE SWOtSWOOtWEST-CREE SWOOtSWAtWEST-CREE SWAtSWAAtWEST-CREE SWAA",
  "tNASKAPI SWAAtStATHAPASCAN StSWtBLACKFOOT StMOOSE-CREE SKtNASKAPI SKWye-WyePWAyeTWAyeKWAyeCWA",
  "tSHEvIwIvOwOvAwAvWEtWEST-CREE SHWEtSHWItWEST-CREE SHWItSHWIItWEST-CREE SHWIItSHWO",
  "tWEST-CREE SHWOtSHWOOtWEST-CREE SHWOOtSHWAtWEST-CREE SHWAtSHWAAtWEST-CREE SHWAAtSHtYEuAAIuIvI",
  "uOvOu-CREE YOOuAvAuWEtWEST-CREE YWEtYWItWEST-CREE YWItYWIItWEST-CREE YWIItYWOtWEST-CREE YWO",
  "tYWOOtWEST-CREE YWOOtYWAtWEST-CREE YWAtYWAAtWEST-CREE YWAAtNASKAPI YWAAtYtBIBLE-CREE Y",
  "tWEST-CREE YtSAYISI YItREu-CREE REtWEST-CREE LEtRAAIuIvIuOvOtWEST-CREE LOtRAvAtWEST-CREE LA",
  "tRWAAtWEST-CREE RWAAtRtWEST-CREE RtMEDIAL RtFEuAAIuIvIuOvOuAvAuWAAtWEST-CREE FWAAtFtTHE",
  "tN-CREE THEtTHItN-CREE THItTHIItN-CREE THIItTHOwOvAwAvWAAtWEST-CREE THWAAtTHuTHEwIwOwAwuYEvI",
  "vOvAtNUNAVIK HEyeIyfIyeOyfOyeAyfAyeyaUT HtHKtQAAIuIvIuOvOuAvAutTLHEwIwOwAtWEST-CREE REygIygO",
  "ygAtNGAAIvIwIvOwOvAwAvuNGtSAYISI SHEyeIyeOyeAtWOODS-CREE THEyiIyiOyiAyitLHIwIvOwOvAwAv",
  "tTH-CREE THEyfIygIyfOygOyfAygAyftAIVILIK BtBLACKFOOT EyfIyfOyfAyfWEygIygOygAyfNEygIygOygAyfKE",
  "ygIygOygAtSAYISI HEydIydOydAtCARRIER GHUyfOyfEygEyfIyfAydRUyeOyeEyfEyeIyeAydWUyeOyeEyfEyeIyeA",
  "ydHWUyfOyfEygEyfIyfAydTHUyfOyfEygEyfIyfAyeTUyfOyfEygEyfIyfAydPUyeOyeEyfEyeIyeAyeydGUyeOyeEyfE",
  "yeIyeAydKHUyfOyfEygEyfIyfAyeKUyfOyfEygEyfIyfAyfydNUyeOyeEyfEyeIyeAydMUyeOyeEyfEyeIyeAydYUyeO",
  "yeEyfEyeIyeAydJUtSAYISI JUtCARRIER JOyeEyfEyeItSAYISI JItCARRIER JAyeJUyfOyfEygEyfIyfAydLUyeO",
  "yeEyfEyeIyeAydDLUyfOyfEygEyfIyfAydLHUyfOyfEygEyfIyfAydTLHUygOygEyhEygIygAyfUyfOyfEygEyfIyfA",
  "ydZUyeOyeEyfEyeIyeAyeydINITIAL ZydDZUyfOyfEygEyfIyfAydSUyeOyeEyfEyeIyeAyeHUyfOyfEygEyfIyfAyf",
  "ydTSUyfOyfEygEyfIyfAydCHUyfOyfEygEyfIyfAydTTSUygOygEyhEygIygAuHI SIGNtFULL STOPtQAItNGAIuNGI",
  "xIwOxOwAxAtWOODS-CREE THWEEyjIykIyjOykOyjAykAygFINAL THtBLACKFOOT WaOGHAM SPACE MARK",
  "gLETTER BEITHnLUISnFEARNnSAILnNIONnUATHnDAIRnTINNEnCOLLoEIRTnMUINnGORTnNGEADALnSTRAIFnRUIS",
  "nAILMnONNnURnEADHADHnIODHADHnEABHADHnORnUILLEANNnIFINnEAMHANCHOLLnPEITHgFEATHER MARK",
  "gREVERSED FEATHER MARK*3aRUNIC LETTER FEHU FEOH FE FnVnURUZ UR UnYRonWnTHURISAZ THURS THORN",
  "nETHnANSUZ AnOS OnAC AoESCnLONG-BRANCH-OSS OnSHORT-TWIG-OSS OnOoEoNnRAIDO RAD REID RnKAUNA",
  "nCENnKAUN KnGnENGnGEBO GYFU GoARnWUNJO WYNN WnHAGLAZ HpEGL HnLONG-BRANCH-HAGALL H",
  "nSHORT-TWIG-HAGALL HnNAUDIZ NYD NAUD NnSHORT-TWIG-NAUD NnDOTTED-NnISAZ IS ISS InEnJERAN JnGER",
  "nLONG-BRANCH-AR AEnSHORT-TWIG-AR AnIWAZ EOHnPERTHO PEORTH PnALGIZ EOLHXnSOWILO S",
  "oIGEL LONG-BRANCH-SOL SoHORT-TWIG-SOL SnCnZnTIWAZ TIR TYR TnSHORT-TWIG-TYR TnD",
  "nBERKANAN BEORC BJARKAN BnSHORT-TWIG-BJARKAN BnDOTTED-PnOPEN-PnEHWAZ EH EnMANNAZ MAN M",
  "nLONG-BRANCH-MADR MnSHORT-TWIG-MADR MnLAUKAZ LAGU LOGR LnDOTTED-LnINGWAZqnDAGAZ DAEG D",
  "nOTHALAN ETHEL OnEARnIORnCWEORTHoALCoEALCnSTANnLONG-BRANCH-YRnSHORT-TWIG-YRnICELANDIC-YRnQnX",
  "gSINGLE PUNCTUATIONgMULTIPLE PUNCTUATIONgCROSS PUNCTUATIONgARLAUG SYMBOLgTVIMADUR SYMBOL",
  "gBELGTHOR SYMBOLgLETTER KnSHnOOnFRANKS CASKET OSydISydEHydACyeESC*7aTAGALOG LETTER ApIpUpKA",
  "pGApNGApTApDApNApPApBApMApYApRApLApWApSApHAiVOWEL SIGN ItUiSIGN VIRAMAnPAMUDPOD",
  "*9iLETTER ARCHAIC RAaHANUNOO LETTER ApIpUpKApGApNGApTApDApNApPApBApMApYApRApLApWApSApHA",
  "iVOWEL SIGN ItUiSIGN PAMUDPODaPHILIPPINE SINGLE PUNCTUATIONlDOUBLE PUNCTUATION",
  "*9aBUHID LETTER AnInUnKAnGAnNGAnTAnDAnNAnPAnBAnMAnYAnRAnLAnWAnSAnHAgVOWEL SIGN IrU",
  "*12aTAGBANWA LETTER AqIqUqKAqGAqNGAqTAqDAqNAqPAqBAqMAqYA*1qLAqWAqSA*1jVOWEL SIGN IuU",
  "*12aKHMER LETTER KAoHAoOoHOnNGOnCAoHAoOoHOnNYOnDAnTTHAnDOnTTHOnNNOnTAoHAoOoHOnNOnBAnPHAoOoHO",
  "nMOnYOnROnLOnVOnSHAoSOoAnHAnLAnQAgINDEPENDENT VOWEL QAQycAybIycIybUycKycUydVyaRYycYyaLYycY",
  "yaQEybAIybOO TYPE ONEyjTWOybAUgVOWEL INHERENT AQwAmSIGN AArIsIrYsYrUsUsArOErYArIErErAEsIrOO",
  "rAUgSIGN NIKAHITlREAHMUKlYUUKALEAPINTUlMUUSIKATOANlTRIISAPlBANTOClROBATlTOANDAKHIATlKAKABAT",
  "lAHSDAlSAMYOK SANNYAlVIRIAMlCOENGlBATHAMASATlKHANlBARIYOOSANlCAMNUC PII KUUHlLEK TOOlBEYYAL"]

end LintScaffold.Text.CharName
