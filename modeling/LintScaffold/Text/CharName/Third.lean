/-!
# Names of characters, third part

The names of the characters from U+17D9 to U+203D, in the shortened form of
character names.
-/

namespace LintScaffold.Text.CharName

/-- The rows of names from U+17D9 on. -/
def thirdRows : List String := [
  "lPHNAEK MUANlKOOMUUTgCURRENCY SYMBOL RIELgSIGN AVAKRAHASANYAmTTHACAN*2gDIGIT ZEROmONEmTWO",
  "nHREEmFOURnIVEmSIXnEVENmEIGHTmNINE*6gSYMBOL LEK ATTAK SONxMUOYxPIIxBEIyaUONxPRAMyd-MUOYyePII",
  "yeBEIyfUON*6aMONGOLIAN BIRGAkELLIPSISkCOMMAkFULL STOPkCOLONkFOUR DOTSkTODO SOFT HYPHEN",
  "kSIBE SYLLABLE BOUNDARY MARKERkMANCHU COMMArFULL STOPkNIRUGUkFREE VARIATION SELECTOR ONEykTWO",
  "ylHREEkVOWEL SEPARATORkFREE VARIATION SELECTOR FOURkDIGIT ZEROqONEqTWOrHREEqFOURrIVEqSIXrEVEN",
  "qEIGHTqNINE*6kLETTER ArErIrOrUrOErUErEErNArANGrBArPArQArGArMArLArSAsHArTArDArCHArJArYArRArWA",
  "rFArKAsHArTSArZArHAArZRArLHArZHIrCHIrTODO LONG VOWEL SIGNwEwIwOwUwOEwUEwANGwBAwPAwQAwGAwMAwTA",
  "wDAwCHAwJAwTSAwYAwWAwKAwGAAwHAAwJIAwNIAwDZArSIBE EwIxYwUExwANGwKAwGAwHAwPAwSHAwTAwDAwJAwFA",
  "wGAAwHAAwTSAwZAwRAAwCHAwZHArMANCHU IyaKAyaRAyaFAyaZHArCHA WITH TWO DOTS",
  "*7rALI GALI ANUSVARA ONEycVISARGA ONEycDAMARUycUBADAMAycINVERTED UBADAMAycBALUDA",
  "ycTHREE BALUDAycAycIycKAycNGAycCAycTTAyeHAycDDAycNNAycTAycDAycPAydHAycSSAycZHAydAycAH",
  "rTODO ALI GALI TAyhZHArMANCHU ALI GALI GHAyjNGAyjCAyjJHAyjTTAyjDDHAyjTAyjDHAyjSSAyjCYAyjZHA",
  "ykArALI GALI HALF UyhYArMANCHU ALI GALI BHArALI GALI DAGALGArMANCHU ALI GALI LHA",
  "*5aCANADIAN SYLLABICS OYtAYuAYtWAYtPOYuAYuWOYtTAYtKAYuWAYtMAYtNOYuAYtLAYtSOYuAYuHOYvAYvWOY",
  "tYOYuAYtRAYtNWItOJIBWAY NWItNWIItOJIBWAY NWIItNWOtOJIBWAY NWOtNWOOtOJIBWAY NWOOtRWEEvIwIvOwO",
  "vAtOJIBWAY PydTydKydCydMydNydSyeHtEASTERN WtWESTERN WtFINAL SMALL RINGybRAISED DOTtR-CREE RWE",
  "tWEST-CREE LOOygAAtTHWEwAuTHWEwOOwAAuLHWEwOOtSAYISI SHWEyeOOycHOOtCARRIER GWUydDENE GEEydGAA",
  "yeWAtSAYISI JUUtCARRIER JWAtBEAVER DENE LyhRtCARRIER DENTAL S*10aLIMBU VOWEL-CARRIER LETTER",
  "gLETTER KAoHAnGAoHAnNGAnCAoHAnJAoHAnYANnTAoHAnDAoHAnNAnPAoHAnBAoHAnMAnYAnRAnLAnWAnSHAoSAoAnHA",
  "nGYANnTRA*1gVOWEL SIGN ArIrUrEErAIrOOrAUrErOgSUBJOINED LETTER YAxRAxWA*4hMALL LETTER KAtNGA",
  "tANUSVARAtTAtNAtPAtMAtRAtLAhIGN MUKPHRENGlKEMPHRENGlSA-I*4lLOO*3gEXCLAMATION MARK",
  "gQUESTION MARKgDIGIT ZEROmONEmTWOnHREEmFOURnIVEmSIXnEVENmEIGHTmNINEaTAI LE LETTER KAoXAoNGA",
  "oTSAoSAoYAoTApHAoLAoPApHAoMAoFAoVAoHAoQAoKHAoTSHAoNAoAoIoEEpHoUoOOpoUEoEoAUEpI*2oTONE-2t3t4t5",
  "t6*11aNEW TAI LUE LETTER HIGH QAtLOW QAtHIGH KAyaXAyaNGAtLOW KAxXAxNGAtHIGH TSAyaSAyaYA",
  "tLOW TSAxSAxYAtHIGH TAybHAyaNAtLOW TAyaHAxNAtHIGH PAybHAyaMAtLOW PAyaHAxMAtHIGH FAyaVAyaLA",
  "tLOW FAxVAxLAtHIGH HAyaDAyaBAtLOW HAxDAxBAtHIGH KVAyaXVAtLOW KVAxXVAtHIGH SUAtLOW SUA",
  "*4mVOWEL SIGN VOWEL SHORTENERxAAxIIxUyaUxExAExOyaAxUExAYyaAYxUYxOYyaAYxUEYxIYmLETTER FINAL V",
  "ybNGycybMybKybDybBmTONE MARK-1w2*6mDIGIT ZEROsONEsTWOtHREEsFOURtIVEsSIXtEVENsEIGHTsNINE",
  "mTHAM DIGIT ONE*3mSIGN LAEuVaKHMER SYMBOL PATHAMASATnMUOY KOETnPII KOETnBEI KOEToUON KOET",
  "nPRAM KOETr-MUOY KOETsPII KOETsBEI KOETtUON KOETnDAP KOETq-MUOY KOETrPII KOETrBEI KOET",
  "sUON KOETrPRAM KOETnTUTEYASATnMUOY ROCnPII ROCnBEI ROCoUON ROCnPRAM ROCr-MUOY ROCsPII ROC",
  "sBEI ROCtUON ROCnDAP ROCq-MUOY ROCrPII ROCrBEI ROCsUON ROCrPRAM ROCaBUGINESE LETTER KAqGAqNGA",
  "sKAqPAqBAqMArPAqTAqDAqNArRAqCAqJAqNYAsCAqYAqRAqLAqVAqSAqAqHAjVOWEL SIGN IuUuEuOuAE*2jPALLAWA",
  "jEND OF SECTIONaTAI THAM LETTER HIGH KAwHAwXAqLOW KAvXAvHAqNGAqHIGH CAwHAqLOW CAuSAuCHAqNYA",
  "qRATAqHIGH RATHAqDAqLOW RATHAqRANAqHIGH TAwHAqLOW TAvHAqNAqBAqHIGH PAwHAvFAqLOW PAuFAuPHAqMA",
  "qLOW YAqHIGH YAqRArUEqLArUEqWAqHIGH SHAwSAwAvHAqLLAqAqLOW HAqIrIqUrUqEEqOOqLAEqGREAT SA",
  "jCONSONANT SIGN MEDIAL RAyhLAyaLA TANG LAIjSIGN MAI KANG LAIjCONSONANT SIGN FINAL NGAyaLOW PA",
  "yaHIGH RATHA OR LOW PAyaMAyaBAyaSA*1jSIGN SAKOTjVOWEL SIGN AuMAI SATuAAuTALL AAuIvIuUEvUEvvU",
  "uOvA BELOWvYuEuAEuOOuAIuTHAM AIuOA ABOVEjSIGN MAI KANGoTONE-1t2oKHUEN TONE-3yb4yb5oRA HAAM",
  "oMAI SAMoKHUEN-LUE KARAN*2jCOMBINING CRYPTOGRAMMIC DOTjHORA DIGIT ZEROuONEuTWOvHREEuFOURvIVE",
  "uSIXvEVENuEIGHTuNINE*6jTHAM DIGIT ZEROuONEuTWOvHREEuFOURvIVEuSIXvEVENuEIGHTuNINE*6jSIGN WIANG",
  "tWAAKoSAWANoKEOWoHOYoDOKMAIoREVERSED ROTATED RANAoMAI YAMOKoKAANsKUUoSATKAANvKUUoHANGoCAANG",
  "*2aCOMBINING DOUBLED CIRCUMFLEX ACCENTlIAERESIS-RINGkINFINITYkDOWNWARDS ARROWkTRIPLE DOT",
  "kX-X BELOWkWIGGLY LINE BELOWkOPEN MARK BELOWkDOUBLE OPEN MARK BELOW",
  "kLIGHT CENTRALIZATION STROKE BELOWkSTRONG CENTRALIZATION STROKE BELOWkPARENTHESES ABOVE",
  "kDOUBLE PARENTHESES ABOVEkPARENTHESES BELOWwOVERLAYkLATIN SMALL LETTER W BELOW",
  "yfTURNED W BELOWlEFT PARENTHESIS ABOVE LEFTkRIGHT PARENTHESIS ABOVE RIGHT",
  "kLEFT PARENTHESIS BELOW LEFTkRIGHT PARENTHESIS BELOW RIGHTkSQUARE BRACKETS ABOVE",
  "kNUMBER SIGN ABOVEkINVERTED DOUBLE ARCH ABOVEkPLUS SIGN ABOVEkDOUBLE PLUS SIGN ABOVEydBELOW",
  "kTRIPLE ACUTE ACCENTkLATIN SMALL LETTER INSULAR GynRynT*49aBALINESE SIGN ULU RICEMsCANDRA",
  "oCECEKoSURANGoBISAHjLETTER AKARAv TEDUNGqIKARAv TEDUNGqUKARAv TEDUNGqRA REPAx TEDUNGqLA LENGA",
  "ya TEDUNGqEKARAqAIKARAqOKARAv TEDUNGqKAs MAHAPRANAqGAs GORAqNGAqCAs LACAqJAs JERAqNYA",
  "qTA LATIKtMURDA MAHAPRANAqDA MURDA ALPAPRANAybMAHAPRANAqNA RAMBATqTAs TAWAqDAs MADUqNAqPA",
  "s KAPALqBAs KEMBANGqMAqYAqRAqLAqWAqSA SAGAvPAsqHAjSIGN REREKANjVOWEL SIGN TEDUNGuULUx SARI",
  "uSUKUya ILUTuRA REPAyd TEDUNGuLA LENGAye TEDUNGuTALINGyc REPAydTEDUNGydREPA TEDUNGuPEPET",
  "yb TEDUNGjADEG ADEGjLETTER KAF SASAKrHOT SASAKqTZIR SASAKqEF SASAKqVE SASAKqZAL SASAK",
  "qASYURA SASAKrRCHAIC JNYA*3jDIGIT ZEROpONEpTWOqHREEpFOURqIVEpSIXqEVENpEIGHTpNINEjPANTIlMADA",
  "jWINDUjCARIK PAMUNGKAHpSIKIpPARERENjPAMENENGjMUSICAL SYMBOL DONGybENGybUNGybANGye SURANGybING",
  "ybAENGybEUNGybAINGycNG GEDEyaCOMBINING TEGEHykENDEPykKEMPULyoLIykJEGOGANykKEMPUL WITH JEGOGAN",
  "yoLI WITH JEGOGANykBENDEykGONGyaRIGHT-HAND OPEN DUGyrAGylCLOSED TUKytAKyaLEFT-HAND OPEN PANG",
  "yqUNGykCLOSED PLAKytUKykOPEN PINGjPANTI LANTANGlMADA LANTANG*1aSUNDANESE SIGN PANYECEKsGLAYAR",
  "tWISADkLETTER ArIrUrAErOrEsUrKArQArGArNGArCArJArZArNYArTArDArNArPArFArVArBArMArYArRArLArWArSA",
  "rXArHAkCONSONANT SIGN PAMINGKALydNYAKRAyfIKUkVOWEL SIGN PANGHULUyaYUKUyaAELAENGyaOLONGxMEPET",
  "xNEULEUNGkSIGN PAMAAEHpVIRAMAkCONSONANT SIGN PASANGAN MAykWAkLETTER KHArSYAkDIGIT ZEROqONE",
  "qTWOrHREEqFOURrIVEqSIXrEVENqEIGHTqNINEkAVAGRAHAkLETTER REUrLEUrBHArFINAL KxMaBATAK LETTER A",
  "nSIMALUNGUN AnHAnSIMALUNGUN HAnMANDAILING HAnBAnKARO BAnPAnSIMALUNGUN PAnNAnMANDAILING NAnWA",
  "nSIMALUNGUN WAnPAKPAK WAnGAnSIMALUNGUN GAnJAnDAnRAnSIMALUNGUN RAnMAnSIMALUNGUN MAoOUTHERN TA",
  "nNORTHERN TAnSAoIMALUNGUN SAnMANDAILING SAnYAnSIMALUNGUN YAnNGAnLAnSIMALUNGUN LAnNYAnCAnNDA",
  "nMBAnInUgSIGN TOMPIgVOWEL SIGN ErPAKPAK ErEErIrKARO IrOrKARO OrUs FOR SIMALUNGUN SA",
  "gCONSONANT SIGN NGvHgPANGOLATjONGONAN*8gSYMBOL BINDU NA METEKtPINARBORAStJUDULtPANGOLAT",
  "aLEPCHA LETTER KApLApHAoGApLAoNGAoCApHAoJAoNYAoTApHAoDAoNAoPApLApHAoFApLAoBApLAoMApLAoTSAqHA",
  "oDZAoYAoRAoLAoHApLAoVAoSApHAoWAoAhSUBJOINED LETTER YAyaRAhVOWEL SIGN AAsIsOtOsUtUsE",
  "hCONSONANT SIGN KwMwLwNwPwRwTwNYIN-DOwKANGhSIGN RANmNUKTA*3hPUNCTUATION TA-ROL",
  "tNYET THYOOM TA-ROLtCER-WAtTSHOOK CER-WAybhDIGIT ZEROnONEnTWOoHREEnFOURoIVEnSIXoEVENnEIGHT",
  "nNINE*3hLETTER TTAqHAoDDAaOL CHIKI DIGIT ZEROpONEpTWOqHREEpFOURqIVEpSIXqEVENpEIGHTpNINE",
  "jLETTER LAqATrGrNGrLqLAAqAAKsJsMsWqLIqISrHrNYrRqLUqUCrDrNNrYqLEqEPrDDrNrRRqLOqOTTrBrVrH",
  "jMU TTUDDAGjGAAHLAA TTUDDAAGjMU-GAAHLAA TTUDDAAGjRELAAjPHAARKAAjAHADjPUNCTUATION MUCAAD",
  "vDOUBLE MUCAADaCYRILLIC SMALL LETTER ROUNDED VEwLONG-LEGGED DEwNARROW OwWIDE ESwTALL TE",
  "xHREE-LEGGED TExALL HARD SIGNydYATwUNBLENDED UK*7aGEORGIAN MTAVRULI CAPITAL LETTER ANyjBAN",
  "yjGANyjDONyjENyjVINyjZENyjTANyjINyjKANyjLASyjMANyjNARyjONyjPARyjZHARyjRAEyjSANyjTARyjUNyjPHAR",
  "yjKHARyjGHANyjQARyjSHINyjCHINykANyjJILyjCILykHARyjXANyjJHANyjHAEykEykIEyjWEyjHARykOEyjFIyjYN",
  "yjELIFIyjTURNED GANyjAIN*2ykENyjHARD SIGNyjLABIAL SIGNaSUNDANESE PUNCTUATION BINDU SURYA",
  "yePANGLONGyfURNAMAyeCAKRAyeLEU SATANGAyeKA SATANGAyeDA SATANGAyeBA SATANGA",
  "*8aVEDIC TONE KARSHANAlSHARAlPRENKHAgSIGN NIHSHVASAlYAJURVEDIC MIDLINE SVARITA",
  "gTONE YAJURVEDIC AGGRAVATED INDEPENDENT SVARITAwINDEPENDENT SVARITA",
  "wKATHAKA INDEPENDENT SVARITAlCANDRA BELOWlYAJURVEDIC KATHAKA INDEPENDENT SVARITA SCHROEDER",
  "lDOUBLE SVARITAlTRIPLE SVARITAlKATHAKA ANUDATTAlDOT BELOWlTWO DOTS BELOWmHREE DOTS BELOW",
  "lRIGVEDIC KASHMIRI INDEPENDENT SVARITAlATHARVAVEDIC INDEPENDENT SVARITAgSIGN VISARGA SVARITA",
  "tUDATTAlREVERSED VISARGA UDATTAlVISARGA ANUDATTAlREVERSED VISARGA ANUDATTA",
  "lVISARGA UDATTA WITH TAILtANUDATTA WITH TAILlANUSVARA ANTARGOMUKHAuBAHIRGOMUKHAuVAMAGOMUKHA",
  "yh WITH TAILlTIRYAKlHEXIFORM LONG ANUSVARAlLONG ANUSVARAlRTHANG LONG ANUSVARA",
  "lANUSVARA UBHAYATO MUKHAmRDHAVISARGAlROTATED ARDHAVISARGAgTONE CANDRA ABOVEgSIGN JIHVAMULIYA",
  "lUPADHMANIYAlATIKRAMAgTONE RING ABOVElDOUBLE RING ABOVEgSIGN DOUBLE ANUSVARA ANTARGOMUKHA",
  "*5aLATIN LETTER SMALL CAPITAL AyeEgSMALL LETTER TURNED AEgLETTER SMALL CAPITAL BARRED BydCydD",
  "ydETHyegSMALL LETTER TURNED OPEN EycIgLETTER SMALL CAPITAL JydKydL WITH STROKEydMydREVERSED N",
  "ydOyePEN OgSMALL LETTER SIDEWAYS OyfPEN Oyf WITH STROKEtTURNED OEgLETTER SMALL CAPITAL OU",
  "gSMALL LETTER TOP HALF OtBOTTOM HALF OgLETTER SMALL CAPITAL PydREVERSED RydTURNED RyeydU",
  "gSMALL LETTER SIDEWAYS UyeDIAERESIZED UyeTURNED MgLETTER SMALL CAPITAL VydWydZydEZH",
  "nVOICED LARYNGEAL SPIRANTnAINaGREEK LETTER SMALL CAPITAL GAMMAydLAMDAydPIydRHOydPSI",
  "aCYRILLIC LETTER SMALL CAPITAL ELaMODIFIER LETTER CAPITAL AybEyaBybARRED ByaDyaEyaREVERSED E",
  "yaGyaHyaIyaJyaKyaLyaMyaNyaREVERSED NyaOybUyaPyaRyaTyaUyaWqSMALL AwTURNED AwALPHAwTURNED AEwB",
  "wDwEwSCHWAwOPEN EwTURNED OPEN EwGwTURNED IwKwMwENGwOxPEN OwTOP HALF OwBOTTOM HALF OwPwTwU",
  "wSIDEWAYS UwTURNED MwVwAINwBETAwGREEK GAMMAwDELTAwGREEK PHIwCHI",
  "aLATIN SUBSCRIPT SMALL LETTER IyfRyfUyfVaGREEK SUBSCRIPT SMALL LETTER BETAyfGAMMAyfRHOyfPHI",
  "yfCHIaLATIN SMALL LETTER UEtB WITH MIDDLE TILDEtD WITH MIDDLE TILDEtF WITH MIDDLE TILDE",
  "tM WITH MIDDLE TILDEtN WITH MIDDLE TILDEtP WITH MIDDLE TILDEtR WITH MIDDLE TILDE",
  "ycFISHHOOK AND MIDDLE TILDEtS WITH MIDDLE TILDEtT WITH MIDDLE TILDEtZ WITH MIDDLE TILDE",
  "tTURNED GaMODIFIER LETTER CYRILLIC ENaLATIN SMALL LETTER INSULAR GtTH WITH STRIKETHROUGH",
  "mCAPITAL LETTER I WITH STROKEmLETTER IOTA WITH STROKEtP WITH STROKE",
  "mCAPITAL LETTER U WITH STROKEmLETTER UPSILON WITH STROKEtB WITH PALATAL HOOK",
  "tD WITH PALATAL HOOKtF WITH PALATAL HOOKtG WITH PALATAL HOOKtK WITH PALATAL HOOK",
  "tL WITH PALATAL HOOKtM WITH PALATAL HOOKtN WITH PALATAL HOOKtP WITH PALATAL HOOK",
  "tR WITH PALATAL HOOKtS WITH PALATAL HOOKtESH WITH PALATAL HOOKtV WITH PALATAL HOOK",
  "tX WITH PALATAL HOOKtZ WITH PALATAL HOOKtA WITH RETROFLEX HOOKuLPHA WITH RETROFLEX HOOK",
  "tD WITH HOOK AND TAILtE WITH RETROFLEX HOOKtOPEN E WITH RETROFLEX HOOK",
  "tREVERSED OPEN E WITH RETROFLEX HOOKtSCHWA WITH RETROFLEX HOOKtI WITH RETROFLEX HOOK",
  "tOPEN O WITH RETROFLEX HOOKtESH WITH RETROFLEX HOOKtU WITH RETROFLEX HOOK",
  "tEZH WITH RETROFLEX HOOKaMODIFIER LETTER SMALL TURNED ALPHAwCx WITH CURLwETHwREVERSED OPEN E",
  "wFwDOTLESS J WITH STROKEwSCRIPT GwTURNED HwI WITH STROKExOTAwCAPITAL Iyh WITH STROKE",
  "wJ WITH CROSSED-TAILwL WITH RETROFLEX HOOKyfPALATAL HOOKwCAPITAL LwM WITH HOOK",
  "wTURNED M WITH LONG LEGwN WITH LEFT HOOKyfRETROFLEX HOOKwCAPITAL NwBARRED OwPHIwS WITH HOOK",
  "wESHwT WITH PALATAL HOOKwU BARxPSILONwCAPITAL UwV WITH HOOKwTURNED VwZx WITH RETROFLEX HOOK",
  "yfCURLwEZHwTHETAaCOMBINING DOTTED GRAVE ACCENTrACUTE ACCENTkSNAKE BELOWlUSPENSION MARK",
  "kMACRON-ACUTEkGRAVE-MACRONkMACRON-GRAVEkACUTE-MACRONkGRAVE-ACUTE-GRAVEkACUTE-GRAVE-ACUTE",
  "kLATIN SMALL LETTER R BELOWkBREVE-MACRONkMACRON-BREVEkDOUBLE CIRCUMFLEX ABOVEkOGONEK ABOVE",
  "kZIGZAG BELOWkIS BELOWkUR ABOVElS ABOVEkLATIN SMALL LETTER FLATTENED OPEN A ABOVEyfAEygOygV",
  "yfC CEDILLAyfINSULAR DyfETHyfGqLETTER SMALL CAPITAL GqSMALL LETTER KyfL",
  "qLETTER SMALL CAPITAL LynMqSMALL LETTER NqLETTER SMALL CAPITAL NynRqSMALL LETTER R ROTUNDAyfS",
  "yfLONG SyfZyfALPHAyfBygETAyfSCHWAyfFyfL WITH DOUBLE MIDDLE TILDE",
  "yfO WITH LIGHT CENTRALIZATION STROKEyfPyfESHyfU WITH LIGHT CENTRALIZATION STROKEyfW",
  "yfA WITH DIAERESISyfO WITH DIAERESISyfU WITH DIAERESISkUP TACK ABOVEkKAVYKA ABOVE RIGHTxLEFT",
  "kDOT ABOVE LEFTkWIDE INVERTED BRIDGE BELOWkDOT BELOW LEFTlELETION MARK",
  "lOUBLE INVERTED BREVE BELOWkALMOST EQUAL TO BELOWkLEFT ARROWHEAD ABOVE",
  "kRIGHT ARROWHEAD AND DOWN ARROWHEAD BELOWaLATIN CAPITAL LETTER A WITH RING BELOW",
  "gSMALL LETTER A WITH RING BELOWgCAPITAL LETTER B WITH DOT ABOVEgSMALL LETTER B WITH DOT ABOVE",
  "gCAPITAL LETTER B WITH DOT BELOWgSMALL LETTER B WITH DOT BELOW",
  "gCAPITAL LETTER B WITH LINE BELOWgSMALL LETTER B WITH LINE BELOW",
  "gCAPITAL LETTER C WITH CEDILLA AND ACUTEgSMALL LETTER C WITH CEDILLA AND ACUTE",
  "gCAPITAL LETTER D WITH DOT ABOVEgSMALL LETTER D WITH DOT ABOVE",
  "gCAPITAL LETTER D WITH DOT BELOWgSMALL LETTER D WITH DOT BELOW",
  "gCAPITAL LETTER D WITH LINE BELOWgSMALL LETTER D WITH LINE BELOW",
  "gCAPITAL LETTER D WITH CEDILLAgSMALL LETTER D WITH CEDILLA",
  "gCAPITAL LETTER D WITH CIRCUMFLEX BELOWgSMALL LETTER D WITH CIRCUMFLEX BELOW",
  "gCAPITAL LETTER E WITH MACRON AND GRAVEgSMALL LETTER E WITH MACRON AND GRAVE",
  "gCAPITAL LETTER E WITH MACRON AND ACUTEgSMALL LETTER E WITH MACRON AND ACUTE",
  "gCAPITAL LETTER E WITH CIRCUMFLEX BELOWgSMALL LETTER E WITH CIRCUMFLEX BELOW",
  "gCAPITAL LETTER E WITH TILDE BELOWgSMALL LETTER E WITH TILDE BELOW",
  "gCAPITAL LETTER E WITH CEDILLA AND BREVEgSMALL LETTER E WITH CEDILLA AND BREVE",
  "gCAPITAL LETTER F WITH DOT ABOVEgSMALL LETTER F WITH DOT ABOVEgCAPITAL LETTER G WITH MACRON",
  "gSMALL LETTER G WITH MACRONgCAPITAL LETTER H WITH DOT ABOVEgSMALL LETTER H WITH DOT ABOVE",
  "gCAPITAL LETTER H WITH DOT BELOWgSMALL LETTER H WITH DOT BELOW",
  "gCAPITAL LETTER H WITH DIAERESISgSMALL LETTER H WITH DIAERESISgCAPITAL LETTER H WITH CEDILLA",
  "gSMALL LETTER H WITH CEDILLAgCAPITAL LETTER H WITH BREVE BELOW",
  "gSMALL LETTER H WITH BREVE BELOWgCAPITAL LETTER I WITH TILDE BELOW",
  "gSMALL LETTER I WITH TILDE BELOWgCAPITAL LETTER I WITH DIAERESIS AND ACUTE",
  "gSMALL LETTER I WITH DIAERESIS AND ACUTEgCAPITAL LETTER K WITH ACUTE",
  "gSMALL LETTER K WITH ACUTEgCAPITAL LETTER K WITH DOT BELOWgSMALL LETTER K WITH DOT BELOW",
  "gCAPITAL LETTER K WITH LINE BELOWgSMALL LETTER K WITH LINE BELOW",
  "gCAPITAL LETTER L WITH DOT BELOWgSMALL LETTER L WITH DOT BELOW",
  "gCAPITAL LETTER L WITH DOT BELOW AND MACRONgSMALL LETTER L WITH DOT BELOW AND MACRON",
  "gCAPITAL LETTER L WITH LINE BELOWgSMALL LETTER L WITH LINE BELOW",
  "gCAPITAL LETTER L WITH CIRCUMFLEX BELOWgSMALL LETTER L WITH CIRCUMFLEX BELOW",
  "gCAPITAL LETTER M WITH ACUTEgSMALL LETTER M WITH ACUTEgCAPITAL LETTER M WITH DOT ABOVE",
  "gSMALL LETTER M WITH DOT ABOVEgCAPITAL LETTER M WITH DOT BELOWgSMALL LETTER M WITH DOT BELOW",
  "gCAPITAL LETTER N WITH DOT ABOVEgSMALL LETTER N WITH DOT ABOVE",
  "gCAPITAL LETTER N WITH DOT BELOWgSMALL LETTER N WITH DOT BELOW",
  "gCAPITAL LETTER N WITH LINE BELOWgSMALL LETTER N WITH LINE BELOW",
  "gCAPITAL LETTER N WITH CIRCUMFLEX BELOWgSMALL LETTER N WITH CIRCUMFLEX BELOW",
  "gCAPITAL LETTER O WITH TILDE AND ACUTEgSMALL LETTER O WITH TILDE AND ACUTE",
  "gCAPITAL LETTER O WITH TILDE AND DIAERESISgSMALL LETTER O WITH TILDE AND DIAERESIS",
  "gCAPITAL LETTER O WITH MACRON AND GRAVEgSMALL LETTER O WITH MACRON AND GRAVE",
  "gCAPITAL LETTER O WITH MACRON AND ACUTEgSMALL LETTER O WITH MACRON AND ACUTE",
  "gCAPITAL LETTER P WITH ACUTEgSMALL LETTER P WITH ACUTEgCAPITAL LETTER P WITH DOT ABOVE",
  "gSMALL LETTER P WITH DOT ABOVEgCAPITAL LETTER R WITH DOT ABOVEgSMALL LETTER R WITH DOT ABOVE",
  "gCAPITAL LETTER R WITH DOT BELOWgSMALL LETTER R WITH DOT BELOW",
  "gCAPITAL LETTER R WITH DOT BELOW AND MACRONgSMALL LETTER R WITH DOT BELOW AND MACRON",
  "gCAPITAL LETTER R WITH LINE BELOWgSMALL LETTER R WITH LINE BELOW",
  "gCAPITAL LETTER S WITH DOT ABOVEgSMALL LETTER S WITH DOT ABOVE",
  "gCAPITAL LETTER S WITH DOT BELOWgSMALL LETTER S WITH DOT BELOW",
  "gCAPITAL LETTER S WITH ACUTE AND DOT ABOVEgSMALL LETTER S WITH ACUTE AND DOT ABOVE",
  "gCAPITAL LETTER S WITH CARON AND DOT ABOVEgSMALL LETTER S WITH CARON AND DOT ABOVE",
  "gCAPITAL LETTER S WITH DOT BELOW AND DOT ABOVEgSMALL LETTER S WITH DOT BELOW AND DOT ABOVE",
  "gCAPITAL LETTER T WITH DOT ABOVEgSMALL LETTER T WITH DOT ABOVE",
  "gCAPITAL LETTER T WITH DOT BELOWgSMALL LETTER T WITH DOT BELOW",
  "gCAPITAL LETTER T WITH LINE BELOWgSMALL LETTER T WITH LINE BELOW",
  "gCAPITAL LETTER T WITH CIRCUMFLEX BELOWgSMALL LETTER T WITH CIRCUMFLEX BELOW",
  "gCAPITAL LETTER U WITH DIAERESIS BELOWgSMALL LETTER U WITH DIAERESIS BELOW",
  "gCAPITAL LETTER U WITH TILDE BELOWgSMALL LETTER U WITH TILDE BELOW",
  "gCAPITAL LETTER U WITH CIRCUMFLEX BELOWgSMALL LETTER U WITH CIRCUMFLEX BELOW",
  "gCAPITAL LETTER U WITH TILDE AND ACUTEgSMALL LETTER U WITH TILDE AND ACUTE",
  "gCAPITAL LETTER U WITH MACRON AND DIAERESISgSMALL LETTER U WITH MACRON AND DIAERESIS",
  "gCAPITAL LETTER V WITH TILDEgSMALL LETTER V WITH TILDEgCAPITAL LETTER V WITH DOT BELOW",
  "gSMALL LETTER V WITH DOT BELOWgCAPITAL LETTER W WITH GRAVEgSMALL LETTER W WITH GRAVE",
  "gCAPITAL LETTER W WITH ACUTEgSMALL LETTER W WITH ACUTEgCAPITAL LETTER W WITH DIAERESIS",
  "gSMALL LETTER W WITH DIAERESISgCAPITAL LETTER W WITH DOT ABOVEgSMALL LETTER W WITH DOT ABOVE",
  "gCAPITAL LETTER W WITH DOT BELOWgSMALL LETTER W WITH DOT BELOW",
  "gCAPITAL LETTER X WITH DOT ABOVEgSMALL LETTER X WITH DOT ABOVE",
  "gCAPITAL LETTER X WITH DIAERESISgSMALL LETTER X WITH DIAERESIS",
  "gCAPITAL LETTER Y WITH DOT ABOVEgSMALL LETTER Y WITH DOT ABOVE",
  "gCAPITAL LETTER Z WITH CIRCUMFLEXgSMALL LETTER Z WITH CIRCUMFLEX",
  "gCAPITAL LETTER Z WITH DOT BELOWgSMALL LETTER Z WITH DOT BELOW",
  "gCAPITAL LETTER Z WITH LINE BELOWgSMALL LETTER Z WITH LINE BELOWtH WITH LINE BELOW",
  "tT WITH DIAERESIStW WITH RING ABOVEtY WITH RING ABOVEtA WITH RIGHT HALF RING",
  "tLONG S WITH DOT ABOVEyiIAGONAL STROKEyhHIGH STROKEgCAPITAL LETTER SHARP SgSMALL LETTER DELTA",
  "gCAPITAL LETTER A WITH DOT BELOWgSMALL LETTER A WITH DOT BELOW",
  "gCAPITAL LETTER A WITH HOOK ABOVEgSMALL LETTER A WITH HOOK ABOVE",
  "gCAPITAL LETTER A WITH CIRCUMFLEX AND ACUTEgSMALL LETTER A WITH CIRCUMFLEX AND ACUTE",
  "gCAPITAL LETTER A WITH CIRCUMFLEX AND GRAVEgSMALL LETTER A WITH CIRCUMFLEX AND GRAVE",
  "gCAPITAL LETTER A WITH CIRCUMFLEX AND HOOK ABOVE",
  "gSMALL LETTER A WITH CIRCUMFLEX AND HOOK ABOVEgCAPITAL LETTER A WITH CIRCUMFLEX AND TILDE",
  "gSMALL LETTER A WITH CIRCUMFLEX AND TILDEgCAPITAL LETTER A WITH CIRCUMFLEX AND DOT BELOW",
  "gSMALL LETTER A WITH CIRCUMFLEX AND DOT BELOWgCAPITAL LETTER A WITH BREVE AND ACUTE",
  "gSMALL LETTER A WITH BREVE AND ACUTEgCAPITAL LETTER A WITH BREVE AND GRAVE",
  "gSMALL LETTER A WITH BREVE AND GRAVEgCAPITAL LETTER A WITH BREVE AND HOOK ABOVE",
  "gSMALL LETTER A WITH BREVE AND HOOK ABOVEgCAPITAL LETTER A WITH BREVE AND TILDE",
  "gSMALL LETTER A WITH BREVE AND TILDEgCAPITAL LETTER A WITH BREVE AND DOT BELOW",
  "gSMALL LETTER A WITH BREVE AND DOT BELOWgCAPITAL LETTER E WITH DOT BELOW",
  "gSMALL LETTER E WITH DOT BELOWgCAPITAL LETTER E WITH HOOK ABOVE",
  "gSMALL LETTER E WITH HOOK ABOVEgCAPITAL LETTER E WITH TILDEgSMALL LETTER E WITH TILDE",
  "gCAPITAL LETTER E WITH CIRCUMFLEX AND ACUTEgSMALL LETTER E WITH CIRCUMFLEX AND ACUTE",
  "gCAPITAL LETTER E WITH CIRCUMFLEX AND GRAVEgSMALL LETTER E WITH CIRCUMFLEX AND GRAVE",
  "gCAPITAL LETTER E WITH CIRCUMFLEX AND HOOK ABOVE",
  "gSMALL LETTER E WITH CIRCUMFLEX AND HOOK ABOVEgCAPITAL LETTER E WITH CIRCUMFLEX AND TILDE",
  "gSMALL LETTER E WITH CIRCUMFLEX AND TILDEgCAPITAL LETTER E WITH CIRCUMFLEX AND DOT BELOW",
  "gSMALL LETTER E WITH CIRCUMFLEX AND DOT BELOWgCAPITAL LETTER I WITH HOOK ABOVE",
  "gSMALL LETTER I WITH HOOK ABOVEgCAPITAL LETTER I WITH DOT BELOWgSMALL LETTER I WITH DOT BELOW",
  "gCAPITAL LETTER O WITH DOT BELOWgSMALL LETTER O WITH DOT BELOW",
  "gCAPITAL LETTER O WITH HOOK ABOVEgSMALL LETTER O WITH HOOK ABOVE",
  "gCAPITAL LETTER O WITH CIRCUMFLEX AND ACUTEgSMALL LETTER O WITH CIRCUMFLEX AND ACUTE",
  "gCAPITAL LETTER O WITH CIRCUMFLEX AND GRAVEgSMALL LETTER O WITH CIRCUMFLEX AND GRAVE",
  "gCAPITAL LETTER O WITH CIRCUMFLEX AND HOOK ABOVE",
  "gSMALL LETTER O WITH CIRCUMFLEX AND HOOK ABOVEgCAPITAL LETTER O WITH CIRCUMFLEX AND TILDE",
  "gSMALL LETTER O WITH CIRCUMFLEX AND TILDEgCAPITAL LETTER O WITH CIRCUMFLEX AND DOT BELOW",
  "gSMALL LETTER O WITH CIRCUMFLEX AND DOT BELOWgCAPITAL LETTER O WITH HORN AND ACUTE",
  "gSMALL LETTER O WITH HORN AND ACUTEgCAPITAL LETTER O WITH HORN AND GRAVE",
  "gSMALL LETTER O WITH HORN AND GRAVEgCAPITAL LETTER O WITH HORN AND HOOK ABOVE",
  "gSMALL LETTER O WITH HORN AND HOOK ABOVEgCAPITAL LETTER O WITH HORN AND TILDE",
  "gSMALL LETTER O WITH HORN AND TILDEgCAPITAL LETTER O WITH HORN AND DOT BELOW",
  "gSMALL LETTER O WITH HORN AND DOT BELOWgCAPITAL LETTER U WITH DOT BELOW",
  "gSMALL LETTER U WITH DOT BELOWgCAPITAL LETTER U WITH HOOK ABOVE",
  "gSMALL LETTER U WITH HOOK ABOVEgCAPITAL LETTER U WITH HORN AND ACUTE",
  "gSMALL LETTER U WITH HORN AND ACUTEgCAPITAL LETTER U WITH HORN AND GRAVE",
  "gSMALL LETTER U WITH HORN AND GRAVEgCAPITAL LETTER U WITH HORN AND HOOK ABOVE",
  "gSMALL LETTER U WITH HORN AND HOOK ABOVEgCAPITAL LETTER U WITH HORN AND TILDE",
  "gSMALL LETTER U WITH HORN AND TILDEgCAPITAL LETTER U WITH HORN AND DOT BELOW",
  "gSMALL LETTER U WITH HORN AND DOT BELOWgCAPITAL LETTER Y WITH GRAVEgSMALL LETTER Y WITH GRAVE",
  "gCAPITAL LETTER Y WITH DOT BELOWgSMALL LETTER Y WITH DOT BELOW",
  "gCAPITAL LETTER Y WITH HOOK ABOVEgSMALL LETTER Y WITH HOOK ABOVEgCAPITAL LETTER Y WITH TILDE",
  "gSMALL LETTER Y WITH TILDEgCAPITAL LETTER MIDDLE-WELSH LLgSMALL LETTER MIDDLE-WELSH LL",
  "gCAPITAL LETTER MIDDLE-WELSH VgSMALL LETTER MIDDLE-WELSH VgCAPITAL LETTER Y WITH LOOP",
  "gSMALL LETTER Y WITH LOOPaGREEK SMALL LETTER ALPHA WITH PSILIygDASIAygPSILI AND VARIA",
  "ygDASIA AND VARIAygPSILI AND OXIAygDASIA AND OXIAygPSILI AND PERISPOMENI",
  "ygDASIA AND PERISPOMENIgCAPITAL LETTER ALPHA WITH PSILIyiDASIAyiPSILI AND VARIA",
  "yiDASIA AND VARIAyiPSILI AND OXIAyiDASIA AND OXIAyiPSILI AND PERISPOMENI",
  "yiDASIA AND PERISPOMENIgSMALL LETTER EPSILON WITH PSILIyiDASIAyiPSILI AND VARIA",
  "yiDASIA AND VARIAyiPSILI AND OXIAyiDASIA AND OXIA*2gCAPITAL LETTER EPSILON WITH PSILIykDASIA",
  "ykPSILI AND VARIAykDASIA AND VARIAykPSILI AND OXIAykDASIA AND OXIA",
  "*2gSMALL LETTER ETA WITH PSILIyeDASIAyePSILI AND VARIAyeDASIA AND VARIAyePSILI AND OXIA",
  "yeDASIA AND OXIAyePSILI AND PERISPOMENIyeDASIA AND PERISPOMENIgCAPITAL LETTER ETA WITH PSILI",
  "ygDASIAygPSILI AND VARIAygDASIA AND VARIAygPSILI AND OXIAygDASIA AND OXIA",
  "ygPSILI AND PERISPOMENIygDASIA AND PERISPOMENIgSMALL LETTER IOTA WITH PSILIyfDASIA",
  "yfPSILI AND VARIAyfDASIA AND VARIAyfPSILI AND OXIAyfDASIA AND OXIAyfPSILI AND PERISPOMENI",
  "yfDASIA AND PERISPOMENIgCAPITAL LETTER IOTA WITH PSILIyhDASIAyhPSILI AND VARIA",
  "yhDASIA AND VARIAyhPSILI AND OXIAyhDASIA AND OXIAyhPSILI AND PERISPOMENI",
  "yhDASIA AND PERISPOMENIgSMALL LETTER OMICRON WITH PSILIyiDASIAyiPSILI AND VARIA",
  "yiDASIA AND VARIAyiPSILI AND OXIAyiDASIA AND OXIA*2gCAPITAL LETTER OMICRON WITH PSILIykDASIA",
  "ykPSILI AND VARIAykDASIA AND VARIAykPSILI AND OXIAykDASIA AND OXIA",
  "*2gSMALL LETTER UPSILON WITH PSILIyiDASIAyiPSILI AND VARIAyiDASIA AND VARIAyiPSILI AND OXIA",
  "yiDASIA AND OXIAyiPSILI AND PERISPOMENIyiDASIA AND PERISPOMENI",
  "*1gCAPITAL LETTER UPSILON WITH DASIA*1yp AND VARIA*1yuOXIA*1yuPERISPOMENI",
  "gSMALL LETTER OMEGA WITH PSILIygDASIAygPSILI AND VARIAygDASIA AND VARIAygPSILI AND OXIA",
  "ygDASIA AND OXIAygPSILI AND PERISPOMENIygDASIA AND PERISPOMENI",
  "gCAPITAL LETTER OMEGA WITH PSILIyiDASIAyiPSILI AND VARIAyiDASIA AND VARIAyiPSILI AND OXIA",
  "yiDASIA AND OXIAyiPSILI AND PERISPOMENIyiDASIA AND PERISPOMENIgSMALL LETTER ALPHA WITH VARIA",
  "ygOXIAtEPSILON WITH VARIAyiOXIAuTA WITH VARIAyeOXIAtIOTA WITH VARIAyfOXIAtOMICRON WITH VARIA",
  "yiOXIAtUPSILON WITH VARIAyiOXIAtOMEGA WITH VARIAygOXIA*2tALPHA WITH PSILI AND YPOGEGRAMMENI",
  "ygDASIA AND YPOGEGRAMMENIygPSILI AND VARIA AND YPOGEGRAMMENI",
  "ygDASIA AND VARIA AND YPOGEGRAMMENIygPSILI AND OXIA AND YPOGEGRAMMENI",
  "ygDASIA AND OXIA AND YPOGEGRAMMENIygPSILI AND PERISPOMENI AND YPOGEGRAMMENI",
  "ygDASIA AND PERISPOMENI AND YPOGEGRAMMENIgCAPITAL LETTER ALPHA WITH PSILI AND PROSGEGRAMMENI",
  "yiDASIA AND PROSGEGRAMMENIyiPSILI AND VARIA AND PROSGEGRAMMENI",
  "yiDASIA AND VARIA AND PROSGEGRAMMENIyiPSILI AND OXIA AND PROSGEGRAMMENI",
  "yiDASIA AND OXIA AND PROSGEGRAMMENIyiPSILI AND PERISPOMENI AND PROSGEGRAMMENI",
  "yiDASIA AND PERISPOMENI AND PROSGEGRAMMENIgSMALL LETTER ETA WITH PSILI AND YPOGEGRAMMENI",
  "yeDASIA AND YPOGEGRAMMENIyePSILI AND VARIA AND YPOGEGRAMMENI",
  "yeDASIA AND VARIA AND YPOGEGRAMMENIyePSILI AND OXIA AND YPOGEGRAMMENI",
  "yeDASIA AND OXIA AND YPOGEGRAMMENIyePSILI AND PERISPOMENI AND YPOGEGRAMMENI",
  "yeDASIA AND PERISPOMENI AND YPOGEGRAMMENIgCAPITAL LETTER ETA WITH PSILI AND PROSGEGRAMMENI",
  "ygDASIA AND PROSGEGRAMMENIygPSILI AND VARIA AND PROSGEGRAMMENI",
  "ygDASIA AND VARIA AND PROSGEGRAMMENIygPSILI AND OXIA AND PROSGEGRAMMENI",
  "ygDASIA AND OXIA AND PROSGEGRAMMENIygPSILI AND PERISPOMENI AND PROSGEGRAMMENI",
  "ygDASIA AND PERISPOMENI AND PROSGEGRAMMENIgSMALL LETTER OMEGA WITH PSILI AND YPOGEGRAMMENI",
  "ygDASIA AND YPOGEGRAMMENIygPSILI AND VARIA AND YPOGEGRAMMENI",
  "ygDASIA AND VARIA AND YPOGEGRAMMENIygPSILI AND OXIA AND YPOGEGRAMMENI",
  "ygDASIA AND OXIA AND YPOGEGRAMMENIygPSILI AND PERISPOMENI AND YPOGEGRAMMENI",
  "ygDASIA AND PERISPOMENI AND YPOGEGRAMMENIgCAPITAL LETTER OMEGA WITH PSILI AND PROSGEGRAMMENI",
  "yiDASIA AND PROSGEGRAMMENIyiPSILI AND VARIA AND PROSGEGRAMMENI",
  "yiDASIA AND VARIA AND PROSGEGRAMMENIyiPSILI AND OXIA AND PROSGEGRAMMENI",
  "yiDASIA AND OXIA AND PROSGEGRAMMENIyiPSILI AND PERISPOMENI AND PROSGEGRAMMENI",
  "yiDASIA AND PERISPOMENI AND PROSGEGRAMMENIgSMALL LETTER ALPHA WITH VRACHYygMACRON",
  "ygVARIA AND YPOGEGRAMMENIygYPOGEGRAMMENIygOXIA AND YPOGEGRAMMENI*1ygPERISPOMENI",
  "yr AND YPOGEGRAMMENIgCAPITAL LETTER ALPHA WITH VRACHYyiMACRONyiVARIAyiOXIAyiPROSGEGRAMMENI",
  "gKORONISgPROSGEGRAMMENIhSILIhERISPOMENIgDIALYTIKA AND PERISPOMENI",
  "gSMALL LETTER ETA WITH VARIA AND YPOGEGRAMMENIyeYPOGEGRAMMENIyeOXIA AND YPOGEGRAMMENI",
  "*1yePERISPOMENIyp AND YPOGEGRAMMENIgCAPITAL LETTER EPSILON WITH VARIAykOXIAwTA WITH VARIA",
  "ygOXIAygPROSGEGRAMMENIgPSILI AND VARIAqOXIAqPERISPOMENIgSMALL LETTER IOTA WITH VRACHYyfMACRON",
  "yfDIALYTIKA AND VARIAytOXIA*2yfPERISPOMENIyfDIALYTIKA AND PERISPOMENI",
  "gCAPITAL LETTER IOTA WITH VRACHYyhMACRONyhVARIAyhOXIA*1gDASIA AND VARIAqOXIAqPERISPOMENI",
  "gSMALL LETTER UPSILON WITH VRACHYyiMACRONyiDIALYTIKA AND VARIAywOXIAtRHO WITH PSILIyeDASIA",
  "tUPSILON WITH PERISPOMENIyiDIALYTIKA AND PERISPOMENIgCAPITAL LETTER UPSILON WITH VRACHY",
  "ykMACRONykVARIAykOXIAvRHO WITH DASIAgDIALYTIKA AND VARIAuOXIAgVARIA",
  "*2gSMALL LETTER OMEGA WITH VARIA AND YPOGEGRAMMENIygYPOGEGRAMMENIygOXIA AND YPOGEGRAMMENI",
  "*1ygPERISPOMENIyr AND YPOGEGRAMMENIgCAPITAL LETTER OMICRON WITH VARIAykOXIAxEGA WITH VARIA",
  "yiOXIAyiPROSGEGRAMMENIgOXIAgDASIA*1aEN QUADbM QUADbN SPACEbM SPACEaTHREE-PER-EM SPACE",
  "aFOUR-PER-EM SPACEaSIX-PER-EM SPACEaFIGURE SPACEaPUNCTUATION SPACEaTHIN SPACEaHAIR SPACE",
  "aZERO WIDTH SPACElNON-JOINERlJOINERaLEFT-TO-RIGHT MARKaRIGHT-TO-LEFT MARKaHYPHEN",
  "aNON-BREAKING HYPHENaFIGURE DASHaEN DASHbM DASHaHORIZONTAL BARaDOUBLE VERTICAL LINEhLOW LINE",
  "aLEFT SINGLE QUOTATION MARKaRIGHT SINGLE QUOTATION MARKaSINGLE LOW-9 QUOTATION MARK",
  "hHIGH-REVERSED-9 QUOTATION MARKaLEFT DOUBLE QUOTATION MARKaRIGHT DOUBLE QUOTATION MARK",
  "aDOUBLE LOW-9 QUOTATION MARKhHIGH-REVERSED-9 QUOTATION MARKbAGGERbOUBLE DAGGERaBULLET",
  "aTRIANGULAR BULLETaONE DOT LEADERaTWO DOT LEADERaHORIZONTAL ELLIPSISbYPHENATION POINT",
  "aLINE SEPARATORaPARAGRAPH SEPARATORaLEFT-TO-RIGHT EMBEDDINGaRIGHT-TO-LEFT EMBEDDING",
  "aPOP DIRECTIONAL FORMATTINGaLEFT-TO-RIGHT OVERRIDEaRIGHT-TO-LEFT OVERRIDE",
  "aNARROW NO-BREAK SPACEaPER MILLE SIGNeTEN THOUSAND SIGNbRIMEaDOUBLE PRIMEaTRIPLE PRIME",
  "aREVERSED PRIMEjDOUBLE PRIMEjTRIPLE PRIMEaCARETaSINGLE LEFT-POINTING ANGLE QUOTATION MARK",
  "hRIGHT-POINTING ANGLE QUOTATION MARKaREFERENCE MARKaDOUBLE EXCLAMATION MARKaINTERROBANG"]

end LintScaffold.Text.CharName
