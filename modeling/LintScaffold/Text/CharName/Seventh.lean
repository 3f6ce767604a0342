/-!
# Names of characters, seventh part

The names of the characters from U+A670 to U+FD7A, in the shortened form of
character names.
-/

namespace LintScaffold.Text.CharName

/-- The rows of names from U+A670 on. -/
def seventhRows : List String := [
  "tTEN MILLIONS SIGNtHUNDRED MILLIONS SIGNtTHOUSAND MILLIONS SIGNaSLAVONIC ASTERISK",
  "aCOMBINING CYRILLIC LETTER UKRAINIAN IEycIycYIycUycHARD SIGNycYERUycSOFT SIGNycOMEGAtKAVYKA",
  "tPAYEROKbYRILLIC KAVYKAjPAYEROKjCAPITAL LETTER DWEjSMALL LETTER DWEjCAPITAL LETTER DZWE",
  "jSMALL LETTER DZWEjCAPITAL LETTER ZHWEjSMALL LETTER ZHWEjCAPITAL LETTER CCHE",
  "jSMALL LETTER CCHEjCAPITAL LETTER DZZEjSMALL LETTER DZZEjCAPITAL LETTER TE WITH MIDDLE HOOK",
  "jSMALL LETTER TE WITH MIDDLE HOOKjCAPITAL LETTER TWEjSMALL LETTER TWEjCAPITAL LETTER TSWE",
  "jSMALL LETTER TSWEjCAPITAL LETTER TSSEjSMALL LETTER TSSEjCAPITAL LETTER TCHE",
  "jSMALL LETTER TCHEjCAPITAL LETTER HWEjSMALL LETTER HWEjCAPITAL LETTER SHWEjSMALL LETTER SHWE",
  "jCAPITAL LETTER DOUBLE OjSMALL LETTER DOUBLE OjCAPITAL LETTER CROSSED O",
  "jSMALL LETTER CROSSED OaMODIFIER LETTER CYRILLIC HARD SIGNybSOFT SIGN",
  "aCOMBINING CYRILLIC LETTER EFycIOTIFIED EaBAMUM LETTER AnKAnUnKUnEEnREEnTAEnOnNYInInLAnPAnRII",
  "pEEnLEEEEnMEEEEnTAAnNDAAoJAEMnMnSUUnMUnSHIIoIoHEUXoEUXnKYEEoETnNUAEpoJUAEnYOQnSHUnYUQoAnNSHA",
  "nKEUXnPEUXnNJEEoTEEnPUEnWUEnPEEnFEEnRUnLUnMInNInREUXoAEnKENnNGKWAENpGApAnSHOnPUAEnFUoOMnWAnNA",
  "nLInPInLOQnKOnMBENnRENnMENoAnTInKInMOoBAAnTETnKPAnTENnNTUUnSAMBAnFAAMAEnKOVUUpGHOM",
  "gCOMBINING MARK KOQNDONvTUKWENTISgNJAEMLIgFULL STOPgCOLONiMMAgSEMICOLONgQUESTION MARK",
  "*8aMODIFIER LETTER CHINESE TONE YIN PINGygANG PINGygIN SHANGygANG SHANGygIN QUygANG QUygIN RU",
  "ygANG RUqEXTRA-HIGH DOTTED TONE BARqHIGH DOTTED TONE BARqMID DOTTED TONE BAR",
  "qLOW DOTTED TONE BARqEXTRA-LOW DOTTED TONE BARwHIGH DOTTED LEFT-STEM TONE BAR",
  "qHIGH DOTTED LEFT-STEM TONE BARqMID DOTTED LEFT-STEM TONE BARqLOW DOTTED LEFT-STEM TONE BAR",
  "qEXTRA-LOW DOTTED LEFT-STEM TONE BARwHIGH LEFT-STEM TONE BARqHIGH LEFT-STEM TONE BAR",
  "qMID LEFT-STEM TONE BARqLOW LEFT-STEM TONE BARqEXTRA-LOW LEFT-STEM TONE BARqDOT VERTICAL BAR",
  "uSLASHuHORIZONTAL BARqLOWER RIGHT CORNER ANGLEqRAISED UP ARROWxDOWN ARROWxEXCLAMATION MARK",
  "xINVERTED EXCLAMATION MARKqLOW INVERTED EXCLAMATION MARKqSTRESS AND HIGH TONEydLOW TONE",
  "aLATIN CAPITAL LETTER EGYPTOLOGICAL ALEFgSMALL LETTER EGYPTOLOGICAL ALEF",
  "gCAPITAL LETTER EGYPTOLOGICAL AINgSMALL LETTER EGYPTOLOGICAL AINgCAPITAL LETTER HENG",
  "gSMALL LETTER HENGgCAPITAL LETTER TZgSMALL LETTER TZgCAPITAL LETTER TRESILLO",
  "gSMALL LETTER TRESILLOgCAPITAL LETTER CUATRILLOgSMALL LETTER CUATRILLO",
  "gCAPITAL LETTER CUATRILLO WITH COMMAgSMALL LETTER CUATRILLO WITH COMMAgLETTER SMALL CAPITAL F",
  "ydSgCAPITAL LETTER AAgSMALL LETTER AAgCAPITAL LETTER AOgSMALL LETTER AOgCAPITAL LETTER AU",
  "gSMALL LETTER AUgCAPITAL LETTER AVgSMALL LETTER AVgCAPITAL LETTER AV WITH HORIZONTAL BAR",
  "gSMALL LETTER AV WITH HORIZONTAL BARgCAPITAL LETTER AYgSMALL LETTER AY",
  "gCAPITAL LETTER REVERSED C WITH DOTgSMALL LETTER REVERSED C WITH DOT",
  "gCAPITAL LETTER K WITH STROKEgSMALL LETTER K WITH STROKE",
  "gCAPITAL LETTER K WITH DIAGONAL STROKEgSMALL LETTER K WITH DIAGONAL STROKE",
  "gCAPITAL LETTER K WITH STROKE AND DIAGONAL STROKE",
  "gSMALL LETTER K WITH STROKE AND DIAGONAL STROKEgCAPITAL LETTER BROKEN LgSMALL LETTER BROKEN L",
  "gCAPITAL LETTER L WITH HIGH STROKEgSMALL LETTER L WITH HIGH STROKE",
  "gCAPITAL LETTER O WITH LONG STROKE OVERLAYgSMALL LETTER O WITH LONG STROKE OVERLAY",
  "gCAPITAL LETTER O WITH LOOPgSMALL LETTER O WITH LOOPgCAPITAL LETTER OOgSMALL LETTER OO",
  "gCAPITAL LETTER P WITH STROKE THROUGH DESCENDERgSMALL LETTER P WITH STROKE THROUGH DESCENDER",
  "gCAPITAL LETTER P WITH FLOURISHgSMALL LETTER P WITH FLOURISH",
  "gCAPITAL LETTER P WITH SQUIRREL TAILgSMALL LETTER P WITH SQUIRREL TAIL",
  "gCAPITAL LETTER Q WITH STROKE THROUGH DESCENDERgSMALL LETTER Q WITH STROKE THROUGH DESCENDER",
  "gCAPITAL LETTER Q WITH DIAGONAL STROKEgSMALL LETTER Q WITH DIAGONAL STROKE",
  "gCAPITAL LETTER R ROTUNDAgSMALL LETTER R ROTUNDAgCAPITAL LETTER RUM ROTUNDA",
  "gSMALL LETTER RUM ROTUNDAgCAPITAL LETTER V WITH DIAGONAL STROKE",
  "gSMALL LETTER V WITH DIAGONAL STROKEgCAPITAL LETTER VYgSMALL LETTER VY",
  "gCAPITAL LETTER VISIGOTHIC ZgSMALL LETTER VISIGOTHIC ZgCAPITAL LETTER THORN WITH STROKE",
  "gSMALL LETTER THORN WITH STROKEgCAPITAL LETTER THORN WITH STROKE THROUGH DESCENDER",
  "gSMALL LETTER THORN WITH STROKE THROUGH DESCENDERgCAPITAL LETTER VENDgSMALL LETTER VEND",
  "gCAPITAL LETTER ETgSMALL LETTER ETgCAPITAL LETTER ISgSMALL LETTER ISgCAPITAL LETTER CON",
  "gSMALL LETTER CONaMODIFIER LETTER USaLATIN SMALL LETTER DUMtLUMtMUMtNUMtRUM",
  "gLETTER SMALL CAPITAL RUMgSMALL LETTER TUMtUMgCAPITAL LETTER INSULAR DgSMALL LETTER INSULAR D",
  "gCAPITAL LETTER INSULAR FgSMALL LETTER INSULAR FgCAPITAL LETTER INSULAR GvTURNED INSULAR G",
  "gSMALL LETTER TURNED INSULAR GgCAPITAL LETTER TURNED LgSMALL LETTER TURNED L",
  "gCAPITAL LETTER INSULAR RgSMALL LETTER INSULAR RgCAPITAL LETTER INSULAR S",
  "gSMALL LETTER INSULAR SgCAPITAL LETTER INSULAR TgSMALL LETTER INSULAR T",
  "aMODIFIER LETTER LOW CIRCUMFLEX ACCENTqCOLONqSHORT EQUALS SIGNaLATIN CAPITAL LETTER SALTILLO",
  "gSMALL LETTER SALTILLOgCAPITAL LETTER TURNED HgSMALL LETTER L WITH RETROFLEX HOOK AND BELT",
  "gLETTER SINOLOGICAL DOTgCAPITAL LETTER N WITH DESCENDERgSMALL LETTER N WITH DESCENDER",
  "gCAPITAL LETTER C WITH BARgSMALL LETTER C WITH BARycPALATAL HOOKtH WITH PALATAL HOOK",
  "gCAPITAL LETTER B WITH FLOURISHgSMALL LETTER B WITH FLOURISHgCAPITAL LETTER F WITH STROKE",
  "gSMALL LETTER F WITH STROKEgCAPITAL LETTER VOLAPUK AEgSMALL LETTER VOLAPUK AE",
  "gCAPITAL LETTER VOLAPUK OEgSMALL LETTER VOLAPUK OEgCAPITAL LETTER VOLAPUK UE",
  "gSMALL LETTER VOLAPUK UEgCAPITAL LETTER G WITH OBLIQUE STROKE",
  "gSMALL LETTER G WITH OBLIQUE STROKEgCAPITAL LETTER K WITH OBLIQUE STROKE",
  "gSMALL LETTER K WITH OBLIQUE STROKEgCAPITAL LETTER N WITH OBLIQUE STROKE",
  "gSMALL LETTER N WITH OBLIQUE STROKEgCAPITAL LETTER R WITH OBLIQUE STROKE",
  "gSMALL LETTER R WITH OBLIQUE STROKEgCAPITAL LETTER S WITH OBLIQUE STROKE",
  "gSMALL LETTER S WITH OBLIQUE STROKEgCAPITAL LETTER H WITH HOOKvREVERSED OPEN EvSCRIPT G",
  "vL WITH BELTvSMALL CAPITAL IgLETTER SMALL CAPITAL QgCAPITAL LETTER TURNED KyeT",
  "vJ WITH CROSSED-TAILvCHIvBETAgSMALL LETTER BETAgCAPITAL LETTER OMEGAgSMALL LETTER OMEGA",
  "gCAPITAL LETTER U WITH STROKEgSMALL LETTER U WITH STROKEgCAPITAL LETTER GLOTTAL A",
  "gSMALL LETTER GLOTTAL AgCAPITAL LETTER GLOTTAL IgSMALL LETTER GLOTTAL I",
  "gCAPITAL LETTER GLOTTAL UgSMALL LETTER GLOTTAL UgCAPITAL LETTER OLD POLISH O",
  "gSMALL LETTER OLD POLISH OgCAPITAL LETTER ANGLICANA WgSMALL LETTER ANGLICANA W",
  "gCAPITAL LETTER C WITH PALATAL HOOKvS WITH HOOKvZ WITH PALATAL HOOK",
  "vD WITH SHORT STROKE OVERLAYgSMALL LETTER D WITH SHORT STROKE OVERLAY",
  "gCAPITAL LETTER S WITH SHORT STROKE OVERLAYgSMALL LETTER S WITH SHORT STROKE OVERLAY",
  "*5gCAPITAL LETTER CLOSED INSULAR GgSMALL LETTER CLOSED INSULAR G*1tDOUBLE THORN*1ycWYNN",
  "gCAPITAL LETTER MIDDLE SCOTS SgSMALL LETTER MIDDLE SCOTS SgCAPITAL LETTER SIGMOID S",
  "gSMALL LETTER SIGMOID S*24aMODIFIER LETTER CAPITAL CyaFyaQ",
  "aLATIN CAPITAL LETTER REVERSED HALF HgSMALL LETTER REVERSED HALF H",
  "gEPIGRAPHIC LETTER SIDEWAYS IaMODIFIER LETTER CAPITAL H WITH STROKEqSMALL LIGATURE OE",
  "aLATIN LETTER SMALL CAPITAL TURNED MgEPIGRAPHIC LETTER REVERSED FyjPyaINVERTED Myb LONGA",
  "yaARCHAIC MaSYLOTI NAGRI LETTER AuInSIGN DVISVARAnLETTER UuEuOnSIGN HASANTAnLETTER KOvHOuGO",
  "vHOnSIGN ANUSVARAnLETTER COvHOuJOvHOuTTOwHOuDDOwHOuTOvHOuDOvHOuNOuPOvHOuBOvHOuMOuROuLOuRROuSO",
  "uHOnVOWEL SIGN AyaIyaUyaEyaOOnPOETRY MARK-1yb2yb3yb4nSIGN ALTERNATE HASANTA",
  "*3aNORTH INDIC FRACTION ONE QUARTERybHALFvTHREE QUARTERSvONE SIXTEENTHybEIGHTH",
  "vTHREE SIXTEENTHSmQUARTER MARKmPLACEHOLDER MARKmRUPEE MARKmQUANTITY MARK*6aPHAGS-PA LETTER KA",
  "rHAqGAqNGAqCArHAqJAqNYAqTArHAqDAqNAqPArHAqBAqMAqTSAsHAqDZAqWAqZHArAqSMALL AqYAqRAqLAqSHArAqHA",
  "qAqIqUqEqOqQAqXAqFAqGGAqEEjSUBJOINED LETTER WAycYAjLETTER TTAsHAqDDAqNNAqALTERNATE YA",
  "qVOICELESS SHAvD HAqASPIRATED FAjSUBJOINED LETTER RAlPERFIXED LETTER RAjLETTER CANDRABINDU",
  "jSINGLE HEAD MARKjDOUBLE HEAD MARKjMARK SHADoDOUBLE SHAD*8aSAURASHTRA SIGN ANUSVARAqVISARGA",
  "lLETTER AtAsItIsUtUsVOCALIC RydRycLydLsEtEsAIsOtOsAUsKAtHAsGAtHAsNGAsCAtHAsJAtHAsNYAsTTAuHA",
  "sDDAuHAsNNAsTAtHAsDAtHAsNAsPAtHAsBAtHAsMAsYAsRAsLAsVAsSHAtSAtAsHAsLLAlCONSONANT SIGN HAARU",
  "lVOWEL SIGN AAwIxIwUxUwVOCALIC RyhRygLyhLwExEwAIwOxOwAUlSIGN VIRAMAqCANDRABINDU*8lDANDA",
  "mOUBLE DANDAmIGIT ZEROrONErTWOsHREErFOURsIVErSIXsEVENrEIGHTrNINE",
  "*6aCOMBINING DEVANAGARI DIGIT ZEROydONEydTWOyeHREEydFOURyeIVEydSIXyeEVENydEIGHTydNINE",
  "vLETTER AyeUyeKAyeNAyePAyeRAyeVIvSIGN AVAGRAHAaDEVANAGARI SIGN SPACING CANDRABINDU",
  "qCANDRABINDU VIRAMAqDOUBLE CANDRABINDU VIRAMAqCANDRABINDU TWOyfHREEyeAVAGRAHAqPUSHPIKA",
  "lGAP FILLERlCARETlHEADSTROKElSIGN SIDDHAMlJAIN OMlLETTER AYlVOWEL SIGN AYaKAYAH LI DIGIT ZERO",
  "pONEpTWOqHREEpFOURqIVEpSIXqEVENpEIGHTpNINEjLETTER KArHAqGAqNGAqSArHAqZAqNYAqTAqHTAqNAqPArHA",
  "qMAqDAqBAqRAqYAqLAqWAqTHAqHAqVAqCAqAqOEqIqOOjVOWEL UEpEpUpEEpOjTONE PLOPHUoCALYAt PLOPHU",
  "jSIGN CWIoSHYAaREJANG LETTER KAoGAoNGAoTAoDAoNAoPAoBAoMAoCAoJAoNYAoSAoRAoLAoYAoWAoHAoMBAoNGGA",
  "pDApYJAoAhVOWEL SIGN IsUsEsAIsOsAUsEUtAhCONSONANT SIGN NGxwRwHhVIRAMA*11hSECTION MARK",
  "aHANGUL CHOSEONG TIKEUT-MIEUMxPIEUPxSIOSxCIEUCqRIEUL-KIYEOKwSSANGKIYEOKwTIKEUTwSSANGTIKEUT",
  "wMIEUMwPIEUPwSSANGPIEUPwKAPYEOUNPIEUPwSIOSwCIEUCwKHIEUKHqMIEUM-KIYEOKwTIKEUTwSIOS",
  "qPIEUP-SIOS-THIEUTHwKHIEUKHwHIEUHqSSANGSIOS-PIEUPqIEUNG-RIEULwHIEUHqSSANGCIEUC-HIEUHvTHIEUTH",
  "qPHIEUPH-HIEUHqHIEUH-SIOSqSSANGYEORINHIEUH*3aJAVANESE SIGN PANYANGGAoCECAKoLAYARoWIGNYAN",
  "jLETTER AqI KAWIrrIqUqPA CEREKqNGA LELETyb RASWADIqEqAIqOqKAs SASAKtMURDAqGAs MURDAqNGAqCA",
  "s MURDAqJAqNYA MURDAqJA MAHAPRANAqNYAqTTAt MAHAPRANAqDDAt MAHAPRANAqNA MURDAqTAs MURDAqDA",
  "s MAHAPRANAqNAqPAs MURDAqBAs MURDAqMAqYAqRAs AGUNGqLAqWAqSA MURDAuAHAPRANAsqHA",
  "jSIGN CECAK TELUjVOWEL SIGN TARUNGvOLONGuWULUya MELIKuSUKUya MENDUTuTALINGuDIRGA MUREuPEPET",
  "jCONSONANT SIGN KERETyaPENGKALyaCAKRAjPANGKONjLEFT RERENGGANjRIGHT RERENGGANjPADA ANDAPoMADYA",
  "oLUHURoWINDUoPANGKAToLINGSApUNGSIoADEGs ADEGoPISELEHjTURNED PADA PISELEH*1jPANGRANGKEP",
  "jDIGIT ZEROpONEpTWOqHREEpFOURqIVEpSIXqEVENpEIGHTpNINE*4jPADA TIRTA TUMETESoISEN-ISEN",
  "aMYANMAR LETTER SHAN GHAuCHAuJHAuNNAuBHAiSIGN SHAN SAWiMODIFIER LETTER SHAN REDUPLICATION",
  "iLETTER TAI LAING NYAybFAybGAycHAybJAycHAybDDAydHAybNNAiTAI LAING DIGIT ZEROyaONEyaTWOybHREE",
  "yaFOURybIVEyaSIXybEVENyaEIGHTyaNINEiLETTER TAI LAING LLAybDAycHAybBAycHA*1aCHAM LETTER AmImU",
  "mEmAImOmKAnHAmGAnHAmNGUEoAmCHAoHAmJAnHAmNHUEoAoJAmTAnHAmDAnHAmNUEnAmDDAmPAnPAnHAmBAnHAmMUEnA",
  "mBBAmYAmRAmLAmVAmSSAnAmHAfVOWEL SIGN AAqIrIqEIqUqOErqAIrUqUEfCONSONANT SIGN YAuRAuLAuWA",
  "*9fLETTER FINAL KsGsNGfCONSONANT SIGN FINAL NGfLETTER FINAL CHsTsNsPsYsRsLsSS",
  "fCONSONANT SIGN FINAL MycH*2fDIGIT ZEROlONElTWOmHREElFOURmIVElSIXmEVENlEIGHTlNINE",
  "*2fPUNCTUATION SPIRALrDANDAsOUBLE DANDArTRIPLE DANDAaMYANMAR LETTER KHAMTI GAwCAxHAwJAxHAwNYA",
  "wTTAyaHAwDDAyaHAxHAwNAwSAwHAxHAwFAiMODIFIER LETTER KHAMTI REDUPLICATIONiLETTER KHAMTI XAwZA",
  "wRAjOGOGRAM KHAMTI OAYyaQNyaHMiSYMBOL AITON EXCLAMATIONvONEvTWOiLETTER AITON RA",
  "iSIGN PAO KAREN TONEnTAI LAING TONE-2ye5iLETTER SHWE PALAUNG CHAyeSHAaTAI VIET LETTER LOW KO",
  "qHIGH KOqLOW KHOqHIGH KHOqLOW KHHOqHIGH KHHOqLOW GOqHIGH GOqLOW NGOqHIGH NGOqLOW COqHIGH CO",
  "qLOW CHOqHIGH CHOqLOW SOqHIGH SOqLOW NYOqHIGH NYOqLOW DOqHIGH DOqLOW TOqHIGH TOqLOW THO",
  "qHIGH THOqLOW NOqHIGH NOqLOW BOqHIGH BOqLOW POqHIGH POqLOW PHOqHIGH PHOqLOW FOqHIGH FOqLOW MO",
  "qHIGH MOqLOW YOqHIGH YOqLOW ROqHIGH ROqLOW LOqHIGH LOqLOW VOqHIGH VOqLOW HOqHIGH HOqLOW O",
  "qHIGH OjMAI KANGjVOWEL AApIpUEqpEpOjMAI KHITjVOWEL IApUEAqApAUEqYqNqMjTONE MAI EKsNUENGsTHO",
  "sSONG*24jSYMBOL KONqNUENGqSAMqHO HOIqKOI KOIaMEETEI MAYEK LETTER EuOuCHAuNYAuTTAwHAuDDAwHA",
  "uNNAuSHAvSAnVOWEL SIGN IIyaUUyaAAIybUybAUnCHEIKHANnAHANG KHUDAMoNJInSYLLABLE REPETITION MARK",
  "nWORD REPETITION MARKnVOWEL SIGN VISARGAoIRAMA*10aETHIOPIC SYLLABLE TTHUvIvAAvEEwvO*2sDDHUvI",
  "vAAvEEwvO*2tZUuIuAAuEEvuO*9sCCHHAwUwIwAAwEExwO*1sBBAuUuIuAAuEEvuO",
  "*1aLATIN SMALL LETTER BARRED ALPHAtA REVERSED-SCHWAtBLACKLETTER EuARRED EtE WITH FLOURISH",
  "tLENIS FtSCRIPT G WITH CROSSED-TAILtL WITH INVERTED LAZY SycDOUBLE MIDDLE TILDEycMIDDLE RING",
  "tM WITH CROSSED-TAILtN WITH CROSSED-TAILtENG WITH CROSSED-TAILtBLACKLETTER Oyi WITH STROKE",
  "tOPEN O WITH STROKEtINVERTED OEtTURNED OE WITH STROKEykHORIZONTAL STROKEyd OPEN-O",
  "yk WITH STROKEtSTIRRUP RgLETTER SMALL CAPITAL R WITH RIGHT LEGgSMALL LETTER R WITHOUT HANDLE",
  "tDOUBLE RtR WITH CROSSED-TAILtDOUBLE R WITH CROSSED-TAILtSCRIPT Ryd WITH RINGtBASELINE ESH",
  "tU WITH SHORT RIGHT LEGvBAR WITH SHORT RIGHT LEGuItTURNED UItU WITH LEFT HOOKtCHI",
  "w WITH LOW RIGHT RINGyiLEFT SERIFtX WITH LOW RIGHT RINGyeNG LEFT LEGyp AND LOW RIGHT RING",
  "yqWITH SERIFtY WITH SHORT RIGHT LEGaMODIFIER BREVE WITH INVERTED BREVEjLETTER SMALL HENG",
  "wL WITH INVERTED LAZY SyfMIDDLE TILDEwU WITH LEFT HOOKaLATIN SMALL LETTER SAKHA YAT",
  "tIOTIFIED EtOPEN OEtUOtINVERTED ALPHAaGREEK LETTER SMALL CAPITAL OMEGA",
  "aLATIN SMALL LETTER DZ DIGRAPH WITH RETROFLEX HOOKtTS DIGRAPH WITH RETROFLEX HOOK",
  "uURNED R WITH MIDDLE TILDEaMODIFIER LETTER SMALL TURNED WqLEFT TACKqRIGHT TACK",
  "*4aCHEROKEE SMALL LETTER AwEwIwOwUwVwGAwKAwGExIxOxUxVwHAxExIxOxUxVwLAxExIxOxUxVwMAxExIxOxUwNA",
  "wHNAwNAHxExIxOxUxVwQUAyaEyaIyaOyaUyaVwSAxxExIxOxUxVwDAwTAwDEwTEwDIwTIwDOxUxVxLAwTLAyaEyaIyaO",
  "yaUyaVxSAyaEyaIyaOyaUyaVwWAxExIxOxUxVwYAaMEETEI MAYEK LETTER KOKuSAMuLAIuMITuPAuNAuCHILuTIL",
  "uKHOUuNGOUuTHOUuWAIuYANGuHUKuUNuIuPHAMuATIYAuGOKuJHAMuRAIuBAuJILuDILuGHOUuDHOUuBHAM",
  "uKOK LONSUMuLAI LONSUMuMIT LONSUMuPA LONSUMuNA LONSUMuTIL LONSUMuNGOU LONSUMuI LONSUM",
  "nVOWEL SIGN ONAPyaINAPyaANAPyaYENAPyaSOUNAPyaUNAPyaCHEINAPyaNUNGnCHEIKHEInLUM IYEKnAPUN IYEK",
  "*2nDIGIT ZEROtONEtTWOuHREEtFOURuIVEtSIXuEVENtEIGHTtNINE*11190aHANGUL JUNGSEONG O-YEOtO-IrYO-A",
  "vEuEOrU-YEOtI-IrYU-AEuOrEU-AuEOvuOrI-YA-OvEuEOvtO-ItYOuUtIrARAEA-AxE*4iONGSEONG NIEUN-RIEUL",
  "xCHIEUCHrSSANGTIKEUTye-PIEUPrTIKEUT-PIEUPyaSIOSye-KIYEOKyaCIEUCybHIEUCHyaTHIEUTH",
  "rRIEUL-SSANGKIYEOKxKIYEOK-HIEUHrSSANGRIEUL-KHIEUKHrRIEUL-MIEUM-HIEUHxPIEUP-TIKEUTyfPHIEUPH",
  "xYESIEUNGybORINHIEUH-HIEUHrKAPYEOUNRIEULrMIEUM-NIEUNxSSANGNIEUNrSSANGMIEUMrMIEUM-PIEUP-SIOS",
  "xCIEUCrPIEUP-TIKEUTxRIEUL-PHIEUPHxMIEUMrSSANGPIEUPrPIEUP-SIOS-TIKEUTxCIEUCyaHIEUCHrSIOS-MIEUM",
  "wKAPYEOUNPIEUPsSANGSIOS-KIYEOKydTIKEUTsIOS-PANSIOSwCIEUCxHIEUCHwTHIEUTHwHIEUHrPANSIOS-PIEUP",
  "ybKAPYEOUNPIEUPrYESIEUNG-MIEUMycHIEUHrCIEUC-PIEUPxSSANGPIEUPrSSANGCIEUCrPHIEUPH-SIOSybTHIEUTH",
  "*8452aCJK COMPATIBILITY IDEOGRAPH-F900yh1yh2yh3yh4yh5yh6yh7yh8yh9yhAyhByhCyhDyhEyhFyg10yh1yh2",
  "yh3yh4yh5yh6yh7yh8yh9yhAyhByhCyhDyhEyhFyg20yh1yh2yh3yh4yh5yh6yh7yh8yh9yhAyhByhCyhDyhEyhFyg30",
  "yh1yh2yh3yh4yh5yh6yh7yh8yh9yhAyhByhCyhDyhEyhFyg40yh1yh2yh3yh4yh5yh6yh7yh8yh9yhAyhByhCyhDyhE",
  "yhFyg50yh1yh2yh3yh4yh5yh6yh7yh8yh9yhAyhByhCyhDyhEyhFyg60yh1yh2yh3yh4yh5yh6yh7yh8yh9yhAyhByhC",
  "yhDyhEyhFyg70yh1yh2yh3yh4yh5yh6yh7yh8yh9yhAyhByhCyhDyhEyhFyg80yh1yh2yh3yh4yh5yh6yh7yh8yh9yhA",
  "yhByhCyhDyhEyhFyg90yh1yh2yh3yh4yh5yh6yh7yh8yh9yhAyhByhCyhDyhEyhFygA0yh1yh2yh3yh4yh5yh6yh7yh8",
  "yh9yhAyhByhCyhDyhEyhFygB0yh1yh2yh3yh4yh5yh6yh7yh8yh9yhAyhByhCyhDyhEyhFygC0yh1yh2yh3yh4yh5yh6",
  "yh7yh8yh9yhAyhByhCyhDyhEyhFygD0yh1yh2yh3yh4yh5yh6yh7yh8yh9yhAyhByhCyhDyhEyhFygE0yh1yh2yh3yh4",
  "yh5yh6yh7yh8yh9yhAyhByhCyhDyhEyhFygF0yh1yh2yh3yh4yh5yh6yh7yh8yh9yhAyhByhCyhDyhEyhFyfA00yh1yh2",
  "yh3yh4yh5yh6yh7yh8yh9yhAyhByhCyhDyhEyhFyg10yh1yh2yh3yh4yh5yh6yh7yh8yh9yhAyhByhCyhDyhEyhFyg20",
  "yh1yh2yh3yh4yh5yh6yh7yh8yh9yhAyhByhCyhDyhEyhFyg30yh1yh2yh3yh4yh5yh6yh7yh8yh9yhAyhByhCyhDyhE",
  "yhFyg40yh1yh2yh3yh4yh5yh6yh7yh8yh9yhAyhByhCyhDyhEyhFyg50yh1yh2yh3yh4yh5yh6yh7yh8yh9yhAyhByhC",
  "yhDyhEyhFyg60yh1yh2yh3yh4yh5yh6yh7yh8yh9yhAyhByhCyhD*2yg70yh1yh2yh3yh4yh5yh6yh7yh8yh9yhAyhB",
  "yhCyhDyhEyhFyg80yh1yh2yh3yh4yh5yh6yh7yh8yh9yhAyhByhCyhDyhEyhFyg90yh1yh2yh3yh4yh5yh6yh7yh8yh9",
  "yhAyhByhCyhDyhEyhFygA0yh1yh2yh3yh4yh5yh6yh7yh8yh9yhAyhByhCyhDyhEyhFygB0yh1yh2yh3yh4yh5yh6yh7",
  "yh8yh9yhAyhByhCyhDyhEyhFygC0yh1yh2yh3yh4yh5yh6yh7yh8yh9yhAyhByhCyhDyhEyhFygD0yh1yh2yh3yh4yh5",
  "yh6yh7yh8yh9*38aLATIN SMALL LIGATURE FFwIwLwFIxLvLONG S TvST",
  "*12aARMENIAN SMALL LIGATURE MEN NOWyeECHyeINIyaVEW NOWyaMEN XEH",
  "*5aHEBREW LETTER YOD WITH HIRIQhPOINT JUDEO-SPANISH VARIKAhLIGATURE YIDDISH YOD YOD PATAH",
  "iETTER ALTERNATIVE AYINoWIDE ALEFtDALETtHEtKAFtLAMEDtFINAL MEMtRESHtTAVoALTERNATIVE PLUS SIGN",
  "oSHIN WITH SHIN DOTybIN DOTyaDAGESH AND SHIN DOTymIN DOToALEF WITH PATAHyaQAMATSyaMAPIQ",
  "oBET WITH DAGESHoGIMEL WITH DAGESHoDALET WITH DAGESHoHE WITH MAPIQoVAV WITH DAGESH",
  "oZAYIN WITH DAGESH*1oTET WITH DAGESHoYOD WITH DAGESHoFINAL KAF WITH DAGESHoKAF WITH DAGESH",
  "oLAMED WITH DAGESH*1oMEM WITH DAGESH*1oNUN WITH DAGESHoSAMEKH WITH DAGESH",
  "*1oFINAL PE WITH DAGESHoPE WITH DAGESH*1oTSADI WITH DAGESHoQOF WITH DAGESHoRESH WITH DAGESH",
  "oSHIN WITH DAGESHoTAV WITH DAGESHoVAV WITH HOLAMoBET WITH RAFEoKAF WITH RAFEoPE WITH RAFE",
  "iIGATURE ALEF LAMEDaARABIC LETTER ALEF WASLA ISOLATED FORMybFINAL FORMoBEEH ISOLATED FORM",
  "tFINAL FORMtINITIAL FORMtMEDIAL FORMoPEH ISOLATED FORMsFINAL FORMsINITIAL FORMsMEDIAL FORM",
  "oBEHEH ISOLATED FORMuFINAL FORMuINITIAL FORMuMEDIAL FORMoTTEHEH ISOLATED FORMvFINAL FORM",
  "vINITIAL FORMvMEDIAL FORMpEHEH ISOLATED FORMuFINAL FORMuINITIAL FORMuMEDIAL FORM",
  "pTEH ISOLATED FORMtFINAL FORMtINITIAL FORMtMEDIAL FORMoVEH ISOLATED FORMsFINAL FORM",
  "sINITIAL FORMsMEDIAL FORMoPEHEH ISOLATED FORMuFINAL FORMuINITIAL FORMuMEDIAL FORM",
  "oDYEH ISOLATED FORMtFINAL FORMtINITIAL FORMtMEDIAL FORMoNYEH ISOLATED FORMtFINAL FORM",
  "tINITIAL FORMtMEDIAL FORMoTCHEH ISOLATED FORMuFINAL FORMuINITIAL FORMuMEDIAL FORM",
  "tEH ISOLATED FORMwFINAL FORMwINITIAL FORMwMEDIAL FORMoDDAHAL ISOLATED FORMvFINAL FORM",
  "pAHAL ISOLATED FORMuFINAL FORMpUL ISOLATED FORMsFINAL FORMpDAL ISOLATED FORMtFINAL FORM",
  "oJEH ISOLATED FORMsFINAL FORMoRREH ISOLATED FORMtFINAL FORMoKEHEH ISOLATED FORMuFINAL FORM",
  "uINITIAL FORMuMEDIAL FORMoGAF ISOLATED FORMsFINAL FORMsINITIAL FORMsMEDIAL FORM",
  "pUEH ISOLATED FORMtFINAL FORMtINITIAL FORMtMEDIAL FORMoNGOEH ISOLATED FORMuFINAL FORM",
  "uINITIAL FORMuMEDIAL FORMpOON GHUNNA ISOLATED FORMycFINAL FORMoRNOON ISOLATED FORMuFINAL FORM",
  "uINITIAL FORMuMEDIAL FORMoHEH WITH YEH ABOVE ISOLATED FORMyjFINAL FORMsGOAL ISOLATED FORM",
  "xFINAL FORMxINITIAL FORMxMEDIAL FORMsDOACHASHMEE ISOLATED FORMygFINAL FORMygINITIAL FORM",
  "ygMEDIAL FORMoYEH BARREE ISOLATED FORMybFINAL FORMybWITH HAMZA ABOVE ISOLATED FORM",
  "ysFINAL FORMhSYMBOL DOT ABOVEsBELOWoTWO DOTS ABOVExBELOWpHREE DOTS ABOVEybBELOW",
  "ybPOINTING DOWNWARDS ABOVEyuBELOWoFOUR DOTS ABOVEyaBELOWoDOUBLE VERTICAL BAR BELOW",
  "oTWO DOTS VERTICALLY ABOVEykBELOWoRINGoSMALL TAH ABOVEyaBELOWoWASLA ABOVE",
  "*16hLETTER NG ISOLATED FORMrFINAL FORMrINITIAL FORMrMEDIAL FORMoU ISOLATED FORMqFINAL FORM",
  "oOE ISOLATED FORMrFINAL FORMoYU ISOLATED FORMrFINAL FORMoU WITH HAMZA ABOVE ISOLATED FORM",
  "oVE ISOLATED FORMrFINAL FORMoKIRGHIZ OE ISOLATED FORMybFINAL FORMwYU ISOLATED FORM",
  "ybFINAL FORMoE ISOLATED FORMqFINAL FORMqINITIAL FORMqMEDIAL FORM",
  "oUIGHUR KAZAKH KIRGHIZ ALEF MAKSURA INITIAL FORMyzMEDIAL FORM",
  "iIGATURE YEH WITH HAMZA ABOVE WITH ALEF ISOLATED FORMyxFINAL FORMytE ISOLATED FORM",
  "yvFINAL FORMysWAW ISOLATED FORMywFINAL FORMysU ISOLATED FORMyuFINAL FORMysOE ISOLATED FORM",
  "yvFINAL FORMysYU ISOLATED FORMyvFINAL FORMysE ISOLATED FORMyuFINAL FORMyuINITIAL FORM",
  "qUIGHUR KIRGHIZ YEH WITH HAMZA ABOVE WITH ALEF MAKSURA ISOLATED FORMzuFINAL FORM",
  "zuINITIAL FORMiETTER FARSI YEH ISOLATED FORMyaFINAL FORMyaINITIAL FORMyaMEDIAL FORM",
  "iIGATURE YEH WITH HAMZA ABOVE WITH JEEM ISOLATED FORMysHAH ISOLATED FORMysMEEM ISOLATED FORM",
  "ysALEF MAKSURA ISOLATED FORMysYEH ISOLATED FORMqBEH WITH JEEM ISOLATED FORM",
  "ybHAH ISOLATED FORMybKHAH ISOLATED FORMybMEEM ISOLATED FORMybALEF MAKSURA ISOLATED FORM",
  "ybYEH ISOLATED FORMqTEH WITH JEEM ISOLATED FORMybHAH ISOLATED FORMybKHAH ISOLATED FORM",
  "ybMEEM ISOLATED FORMybALEF MAKSURA ISOLATED FORMybYEH ISOLATED FORM",
  "rHEH WITH JEEM ISOLATED FORMycMEEM ISOLATED FORMycALEF MAKSURA ISOLATED FORM",
  "ycYEH ISOLATED FORMqJEEM WITH HAH ISOLATED FORMycMEEM ISOLATED FORM",
  "qHAH WITH JEEM ISOLATED FORMybMEEM ISOLATED FORMqKHAH WITH JEEM ISOLATED FORM",
  "ycHAH ISOLATED FORMycMEEM ISOLATED FORMqSEEN WITH JEEM ISOLATED FORMycHAH ISOLATED FORM",
  "ycKHAH ISOLATED FORMycMEEM ISOLATED FORMrAD WITH HAH ISOLATED FORMybMEEM ISOLATED FORM",
  "qDAD WITH JEEM ISOLATED FORMybHAH ISOLATED FORMybKHAH ISOLATED FORMybMEEM ISOLATED FORM",
  "qTAH WITH HAH ISOLATED FORMybMEEM ISOLATED FORMqZAH WITH MEEM ISOLATED FORM",
  "qAIN WITH JEEM ISOLATED FORMybMEEM ISOLATED FORMqGHAIN WITH JEEM ISOLATED FORM",
  "ydMEEM ISOLATED FORMqFEH WITH JEEM ISOLATED FORMybHAH ISOLATED FORMybKHAH ISOLATED FORM",
  "ybMEEM ISOLATED FORMybALEF MAKSURA ISOLATED FORMybYEH ISOLATED FORM",
  "qQAF WITH HAH ISOLATED FORMybMEEM ISOLATED FORMybALEF MAKSURA ISOLATED FORM",
  "ybYEH ISOLATED FORMqKAF WITH ALEF ISOLATED FORMybJEEM ISOLATED FORMybHAH ISOLATED FORM",
  "ybKHAH ISOLATED FORMybLAM ISOLATED FORMybMEEM ISOLATED FORMybALEF MAKSURA ISOLATED FORM",
  "ybYEH ISOLATED FORMqLAM WITH JEEM ISOLATED FORMybHAH ISOLATED FORMybKHAH ISOLATED FORM",
  "ybMEEM ISOLATED FORMybALEF MAKSURA ISOLATED FORMybYEH ISOLATED FORM",
  "qMEEM WITH JEEM ISOLATED FORMycHAH ISOLATED FORMycKHAH ISOLATED FORMycMEEM ISOLATED FORM",
  "ycALEF MAKSURA ISOLATED FORMycYEH ISOLATED FORMqNOON WITH JEEM ISOLATED FORM",
  "ycHAH ISOLATED FORMycKHAH ISOLATED FORMycMEEM ISOLATED FORMycALEF MAKSURA ISOLATED FORM",
  "ycYEH ISOLATED FORMqHEH WITH JEEM ISOLATED FORMybMEEM ISOLATED FORM",
  "ybALEF MAKSURA ISOLATED FORMybYEH ISOLATED FORMqYEH WITH JEEM ISOLATED FORM",
  "ybHAH ISOLATED FORMybKHAH ISOLATED FORMybMEEM ISOLATED FORMybALEF MAKSURA ISOLATED FORM",
  "ybYEH ISOLATED FORMqTHAL WITH SUPERSCRIPT ALEF ISOLATED FORM",
  "qREH WITH SUPERSCRIPT ALEF ISOLATED FORMqALEF MAKSURA WITH SUPERSCRIPT ALEF ISOLATED FORM",
  "qSHADDA WITH DAMMATAN ISOLATED FORMyeKASRATAN ISOLATED FORMyeFATHA ISOLATED FORM",
  "yeDAMMA ISOLATED FORMyeKASRA ISOLATED FORMyeSUPERSCRIPT ALEF ISOLATED FORM",
  "qYEH WITH HAMZA ABOVE WITH REH FINAL FORMysZAIN FINAL FORMysMEEM FINAL FORMysNOON FINAL FORM",
  "ysALEF MAKSURA FINAL FORMysYEH FINAL FORMqBEH WITH REH FINAL FORMybZAIN FINAL FORM",
  "ybMEEM FINAL FORMybNOON FINAL FORMybALEF MAKSURA FINAL FORMybYEH FINAL FORM",
  "qTEH WITH REH FINAL FORMybZAIN FINAL FORMybMEEM FINAL FORMybNOON FINAL FORM",
  "ybALEF MAKSURA FINAL FORMybYEH FINAL FORMrHEH WITH REH FINAL FORMycZAIN FINAL FORM",
  "ycMEEM FINAL FORMycNOON FINAL FORMycALEF MAKSURA FINAL FORMycYEH FINAL FORM",
  "qFEH WITH ALEF MAKSURA FINAL FORMybYEH FINAL FORMqQAF WITH ALEF MAKSURA FINAL FORM",
  "ybYEH FINAL FORMqKAF WITH ALEF FINAL FORMybLAM FINAL FORMybMEEM FINAL FORM",
  "ybALEF MAKSURA FINAL FORMybYEH FINAL FORMqLAM WITH MEEM FINAL FORMybALEF MAKSURA FINAL FORM",
  "ybYEH FINAL FORMqMEEM WITH ALEF FINAL FORMycMEEM FINAL FORMqNOON WITH REH FINAL FORM",
  "ycZAIN FINAL FORMycMEEM FINAL FORMycNOON FINAL FORMycALEF MAKSURA FINAL FORMycYEH FINAL FORM",
  "qALEF MAKSURA WITH SUPERSCRIPT ALEF FINAL FORMqYEH WITH REH FINAL FORMybZAIN FINAL FORM",
  "ybMEEM FINAL FORMybNOON FINAL FORMybALEF MAKSURA FINAL FORMybYEH FINAL FORM",
  "ybHAMZA ABOVE WITH JEEM INITIAL FORMysHAH INITIAL FORMysKHAH INITIAL FORMysMEEM INITIAL FORM",
  "ysHEH INITIAL FORMqBEH WITH JEEM INITIAL FORMybHAH INITIAL FORMybKHAH INITIAL FORM",
  "ybMEEM INITIAL FORMybHEH INITIAL FORMqTEH WITH JEEM INITIAL FORMybHAH INITIAL FORM",
  "ybKHAH INITIAL FORMybMEEM INITIAL FORMybHEH INITIAL FORMrHEH WITH MEEM INITIAL FORM",
  "qJEEM WITH HAH INITIAL FORMycMEEM INITIAL FORMqHAH WITH JEEM INITIAL FORMybMEEM INITIAL FORM",
  "qKHAH WITH JEEM INITIAL FORMycMEEM INITIAL FORMqSEEN WITH JEEM INITIAL FORMycHAH INITIAL FORM",
  "ycKHAH INITIAL FORMycMEEM INITIAL FORMrAD WITH HAH INITIAL FORMybKHAH INITIAL FORM",
  "ybMEEM INITIAL FORMqDAD WITH JEEM INITIAL FORMybHAH INITIAL FORMybKHAH INITIAL FORM",
  "ybMEEM INITIAL FORMqTAH WITH HAH INITIAL FORMqZAH WITH MEEM INITIAL FORM",
  "qAIN WITH JEEM INITIAL FORMybMEEM INITIAL FORMqGHAIN WITH JEEM INITIAL FORM",
  "ydMEEM INITIAL FORMqFEH WITH JEEM INITIAL FORMybHAH INITIAL FORMybKHAH INITIAL FORM",
  "ybMEEM INITIAL FORMqQAF WITH HAH INITIAL FORMybMEEM INITIAL FORMqKAF WITH JEEM INITIAL FORM",
  "ybHAH INITIAL FORMybKHAH INITIAL FORMybLAM INITIAL FORMybMEEM INITIAL FORM",
  "qLAM WITH JEEM INITIAL FORMybHAH INITIAL FORMybKHAH INITIAL FORMybMEEM INITIAL FORM",
  "ybHEH INITIAL FORMqMEEM WITH JEEM INITIAL FORMycHAH INITIAL FORMycKHAH INITIAL FORM",
  "ycMEEM INITIAL FORMqNOON WITH JEEM INITIAL FORMycHAH INITIAL FORMycKHAH INITIAL FORM",
  "ycMEEM INITIAL FORMycHEH INITIAL FORMqHEH WITH JEEM INITIAL FORMybMEEM INITIAL FORM",
  "ybSUPERSCRIPT ALEF INITIAL FORMqYEH WITH JEEM INITIAL FORMybHAH INITIAL FORM",
  "ybKHAH INITIAL FORMybMEEM INITIAL FORMybHEH INITIAL FORMycAMZA ABOVE WITH MEEM MEDIAL FORM",
  "ysHEH MEDIAL FORMqBEH WITH MEEM MEDIAL FORMybHEH MEDIAL FORMqTEH WITH MEEM MEDIAL FORM",
  "ybHEH MEDIAL FORMrHEH WITH MEEM MEDIAL FORMycHEH MEDIAL FORMqSEEN WITH MEEM MEDIAL FORM",
  "ycHEH MEDIAL FORMrHEEN WITH MEEM MEDIAL FORMydHEH MEDIAL FORMqKAF WITH LAM MEDIAL FORM",
  "ybMEEM MEDIAL FORMqLAM WITH MEEM MEDIAL FORMqNOON WITH MEEM MEDIAL FORMycHEH MEDIAL FORM",
  "qYEH WITH MEEM MEDIAL FORMybHEH MEDIAL FORMqSHADDA WITH FATHA MEDIAL FORMyeDAMMA MEDIAL FORM",
  "yeKASRA MEDIAL FORMqTAH WITH ALEF MAKSURA ISOLATED FORMybYEH ISOLATED FORM",
  "qAIN WITH ALEF MAKSURA ISOLATED FORMybYEH ISOLATED FORMqGHAIN WITH ALEF MAKSURA ISOLATED FORM",
  "ydYEH ISOLATED FORMqSEEN WITH ALEF MAKSURA ISOLATED FORMycYEH ISOLATED FORM",
  "rHEEN WITH ALEF MAKSURA ISOLATED FORMydYEH ISOLATED FORMqHAH WITH ALEF MAKSURA ISOLATED FORM",
  "ybYEH ISOLATED FORMqJEEM WITH ALEF MAKSURA ISOLATED FORMycYEH ISOLATED FORM",
  "qKHAH WITH ALEF MAKSURA ISOLATED FORMycYEH ISOLATED FORMqSAD WITH ALEF MAKSURA ISOLATED FORM",
  "ybYEH ISOLATED FORMqDAD WITH ALEF MAKSURA ISOLATED FORMybYEH ISOLATED FORM",
  "qSHEEN WITH JEEM ISOLATED FORMydHAH ISOLATED FORMydKHAH ISOLATED FORMydMEEM ISOLATED FORM",
  "ydREH ISOLATED FORMrEEN WITH REH ISOLATED FORMrAD WITH REH ISOLATED FORM",
  "qDAD WITH REH ISOLATED FORMqTAH WITH ALEF MAKSURA FINAL FORMybYEH FINAL FORM",
  "qAIN WITH ALEF MAKSURA FINAL FORMybYEH FINAL FORMqGHAIN WITH ALEF MAKSURA FINAL FORM",
  "ydYEH FINAL FORMqSEEN WITH ALEF MAKSURA FINAL FORMycYEH FINAL FORM",
  "rHEEN WITH ALEF MAKSURA FINAL FORMydYEH FINAL FORMqHAH WITH ALEF MAKSURA FINAL FORM",
  "ybYEH FINAL FORMqJEEM WITH ALEF MAKSURA FINAL FORMycYEH FINAL FORM",
  "qKHAH WITH ALEF MAKSURA FINAL FORMycYEH FINAL FORMqSAD WITH ALEF MAKSURA FINAL FORM",
  "ybYEH FINAL FORMqDAD WITH ALEF MAKSURA FINAL FORMybYEH FINAL FORMqSHEEN WITH JEEM FINAL FORM",
  "ydHAH FINAL FORMydKHAH FINAL FORMydMEEM FINAL FORMydREH FINAL FORMrEEN WITH REH FINAL FORM",
  "rAD WITH REH FINAL FORMqDAD WITH REH FINAL FORMqSHEEN WITH JEEM INITIAL FORM",
  "ydHAH INITIAL FORMydKHAH INITIAL FORMydMEEM INITIAL FORMrEEN WITH HEH INITIAL FORM",
  "rHEEN WITH HEH INITIAL FORMqTAH WITH MEEM INITIAL FORMqSEEN WITH JEEM MEDIAL FORM",
  "ycHAH MEDIAL FORMycKHAH MEDIAL FORMrHEEN WITH JEEM MEDIAL FORMydHAH MEDIAL FORM",
  "ydKHAH MEDIAL FORMqTAH WITH MEEM MEDIAL FORMqZAH WITH MEEM MEDIAL FORM",
  "qALEF WITH FATHATAN FINAL FORMylISOLATED FORMaORNATE LEFT PARENTHESIShRIGHT PARENTHESIS",
  "aARABIC LIGATURE RAHIMAHU ALLAAHsDI ALLAAHU ANHyiAAyiUMykAAyjNNAqSALLALLAAHU ALAYHI WA-AALIH",
  "qALAYHI AS-SALAAMwM AS-SALAAMxAA AS-SALAAMw AS-SALAATU WAS-SALAAMqQUDDISA SIRRAH",
  "qSALLALLAHU ALAYHI WAAALIHEE WA-SALLAMqALAYHAA AS-SALAAMqTABAARAKA WA-TAAALAA",
  "qRAHIMAHUM ALLAAHqTEH WITH JEEM WITH MEEM INITIAL FORMybHAH WITH JEEM FINAL FORM",
  "ypINITIAL FORMykMEEM INITIAL FORMybKHAH WITH MEEM INITIAL FORMybMEEM WITH JEEM INITIAL FORM",
  "ylHAH INITIAL FORMylKHAH INITIAL FORMqJEEM WITH MEEM WITH HAH FINAL FORMyqINITIAL FORM",
  "qHAH WITH MEEM WITH YEH FINAL FORMylALEF MAKSURA FINAL FORM",
  "qSEEN WITH HAH WITH JEEM INITIAL FORMycJEEM WITH HAH INITIAL FORMymALEF MAKSURA FINAL FORM",
  "ycMEEM WITH HAH FINAL FORMyqINITIAL FORMymJEEM INITIAL FORMymMEEM FINAL FORMyrINITIAL FORM",
  "rAD WITH HAH WITH HAH FINAL FORMyoINITIAL FORMybMEEM WITH MEEM FINAL FORM",
  "rHEEN WITH HAH WITH MEEM FINAL FORMyrINITIAL FORMydJEEM WITH YEH FINAL FORM",
  "ydMEEM WITH KHAH FINAL FORMysINITIAL FORMynMEEM FINAL FORMysINITIAL FORM",
  "qDAD WITH HAH WITH ALEF MAKSURA FINAL FORMybKHAH WITH MEEM FINAL FORMyqINITIAL FORM",
  "qTAH WITH MEEM WITH HAH FINAL FORMypINITIAL FORMylMEEM INITIAL FORMylYEH FINAL FORM",
  "qAIN WITH JEEM WITH MEEM FINAL FORMybMEEM WITH MEEM FINAL FORMyqINITIAL FORM",
  "ylALEF MAKSURA FINAL FORMqGHAIN WITH MEEM WITH MEEM FINAL FORMynYEH FINAL FORM"]

end LintScaffold.Text.CharName
