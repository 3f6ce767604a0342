/-!
# Names of characters, eleventh part

The names of the characters from U+1D9A2 to U+1F668, in the shortened form of
character names.
-/

namespace LintScaffold.Text.CharName

/-- The rows of names from U+1D9A2 on. -/
def eleventhRows : List String := [
  "mROTATION-WALLPLANE SINGLEyhDOUBLEyhALTERNATEmMOVEMENT-WALLPLANE SHAKING",
  "yhCURVE HITTING FRONT WALLyhHUMP HITTING FRONT WALLyhLOOP HITTING FRONT WALL",
  "yhWAVE HITTING FRONT WALLmROTATION-WALLPLANE SINGLE HITTING FRONT WALL",
  "yhDOUBLE HITTING FRONT WALLyhALTERNATING HITTING FRONT WALL",
  "mMOVEMENT-WALLPLANE CURVE HITTING CHESTyhHUMP HITTING CHESTyhLOOP HITTING CHEST",
  "yhWAVE HITTING CHESTmROTATION-WALLPLANE SINGLE HITTING CHESTyhDOUBLE HITTING CHEST",
  "yhALTERNATING HITTING CHESTmMOVEMENT-WALLPLANE WAVE DIAGONAL PATH SMALLzaMEDIUMzaLARGE",
  "vFLOORPLANE CURVE HITTING CEILING SMALLzeLARGEyiHUMP HITTING CEILING SMALL DOUBLE",
  "zdLARGE DOUBLEzdSMALL TRIPLEzdLARGE TRIPLEyiLOOP HITTING CEILING SMALL SINGLEzdLARGE SINGLE",
  "zdSMALL DOUBLEzdLARGE DOUBLEyiWAVE HITTING CEILING SMALLzdLARGE",
  "mROTATION-FLOORPLANE SINGLE HITTING CEILINGyiDOUBLE HITTING CEILING",
  "yiALTERNATING HITTING CEILINGmMOVEMENT-FLOORPLANE CURVE HITTING FLOOR SMALLzcLARGE",
  "yiHUMP HITTING FLOOR SMALL DOUBLEzbLARGE DOUBLEzbTRIPLE SMALL TRIPLEziLARGE TRIPLE",
  "yiLOOP HITTING FLOOR SMALL SINGLEzbLARGE SINGLEzbSMALL DOUBLEzbLARGE DOUBLE",
  "yiWAVE HITTING FLOOR SMALLzbLARGEmROTATION-FLOORPLANE SINGLE HITTING FLOOR",
  "yiDOUBLE HITTING FLOORyiALTERNATING HITTING FLOORmMOVEMENT-FLOORPLANE CURVE SMALLyoMEDIUM",
  "yoLARGEytSTyoCOMBINEDyiHUMP SMALLyiLOOP SMALLyiWAVE SNAKEyoMALLynLARGE",
  "mROTATION-FLOORPLANE SINGLEyiDOUBLEyiALTERNATINGmMOVEMENT-FLOORPLANE SHAKING PARALLEL",
  "vWALLPLANE ARM CIRCLE SMALL SINGLEysMEDIUM SINGLEysSMALL DOUBLEysMEDIUM DOUBLE",
  "vFLOORPLANE ARM CIRCLE HITTING WALL SMALL SINGLEzgMEDIUM SINGLEzgLARGE SINGLEzgSMALL DOUBLE",
  "zgMEDIUM DOUBLEzgLARGE DOUBLEvWALLPLANE WRIST CIRCLE FRONT SINGLEzaDOUBLE",
  "vFLOORPLANE WRIST CIRCLE HITTING WALL SINGLEziDOUBLEvWALLPLANE FINGER CIRCLES SINGLEywDOUBLE",
  "vFLOORPLANE FINGER CIRCLES HITTING WALL SINGLEzkDOUBLEmDYNAMIC ARROWHEAD SMALLygLARGEuFAST",
  "uSLOWuTENSEuRELAXEDuSIMULTANEOUSyi ALTERNATINGuEVERY OTHER TIMEuGRADUALmHEADq RIM",
  "rMOVEMENT-WALLPLANE STRAIGHTymTILTycFLOORPLANE STRAIGHTycWALLPLANE CURVEycFLOORPLANE CURVE",
  "yb CIRCLEmFACE DIRECTION POSITION NOSE FORWARD TILTINGyrUP OR DOWNzb TILTING",
  "mEYEBROWS STRAIGHT UPygNEUTRALygDOWNmDREAMY EYEBROWS NEUTRAL DOWNyeDOWN NEUTRALyeUP NEUTRAL",
  "yeNEUTRAL UPmFOREHEAD NEUTRALvCONTACTvWRINKLEDmEYES OPENrSQUEEZEDrCLOSEDp BLINK SINGLE",
  "wMULTIPLEpS HALF OPENrWIDE OPENrHALF CLOSEDrWIDENING MOVEMENTp WINKpLASHES UPwDOWNwFLUTTERING",
  "pGAZE-WALLPLANE STRAIGHTyo DOUBLEypALTERNATINGuFLOORPLANE STRAIGHTyp DOUBLEyqALTERNATING",
  "uWALLPLANE CURVEDuFLOORPLANE CURVEDuWALLPLANE CIRCLINGmCHEEKS PUFFEDtNEUTRALtSUCKED",
  "mTENSE CHEEKS HIGHybMIDDLEybLOWmEARSmNOSE NEUTRALrCONTACTrWRINKLESsIGGLESmAIR BLOWING OUT",
  "qSUCKING INqBLOW SMALL ROTATIONSqSUCK SMALL ROTATIONSmBREATH INHALEtEXHALE",
  "mMOUTH CLOSED NEUTRALybFORWARDybCONTACTsSMILEx WRINKLEDyaOPENsFROWNx WRINKLEDyaOPEN",
  "sOPEN CIRCLExFORWARDxWRINKLEDxOVALyd WRINKLEDyeYAWNxRECTANGLEyi WRINKLEDyjYAWNsKISSw FORWARD",
  "xWRINKLEDsTENSEx FORWARDyaSUCKEDmLIPS PRESSED TOGETHERp LOWER OVER UPPERqUPPER OVER LOWER",
  "mMOUTH CORNERSsWRINKLES SINGLEydDOUBLEmTONGUE STICKING OUT FARtLICKING LIPStTIP BETWEEN LIPS",
  "xTOUCHING INSIDE MOUTHtINSIDE MOUTH RELAXEDtMOVES AGAINST CHEEKtCENTRE STICKING OUT",
  "ycINSIDE MOUTHnEETHr MOVEMENTsON TONGUEyd MOVEMENTvLIPSyb MOVEMENTsBITE LIPS",
  "mMOVEMENT-WALLPLANE JAWvFLOORPLANE JAWmNECKmHAIRmEXCITEMENTmSHOULDER HIP SPINEybPOSITIONS",
  "mWALLPLANE SHOULDER HIP MOVEmFLOORPLANE SHOULDER HIP MOVEmSHOULDER TILTING FROM WAIST",
  "mTORSO-WALLPLANE STRAIGHT STRETCHyeCURVED BENDsFLOORPLANE TWISTING",
  "mUPPER BODY TILTING FROM HIP JOINTSmLIMB COMBINATIONrLENGTH-1ya2ya3ya4ya5ya6ya7mFINGER",
  "mLOCATION-WALLPLANE SPACEvFLOORPLANE SPACEu HEIGHTvWIDTHvDEPTHvHEAD NECKvTORSOvLIMBS DIGITS",
  "mCOMMAmFULL STOPmSEMICOLONmCOLONmPARENTHESIS*15mFILL MODIFIER-2yc3yc4yc5yc6",
  "*1mROTATION MODIFIER-2yg3yg4yg5yg6yg7yg8yg9yg10yh1yh2yh3yh4yh5yh6",
  "*1104aLATIN SMALL LETTER FENG DIGRAPH WITH TRILLtREVERSED SCRIPT G",
  "gLETTER SMALL CAPITAL TURNED GgSMALL LETTER REVERSED KgLETTER SMALL CAPITAL L WITH BELT",
  "gSMALL LETTER LEZH WITH RETROFLEX HOOKtTURNED Y WITH BELTtREVERSED ENG",
  "tTURNED R WITH LONG LEG AND RETROFLEX HOOKu WITH HOOK AND RETROFLEX HOOK",
  "gLETTER RETROFLEX CLICK WITH RETROFLEX HOOKgSMALL LETTER ESH WITH DOUBLE BARyo AND CURL",
  "tTURNED T WITH CURLgLETTER INVERTED GLOTTAL STOP WITH CURLnSTRETCHED C WITH CURL",
  "oMALL CAPITAL TURNED KgSMALL LETTER L WITH FISHHOOKtDEZH DIGRAPH WITH PALATAL HOOK",
  "tL WITH BELT AND PALATAL HOOKtENG WITH PALATAL HOOKtTURNED R WITH PALATAL HOOK",
  "tR WITH FISHHOOK AND PALATAL HOOKtTESH DIGRAPH WITH PALATAL HOOKtEZH WITH PALATAL HOOK",
  "tDEZH DIGRAPH WITH RETROFLEX HOOKtI WITH STROKE AND RETROFLEX HOOKtO WITH RETROFLEX HOOK",
  "tTESH DIGRAPH WITH RETROFLEX HOOKtC WITH RETROFLEX HOOKtS WITH CURL",
  "*225aCOMBINING GLAGOLITIC LETTER AZUyeBUKYyeVEDEyeGLAGOLIyeDOBROyeYESTUyeZHIVETE*1yfEMLJA",
  "yeIZHEyfNITIAL IZHEyfyeDJERVIyeKAKOyeLJUDIJEyeMYSLITEyeNASHIyeONUyePOKOJIyeRITSIyeSLOVO",
  "yeTVRIDOyeUKUyeFRITUyeHERU*2yeSHTAyeTSIyeCHRIVIyeSHAyeYERUyhIyfATI*1yfUyeSMALL YUS*1yeYO",
  "yeIOTATED SMALL YUSyeBIG YUSyeIOTATED BIG YUSyeFITA*213aNYIAKENG PUACHUE HMONG LETTER MAygTSA",
  "ygNTAygTAygHAygNAygXAygNKAygCAygLAygSAygZAygNCAyhTSAygKAygDAygNYAyhRAygVAygNTXAygTXAygFAygRA",
  "ygQAygYAygNQAygPAygXYAygNPAygDLAygNPLAygHAHygMLAygPLAygGAygRRAygAyhAygIygUygOyhOygEyhEygW",
  "*3xTONE-ByeMyeJyeVyeSyeGyeDxSIGN FOR PERSONyiTHINGyiLOCATIONyiANIMALyiINVERTEBRATEyeXW XW",
  "yaYLLABLE LENGTHENER*2xDIGIT ZEROyfONEyfTWOygHREEyfFOURygIVEyfSIXygEVENyfEIGHTyfNINE",
  "*4xLOGOGRAM NYAJxCIRCLED CA*320aTOTO LETTER PAmBAmTAmDAmKAmGAmMAmNAnGAmSAmCHAmYAmWAmJAmHAmRA",
  "mLAmImBREATHY ImIUmBREATHY IUmUmEmBREATHY EmEOmBREATHY EOmOmAEmBREATHY AEmAfSIGN RISING TONE",
  "*17aWANCHO LETTER AApoBAoCAoDAoGAoYAoPHAoLAoNAoPAoTApHAoFAoSApHAoJAoZAoWAoVAoKAoOoAUoRAoMA",
  "oKHAoHAoEoIoNGAoUoLLHAoTSApRAoONGoAANGpNGoINGoONoENoAANoNYAoUENoYIHhTONE TUPpNImKOIpNI",
  "hDIGIT ZEROnONEnTWOoHREEnFOURoIVEnSIXoEVENnEIGHTnNINE*5hNGUN SIGN*1248aETHIOPIC SYLLABLE HHYA",
  "vUvIvAAvEEwvO*1sGURAGE HHWAsHHWIvEEw*1sGURAGE MWIydEE*1ybQWIydEEyeybBWIydEEybKWIydEEyeybGWI",
  "ydEEyeybFWIydEEybPWIydEE*1aMENDE KIKAKUI SYLLABLE M001 KIyc2 KAyc3 KUyb65 KEEyb95 KEyb76 KOO",
  "yb48 KOya179 KUAya004 WIyc5 WAyc6 WUya126 WEEyb18 WEyc4 WOOya045 WOya194 WUIyb43 WEIya061 WVI",
  "yb49 WVAya139 WVEya007 MINyc8 MANyc9 MUNyb59 MENyb94 MONya154 MUANyb89 MUENya010 BIyc1 BA",
  "yc2 BUya150 BEEya097 BEya103 BOOyb38 BOya013 Iyc4 Ayc5 Uya163 EEyb00 Eyb65 OOyb47 Oyb37 EI",
  "yc1 INyc5 INyb95 ANyb78 ENya019 SIyb20 SAyc1 SUya162 SEEyb16 SEyb36 SOOya079 SOya196 SIA",
  "ya025 LIyc6 LAyc7 LUyb84 LEEyb73 LEyb54 LOOya153 LOyb10 LONG LEya016 DIyc7 DAyc8 DUyb89 DEE",
  "ya180 DOOyc1 DOya022 TIyc3 TAyc4 TUyb91 TEEyb55 TEya104 TOOya069 TOyb28 JIyc9 JAyb30 JU",
  "ya157 JEEyb13 JEyb60 JOOya063 JOya175 LONG JOya031 YIyc2 YAyc3 YUya109 YEEya080 YEya141 YOO",
  "yb21 YOya034 FIyc5 FAyc6 FUyb78 FEEyc5 FEya133 FOOya088 FOya197 FUAyb01 FANya037 NINyc8 NAN",
  "yc9 NUNya117 NENyb69 NONyb76 HIya041 HAya186 HUya040 HEEyb96 HEyb42 HOOya140 HOya083 HEEI",
  "ya128 HOOUya053 HINya130 HANya087 HUNyb52 HENya193 HONya046 HUANyb90 NGGIyb43 NGGAyb82 NGGU",
  "ya115 NGGEEyb46 NGGEyb56 NGGOOyb20 NGGOyb59 NGGAAyb27 NGGUAya086 LONG NGGEya106 LONG NGGOO",
  "yb83 LONG NGGOyb55 GIyb11 GAyb68 GUyb90 GEEyb66 GUEIyc7 GUANyb84 NGENya057 NGONya177 NGUAN",
  "ya068 PIyb99 PAyb50 PUyb81 PEEyb51 PEya102 POOya066 POya145 MBIya062 MBAya122 MBUya047 MBEE",
  "ya188 MBEEya072 MBEya172 MBOOyc4 MBOyb87 MBUUyb61 LONG MBEyb05 LONG MBOOyb42 LONG MBOyb32 KPI",
  "ya092 KPAyb74 KPUyb44 KPEEya108 KPEyb12 KPOOyb58 KPOyb24 GBIya056 GBAya148 GBUya093 GBEE",
  "ya107 GBEya071 GBOOyc0 GBOya171 RAyb23 NDIyc9 NDAyc5 NDUyb91 NDEEyb19 NDEya067 NDOOyc4 NDO",
  "ya152 NJAyb92 NJUyb49 NJEEyb34 NJOOyb82 VIyc5 VAyb51 VUyb73 VEEya085 VEya144 VOOya077 VO",
  "ya164 NYINya058 NYANya170 NYUNya098 NYENyb60 NYON*2oDIGIT ONEuTWOvHREEuFOURvIVEuSIXvEVEN",
  "uEIGHTuNINEoCOMBINING NUMBER TEENSyjNSyhHUNDREDSyhTHOUSANDSyiEN THOUSANDSyhHUNDRED THOUSANDS",
  "yhMILLIONS*41aADLAM CAPITAL LETTER ALIFvDAALIvLAAMvMIIMvBAvSINNYIIYHEvPEvBHEvRAvEvFAvIvOvDHA",
  "vYHEvWAWvNUNvKAFvYAvUvJIIMvCHIvHAvQAAFvGAvNYAvTUvNHAvVAvKHAvGBEvZALvKPOvSHAgSMALL LETTER ALIF",
  "tDAALItLAAMtMIIMtBAtSINNYIIYHEtPEtBHEtRAtEtFAtItOtDHAtYHEtWAWtNUNtKAFtYAtUtJIIMtCHItHAtQAAF",
  "tGAtNYAtTUtNHAtVAtKHAtGBEtZALtKPOtSHAgALIF LENGTHENERgVOWEL LENGTHENERgGEMINATION MARKgHAMZA",
  "gCONSONANT MODIFIERgGEMINATE CONSONANT MODIFIERgNUKTAhASALIZATION MARK*4gDIGIT ZEROmONEmTWO",
  "nHREEmFOURnIVEmSIXnEVENmEIGHTmNINE*4gINITIAL EXCLAMATION MARKoQUESTION MARK",
  "*785aINDIC SIYAQ NUMBER ONEtTWOuHREEtFOURuIVEtSIXuEVENtEIGHTtNINEtTENuWENTYuHIRTYtFORTYuIFTY",
  "tSIXTYuEVENTYtEIGHTYtNINETYtONE HUNDREDtTWO HUNDREDuHREE HUNDREDtFOUR HUNDREDuIVE HUNDRED",
  "tSIX HUNDREDuEVEN HUNDREDtEIGHT HUNDREDtNINE HUNDREDtONE THOUSANDtTWO THOUSANDuHREE THOUSAND",
  "tFOUR THOUSANDuIVE THOUSANDtSIX THOUSANDuEVEN THOUSANDtEIGHT THOUSANDtNINE THOUSAND",
  "tTEN THOUSANDuWENTY THOUSANDuHIRTY THOUSANDtFORTY THOUSANDuIFTY THOUSANDtSIXTY THOUSAND",
  "uEVENTY THOUSANDtEIGHTY THOUSANDtNINETY THOUSANDtLAKHxANmLAKH MARKmNUMBER KARORyaAN",
  "tPREFIXED ONEyeTWOyfHREEyeFOURyfIVEyeSIXyfEVENyeEIGHTyeNINEmPLACEHOLDERmFRACTION ONE QUARTER",
  "ybHALFvTHREE QUARTERSmRUPEE MARKmNUMBER ALTERNATE ONEyfTWOygEN THOUSANDmALTERNATE LAKH MARK",
  "*76aOTTOMAN SIYAQ NUMBER ONEvTWOwHREEvFOURwIVEvSIXwEVENvEIGHTvNINEvTENwWENTYwHIRTYvFORTYwIFTY",
  "vSIXTYwEVENTYvEIGHTYvNINETYvONE HUNDREDvTWO HUNDREDwHREE HUNDREDvFOUR HUNDREDwIVE HUNDRED",
  "vSIX HUNDREDwEVEN HUNDREDvEIGHT HUNDREDvNINE HUNDREDvONE THOUSANDvTWO THOUSANDwHREE THOUSAND",
  "vFOUR THOUSANDwIVE THOUSANDvSIX THOUSANDwEVEN THOUSANDvEIGHT THOUSANDvNINE THOUSAND",
  "vTEN THOUSANDwWENTY THOUSANDwHIRTY THOUSANDvFORTY THOUSANDwIFTY THOUSANDvSIXTY THOUSAND",
  "wEVENTY THOUSANDvEIGHTY THOUSANDvNINETY THOUSANDoMARRATANoALTERNATE NUMBER TWOyiHREEyhFOUR",
  "yiIVEyhSIXyiEVENyhEIGHTyhNINEyhTENyhFOUR HUNDREDyhSIX HUNDREDyhTWO THOUSANDyiEN THOUSAND",
  "oFRACTION ONE HALFydSIXTH*194aARABIC MATHEMATICAL ALEFuBEHuJEEMuDAL*1uWAWuZAINuHAHuTAHuYEH",
  "uKAFuLAMuMEEMuNOONuSEENuAINuFEHuSADuQAFuREHuSHEENuTEHvHEHuKHAHuTHALuDADuZAHuGHAINuDOTLESS BEH",
  "yeNOONyeFEHyeQAF*1uINITIAL BEHyeJEEM*1yeHEH*2yfAH*1yeYEHyeKAFyeLAMyeMEEMyeNOONyeSEENyeAIN",
  "yeFEHyeSADyeQAF*1yeSHEENyeTEHyfHEHyeKHAH*1yeDAD*1yeGHAIN*6uTAILED JEEM*4ydHAH*1ydYEH*1ydLAM",
  "*1ydNOONydSEENydAIN*1ydSADydQAF*1ydSHEEN*2ydKHAH*1ydDAD*1ydGHAIN*1ydDOTLESS NOON*1ylQAF",
  "*1uSTRETCHED BEHygJEEM*1ygHEH*2yhAHygTAHygYEHygKAF*1ygMEEMygNOONygSEENygAINygFEHygSADygQAF",
  "*1ygSHEENygTEHyhHEHygKHAH*1ygDADygZAHygGHAINygDOTLESS BEH*1yoFEH*1uLOOPED ALEFydBEHydJEEM",
  "ydDALydHEHydWAWydZAINydHAHydTAHydYEH*1ydLAMydMEEMydNOONydSEENydAINydFEHydSADydQAFydREHydSHEEN",
  "ydTEHyeHEHydKHAHydTHALydDADydZAHydGHAIN*5uDOUBLE-STRUCK BEHykJEEMykDAL*1ykWAWykZAINykHAHykTAH",
  "ykYEH*1ykLAMykMEEMykNOONykSEENykAINykFEHykSADykQAFykREHykSHEENykTEHylHEHykKHAHykTHALykDAD",
  "ykZAHykGHAIN*52uOPERATOR MEEM WITH HAH WITH TATWEELyfHAH WITH DAL*270aMAHJONG TILE EAST WIND",
  "nSOUTH WINDnWEST WINDnNORTH WINDnRED DRAGONnGREEN DRAGONnWHITE DRAGONnONE OF CHARACTERS",
  "nTWO OF CHARACTERSoHREE OF CHARACTERSnFOUR OF CHARACTERSoIVE OF CHARACTERSnSIX OF CHARACTERS",
  "oEVEN OF CHARACTERSnEIGHT OF CHARACTERSnNINE OF CHARACTERSnONE OF BAMBOOSnTWO OF BAMBOOS",
  "oHREE OF BAMBOOSnFOUR OF BAMBOOSoIVE OF BAMBOOSnSIX OF BAMBOOSoEVEN OF BAMBOOS",
  "nEIGHT OF BAMBOOSnNINE OF BAMBOOSnONE OF CIRCLESnTWO OF CIRCLESoHREE OF CIRCLES",
  "nFOUR OF CIRCLESoIVE OF CIRCLESnSIX OF CIRCLESoEVEN OF CIRCLESnEIGHT OF CIRCLES",
  "nNINE OF CIRCLESnPLUMnORCHIDnBAMBOOnCHRYSANTHEMUMnSPRINGoUMMERnAUTUMNnWINTERnJOKERnBACK",
  "*4aDOMINO TILE HORIZONTAL BACKw-00-00yd1yd2yd3yd4yd5yd6ya1-00yd1yd2yd3yd4yd5yd6ya2-00yd1yd2",
  "yd3yd4yd5yd6ya3-00yd1yd2yd3yd4yd5yd6ya4-00yd1yd2yd3yd4yd5yd6ya5-00yd1yd2yd3yd4yd5yd6ya6-00yd1",
  "yd2yd3yd4yd5yd6mVERTICAL BACKu-00-00yb1yb2yb3yb4yb5yb6w1-00yb1yb2yb3yb4yb5yb6w2-00yb1yb2yb3",
  "yb4yb5yb6w3-00yb1yb2yb3yb4yb5yb6w4-00yb1yb2yb3yb4yb5yb6w5-00yb1yb2yb3yb4yb5yb6w6-00yb1yb2yb3",
  "yb4yb5yb6*12aPLAYING CARD BACKnACE OF SPADESnTWO OF SPADESoHREE OF SPADESnFOUR OF SPADES",
  "oIVE OF SPADESnSIX OF SPADESoEVEN OF SPADESnEIGHT OF SPADESnNINE OF SPADESnTEN OF SPADES",
  "nJACK OF SPADESnKNIGHT OF SPADESnQUEEN OF SPADESnKING OF SPADES*2nACE OF HEARTSnTWO OF HEARTS",
  "oHREE OF HEARTSnFOUR OF HEARTSoIVE OF HEARTSnSIX OF HEARTSoEVEN OF HEARTSnEIGHT OF HEARTS",
  "nNINE OF HEARTSnTEN OF HEARTSnJACK OF HEARTSnKNIGHT OF HEARTSnQUEEN OF HEARTSnKING OF HEARTS",
  "nRED JOKER*1nACE OF DIAMONDSnTWO OF DIAMONDSoHREE OF DIAMONDSnFOUR OF DIAMONDS",
  "oIVE OF DIAMONDSnSIX OF DIAMONDSoEVEN OF DIAMONDSnEIGHT OF DIAMONDSnNINE OF DIAMONDS",
  "nTEN OF DIAMONDSnJACK OF DIAMONDSnKNIGHT OF DIAMONDSnQUEEN OF DIAMONDSnKING OF DIAMONDS",
  "nBLACK JOKER*1nACE OF CLUBSnTWO OF CLUBSoHREE OF CLUBSnFOUR OF CLUBSoIVE OF CLUBS",
  "nSIX OF CLUBSoEVEN OF CLUBSnEIGHT OF CLUBSnNINE OF CLUBSnTEN OF CLUBSnJACK OF CLUBS",
  "nKNIGHT OF CLUBSnQUEEN OF CLUBSnKING OF CLUBSnWHITE JOKERnFOOLnTRUMP-1t2t3t4t5t6t7t8t9t10u1u2",
  "u3u4u5u6u7u8u9t20u1*10aDIGIT ZERO FULL STOPlCOMMAgONE COMMAgTWO COMMAhHREE COMMAgFOUR COMMA",
  "hIVE COMMAgSIX COMMAhEVEN COMMAgEIGHT COMMAgNINE COMMAcNGBAT CIRCLED SANS-SERIF DIGIT ZERO",
  "iNEGATIVE CIRCLED SANS-SERIF DIGIT ZEROaCIRCLED ZERO WITH SLASHiANTICLOCKWISE ARROW",
  "iDOLLAR SIGN WITH OVERLAID BACKSLASHaPARENTHESIZED LATIN CAPITAL LETTER AylBylCylDylEylFylG",
  "ylHylIylJylKylLylMylNylOylPylQylRylSylTylUylVylWylXylYylZ",
  "aTORTOISE SHELL BRACKETED LATIN CAPITAL LETTER SaCIRCLED ITALIC LATIN CAPITAL LETTER CymRiCD",
  "iWZbOPYLEFT SYMBOLaSQUARED LATIN CAPITAL LETTER AyfByfCyfDyfEyfFyfGyfHyfIyfJyfKyfLyfMyfNyfO",
  "yfPyfQyfRyfSyfTyfUyfVyfWyfXyfYyfZiHViMViSDjSiPPViWCaNEGATIVE CIRCLED LATIN CAPITAL LETTER A",
  "yoByoCyoDyoEyoFyoGyoHyoIyoJyoKyoLyoMyoNyoOyoPyoQyoRyoSyoTyoUyoVyoWyoXyoYyoZaRAISED MC SIGN",
  "iD SIGNiR SIGNaCIRCLED CCj WITH OVERLAID BACKSLASHiHUMAN FIGURE",
  "aNEGATIVE SQUARED LATIN CAPITAL LETTER AyoByoCyoDyoEyoFyoGyoHyoIyoJyoKyoLyoMyoNyoOyoPyoQyoR",
  "yoSyoTyoUyoVyoWyoXyoYyoZaCROSSED NEGATIVE SQUARED LATIN CAPITAL LETTER PaNEGATIVE SQUARED IC",
  "rPArSArABrWCaSQUARE DJgD CLjOOLiFREEiIDiNEWjGiOKiSOSiUP WITH EXCLAMATION MARKiVSiTHREE D",
  "iSECOND SCREENiTWO KiFOUR KiEIGHT KiFIVE POINT ONEiSEVEN POINT ONEiTWENTY-TWO POINT TWO",
  "iSIXTY PiONE HUNDRED TWENTY PiLATIN SMALL LETTER DiHCjDRjI-RESiLOSSLESSiSHViUHDiVOD",
  "aMASK WORK SYMBOL*56aREGIONAL INDICATOR SYMBOL LETTER AyjByjCyjDyjEyjFyjGyjHyjIyjJyjKyjLyjM",
  "yjNyjOyjPyjQyjRyjSyjTyjUyjVyjWyjXyjYyjZaSQUARE HIRAGANA HOKAgD KATAKANA KOKOrSA",
  "*13iCJK UNIFIED IDEOGRAPH-624Byg5B57yh3CCiKATAKANA DEiCJK UNIFIED IDEOGRAPH-4E8Cyg591Ayg89E3",
  "yg5929yg4EA4yg6620yg7121yg6599yg524DyhF8Cyh18Dyg65B0yg521Dyg7D42yh51Fyg8CA9yg58F0yh439yg6F14",
  "yh295yh355yg4E00yj9yg904Ayg5DE6yg4E2Dyg53F3yg6307yg8D70yg6253yg7981yhA7Ayg5408yg6E80yh709yj8",
  "yg7533yg5272yh5B6yg914D*4aTORTOISE SHELL BRACKETED CJK UNIFIED IDEOGRAPH-672Cyx4E09yz8Cyx5B89",
  "yx70B9yx6253yx76D7yx52DDyx6557*7aCIRCLED IDEOGRAPH ADVANTAGEtCCEPT*14aROUNDED SYMBOL FOR FU",
  "tLUtSHOUtXItSHUANGXItCAI*154aCYCLONEaFOGGYaCLOSED UMBRELLAaNIGHT WITH STARS",
  "aSUNRISE OVER MOUNTAINShaCITYSCAPE AT DUSKaSUNSET OVER BUILDINGSaRAINBOWaBRIDGE AT NIGHT",
  "aWATER WAVEaVOLCANOaMILKY WAYaEARTH GLOBE EUROPE-AFRICAmAMERICASnSIA-AUSTRALIA",
  "aGLOBE WITH MERIDIANSaNEW MOON SYMBOLaWAXING CRESCENT MOON SYMBOLaFIRST QUARTER MOON SYMBOL",
  "aWAXING GIBBOUS MOON SYMBOLaFULL MOON SYMBOLaWANING GIBBOUS MOON SYMBOL",
  "aLAST QUARTER MOON SYMBOLaWANING CRESCENT MOON SYMBOLaCRESCENT MOONaNEW MOON WITH FACE",
  "aFIRST QUARTER MOON WITH FACEaLAST QUARTER MOON WITH FACEaFULL MOON WITH FACEaSUN WITH FACE",
  "aGLOWING STARaSHOOTING STARaTHERMOMETERaBLACK DROPLETaWHITE SUNj WITH SMALL CLOUD",
  "kBEHIND CLOUDw WITH RAINaCLOUD WITH RAINlSNOWlLIGHTNINGlTORNADOaFOGaWIND BLOWING FACEaHOT DOG",
  "aTACOaBURRITOaCHESTNUTaSEEDLINGaEVERGREEN TREEaDECIDUOUS TREEaPALM TREEaCACTUSaHOT PEPPER",
  "aTULIPaCHERRY BLOSSOMaROSEaHIBISCUSaSUNFLOWERaBLOSSOMaEAR OF MAIZEhRICEaHERBaFOUR LEAF CLOVER",
  "aMAPLE LEAFaFALLEN LEAFaLEAF FLUTTERING IN WINDaMUSHROOMaTOMATOaAUBERGINEaGRAPESaMELON",
  "aWATERMELONaTANGERINEaLEMONaBANANAaPINEAPPLEaRED APPLEaGREEN APPLEaPEARdCHaCHERRIES",
  "aSTRAWBERRYaHAMBURGERaSLICE OF PIZZAaMEAT ON BONEaPOULTRY LEGaRICE CRACKERfBALLaCOOKED RICE",
  "bURRY AND RICEaSTEAMING BOWLbPAGHETTIaBREADaFRENCH FRIESaROASTED SWEET POTATOaDANGOaODEN",
  "aSUSHIaFRIED SHRIMPbISH CAKE WITH SWIRL DESIGNaSOFT ICE CREAMbHAVED ICEaICE CREAMaDOUGHNUT",
  "aCOOKIEbHOCOLATE BARbANDYaLOLLIPOPaCUSTARDaHONEY POTaSHORTCAKEaBENTO BOXaPOT OF FOODaCOOKING",
  "aFORK AND KNIFEaTEACUP WITHOUT HANDLEaSAKE BOTTLE AND CUPaWINE GLASSaCOCKTAIL GLASS",
  "aTROPICAL DRINKaBEER MUGaCLINKING BEER MUGSaBABY BOTTLEaFORK AND KNIFE WITH PLATE",
  "aBOTTLE WITH POPPING CORKaPOPCORNaRIBBONaWRAPPED PRESENTaBIRTHDAY CAKEaJACK-O-LANTERN",
  "aCHRISTMAS TREEaFATHER CHRISTMASbIREWORKSi SPARKLERaBALLOONaPARTY POPPERaCONFETTI BALL",
  "aTANABATA TREEaCROSSED FLAGSaPINE DECORATIONaJAPANESE DOLLSaCARP STREAMERaWIND CHIME",
  "aMOON VIEWING CEREMONYaSCHOOL SATCHELaGRADUATION CAPaHEART WITH TIP ON THE LEFT",
  "aBOUQUET OF FLOWERSaMILITARY MEDALaREMINDER RIBBONaMUSICAL KEYBOARD WITH JACKS",
  "aSTUDIO MICROPHONEaLEVEL SLIDERaCONTROL KNOBSaBEAMED ASCENDING MUSICAL NOTES",
  "hDESCENDING MUSICAL NOTESaFILM FRAMESaADMISSION TICKETSaCAROUSEL HORSEaFERRIS WHEEL",
  "aROLLER COASTERaFISHING POLE AND FISHaMICROPHONEbOVIE CAMERAaCINEMAaHEADPHONEaARTIST PALETTE",
  "aTOP HATaCIRCUS TENTaTICKETaCLAPPER BOARDaPERFORMING ARTSaVIDEO GAMEaDIRECT HITaSLOT MACHINE",
  "aBILLIARDSaGAME DIEaBOWLINGaFLOWER PLAYING CARDSaMUSICAL NOTEcLTIPLE MUSICAL NOTESaSAXOPHONE",
  "aGUITARaMUSICAL KEYBOARDaTRUMPETaVIOLINaMUSICAL SCOREaRUNNING SHIRT WITH SASH",
  "aTENNIS RACQUET AND BALLaSKI AND SKI BOOTaBASKETBALL AND HOOPaCHEQUERED FLAGaSNOWBOARDER",
  "aRUNNERaSURFERbPORTS MEDALaTROPHYaHORSE RACINGaAMERICAN FOOTBALLaRUGBY FOOTBALLaSWIMMER",
  "aWEIGHT LIFTERaGOLFERaRACING MOTORCYCLEhCARaCRICKET BAT AND BALLaVOLLEYBALL",
  "aFIELD HOCKEY STICK AND BALLaICE HOCKEY STICK AND PUCKaTABLE TENNIS PADDLE AND BALL",
  "aSNOW CAPPED MOUNTAINaCAMPINGaBEACH WITH UMBRELLAbUILDING CONSTRUCTIONaHOUSE BUILDINGS",
  "aCITYSCAPEaDERELICT HOUSE BUILDINGaCLASSICAL BUILDINGaDESERTg ISLANDaNATIONAL PARKaSTADIUM",
  "aHOUSE BUILDINGgWITH GARDENaOFFICE BUILDINGaJAPANESE POST OFFICEaEUROPEAN POST OFFICE",
  "aHOSPITALaBANKaAUTOMATED TELLER MACHINEaHOTELaLOVE HOTELaCONVENIENCE STOREaSCHOOL",
  "aDEPARTMENT STOREaFACTORYaIZAKAYA LANTERNaJAPANESE CASTLEaEUROPEAN CASTLEaWHITE PENNANT",
  "aBLACK PENNANTaWAVING WHITE FLAGhBLACK FLAGaROSETTEaBLACK ROSETTEaLABEL",
  "aBADMINTON RACQUET AND SHUTTLECOCKbOW AND ARROWaAMPHORAaEMOJI MODIFIER FITZPATRICK TYPE-1-2",
  "yi3yi4yi5yi6aRATaMOUSEaOXaWATER BUFFALOaCOWaTIGERaLEOPARDaRABBITaCATaDRAGONaCROCODILEaWHALE",
  "aSNAILdKEaHORSEaRAMaGOATaSHEEPaMONKEYaROOSTERaCHICKENaDOGaPIGaBOARaELEPHANTaOCTOPUS",
  "aSPIRAL SHELLaBUGaANTaHONEYBEEaLADY BEETLEaFISHaTROPICAL FISHaBLOWFISHaTURTLEaHATCHING CHICK",
  "aBABY CHICKaFRONT-FACING BABY CHICKaBIRDaPENGUINaKOALAaPOODLEaDROMEDARY CAMELaBACTRIAN CAMEL",
  "aDOLPHINaMOUSE FACEaCOW FACEaTIGER FACEaRABBIT FACEaCAT FACEaDRAGON FACEaSPOUTING WHALE",
  "aHORSE FACEaMONKEY FACEaDOG FACEaPIG FACEaFROG FACEaHAMSTER FACEaWOLF FACEaBEAR FACE",
  "aPANDA FACEbIG NOSEbAW PRINTSaCHIPMUNKaEYESdbARaNOSEaMOUTHaTONGUE",
  "aWHITE UP POINTING BACKHAND INDEXgDOWN POINTING BACKHAND INDEXgLEFT POINTING BACKHAND INDEX",
  "gRIGHT POINTING BACKHAND INDEXaFISTED HAND SIGNaWAVING HAND SIGNaOK HAND SIGNaTHUMBS UP SIGN",
  "hDOWN SIGNaCLAPPING HANDS SIGNaOPEN HANDS SIGNaCROWNaWOMANS HATaEYEGLASSESaNECKTIEaT-SHIRT",
  "aJEANSaDRESSaKIMONOaBIKINIaWOMANS CLOTHESaPURSEaHANDBAGaPOUCHaMANS SHOEaATHLETIC SHOE",
  "aHIGH-HEELED SHOEaWOMANS SANDALhBOOTSaFOOTPRINTSaBUST IN SILHOUETTEeS IN SILHOUETTEbOYaGIRL",
  "aMANaWOMANaFAMILYaMAN AND WOMAN HOLDING HANDSaTWO MEN HOLDING HANDSeWOMEN HOLDING HANDS",
  "aPOLICE OFFICERaWOMAN WITH BUNNY EARSaBRIDE WITH VEILaPERSON WITH BLOND HAIR",
  "aMAN WITH GUA PI MAOjTURBANaOLDER MANgWOMANaBABYaCONSTRUCTION WORKERaPRINCESSaJAPANESE OGRE",
  "jGOBLINaGHOSTaBABY ANGELaEXTRATERRESTRIAL ALIENaALIEN MONSTERaIMPaSKULL",
  "aINFORMATION DESK PERSONaGUARDSMANaDANCERaLIPSTICKaNAIL POLISHaFACE MASSAGEaHAIRCUT",
  "aBARBER POLEaSYRINGEaPILLaKISS MARKaLOVE LETTERaRINGaGEM STONEaKISSaBOUQUETaCOUPLE WITH HEART",
  "aWEDDINGaBEATING HEARTbROKEN HEARTaTWO HEARTSaSPARKLING HEARTaGROWING HEARTaHEART WITH ARROW",
  "aBLUE HEARTaGREEN HEARTaYELLOW HEARTaPURPLE HEARTaHEART WITH RIBBONaREVOLVING HEARTS",
  "aHEART DECORATIONaDIAMOND SHAPE WITH A DOT INSIDEaELECTRIC LIGHT BULBaANGER SYMBOLaBOMB",
  "aSLEEPING SYMBOLaCOLLISION SYMBOLaSPLASHING SWEAT SYMBOLaDROPLETbASH SYMBOLaPILE OF POO",
  "aFLEXED BICEPSaDIZZY SYMBOLaSPEECH BALLOONaTHOUGHT BALLOONaWHITE FLOWERaHUNDRED POINTS SYMBOL",
  "aMONEY BAGaCURRENCY EXCHANGEaHEAVY DOLLAR SIGNaCREDIT CARDaBANKNOTE WITH YEN SIGNoDOLLAR SIGN",
  "oEURO SIGNoPOUND SIGNaMONEY WITH WINGSaCHART WITH UPWARDS TREND AND YEN SIGNaSEAT",
  "aPERSONAL COMPUTERaBRIEFCASEaMINIDISCaFLOPPY DISKaOPTICAL DISCaDVDaFILE FOLDER",
  "aOPEN FILE FOLDERaPAGE WITH CURLfFACING UPaCALENDARaTEAR-OFF CALENDARaCARD INDEX",
  "bHART WITH UPWARDS TRENDlDOWNWARDS TRENDaBAR CHARTaCLIPBOARDaPUSHPINaROUND PUSHPINaPAPERCLIP",
  "aSTRAIGHT RULERaTRIANGULAR RULERaBOOKMARK TABSaLEDGERaNOTEBOOKi WITH DECORATIVE COVER",
  "aCLOSED BOOKaOPEN BOOKaGREEN BOOKaBLUE BOOKaORANGE BOOKaBOOKSaNAME BADGEaSCROLLaMEMO",
  "aTELEPHONE RECEIVERaPAGERaFAX MACHINEaSATELLITE ANTENNAaPUBLIC ADDRESS LOUDSPEAKER",
  "aCHEERING MEGAPHONEaOUTBOX TRAYaINBOX TRAYaPACKAGEaE-MAIL SYMBOLaINCOMING ENVELOPE",
  "aENVELOPE WITH DOWNWARDS ARROW ABOVEaCLOSED MAILBOX WITH LOWERED FLAGuRAISED FLAG",
  "aOPEN MAILBOX WITH RAISED FLAGsLOWERED FLAGaPOSTBOXeAL HORNaNEWSPAPERaMOBILE PHONE",
  "m WITH RIGHTWARDS ARROW AT LEFTaVIBRATION MODEaMOBILE PHONE OFFaNO MOBILE PHONES",
  "aANTENNA WITH BARSaCAMERAg WITH FLASHaVIDEO CAMERAaTELEVISIONaRADIOaVIDEOCASSETTE",
  "aFILM PROJECTORaPORTABLE STEREObRAYER BEADSaTWISTED RIGHTWARDS ARROWS",
  "aCLOCKWISE RIGHTWARDS AND LEFTWARDS OPEN CIRCLE ARROWSzd WITH CIRCLED ONE OVERLAY",
  "kDOWNWARDS AND UPWARDS OPEN CIRCLE ARROWS",
  "aANTICLOCKWISE DOWNWARDS AND UPWARDS OPEN CIRCLE ARROWSaLOW BRIGHTNESS SYMBOL",
  "aHIGH BRIGHTNESS SYMBOLaSPEAKER WITH CANCELLATION STROKEhh WITH ONE SOUND WAVE",
  "nTHREE SOUND WAVESaBATTERYaELECTRIC PLUGaLEFT-POINTING MAGNIFYING GLASS",
  "aRIGHT-POINTING MAGNIFYING GLASSaLOCK WITH INK PENaCLOSED LOCK WITH KEYaKEYaLOCKaOPEN LOCK",
  "aBELLe WITH CANCELLATION STROKEbOOKMARKaLINK SYMBOLaRADIO BUTTON",
  "aBACK WITH LEFTWARDS ARROW ABOVEaEND WITH LEFTWARDS ARROW ABOVE",
  "aON WITH EXCLAMATION MARK WITH LEFT RIGHT ARROW ABOVEaSOON WITH RIGHTWARDS ARROW ABOVE",
  "aTOP WITH UPWARDS ARROW ABOVEaNO ONE UNDER EIGHTEEN SYMBOLaKEYCAP TEN",
  "aINPUT SYMBOL FOR LATIN CAPITAL LETTERSxSMALL LETTERSrNUMBERSrSYMBOLSrLATIN LETTERSaFIRE",
  "aELECTRIC TORCHaWRENCHaHAMMERaNUT AND BOLTaHOCHOaPISTOLaMICROSCOPEaTELESCOPEaCRYSTAL BALL",
  "aSIX POINTED STAR WITH MIDDLE DOTaJAPANESE SYMBOL FOR BEGINNERaTRIDENT EMBLEM",
  "aBLACK SQUARE BUTTONaWHITE SQUARE BUTTONaLARGE RED CIRCLEgBLUE CIRCLEgORANGE DIAMOND",
  "gBLUE DIAMONDaSMALL ORANGE DIAMONDgBLUE DIAMONDaUP-POINTING RED TRIANGLE",
  "aDOWN-POINTING RED TRIANGLEaUP-POINTING SMALL RED TRIANGLEaDOWN-POINTING SMALL RED TRIANGLE",
  "aLOWER RIGHT SHADOWED WHITE CIRCLEaUPPER RIGHT SHADOWED WHITE CIRCLEaCIRCLED CROSS POMMEE",
  "bROSS POMMEE WITH HALF-CIRCLE BELOWmaNOTCHED LEFT SEMICIRCLE WITH THREE DOTS",
  "iRIGHT SEMICIRCLE WITH THREE DOTSaSYMBOL FOR MARKS CHAPTERaWHITE LATIN CROSS",
  "aHEAVY LATIN CROSSaCELTIC CROSSaOM SYMBOLaDOVE OF PEACEaKAABAaMOSQUEaSYNAGOGUE",
  "aMENORAH WITH NINE BRANCHESaBOWL OF HYGIEIAaCLOCK FACE ONE OCLOCKlTWO OCLOCKmHREE OCLOCK",
  "lFOUR OCLOCKmIVE OCLOCKlSIX OCLOCKmEVEN OCLOCKlEIGHT OCLOCKlNINE OCLOCKlTEN OCLOCK",
  "lELEVEN OCLOCKlTWELVE OCLOCKlONE-THIRTYlTWO-THIRTYmHREE-THIRTYlFOUR-THIRTYmIVE-THIRTY",
  "lSIX-THIRTYmEVEN-THIRTYlEIGHT-THIRTYlNINE-THIRTYlTEN-THIRTYlELEVEN-THIRTYlTWELVE-THIRTY",
  "aRIGHT SPEAKERn WITH ONE SOUND WAVEtTHREE SOUND WAVESaBULLHORNi WITH SOUND WAVESaRINGING BELL",
  "aBOOKaCANDLEaMANTELPIECE CLOCKaBLACK SKULL AND CROSSBONESaNO PIRACYaHOLE",
  "aMAN IN BUSINESS SUIT LEVITATINGaSLEUTH OR SPYaDARK SUNGLASSESaSPIDERg WEBaJOYSTICK",
  "aMAN DANCINGaLEFT HAND TELEPHONE RECEIVERaTELEPHONE RECEIVER WITH PAGE",
  "aRIGHT HAND TELEPHONE RECEIVERaWHITE TOUCHTONE TELEPHONEaBLACK TOUCHTONE TELEPHONE",
  "aTELEPHONE ON TOP OF MODEMaCLAMSHELL MOBILE PHONEaBACK OF ENVELOPEaSTAMPED ENVELOPE",
  "aENVELOPE WITH LIGHTNINGaFLYING ENVELOPEaPEN OVER STAMPED ENVELOPEaLINKED PAPERCLIPS",
  "aBLACK PUSHPINaLOWER LEFT PENCILlBALLPOINT PENlFOUNTAIN PENlPAINTBRUSHlCRAYON",
  "bEFT WRITING HANDaTURNED OK HAND SIGNaRAISED HAND WITH FINGERS SPLAYED",
  "bEVERSED RAISED HAND WITH FINGERS SPLAYEDjTHUMBS UP SIGNqDOWN SIGNjVICTORY HAND",
  "jHAND WITH MIDDLE FINGER EXTENDEDbAISED HAND WITH PART BETWEEN MIDDLE AND RING FINGERS",
  "aWHITE DOWN POINTING LEFT HAND INDEXaSIDEWAYS WHITE LEFT POINTING INDEXpRIGHT POINTING INDEX",
  "jBLACK LEFT POINTING INDEXpRIGHT POINTING INDEXaBLACK LEFT POINTING BACKHAND INDEX",
  "gRIGHT POINTING BACKHAND INDEXaSIDEWAYS WHITE UP POINTING INDEXpDOWN POINTING INDEX",
  "jBLACK UP POINTING INDEXpDOWN POINTING INDEXaBLACK UP POINTING BACKHAND INDEX",
  "gDOWN POINTING BACKHAND INDEXgHEARTaDESKTOP COMPUTERaKEYBOARD AND MOUSE",
  "aTHREE NETWORKED COMPUTERSaPRINTERbOCKET CALCULATORaBLACK HARD SHELL FLOPPY DISK",
  "aWHITE HARD SHELL FLOPPY DISKaSOFT SHELL FLOPPY DISKaTAPE CARTRIDGEaWIRED KEYBOARD",
  "aONE BUTTON MOUSEaTWO BUTTON MOUSEbHREE BUTTON MOUSEbRACKBALLaOLD PERSONAL COMPUTERaHARD DISK",
  "aSCREENaPRINTER ICONaFAX ICONaOPTICAL DISC ICONaDOCUMENT WITH TEXTs AND PICTUREoPICTURE",
  "aFRAME WITH PICTURElTILESlAN XaBLACK FOLDERaFOLDERaOPEN FOLDERaCARD INDEX DIVIDERSfFILE BOX",
  "aFILE CABINETaEMPTY NOTEk PAGEnDaNOTEe PAGEhDaEMPTY DOCUMENTgPAGEkSaDOCUMENTaPAGEeS",
  "aWASTEBASKETaSPIRAL NOTE PADhCALENDAR PADaDESKTOP WINDOWaMINIMIZEbAXIMIZEaOVERLAP",
  "aCLOCKWISE RIGHT AND LEFT SEMICIRCLE ARROWSbANCELLATION XaINCREASE FONT SIZE SYMBOL",
  "aDECREASE FONT SIZE SYMBOLaCOMPRESSIONaOLD KEYaROLLED-UP NEWSPAPERaPAGE WITH CIRCLED TEXT",
  "aSTOCK CHARTaDAGGER KNIFEaLIPSaSPEAKING HEAD IN SILHOUETTEaTHREE RAYS ABOVElBELOWlLEFTlRIGHT",
  "aLEFT SPEECH BUBBLEaRIGHT SPEECH BUBBLEaTWO SPEECH BUBBLESbHREE SPEECH BUBBLES",
  "aLEFT THOUGHT BUBBLEaRIGHT THOUGHT BUBBLEaLEFT ANGER BUBBLEaRIGHT ANGER BUBBLEaMOOD BUBBLE",
  "aLIGHTNING MOOD BUBBLEoaBALLOT BOX WITH BALLOThSCRIPT XhBOX WITH SCRIPT XjLD SCRIPT X",
  "jX WITH BOLD SCRIPT XaLIGHT CHECK MARKaBALLOT BOX WITH BOLD CHECKaWORLD MAPaMOUNT FUJI",
  "aTOKYO TOWERaSTATUE OF LIBERTYbILHOUETTE OF JAPANaMOYAIaGRINNING FACEn WITH SMILING EYES",
  "aFACE WITH TEARS OF JOYaSMILING FACE WITH OPEN MOUTHye AND SMILING EYESyjCOLD SWEAT",
  "yjTIGHTLY-CLOSED EYESsHALOtORNSaWINKING FACEaSMILING FACE WITH SMILING EYES",
  "aFACE SAVOURING DELICIOUS FOODaRELIEVED FACEaSMILING FACE WITH HEART-SHAPED EYESsSUNGLASSES",
  "dRKING FACEaNEUTRAL FACEaEXPRESSIONLESS FACEaUNAMUSED FACEaFACE WITH COLD SWEATaPENSIVE FACE",
  "aCONFUSED FACEeOUNDED FACEaKISSING FACEaFACE THROWING A KISSaKISSING FACE WITH SMILING EYES",
  "sCLOSED EYESaFACE WITH STUCK-OUT TONGUEyc AND WINKING EYEyhTIGHTLY-CLOSED EYES",
  "aDISAPPOINTED FACEaWORRIED FACEaANGRY FACEaPOUTING FACEaCRYING FACEaPERSEVERING FACE",
  "aFACE WITH LOOK OF TRIUMPHaDISAPPOINTED BUT RELIEVED FACEaFROWNING FACE WITH OPEN MOUTH",
  "aANGUISHED FACEaFEARFUL FACEaWEARY FACEaSLEEPY FACEaTIRED FACEaGRIMACING FACE",
  "aLOUDLY CRYING FACEaFACE WITH OPEN MOUTHaHUSHED FACEaFACE WITH OPEN MOUTH AND COLD SWEAT",
  "fSCREAMING IN FEARaASTONISHED FACEaFLUSHED FACEaSLEEPING FACEaDIZZY FACEaFACE WITHOUT MOUTH",
  "j MEDICAL MASKaGRINNING CAT FACE WITH SMILING EYESaCAT FACE WITH TEARS OF JOY",
  "aSMILING CAT FACE WITH OPEN MOUTHwHEART-SHAPED EYESaCAT FACE WITH WRY SMILE",
  "aKISSING CAT FACE WITH CLOSED EYESaPOUTING CAT FACEaCRYING CAT FACEaWEARY CAT FACE",
  "aSLIGHTLY FROWNING FACEjSMILING FACEaUPSIDE-DOWN FACEaFACE WITH ROLLING EYESkNO GOOD GESTURE",
  "kOK GESTUREaPERSON BOWING DEEPLYaSEE-NO-EVIL MONKEYaHEAR-NO-EVIL MONKEYaSPEAK-NO-EVIL MONKEY",
  "aHAPPY PERSON RAISING ONE HANDaPERSON RAISING BOTH HANDS IN CELEBRATIONhFROWNING",
  "hWITH POUTING FACEmFOLDED HANDSaNORTH WEST POINTING LEAFaSOUTH WEST POINTING LEAF",
  "aNORTH EAST POINTING LEAFaSOUTH EAST POINTING LEAFaTURNED NORTH WEST POINTING LEAF",
  "hSOUTH WEST POINTING LEAFhNORTH EAST POINTING LEAFhSOUTH EAST POINTING LEAF",
  "aNORTH WEST POINTING VINE LEAFaSOUTH WEST POINTING VINE LEAFaNORTH EAST POINTING VINE LEAF",
  "aSOUTH EAST POINTING VINE LEAFaHEAVY NORTH WEST POINTING VINE LEAF",
  "gSOUTH WEST POINTING VINE LEAFgNORTH EAST POINTING VINE LEAFgSOUTH EAST POINTING VINE LEAF",
  "aNORTH WEST POINTING BUDaSOUTH WEST POINTING BUDaNORTH EAST POINTING BUD",
  "aSOUTH EAST POINTING BUDaHEAVY NORTH WEST POINTING BUDgSOUTH WEST POINTING BUD",
  "gNORTH EAST POINTING BUDgSOUTH EAST POINTING BUDbOLLOW QUILT SQUARE ORNAMENT"]

end LintScaffold.Text.CharName
