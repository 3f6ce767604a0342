/-!
# Names of characters, ninth part

The names of the characters from U+11238 to U+16F18, in the shortened form of
character names.
-/

namespace LintScaffold.Text.CharName

/-- The rows of names from U+11238 on. -/
def ninthRows : List String := [
  "hDANDAiOUBLE DANDAhWORD SEPARATORhSECTION MARKhDOUBLE SECTION MARKhABBREVIATION SIGN",
  "hSIGN SUKUN*65aMULTANI LETTER ApIpUpEpKAqHApGA*1qHA*1pCAqHApJAqJA*1pNYApTTArHApDDArDArHApNNA",
  "pTAqHApDAqHApNApPAqHApBA*1qHApMApYApRApLApVApSApHApRRAqHAiSECTION MARK*6aKHUDAWADI LETTER AsA",
  "rIsIrUsUrErAIrOrAUrKAsHArGAsGAsHArNGArCAsHArJAsJAsHArNYArTTAtHArDDAtDArRRArDDHArNNArTAsHArDA",
  "sHArNArPAsHArBAsBAsHArMArYArRArLArVArSHAsArHAkSIGN ANUSVARAkVOWEL SIGN AAvIwIvUwUvEvAIvOvAU",
  "kSIGN NUKTApVIRAMA*5kDIGIT ZEROqONEqTWOrHREEqFOURrIVEqSIXrEVENqEIGHTqNINE",
  "*6aGRANTHA SIGN COMBINING ANUSVARA ABOVEoANDRABINDUnANUSVARAnVISARGA*1iLETTER AqApIqIpUqU",
  "pVOCALIC RxL*2pEEpAI*2pOOpAUpKAqHApGAqHApNGApCAqHApJAqHApNYApTTArHApDDArHApNNApTAqHApDAqHApNA",
  "*1pPAqHApBAqHApMApYApRA*1pLAqLA*1pVApSHAqSAqApHA*1aCOMBINING BINDU BELOWaGRANTHA SIGN NUKTA",
  "nAVAGRAHAiVOWEL SIGN AAtIuItUuUtVOCALIC RyeR*2tEEtAI*2tOOtAUiSIGN VIRAMA*2iOM",
  "*6iAU LENGTH MARK*5iSIGN PLUTAiLETTER VEDIC ANUSVARAvDOUBLE ANUSVARAqOCALIC RRxLL",
  "iVOWEL SIGN VOCALIC LyeL*2aCOMBINING GRANTHA DIGIT ZEROyaONEyaTWOybHREEyaFOURybIVEyaSIX",
  "*3sLETTER AybKAybNAybVIybPA*139aNEWA LETTER AnAmInImUnUmVOCALIC RvRuLvLmEmAImOmAUmKAnHAmGAnHA",
  "mNGAoHAmCAnHAmJAnHAmNYAoHAmTTAoHAmDDAoHAmNNAmTAnHAmDAnHAmNAnHAmPAnHAmBAnHAmMAnHAmYAmRAnHAmLA",
  "nHAmWAmSHAnSAnAmHAfVOWEL SIGN AAqIrIqUrUqVOCALIC RybRyaLybLqEqAIqOqAUfSIGN VIRAMAkCANDRABINDU",
  "kANUSVARAkVISARGAkNUKTAkAVAGRAHAkFINAL ANUSVARAfOMfSIDDHIfDANDAgOUBLE DANDAfCOMMAfGAP FILLER",
  "fABBREVIATION SIGNfDIGIT ZEROlONElTWOmHREElFOURmIVElSIXmEVENlEIGHTlNINEgOUBLE COMMA",
  "fPLACEHOLDER MARK*1fINSERTION SIGNfSANDHI MARKfLETTER VEDIC ANUSVARAfSIGN JIHVAMULIYA",
  "kUPADHMANIYA*30aTIRHUTA ANJIiLETTER AqApIqIpUqUpVOCALIC RyaRxLyaLpEpAIpOpAUpKAqHApGAqHApNGA",
  "pCAqHApJAqHApNYApTTArHApDDArHApNNApTAqHApDAqHApNApPAqHApBAqHApMApYApRApLApVApSHAqSAqApHA",
  "iVOWEL SIGN AAtIuItUuUtVOCALIC RyeRydLyeLtEtSHORT EtAItOtSHORT OtAUiSIGN CANDRABINDUnANUSVARA",
  "nVISARGApRAMAnNUKTAnAVAGRAHAiGVANGiABBREVIATION SIGNiOM*8iDIGIT ZEROoONEoTWOpHREEoFOURpIVE",
  "oSIXpEVENoEIGHToNINE*166aSIDDHAM LETTER AqApIqIpUqUpVOCALIC RyaRxLyaLpEpAIpOpAUpKAqHApGAqHA",
  "pNGApCAqHApJAqHApNYApTTArHApDDArHApNNApTAqHApDAqHApNApPAqHApBAqHApMApYApRApLApVApSHAqSAqApHA",
  "iVOWEL SIGN AAtIuItUuUtVOCALIC RyeR*2tEtAItOtAUiSIGN CANDRABINDUnANUSVARAnVISARGApRAMAnNUKTA",
  "nSIDDHAMiDANDAjOUBLE DANDAiSEPARATOR DOTsBARiREPETITION MARK-1ya2ya3iEND OF TEXT MARK",
  "iSECTION MARK WITH TRIDENT AND U-SHAPED ORNAMENTSyoDOTTED CRESCENTS",
  "ycRAYS AND DOTTED CRESCENTSysDOUBLE CRESCENTSysTRIPLE CRESCENTSvDOUBLE RINGyi WITH RAYS",
  "vWITH DOUBLE CRESCENTSycTRIPLE CRESCENTSycQUADRUPLE CRESCENTSycSEPTUPLE CRESCENTS",
  "ycCIRCLES AND RAYSyoTWO ENCLOSURESyoFOUR ENCLOSURESiLETTER THREE-CIRCLE ALTERNATE I",
  "qWO-CIRCLE ALTERNATE IynIpALTERNATE UiVOWEL SIGN ALTERNATE UygU*34aMODI LETTER AnAmInImUnU",
  "mVOCALIC RvRuLvLmEmAImOmAUmKAnHAmGAnHAmNGAmCAnHAmJAnHAmNYAmTTAoHAmDDAoHAmNNAmTAnHAmDAnHAmNA",
  "mPAnHAmBAnHAmMAmYAmRAmLAmVAmSHAnSAnAmHAmLLAfVOWEL SIGN AAqIrIqUrUqVOCALIC RybRyaLybLqEqAIqO",
  "qAUfSIGN ANUSVARAkVISARGAmRAMAkARDHACANDRAfDANDAgOUBLE DANDAfABBREVIATION SIGNfSIGN HUVA",
  "*11fDIGIT ZEROlONElTWOmHREElFOURmIVElSIXmEVENlEIGHTlNINE*6cNGOLIAN BIRGA WITH ORNAMENT",
  "kROTATED BIRGAkDOUBLE BIRGA WITH ORNAMENTkTRIPLE BIRGA WITH ORNAMENT",
  "kBIRGA WITH DOUBLE ORNAMENTkROTATED BIRGA WITH ORNAMENTyfDOUBLE ORNAMENTkINVERTED BIRGA",
  "ya WITH DOUBLE ORNAMENTkSWIRL BIRGAv WITH ORNAMENTydDOUBLE ORNAMENT",
  "kTURNED SWIRL BIRGA WITH DOUBLE ORNAMENT*19aTAKRI LETTER AoAnIoInUoUnEnAInOnAUnKAoHAnGAoHA",
  "nNGAnCAoHAnJAoHAnNYAnTTApHAnDDApHAnNNAnTAoHAnDAoHAnNAnPAoHAnBAoHAnMAnYAnRAnLAnVAnSHAoAnHAnRRA",
  "gSIGN ANUSVARAlVISARGAgVOWEL SIGN AArIsIrUsUrErAIrOrAUgSIGN VIRAMAlNUKTAgLETTER ARCHAIC KHA",
  "gABBREVIATION SIGN*6gDIGIT ZEROmONEmTWOnHREEmFOURnIVEmSIXnEVENmEIGHTmNINE*54aAHOM LETTER KA",
  "nHAmNGAnAmTAmALTERNATE TAmPAnHAmBAmMAmJAmCHAmTHAmRAmLAmSAmNYAmHAmAmDAnHAmGAmALTERNATE GAmGHA",
  "mBHAmJHAmALTERNATE BA*2fCONSONANT SIGN MEDIAL LAydRAydLIGATING RAfVOWEL SIGN ArAqIrIqUrUqEqAW",
  "qOqAIrMfSIGN KILLER*4fDIGIT ZEROlONElTWOmHREElFOURmIVElSIXmEVENlEIGHTlNINEfNUMBER TENnWENTY",
  "fSIGN SMALL SECTIONlECTIONkRULAIgYMBOL VIfLETTER CAmTTAoHAmDDAoHAmNNAmLLA*185aDOGRA LETTER A",
  "oAnIoInUoUnEnAInOnAUnKAoHAnGAoHAnNGAnCAoHAnJAoHAnNYAnTTApHAnDDApHAnNNAnTAoHAnDAoHAnNAnPAoHA",
  "nBAoHAnMAnYAnRAnLAnVAnSHAoSAoAnHAnRRAgVOWEL SIGN AArIsIrUsUrVOCALIC RycRrErAIrOrAU",
  "gSIGN ANUSVARAlVISARGAnRAMAlNUKTAgABBREVIATION SIGN*100aWARANG CITI CAPITAL LETTER NGAAydA",
  "ydWIydYUyeAyeOydIIydUUydEydOydANGydGAydKOydENYydYUJydUCydENNydODDydTTEydNUNGydDAydATyeMydBU",
  "ydPUydHIYOyeOLOyfRRyeARydSSUUyeIIydVIYOmSMALL LETTER NGAAybAybWIybYUycAycOybIIybUUybEybOybANG",
  "ybGAybKOybENYybYUJybUCybENNybODDybTTEybNUNGybDAybATycMybBUybPUybHIYOycOLOydRRycARybSSUUycII",
  "ybVIYOmDIGIT ZEROsONEsTWOtHREEsFOURtIVEsSIXtEVENsEIGHTsNINEmNUMBER TENuWENTYuHIRTYtFORTYuIFTY",
  "tSIXTYuEVENTYtEIGHTYtNINETY*12mOMaDIVES AKURU LETTER AuAtIuItUuUtE*2tO*2tKAuHAtGAuHAtNGAtCA",
  "uHAtJA*1tNYAtTTA*1tDDAvHAtNNAtTAuHAtDAuHAtNAtPAuHAtBAuHAtMAtYAuYAtRAtLAtVAtSHAuSAuAtHAtLLAtZA",
  "mVOWEL SIGN AAxIyaIxUyaUxE*1xAIxO*2mSIGN ANUSVARArCANDRABINDUrHALANTAmVIRAMA",
  "mPREFIXED NASAL SIGNmMEDIAL YAmINITIAL RAmMEDIAL RAmSIGN NUKTAmDOUBLE DANDAmGAP FILLER",
  "mEND OF TEXT MARK*9mDIGIT ZEROsONEsTWOtHREEsFOURtIVEsSIXtEVENsEIGHTsNINE",
  "*70aNANDINAGARI LETTER AuAtIuItUuUtVOCALIC RyeR*2tEtAItOtAUtKAuHAtGAuHAtNGAtCAuHAtJAuHAtNYA",
  "tTTAvHAtDDAvHAtNNAtTAuHAtDAuHAtNAtPAuHAtBAuHAtMAtYAtRAtLAtVAtSHAuSAuAtHAtLLAtRRA",
  "mVOWEL SIGN AAxIyaIxUyaUxVOCALIC RyiR*2xExAIxOxAUmSIGN ANUSVARArVISARGAtRAMArAVAGRAHArSIDDHAM",
  "mHEADSTROKEmVOWEL SIGN PRISHTHAMATRA E*27aZANABAZAR SQUARE LETTER ArVOWEL SIGN IyeUEyfyeEyeOE",
  "yfyeAIyfUyeREVERSED IxLENGTH MARKrLETTER KAybHAyaGAybHAyaNGAyaCAybHAyaJAyaNYAyaTTAycHAyaDDA",
  "ycHAyaNNAyaTAybHAyaDAybHAyaNAyaPAybHAyaBAybHAyaMAyaTSAycHAyaDZAycHAyaZHAybAya-AyaYAyaRAyaLA",
  "yaVAyaSHAybSAybAyaHAyaKSSArFINAL CONSONANT MARKrSIGN VIRAMAwCANDRABINDUyj WITH ORNAMENT",
  "ye WITH ORNAMENTwANUSVARAwVISARGArCLUSTER-INITIAL LETTER RAybFINAL LETTER YAyoRAyoLAyoVA",
  "rINITIAL HEAD MARKrCLOSING HEAD MARKrMARK TSHEGwSHADwDOUBLE SHADwLONG TSHEG",
  "rINITIAL DOUBLE-LINED HEAD MARKrCLOSING DOUBLE-LINED HEAD MARKrSUBJOINER*8aSOYOMBO LETTER A",
  "iVOWEL SIGN ItUEutEtOuEtAIuUtVOCALIC RydLoLENGTH MARKiLETTER KAqHApGAqHApNGApCAqHApJAqHApNYA",
  "pTTArHApDDArHApNNApTAqHApDAqHApNApPAqHApBAqHApMApTSArHApDZApZHAqAp-ApYApRApLApVApSHAqSAqApHA",
  "pKSSAiSIGN JIHVAMULIYAnUPADHMANIYAiCLUSTER-INITIAL LETTER RAyhLAyhSHAyiA",
  "iFINAL CONSONANT SIGN GyfKyfNGyfDyfNyfByfMyfRyfLyfSHygyf-AiSIGN ANUSVARAnVISARGA",
  "iGEMINATION MARKiSUBJOINERiMARK TSHEGnSHADnDOUBLE SHADnPLUTA",
  "iHEAD MARK WITH MOON AND SUN AND TRIPLE FLAMEyqFLAMEyliTERMINAL MARK-1w2",
  "*13aCANADIAN SYLLABICS NATTILIK HIygIyfOygOyfAygAyeSHRIyiIyhOyiOyhAyiAtSPEvIvOvA",
  "aPAU CIN HAU LETTER PAtKAtLAtMAtDAtZAtVAtNGAtHAtGAtKHAtSAtBAtCAtTAuHAtNAtPHAtRAtFAtCHAtAtEtI",
  "tOtUuAtIAtFINAL PybKybTybMybNybLybWybNGybYmRISING TONE LONGxmSANDHI GLOTTAL STOP",
  "mRISING TONE LONG FINALyaFINALmSANDHI GLOTTAL STOP FINALtTONE LONGxx LONG FINALyaFINAL",
  "mMID-LEVEL TONEmGLOTTAL STOP VARIANTmMID-LEVEL TONE LONG FINALydFINALmLOW-FALLING TONE LONGye",
  "mGLOTTAL STOPmLOW-FALLING TONE LONG FINALyfFINALmGLOTTAL STOP FINAL*263aBHAIKSUKI LETTER AsA",
  "rIsIrUsUrVOCALIC RycRybL*1rErAIrOrAUrKAsHArGAsHArNGArCAsHArJAsHArNYArTTAtHArDDAtHArNNArTAsHA",
  "rDAsHArNArPAsHArBAsHArMArYArRArLArVArSHAsSAsArHAkVOWEL SIGN AAvIwIvUwUvVOCALIC RygRyfL*1vEvAI",
  "vOvAUkSIGN CANDRABINDUpANUSVARApVISARGArRAMApAVAGRAHAkDANDAlOUBLE DANDAkWORD SEPARATOR",
  "kGAP FILLER-1v2*10kDIGIT ZEROqONEqTWOrHREEqFOURrIVEqSIXrEVENqEIGHTqNINEkNUMBER ONErTWOsHREE",
  "rFOURsIVErSIXsEVENrEIGHTrNINErTENsWENTYsHIRTYrFORTYsIFTYrSIXTYsEVENTYrEIGHTYrNINETY",
  "kHUNDREDS UNIT MARK*3aMARCHEN HEAD MARKiMARK SHADiLETTER KAqHApGApNGApCAqHApJApNYApTAqHApDA",
  "pNApPAqHApBApMApTSArHApDZApWApZHAqAp-ApYApRApLApSHAqApHApA*2iSUBJOINED LETTER KAycHAybGAybNGA",
  "ybCAycHAybJAybNYAybTAycHAybDAybNAybPAycHAybBAybMAybTSAydHAybDZAybWAybZHAycA*1ybYAybRAybLA",
  "ybSHAycAybHAybAiVOWEL SIGN AAtItUtEtOiSIGN ANUSVARAnCANDRABINDU*73cSARAM GONDI LETTER AwAvIwI",
  "vUwUvE*1vAIvO*1vAUvKAwHAvGAwHAvNGAvCAwHAvJAwHAvNYAvTTAxHAvDDAxHAvNNAvTAwHAvDAwHAvNAvPAwHAvBA",
  "wHAvMAvYAvRAvLAvVAvSHAwSAwAvHAvLLAvKSSAvJNYAvTRAoVOWEL SIGN AAybIycIybUycUybVOCALIC R*3ybE",
  "*1ybAIybO*1ybAUoSIGN ANUSVARAtVISARGAtNUKTAtCANDRAtHALANTAoVIRAMAoREPHApA-KARA*8oDIGIT ZERO",
  "uONEuTWOvHREEuFOURvIVEuSIXvEVENuEIGHTuNINE*6aGUNJALA GONDI LETTER AwAvIwIvUwU*1vEEvAI*1vOOvAU",
  "vYAvVAvBAwHAvMAvKAwHAvTAwHAvLAvGAwHAvDAwHAvNAvCAwHAvTTAxHAvLLAvJAwHAvDDAxHAvNGAvPAwHAvHAvRA",
  "vSAoVOWEL SIGN AAybIycIybUycU*1ybEEybAI*1ybOOybAUoSIGN ANUSVARAtVISARGAoVIRAMAoOM",
  "*7oDIGIT ZEROuONEuTWOvHREEuFOURvIVEuSIXvEVENuEIGHTuNINE*310aMAKASAR LETTER KApGApNGApPApBApMA",
  "pTApDApNApCApJApNYApYApRApLApVApSApAiANGKAiVOWEL SIGN ItUtEtOiPASSIMBANGiEND OF SECTION",
  "*183aLISU LETTER YHA*15aTAMIL FRACTION ONE THREE-HUNDRED-AND-TWENTIETH",
  "tONE-HUNDRED-AND-SIXTIETHtEIGHTIETHtSIXTY-FOURTHtFORTIETHtTHIRTY-SECONDpTHREE EIGHTIETHS",
  "vSIXTY-FOURTHSpONE TWENTIETHtSIXTEENTH-1yf2tTENTHtEIGHTHpTHREE TWENTIETHSvSIXTEENTHS",
  "pONE FIFTHtQUARTERtHALF-1ya2pTHREE QUARTERSpDOWNSCALING FACTOR KIIZHgSIGN NELlCEVITU",
  "lAAZHAAKKUlUZHAKKUlMUUVUZHAKKUlKURUNIlPATHAKKUlMUKKURUNIlKAACUlPANAMmONlVARAAKANlPAARAMlKUZHI",
  "lVELIgWET CULTIVATION SIGNgDRY CULTIVATION SIGNgLAND SIGNgSALT PAN SIGN",
  "gTRADITIONAL CREDIT SIGNsNUMBER SIGNgCURRENT SIGNgAND ODD SIGNgSPENT SIGNgTOTAL SIGN",
  "gIN POSSESSION SIGNgSTARTING FROM SIGNhIGN MUTHALIYAlVAKAIYARAA*13gPUNCTUATION END OF TEXT",
  "aCUNEIFORM SIGN Aq TIMES AxBADxGAN2 TENUxHAxIGIxLAGAR GUNUxMUSHxSAGq2qBr TIMES ASH2",
  "yaDUN3 GUNUyaGALycN2 TENUyaHAyaIGI GUNUybMINyaLAGAByaSHESHyaU PLUS U PLUS UsGUNUr2",
  "s TIMES BALAGybGAN2 TENUybME PLUS ENybSHA3ybTAK4qDqKr TIMES ERIN2yaSHITA PLUS GISHqL",
  "r TIMES ALyaDIM2yaGISHyaHAyaKAD3ybIyaSHEyaUSHrANrEPHqMARt TIMES SHEqNr OVER ANsTHREE TIMES",
  "sPLUS NAGA OPPOSING AN PLUS NAGAyeSQUAREDrSHEqPINqRADt TIMES KURrKABqSAL2rHs ZIDA TENU",
  "tKABA TENUtOVER ASH TUG2 OVER TUG2 TUG2 OVER TUG2 PAPyeOVER ASH",
  "ym CROSSING ASH OVER ASH OVER ASHs2sGABpBArDrG3rHAR2rLs OVER BALsAGrRsA2qIr TIMES AyaGAR",
  "yaIGI GUNUqUr OVER BU ABycUNsCROSSING BUrLUGu OVER BULUGrRs2pDArGs KISIM5 TIMES A PLUS MASH",
  "yjMARyiBALAGyjIyiGAyk PLUS MASHyjIykR2yjUDyiHAyiIRyk PLUS LUyiKAKyiLAyjUyk PLUS MASH2ykMyiNE",
  "yiPAP PLUS PAPyiSIyiTAK4yiU2 PLUS GIR2yjSHrMrRsA3t4qIrBrMs TIMES SHEs2rNs KASKAL U GUNU DISH",
  "rSHqUr OVER DUsGUNUsSHESHIGrBs TIMES ESH2s2rGsUDrHrNs3t GUNUya GUNUs4rR2pEq TIMES PAP",
  "rOVER E NUN OVER NUNq2r TIMES A PLUS HA PLUS DAyaGARyaMIyaSALybHEyaUqDINqGIRqLqNr TIMES GAN2",
  "ye TENUyaMEsCROSSING ENsOPPOSING ENsSQUAREDqRENrIN2qSH2qZENt TIMES Ayd PLUS LALym TIMES LAL",
  "ydNycBADycDUN3 GUNUyl GUNUycHAye GUNUycIGI GUNUycKASKALyi SQUAREDydU3ycLAyeL TIMES LALydIydU",
  "ycU2ydDpGAr GUNUr2s TIMES A PLUS DA PLUS HAyiHAyiIGIycB2 TENU PLUS TABycNycSHye2 PLUS GAL",
  "ybBADydR PLUS RAycURye PLUS RAybDAycIydM TIMES SHEycUBybELyd PLUS LAycNyd TIMES GAN2 TENU",
  "ybGAN2 TENUydRycIyd4ye PLUS AydR2 PLUS SUybHA PLUS LU PLUS ESH2ydLye PLUS LAycI PLUS LIycUB2",
  "ybIGI GUNUycSH PLUS HU PLUS ASHybKAKydSKALycIDye PLUS LALycU3 PLUS ANybLAybME PLUS ENycIybNUN",
  "ye OVER NUNybPAybSALydRycHEye PLUS TURydIDycUMybTAK4ybUycDyd PLUS DUtOVER GA2rBA",
  "t CROSSING GABArDs OVER GAD GAR OVER GARrLs GAD OVER GAD GAR OVER GARsAMrMrNs2t TENU",
  "uOVER GAN2uCROSSING GAN2rRs3rSHANqESHTINw TIMES KURqIr TIMES EyaUsCROSSING GIr4s OVER GI4",
  "tCROSSING GI4rDIMrR2t GUNUs3t TIMES A PLUS IGIycGAN2 TENUycIGIycLU PLUS IGIycPArSALsH",
  "t CROSSING GISHuTIMES BADycTAK4vENUqUr CROSSING GUr2s TIMES KAKye TIMES IGI GUNUybNUN",
  "ybSAL PLUS TUG2tGUNUrDs TIMES A PLUS KURybKURtOVER GUD LUGALrLrMs TIMES SHErRs7sUNtSHpHA",
  "r TENUsGUNUrLqIr TIMES ASHyd2yaBADyaDISHyaGADyaKINyaNUNyaSHEyaUqUrB2t TIMES ANycHALycKASKAL",
  "ycLISHycUDrL2pIq AqBqDIMt OVER IDIM BURygSQUAREDqGrIs DIBtRI",
  "tOVER IGI SHIR OVER SHIR UD OVER UDtGUNUqLr TIMES GAN2 TENUr2qMr TIMES TAK4sCROSSING IM",
  "sOPPOSING IMsSQUAREDrINqNqRqSHpKAr TIMES AybDyc PLUS KU3ybSH2yaBADycLAGycRybIyaERIN2ybSH2yaGA",
  "ycLycN2 TENUycRyd PLUS SHA3 PLUS AybIycR2ycSH PLUS SARyfCROSSING GISHybUycR7yaIGIybMyaKAKybI",
  "ycDyaLIybUyaMEyc PLUS DUyiGIyiTEybIyc PLUS NUNUZyaNEybUNyaPIyaRUyaSAycRybHAycEycIDycUybIG",
  "ybUHURyaTARyaUyb2ybDybMUM TIMES PAybSHyaZIr2s CROSSING KA2rBrD2s3s4s5t OVER KAD5rK",
  "s TIMES IGI GUNUrLs TIMES BADtCROSSING KALrM2s4rSKALv LAGAB TIMES U OVER LAGAB TIMES U",
  "wOVER KASKAL LAGAB TIMES U OVER LAGAB TIMES UqESH2qIr TIMES BADyaUybDrDrNrSALsHsIM5",
  "v OVER KISIM5qUr OVER HI TIMES ASH2 KU OVER HI TIMES ASH2r3r4s VARIANT FORMr7rLs GUNUrNrR",
  "s OPPOSING KURrSHU2qWU318pLArGABu TIMES Aye PLUS DA PLUS HAykGARykLALyeLyeNyeSH ZIDA TENU",
  "ydBADyeIydDARydENydGAyfRyeUDyg PLUS GUDydHAyfLyeI TIMES NUNydIGI GUNUyeMyf PLUS HAylLUydKIyfN",
  "yeU3yfLyg PLUS HI PLUS AydLAGAByeISHyeUyfLydMEyf PLUS ENyeUSHydNEydSHE PLUS SUM",
  "yfITA PLUS GISH PLUS ERIN2ytTENUyfU2yh PLUS SHU2yeUMydTAGyfK4yeE PLUS A PLUS SU PLUS NAydU",
  "ye PLUS AykU PLUS Uye2 PLUS ASHyeDyeSHvSQUAREDtRu TIMES SHEyg PLUS SUMvGUNU",
  "yb OVER LAGAR GUNU SHErHSHUrLs TIMES LALrMs TIMES KURye PLUS RUqIrLrMMU2rSHqUr TIMES BADr2",
  "s TIMES ALybBADybESH2yf TENUybGAN2 TENUybHI TIMES BADybIMybKAD2ye3yf PLUS ASHycIybLA PLUS ASH",
  "ydGABybME PLUS ENybNEycUybSI PLUS ASHydK2 PLUS BUybTUG2uENUtCROSSING LU2tOPPOSING LU2tSQUARED",
  "uHESHIGr3rGALu OVER LUGALwPPOSING LUGALvSHESHIGrHrLrMs OVER LUMyd GAR OVER GARpMAr TIMES TAK4",
  "sGUNUr2rHrRrSHt2qErSqIrNqUr OVER MUrGs GUNUrNSUBrRGU2rSHt TIMES AycKURycZAuOVER MUSH",
  "yf TIMES A PLUS NAuCROSSING MUSHt3u TIMES Aye PLUS DIydDIvGUNUpNAr2rGAt INVERTED",
  "uTIMES SHU TENUuOPPOSING NAGAtRrM NUTILLUss2qEr TIMES AyaUDsSHESHIGqIr TIMES Er2rM",
  "s TIMES GAN2 TENUydR PLUS GAN2 TENUrNDA2v TIMES ANyfSHyh PLUS ASHyeGUDyeME PLUS GAN2 TENUyeNE",
  "yfUNyeSHEyh PLUS A ANyoSHyq PLUS ASHyeU2 PLUS ASHyfSHrSAGqUr11rNs LAGAR TIMES GARyhMASHyhSAL",
  "yk OVER NUN LAGAR TIMES SALyhUSHtTENUtOVER NUNtCROSSING NUNyh LAGAR OVER LAGARsUZ",
  "u AB2 TIMES ASHGAByhBIyhDUGyhGUDyhIGI GUNUyhKAD3yhLAyhNEyhSILA3yhU2vKISIM5 TIMES BIym UpPArD",
  "rNrPqESH2qIr TIMES AybByaBIybUyaEyaIybByaUyb2sCROSSING PIrRIGu TIMES KALydUDydZA",
  "vOPPOSING PIRIGpRArBqIqUpSArG NUTILLUss TIMES AybDUydBybHAybKAKycURybLUMybMIybNUNybSALycHID",
  "ybTABybU2ycBycMycRycSHtOVER SAGtGUNUrLs LAGAB TIMES ASH2rNGA2rRqHAs3t TIMES AycBADycGISHycNE",
  "ycSHU2ycTURycUyd PLUS As6sB6sR2rEs HUtOVER SHE GAD OVER GAD GAR OVER GAR",
  "yeTAB OVER TAB GAR OVER GARsG9sNsSHu2uLAMrIDt TIMES AycIMsMt TIMES AycBALydULUGycDINycGAR",
  "ycIGIyf GUNUycKUSHU2ycLULycMUGycSALsNIGsRt TENUuOVER SHIR BUR OVER BURsTArU",
  "s OVER INVERTED SHUs2sBURqIr GUNUrGs4t OVER SIG4 SHU2rK2rLA3qUr OVER SUrDs2rHURrMsASHrRs9pTA",
  "r ASTERISKsTIMES HIyaMIsGUNUrBs OVER TAB NI OVER NI DISH OVER DISHtSQUAREDrGs TIMES BIybGUD",
  "ybSHEydUybTUG2ybUDrK4rRqEr GUNUqIr TENUrLrRs TIMES TAK4tOVER TIRyd GAD OVER GAD GAR OVER GAR",
  "qUrG2rKrMrRs OVER TUR ZA OVER ZApUq GUDrU UrOVER U PA OVER PA GAR OVER GARyaSUR OVER SUR",
  "yaU REVERSED OVER U REVERSEDq2qBqDr KUSHU2sTIMES BADyaMIyaU PLUS U PLUS Uyp GUNUsGUNUsSHESHIG",
  "yb TIMES BADrUGqMr TIMES LAGAByaME PLUS DAyaSHA3yaUrBINrUMt TIMES KASKALycPAqNr GUNUqR",
  "r CROSSING URsSHESHIGr2s TIMES A PLUS HAyiNAycLybHAybNUNybU2yd PLUS ASHyjBIr4rIs3rUs TIMES A",
  "ycSHGABybBARybDUNybGAydLydN2 TENUydRycUybHAybIGIycMycSHybKIybLUMybMINybPAybSHEycIG4ybTU",
  "ybU PLUS GUDycDycRUDAsDAu TIMES UqSHs TIMES AybKUydRybTAK4sXs2sUMXqTUKIqZ3s TIMES KASKALrUpZA",
  "r TENUsSQUARED TIMES KURrGrMXqE2qIr OVER ZIr3rBs KABA TENUrGrZ2qUr5s TIMES ArBURrM",
  "pKAP ELAMITEpAB TIMES NUNr2 TIMES AqMAR TIMES KUGpDAG KISIM5 TIMES U2 PLUS MASHs3",
  "qISH PLUS SHUqUB TIMES SHEpEZEN TIMES GUDycSHEpGA2 TIMES AN PLUS KAK PLUS AycSH2qE22qIGpHUSH",
  "pKA TIMES ANSHEybSH3yaGISHybUDyaHI TIMES ASH2yaLUMyaPAyaSHULyaTUyaUR2pLAGAB TIMES GI",
  "qU2 SHESHIG TIMES BADtTIMES ESH2 PLUS LALybSHUpMESHqUSH3 TIMES ZApNA4qINs9sDA2 TIMES BALyeGI",
  "qU11 ROTATED NINETY DEGREESpPESH2 ASTERISKqIR2pSAG TIMES IGI GUNUpTI2pUM TIMES MEq U",
  "*102kNUMERIC SIGN TWO ASHyaHREE ASHxFOUR ASHyaIVE ASHxSIX ASHyaEVEN ASHxEIGHT ASHxNINE ASH",
  "xTHREE DISHxFOUR DISHyaIVE DISHxSIX DISHyaEVEN DISHxEIGHT DISHxNINE DISHxFOUR UyaIVE UxSIX U",
  "yaEVEN UxEIGHT UxNINE UxONE GESH2xTWO GESH2yaHREE GESH2xFOUR GESH2yaIVE GESH2xSIX GESH2",
  "yaEVEN GESH2xEIGHT GESH2xNINE GESH2xONE GESHUxTWO GESHUyaHREE GESHUxFOUR GESHUyaIVE GESHU",
  "xTWO SHAR2yaHREE SHAR2yk VARIANT FORMxFOUR SHAR2yaIVE SHAR2xSIX SHAR2yaEVEN SHAR2xEIGHT SHAR2",
  "xNINE SHAR2xONE SHARUxTWO SHARUyaHREE SHARUyk VARIANT FORMxFOUR SHARUyaIVE SHARU",
  "xSHAR2 TIMES GAL PLUS DISHyuMINxONE BURUxTWO BURUyaHREE BURUyj VARIANT FORMxFOUR BURU",
  "yaIVE BURUxTHREE VARIANT FORM ESH16yv21xFOUR VARIANT FORM LIMMUyw4yw AyxB",
  "xSIX VARIANT FORM ASH9yaEVEN VARIANT FORM IMIN3yw AyxBxEIGHT VARIANT FORM USSUyw3",
  "xNINE VARIANT FORM ILIMMUyx3yx4yx AxTWO ASH TENUyaHREE ASH TENUxFOUR ASH TENUyaIVE ASH TENU",
  "xSIX ASH TENUxONE BAN2xTWO BAN2yaHREE BAN2xFOUR BAN2yi VARIANT FORMyaIVE BAN2yi VARIANT FORM",
  "xNIGIDAMINyfESHxONE ESHE3xTWO ESHE3xONE THIRD DISHxTWO THIRDS DISHxFIVE SIXTHS DISH",
  "xONE THIRD VARIANT FORM AxTWO THIRDS VARIANT FORM AxONE EIGHTH ASHydQUARTER ASH",
  "yaLD ASSYRIAN ONE SIXTHyqQUARTERyaNE QUARTER GURydHALF GURxELAMITE ONE THIRDyhTWO THIRDS",
  "yhFORTYyiIFTYxFOUR U VARIANT FORMyaIVE U VARIANT FORMxSIX U VARIANT FORMyaEVEN U VARIANT FORM",
  "xEIGHT U VARIANT FORMxNINE U VARIANT FORM*1kPUNCTUATION SIGN OLD ASSYRIAN WORD DIVIDER",
  "ydVERTICAL COLONydDIAGONAL COLONymTRICOLONymQUADCOLON*11kSIGN AB TIMES NUN TENUyaSHU2",
  "qD TIMES ESH2pBAD TIMES DISH TENUrHAR2 TIMES AB2yeNIyeZAqU OVER BU TIMES NA2pDA TIMES TAK4",
  "rG TIMES KURqIM TIMES IGIybU U Us2 TIMES UDqUG TIMES ANSHEycSHye AT LEFTybDINycUNybERIN2ybGA",
  "ycIydR2 GUNUydSHybHAycIybIGI GUNUybKASKALycURydSHU2yh PLUS KASKALybLAK-020ydMye TIMES KUR",
  "ycUH PLUS GISHybMASHycESycIybNIybPIybSHEycI GUNUpE2 TIMES KURyaPAPqRIN2 XqSH2 CROSSING ESH2",
  "qZEN SHESHIG TIMES ASHykHIykIGI GUNUykLAymLykMEymSykSUuTIMES SUpGA2 TIMES BAHAR2ybDIM GUNU",
  "ycUG TIMES IGI GUNUylKASKALybERENybGAydR PLUS DIykNEybHA PLUS AybKUSHU2 PLUS KASKALybLAM",
  "ye TIMES KURycUHybMUSHybNEyd PLUS E2yjGIybSHIMybZIZ2rBA ROTATED NINETY DEGREESqESHTIN TIMES U",
  "qISH TIMES GISH CROSSING GISHqU2 TIMES IGI GUNUrD PLUS GISH TIMES TAK4pHA TENU GUNU",
  "qI TIMES ASH OVER HI TIMES ASHpKA TIMES BUyaKAyaU U UybRpLAGAB TIMES ZU OVER ZUrK-003u21v5u30",
  "u50v1u62u79 OVER LAK-079 GUNUu80v1 OVER LAK-081u92t130u42t210v9u20v5v8u38u65v6t343v7v8u83v4",
  "u90t441v9w TIMES GUyfIGIyfPAP PLUS LU3yoPAP PLUS LU3yfU2 PLUS BAu50v7u70u83u90v2v3v5t550t608",
  "u17w TIMES ASHyfBADyfDUN3 GUNU GUNUyfKU3yfLAyfTARygEyfU2ygDygRUDAu36u48w TIMES DUByfGAyfIGI",
  "yi GUNUyfNIyfPAP PLUS PAP PLUS LU3yfSHESH PLUS KIyfUDygRUDAt724u49qU2 GUNU TIMES ASH",
  "tTIMES DISHybHALybPAPye PLUS PAP PLUS LU3ybTAK4pMI PLUS ZA7qUSH OVER MUSH TIMES GAymKAK",
  "pNINDA2 TIMES DIM GUNUyeGISHyfULyeHIyeKESH2yeLAK-050yeMASHyePAP PLUS PAPyeUyf PLUS UyfRUDA",
  "pSAG GUNU TIMES HAtTIMES ENybSHE AT LEFTybTAK4qHA6 TENUrE OVER SHEtPLUS HUB2yaNAM2yaSAR",
  "rU2 PLUS DUG TIMES NIybE2 TIMES ANqI TIMES TAK4pTAK4 PLUS SAGqUM TIMES GAN2 TENUybTHREE DISH",
  "pUR2 INVERTEDtTIMES UDrU TIMES DARA3ybLAK-668ycU3pZA7qU OVER ZU PLUS SAR",
  "r5 TIMES THREE DISH TENU*2636bYPRO-MINOAN SIGN CM001w2w4w5w6w7w8w9v10w1w2xBw3w5w7w9v21w3w4w5",
  "w6w7w8w9v30w3w4w5w6w7w8w9v40w1w4w6w7w9v50w1w2w3w4w5w6w8w9v60w1w2w3w4w6w7w8w9v70w1w2w3w4w5xBw6",
  "w8w9v80w1w2w3w4w5w6w7w8w9v90w1w2w4w5w6w7w8w9u100w1w2w3w4w5w7w8w9v10w2w4u301w2",
  "*13aEGYPTIAN HIEROGLYPH A001x2x3x4x5yaAx6yaAyaBx7x8x9w10x1x2x3x4yaAx5x6x7yaAx8x9w20x1x2x3x4x5",
  "x6x7x8x9w30x1x2yaAx3x4x5x6x7x8x9w40yaAx1x2yaAx3yaAx4x5yaAx6x7x8x9w50x1x2x3x4x5x6x7x8x9w60x1x2",
  "x3x4x5x6x7x8x9w70uB001x2x3x4x5yaAx6x7x8x9uC001x2yaAyaByaCx3x4x5x6x7x8x9w10yaAx1x2x3x4x5x6x7x8",
  "x9w20x1x2x3x4uD001x2x3x4x5x6x7x8yaAx9w10x1x2x3x4x5x6x7x8x9w20x1x2x3x4x5x6x7yaAx8x9w30x1yaAx2",
  "x3x4yaAx5x6x7x8x9w40x1x2x3x4x5x6yaAx7x8yaAx9w50yaAyaByaCyaDyaEyaFyaGyaHyaIx1x2yaAx3x4yaAx5x6",
  "x7x8x9w60x1x2x3x4x5x6x7yaAyaByaCyaDyaEyaFyaGyaHuE001x2x3x4x5x6x7x8yaAx9yaAw10x1x2x3x4x5x6yaA",
  "x7yaAx8x9w20yaAx1x2x3x4x5x6x7x8yaAx9w30x1x2x3x4yaAx6x7x8uF001yaAx2x3x4x5x6x7x8x9w10x1x2x3yaA",
  "x4x5x6x7x8x9w20x1yaAx2x3x4x5x6x7x8x9w30x1yaAx2x3x4x5x6x7yaAx8yaAx9w40x1x2x3x4x5yaAx6yaAx7yaA",
  "x8x9w50x1yaAyaByaCx2x3uG001x2x3x4x5x6yaAx7yaAyaBx8x9w10x1yaAx2x3x4x5x6x7x8x9w20yaAx1x2x3x4x5",
  "x6yaAx7x8x9w30x1x2x3x4x5x6yaAx7yaAx8x9w40x1x2x3yaAx4x5yaAx6x7x8x9w50x1x2x3x4uH001x2x3x4x5x6",
  "yaAx7x8uI001x2x3x4x5yaAx6x7x8x9yaAw10yaAx1yaAx2x3x4x5uK001x2x3x4x5x6x7x8uL001x2yaAx3x4x5x6yaA",
  "x7x8uM001yaAyaBx2x3yaAx4x5x6x7x8x9w10yaAx1x2yaAyaByaCyaDyaEyaFyaGyaHx3x4x5yaAx6yaAx7yaAx8x9",
  "w20x1x2yaAx3x4yaAx5x6x7x8yaAx9w30x1yaAx2x3yaAyaBx4x5x6x7x8x9w40yaAx1x2x3x4uN001x2x3x4x5x6x7x8",
  "x9w10x1x2x3x4x5x6x7x8yaAyaBx9w20x1x2x3x4x5yaAx6x7x8x9w30x1x2x3yaAx4yaAx5yaAx6x7yaAx8x9w40x1x2",
  "vL001ya2ya3ya4ya5ybAya6ya7ya8ya9x10ya1ya2ya3ya4ya5ya6ya7ybAya8ya9x20vU001ya2ya3ya4ya5ya6ya7",
  "ya8ya9x10ybAya1ybAya2ya3ya4ya5ya6ya7ya8ybAya9x20ya1ya2ybAuO001yaAx2x3x4x5yaAx6yaAyaByaCyaDyaE",
  "yaFx7x8x9w10yaAyaByaCx1x2x3x4x5x6x7x8x9yaAw20yaAx1x2x3x4yaAx5yaAx6x7x8x9yaAw30yaAx1x2x3yaAx4",
  "x5x6yaAyaByaCyaDx7x8x9w40x1x2x3x4x5x6x7x8x9w50yaAyaBx1uP001yaAx2x3yaAx4x5x6x7x8x9w10x1uQ001x2",
  "x3x4x5x6x7uR001x2yaAx3yaAyaBx4x5x6x7x8x9w10yaAx1x2x3x4x5x6yaAx7x8x9w20x1x2x3x4x5x6x7x8x9uS001",
  "x2yaAx3x4x5x6yaAx7x8x9w10x1x2x3x4yaAyaBx5x6x7yaAx8x9w20x1x2x3x4x5x6yaAyaBx7x8x9w30x1x2x3x4x5",
  "yaAx6x7x8x9w40x1x2x3x4x5x6uT001x2x3yaAx4x5x6x7yaAx8yaAx9yaAw10x1yaAx2x3x4x5x6yaAx7x8x9w20x1x2",
  "x3x4x5x6x7x8x9w30x1x2yaAx3yaAx4x5x6uU001x2x3x4x5x6yaAyaBx7x8x9w10x1x2x3x4x5x6x7x8x9w20x1x2x3",
  "yaAx4x5x6x7x8x9yaAw30x1x2yaAx3x4x5x6x7x8x9w40x1x2uV001yaAyaByaCyaDyaEyaFyaGyaHyaIx2yaAx3x4x5",
  "x6x7yaAyaBx8x9w10x1yaAyaByaCx2yaAyaBx3x4x5x6x7x8x9w20yaAyaByaCyaDyaEyaFyaGyaHyaIyaJyaKyaLx1x2",
  "x3yaAx4x5x6x7x8yaAx9yaAw30yaAx1yaAx2x3yaAx4x5x6x7yaAx8x9w40yaAuW001x2x3yaAx4x5x6x7x8x9yaAw10",
  "yaAx1x2x3x4yaAx5x6x7yaAx8yaAx9w20x1x2x3x4yaAx5uX001x2x3x4yaAyaBx5x6yaAx7x8yaAuY001yaAx2x3x4x5",
  "x6x7x8uZ001x2yaAyaByaCyaDx3yaAyaBx4yaAx5yaAx6x7x8x9w10x1x2x3x4x5yaAyaByaCyaDyaEyaFyaGyaHyaIx6",
  "yaAyaByaCyaDyaEyaFyaGyaHuAA001ya2ya3ya4ya5ya6ya7ybAybBya8ya9x10ya1ya2ya3ya4ya5ya6ya7ya8ya9x20",
  "ya1ya2ya3ya4ya5ya6ya7ya8ya9x30ya1ya2*1uVERTICAL JOINERuHORIZONTAL JOINERuINSERT AT TOP START",
  "ygBOTTOM STARTygTOP ENDygBOTTOM ENDuOVERLAY MIDDLEuBEGIN SEGMENTuEND SEGMENT",
  "*4039aANATOLIAN HIEROGLYPH A001ya2ya3ya4ya5ya6ya7ya8ya9x10ybAya1ya2ya3ya4ya5ya6ya7ya8ya9x20",
  "ya1ya2ya3ya4ya5ya6ybAya7ya8ya9x30ya1ya2ya3ya4ya5ya6ya7ya8ya9ybAx40ya1ybAya2ya3ya4ya5ybAya6ybA",
  "ybBya7ya8ya9x50ya1ya2ya3ya4ya5ya6ya7ya8ya9x60ya1ya2ya3ya4ya5ya6ybAybBybCya7ya8ya9x70ya1ya2ya3",
  "ya4ya5ya6ya7ya8ya9x80ya1ya2ya3ya4ya5ya6ya7ya8ya9x90ya1ya2ya3ya4ya5ya6ya7ybAya8ybAya9w100ybA",
  "ya1ybAya2ybAya3ya4ybAybBybCya5ybAybBya6ya7ybAybBybCya8ya9x10ybAybBya1ya2ya3ya4ya5ybAya6ya7ya8",
  "ya9x20ya1ya2ya3ya4ya5ybAya6ya7ya8ya9x30ya1ya2ya3ya4ya5ybAya6ya7ya8ya9x40ya1ya2ya3ya4ya5ya6ya7",
  "ya8ya9x50ya1ya2ya3ya4ya5ya6ya7ya8ya9x60ya1ya2ya3ya4ya5ya6ya7ya8ya9x70ya1ya2ya3ya4ya5ya6ya7ya8",
  "ya9x80ya1ya2ya3ya4ya5ya6ya7ya8ya9x90ya1ya2ya3ya4ya5ya6ya7ya8ya9w200ya1ya2ybAybBya3ya4ya5ya6",
  "ya7ybAya8ya9ybAx10ya1ya2ya3ya4ya5ybAya6ybAya7ya8ya9x20ya1ya2ya3ya4ya5ya6ya7ybAya8ya9x30ya1ya2",
  "ya3ya4ya5ya6ya7ya8ya9x40ya1ya2ya3ya4ya5ya6ya7ya8ya9x50ya1ya2ya3ya4ya5ya6ya7ya8ya9x60ya1ya2ya3",
  "ya4ya5ya6ya7ybAya8ya9x70ya1ya2ya3ya4ya5ya6ya7ya8ya9x80ya1ya2ya3ya4ya5ya6ya7ya8ya9ybAx90ya1ya2",
  "ya3ya4ybAya5ya6ya7ya8ya9ybAw300ya1ya2ya3ya4ya5ya6ya7ya8ya9ybAx10ya1ya2ya3ya4ya5ya6ya7ya8ya9",
  "x20ya1ya2ya3ya4ya5ya6ya7ya8ya9ybAx30ya1ya2AybBybCya3ya4ya5ya6ybAybBybCya7ya8ya9x40ya1ya2ya3",
  "ya4ya5ya6ya7ya8ya9x50ya1ya2ya3ya4ya5ya6ya7ya8ya9ybAx60ya1ya2ya3ya4ybAya5ya6ya7ya8ybAya9x70ya1",
  "ybAya2ya3ya4ya5ya6ya7ya8ya9x80ya1ybAya2ya3 RA OR RIybAya4ya5ya6ybAya7ya8ya9x90ya1ya2ya3 EIGHT",
  "ya4ya5ya6ya7ya8ya9w400ya1ya2ya3ya4ya5ya6ya7ya8ya9x10 BEGIN LOGOGRAM MARKybA END LOGOGRAM MARK",
  "ya1ya2ya3ya4ya5ya6ya7ya8ya9x20ya1ya2ya3ya4ya5ya6ya7ya8ya9x30ya1ya2ya3ya4ya5ya6ya7ya8ya9x40ya1",
  "ya2ya3ya4ya5ya6ya7ya8ya9x50ybAya1ya2ya3ya4ya5ya6ya7ybAya8ya9x60ya1ya2ya3ya4ya5ya6ya7ya8ya9x70",
  "ya1ya2ya3ya4ya5ya6ya7ya8ya9x80ya1ya2ya3ya4ya5ya6ya7ya8ya9x90ya1ya2ya3ya4ya5ya6ya7w501ya2ya3",
  "ya4ya5ya6ya7ya8ya9x10ya1ya2ya3ya4ya5ya6ya7ya8ya9x20ya1ya2ya3ya4ya5ya6ya7ya8ya9x30",
  "*8633aBAMUM LETTER PHASE-A NGKUE MFONvGBIEE FONvPON MFON PIPAEMGBIEEymBAvNAA MFONvSHUENSHUET",
  "vTITA MFONvNZA MFONvSHINDA PA NJIvPON PA NJI PIPAEMGBIEEyoBAvMAEMBGBIEEvTU MAEMBAvNGANGU",
  "vMAEMVEUXxNSUAEwVEUAENGAMvSEUNYAMvNTOQPENvKEUKEUTNDAvNKINDIvSUUvNGKUENZEUMvLAPAQwET KUT",
  "vNTAP MFAAvMAEKEUPvPASHAEvGHEUAERAEvPAMSHAEvMON NGGEUAETvNZUN MEUTvU YUQ NAEvGHEUAEGHEUAE",
  "vNTAP NTAAvSISAvMGBASAwEUNJOMNDEUQwOOMPUQvKAFAvPA LEERAEWAvNDA LEERAEWAvPETvMAEMKPENvNIKAvPUP",
  "vTUAEPvLUAEPvSONJAMvTEUTEUWENvMAENYIvKETvNDAANGGEUAETvKUOQvMOOMEUTvSHUMvLOMMAEvFIRIvROMvKPOQ",
  "vSOQvMAP PIEETvSHIRAEvNTAPvSHOQ NSHUT YUMvNYIT MONGKEUAEQvPAARAEvNKAARAEvUNKNOWNvNGGENvMAESI",
  "vNJAMvMBANYIvNYETvTEUAENvSOTvPAAMvNSHIEEvMAEMvNYIvKAQvNSHAvVEEvLUvNENwAQvMBAQtB NSHUET",
  "vTU MAEMGBIEEvSIEEwET TUvLOM NTEUMvMBA MAELEEvKIEEMvYEURAEvMBAARAEvKAMvPEESHIvYAFU LEERAEWA",
  "vLAM NSHUT NYAMvNTIEE SHEUOQwDU NJAAvGHEUGHEUAEMvPITvTU NSIEEvSHET NJAQyaUAEQTUvMFON TEUAEQ",
  "wBIT MBAAKETvNYI NTEUMvKEUPUQvGHEUGHENvKEUYEUXvLAANAEvPARUMvVEUMvNGKINDI MVOPxGEU MBUvWUAET",
  "vSAKEUAEvTAAMvMEUQvNGGUOQyd LARGEvMFIYAQvSUEvMBEURIwONTIEENvNYAEMAEvPUNGAAMvMEUT NGGEETvFEUX",
  "vMBUOQvFEEvKEUAEMvMA NJEUAENAycUQAvLETvNGGAAMwSENvMAvKIQvNGOMtC NGKUE MAEMBAwZAvYUMvWANGKUOQ",
  "vNGGENwDEUAEREEwGKAQvGHARAEvMBEEKEETvGBAYIvNYIR MKPARAQ MEUNwTU MBITvMBEUMvPIRIEENvNDOMBU",
  "vMBAA CABBAGE-TREEvKEUSHEUAEPvGHAPvKEUKAQvYU MUOMAEvNZEUMvMBUEvNSEUAENvMBITvYEUQvKPARAQwAA",
  "vSEUXvNDIDAvTAASHAEvNJUEQvTITA YUEvSUAETvNGGUAEN NYAMvVEUXvNANSANAQvMA KEUAERIvNTAAwGGUONvLAP",
  "vMBIRIEENwGBASAQvNTEUNGBAvTEUTEUXvNGGUMvFUEvNDEUTwSAxHAQvBUNGvVEUAEPENvMBERAEvRUvNJAEMvLAM",
  "vTITUAEPvNSUOT NGOMwJEEEEvKETvNGGUvMAESIwBUAEMvLUvKUTvNJAMwGOMvWUPvNGGUEETwSOMwTEN",
  "vKUOP NKAARAEvNSUNwDAMvMA NSIEEvYAAvNDAPvSHUEQwETFONvMBIwAEMBAwBANYIvKEUSEUXvMBEUXvKEUM",
  "vMBAA PICKETvYUWOQvNJEUXvMIEEwUAEvSHIQvKEN LAWybFATIGUEvNGAQwAQvLIQvPINwENvTETtD MBUOvWAPvNJI",
  "vMFONvNJIEEvLIEEvNJEUTwSHEEwGGAAMAEwYAMvWUAENvNGKUNvSHEEvNGKAPvKEUAETMEUNvTEUTvSHEUAEvNJAP",
  "vSUEvKETvYAEMMAEvKUOMvSAPvMFEUTvNDEUXvMALEERIwEUTvSEUAEQvYENvNJEUAEMvKEUOT MBUAEvNGKEURIvTU",
  "vGHAAvNGKYEEvFEUFEUAETvNDEEvMGBOFUMvLEUAEPvNDONvMONIwGBEUNvPUUTvMGBIEEwFOvLUMvNSIEEPvMBAA",
  "vKWAETvNYETvTEUAENvSOTvYUWOQvKEUMvRAEMvTEEEEvNGKEUAEQvMFEUAEvNSIEETvKEUPvPIPwEUTAEvNYUEvLET",
  "vNGGAAMvMFIEEvNGGWAENvYUOMvPAPvYUOPvNDAMwTEUMvSUAEvKUNvNGGEUXxKIEEvTUOTvMEUNvKUQvNSUMvTEUN",
  "vMAENJETvNGGAPvLEUMvNGGUOMwSHUTwJUEQvGHEUAEvKUvREN OLDvTAEwOQvNYIvRIIvLEEEEvMEEEEwvSUUvMU",
  "vSHIIxEUXvKYEEvNUvSHUvNTEEvPEEvNIvSHOQvPUQvMVOPvLOQvREN MUCHvTIvNTUUvMBAA SEVENvSAQvFAA",
  "tE NDAPvTOONvMBEUMvLAPvVOMvLOONvPAAvSOMvRAQvNSHUOPwDUNvPUAEvTAMvNGKAvKPEUXvWUOvSEEvNGGEUAET",
  "vPAAMvTOOvKUOPvLOMvNSHIEEwGOPvMAEMvNGKEUXxOQwSHUEvRIMGBAvNJEUXvPEEMvSAAvNGGURAEvMGBAvGHEUX",
  "vNGKEUAEMwJAEMLIvMAPvLOOTvNGGEEEEwDIQvTAEN NTEUMvSETvPUMvNDAA SOFTNESSwGGUAESHAE NYAMvYIEE",
  "vGHEUNvTUAEvYEUAEvPOvTUMAEvKEUAEvSUAENvTEUAEQvVEUAEvWEUXvLAAMvPUvTAAQvGHAAMAEvNGEUREUT",
  "vSHEUAEQvMGBENwBEEvNZAQwKOMvGBETvTUMvKUETvYAPvNYI CLEAVERvYITvMFEUQvNDIAQvPIEEQvYUEQvLEUAEM",
  "vFUEvGBEUXvNGKUPvKETvMAEvNGKAAMIvGHETvFAvNTUMvPEUTvYEUMvNGGEUAEwYI BETWEENwZUQvPOONvMIEEvFUET",
  "vNAEvMUAEvGHEUAEvFU IvMVIvPUAQvNGKUMvKUTvPIETvNTAPvYEUAETvNGGUPvPA PEOPLEvFU CALLwOMvNJEEvA",
  "vTOQvOvIvLAQvPA PLURALvTAAxQvNDAA MY HOUSEvSHIQvYEUXvNGUAEvYUAENwOQ SWIMMINGybCOVERwUQxNvKEUX",
  "vPEUXvNJEE EPOCHvPUEvWUEvFEEvVEEvLUvMIvREUXwAEvNGUAETxAvSHOyaQvFU REMEDYvNAvPIvLOQvKOvMENwAxQ",
  "vTEUvKIvMONvTENvFAQvGHOMtF KAvUvKUvEEvREEvTAEvNYIvLAvRIIxEEvMEEEEvTAAvNDAAwJAEMvMvSUUwHIIwI",
  "wEUXvKYEEwETvNUAExwJUAEvYOQvSHUvYAvNSHAvPEUXvNTEEvWUEvPEEvRUvNIvREUXvKENvNGKWAENxGAvSHOvPUAE",
  "vFOMvWAvLIwOQvKOvMBENvRENvMAwOwBAAvTETvKPAvSAMBAvVUEQ*7aMRO LETTER TAlNGIlYOlMIMlBAlDAlAlPHI",
  "lKHAIlHAOlDAIlCHUlKEAAElOLlMAEMlNINlPAlOOmlROlSHIlTHEAlEAlWAlElKOlLANnlHAIlRIlTEK",
  "*1eDIGIT ZEROkONEkTWOlHREEkFOURlIVEkSIXlEVENkEIGHTkNINE*4fANDAfOUBLE DANDAaTANGSA LETTER OZpC",
  "pQpXoAZpCpQpXoVZpCpQpXoEZpCpQpXoIZpCpQpXoUZpCpQpXoAWZqCqQqXoUIZqCqQqXoFINAL NGoLONG UEX",
  "oSHORT UEZuAWXoUECqZqQqXpIUZrCrQrXoMZpCpQpXoKApHAoGAoNGAoSAoYAoWAoPAoNYAoPHAoBAoMAoNAoHAoLA",
  "oHTAoTAoDAoRAoNHAoSHAoCAoTSAoGHAoHTTAoTHAoXAoFAoDHAoCHAoZA*1hDIGIT ZEROnONEnTWOoHREEnFOURoIVE",
  "nSIXoEVENnEIGHTnNINE*6aBASSA VAH LETTER ENNIrKArSErFArMBErYIErGAHrDHIIrKPAHrJOrHWAHrWArZOrGBU",
  "rDOrCErUWUrTOrBArVUrYEINrPArWADDArArOsOrUrEEsrI*2kCOMBINING HIGH TONEuLOW TONEuMID TONE",
  "uLOW-MID TONEuHIGH-LOW TONEkFULL STOP*10aPAHAWH HMONG VOWEL KEEBwVuIBvVuAUBwVuUBvVuEBvVuAIBwV",
  "uOOBwVuAWBwVuUABwVuOBvVuIABwVuABvVuWBvVuAABwVnCONSONANT VAUxNTSAUxLAUxHAUxNLAUxRAUxNKAUxQHAU",
  "xYAUxHLAUxMAUxCHAUxNCHAUxHNAUxPLHAUxNTHAUyaAUxAUxXAUxCAUnMARK CIM TUBwSOwKESxHAVwSUAMwHOM",
  "wTAUMnSIGN VOS THOMxSHAB CEEBsCIM CHEEMsVOS THIABwFEEMsXYEEM NTXIVyaRHOyaTOVyaFAIBsVOS SEEV",
  "sMEEJ SUABsVOS NRUAsIB YAMsXAUSsCIM TSOV ROG*10nDIGIT ZEROtONEtTWOuHREEtFOURuIVEtSIXuEVEN",
  "tEIGHTtNINE*1nNUMBER TENSuHUNDREDSuTEN THOUSANDSuMILLIONSuHUNDRED MILLIONSuTEN BILLIONS",
  "vRILLIONS*1nSIGN VOS LUBsXYOOsHLIsTHIRD-STAGE HLIsZWJ THAJsHNUBsNQIGsXIABsNTUJsAVsTXHEEJ CEEV",
  "sMEEJ TSEEBsTAUsLOSsMUSsCIM HAIS LUS NTOG NTOGwCUAM TSHOOJwTXWVyc CHWVwPUB DAWBwNRES TOS",
  "*5nCLAN SIGN TSHEEJxYEEGxLISyaAUJxXYOOJxKOOxHAWJxMUASxTHOJyaSABxPHABxKHABxHAMxVAJxFAJxYAJ",
  "xTSWBxKWMxVWJ*688aMEDEFAIDRIN CAPITAL LETTER MydSydVydWydATIUydZydKPydPydTydGydFydIydKydAydJ",
  "ydEydBydCydUydYUydLydQydHPydNYydXydDydOEydNydRydOydAIydYmSMALL LETTER MybSybVybWybATIUybZybKP",
  "ybPybTybGybFybIybKybAybJybEybBybCybUybYUybLybQybHPybNYybXybDybOEybNybRybOybAIybYmDIGIT ZERO",
  "sONEsTWOtHREEsFOURtIVEsSIXtEVENsEIGHTsNINEmNUMBER TENtELEVENtTWELVEuHIRTEENtFOURTEENuIFTEEN",
  "tSIXTEENuEVENTEENtEIGHTEENtNINETEENmDIGIT ONE ALTERNATE FORMsTWO ALTERNATE FORM",
  "tHREE ALTERNATE FORMmCOMMAmFULL STOPmSYMBOL AIVAmEXCLAMATION OH*101bIAO LETTER PAmBAmYI PA",
  "mPLAmMAnHAmARCHAIC MAmFAmVAnFAmTAmDAmYI TTAqAmTTAmDDAmNAnHAmYI NNAmARCHAIC NAmNNAoHAmLAnYAnHA"]

end LintScaffold.Text.CharName
