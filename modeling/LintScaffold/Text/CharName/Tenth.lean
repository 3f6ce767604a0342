/-!
# Names of characters, tenth part

The names of the characters from U+16F19 to U+1D9A1, in the shortened form of
character names.
-/

namespace LintScaffold.Text.CharName

/-- The rows of names from U+16F19 on. -/
def tenthRows : List String := [
  "oYAmTLHAmDLHAmTLHYAmDLHYAmKAmGAmYI KAmQAnGAmNGAoHAmARCHAIC NGAmHAmXAmGHAoHAmTSSAmDZZAmNYAoHA",
  "mTSHAmDZHAmYI TSHApDZHAmREFORMED TSHAmSHAnSAmZHAnSHAmTSAmDZAmYI TSAmSAmZAnSAnZAoSA",
  "mARCHAIC ZZAmZZYAoSYAmWAmAHmHHAmBRImSYImDZYImTEnSEmRTE*4fSIGN CONSONANT MODIFIER BAR",
  "fLETTER NASALIZATIONfSIGN ASPIRATIONkREFORMED VOICINGtASPIRATIONfVOWEL SIGN ArArHHrNsGqOrOqWO",
  "rqErNsGqOEYqIrAsNtGrOrErIrUrNGqUrAsNtGrUrEIrNGqYrIqAEsEqERRqROUNDED ERRqERqROUNDED ERqAIqEI",
  "qAUqOUqNrGqUOGqYUIqOGrERqVWqIGqEAqIONGqUI*7fTONE RIGHTkTOP RIGHTkABOVEkBELOWfLETTER TONE-2r3",
  "r4r5r6r7r8mREFORMED TONE-1yc2yc4yc5yc6yc8*64aTANGUT ITERATION MARKaNUSHU ITERATION MARK",
  "aOLD CHINESE HOOK MARKmITERATION MARKaKHITAN SMALL SCRIPT FILLER",
  "*11aVIETNAMESE ALTERNATE READING MARK CAykNHAY*6158aTANGUT COMPONENT-001t2t3t4t5t6t7t8t9s10t1",
  "t2t3t4t5t6t7t8t9s20t1t2t3t4t5t6t7t8t9s30t1t2t3t4t5t6t7t8t9s40t1t2t3t4t5t6t7t8t9s50t1t2t3t4t5",
  "t6t7t8t9s60t1t2t3t4t5t6t7t8t9s70t1t2t3t4t5t6t7t8t9s80t1t2t3t4t5t6t7t8t9s90t1t2t3t4t5t6t7t8t9",
  "r100t1t2t3t4t5t6t7t8t9s10t1t2t3t4t5t6t7t8t9s20t1t2t3t4t5t6t7t8t9s30t1t2t3t4t5t6t7t8t9s40t1t2",
  "t3t4t5t6t7t8t9s50t1t2t3t4t5t6t7t8t9s60t1t2t3t4t5t6t7t8t9s70t1t2t3t4t5t6t7t8t9s80t1t2t3t4t5t6",
  "t7t8t9s90t1t2t3t4t5t6t7t8t9r200t1t2t3t4t5t6t7t8t9s10t1t2t3t4t5t6t7t8t9s20t1t2t3t4t5t6t7t8t9",
  "s30t1t2t3t4t5t6t7t8t9s40t1t2t3t4t5t6t7t8t9s50t1t2t3t4t5t6t7t8t9s60t1t2t3t4t5t6t7t8t9s70t1t2t3",
  "t4t5t6t7t8t9s80t1t2t3t4t5t6t7t8t9s90t1t2t3t4t5t6t7t8t9r300t1t2t3t4t5t6t7t8t9s10t1t2t3t4t5t6t7",
  "t8t9s20t1t2t3t4t5t6t7t8t9s30t1t2t3t4t5t6t7t8t9s40t1t2t3t4t5t6t7t8t9s50t1t2t3t4t5t6t7t8t9s60t1",
  "t2t3t4t5t6t7t8t9s70t1t2t3t4t5t6t7t8t9s80t1t2t3t4t5t6t7t8t9s90t1t2t3t4t5t6t7t8t9r400t1t2t3t4t5",
  "t6t7t8t9s10t1t2t3t4t5t6t7t8t9s20t1t2t3t4t5t6t7t8t9s30t1t2t3t4t5t6t7t8t9s40t1t2t3t4t5t6t7t8t9",
  "s50t1t2t3t4t5t6t7t8t9s60t1t2t3t4t5t6t7t8t9s70t1t2t3t4t5t6t7t8t9s80t1t2t3t4t5t6t7t8t9s90t1t2t3",
  "t4t5t6t7t8t9r500t1t2t3t4t5t6t7t8t9s10t1t2t3t4t5t6t7t8t9s20t1t2t3t4t5t6t7t8t9s30t1t2t3t4t5t6t7",
  "t8t9s40t1t2t3t4t5t6t7t8t9s50t1t2t3t4t5t6t7t8t9s60t1t2t3t4t5t6t7t8t9s70t1t2t3t4t5t6t7t8t9s80t1",
  "t2t3t4t5t6t7t8t9s90t1t2t3t4t5t6t7t8t9r600t1t2t3t4t5t6t7t8t9s10t1t2t3t4t5t6t7t8t9s20t1t2t3t4t5",
  "t6t7t8t9s30t1t2t3t4t5t6t7t8t9s40t1t2t3t4t5t6t7t8t9s50t1t2t3t4t5t6t7t8t9s60t1t2t3t4t5t6t7t8t9",
  "s70t1t2t3t4t5t6t7t8t9s80t1t2t3t4t5t6t7t8t9s90t1t2t3t4t5t6t7t8t9r700t1t2t3t4t5t6t7t8t9s10t1t2",
  "t3t4t5t6t7t8t9s20t1t2t3t4t5t6t7t8t9s30t1t2t3t4t5t6t7t8t9s40t1t2t3t4t5t6t7t8t9s50t1t2t3t4t5t6",
  "t7t8t9s60t1t2t3t4t5t6t7t8aKHITAN SMALL SCRIPT CHARACTER-18B00yk1yk2yk3yk4yk5yk6yk7yk8yk9ykA",
  "ykBykCykDykEykFyj10yk1yk2yk3yk4yk5yk6yk7yk8yk9ykAykBykCykDykEykFyj20yk1yk2yk3yk4yk5yk6yk7yk8",
  "yk9ykAykBykCykDykEykFyj30yk1yk2yk3yk4yk5yk6yk7yk8yk9ykAykBykCykDykEykFyj40yk1yk2yk3yk4yk5yk6",
  "yk7yk8yk9ykAykBykCykDykEykFyj50yk1yk2yk3yk4yk5yk6yk7yk8yk9ykAykBykCykDykEykFyj60yk1yk2yk3yk4",
  "yk5yk6yk7yk8yk9ykAykBykCykDykEykFyj70yk1yk2yk3yk4yk5yk6yk7yk8yk9ykAykBykCykDykEykFyj80yk1yk2",
  "yk3yk4yk5yk6yk7yk8yk9ykAykBykCykDykEykFyj90yk1yk2yk3yk4yk5yk6yk7yk8yk9ykAykBykCykDykEykFyjA0",
  "yk1yk2yk3yk4yk5yk6yk7yk8yk9ykAykBykCykDykEykFyjB0yk1yk2yk3yk4yk5yk6yk7yk8yk9ykAykBykCykDykE",
  "ykFyjC0yk1yk2yk3yk4yk5yk6yk7yk8yk9ykAykBykCykDykEykFyjD0yk1yk2yk3yk4yk5yk6yk7yk8yk9ykAykBykC",
  "ykDykEykFyjE0yk1yk2yk3yk4yk5yk6yk7yk8yk9ykAykBykCykDykEykFyjF0yk1yk2yk3yk4yk5yk6yk7yk8yk9ykA",
  "ykBykCykDykEykFyiC00yk1yk2yk3yk4yk5yk6yk7yk8yk9ykAykBykCykDykEykFyj10yk1yk2yk3yk4yk5yk6yk7yk8",
  "yk9ykAykBykCykDykEykFyj20yk1yk2yk3yk4yk5yk6yk7yk8yk9ykAykBykCykDykEykFyj30yk1yk2yk3yk4yk5yk6",
  "yk7yk8yk9ykAykBykCykDykEykFyj40yk1yk2yk3yk4yk5yk6yk7yk8yk9ykAykBykCykDykEykFyj50yk1yk2yk3yk4",
  "yk5yk6yk7yk8yk9ykAykBykCykDykEykFyj60yk1yk2yk3yk4yk5yk6yk7yk8yk9ykAykBykCykDykEykFyj70yk1yk2",
  "yk3yk4yk5yk6yk7yk8yk9ykAykBykCykDykEykFyj80yk1yk2yk3yk4yk5yk6yk7yk8yk9ykAykBykCykDykEykFyj90",
  "yk1yk2yk3yk4yk5yk6yk7yk8yk9ykAykBykCykDykEykFyjA0yk1yk2yk3yk4yk5yk6yk7yk8yk9ykAykBykCykDykE",
  "ykFyjB0yk1yk2yk3yk4yk5yk6yk7yk8yk9ykAykBykCykDykEykFyjC0yk1yk2yk3yk4yk5yk6yk7yk8yk9ykAykBykC",
  "ykDykEykFyjD0yk1yk2yk3yk4yk5*8986bATAKANA LETTER MINNAN TONE-2ye3ye4ye5*1ye7ye8",
  "xNASALIZED TONE-1yo2yo3yo4yo5*1yo7yo8*1qARCHAIC EaHIRAGANA LETTER ARCHAIC YE",
  "bENTAIGANA LETTER A-1u2u3uWOsI-1u2u3u4sU-1u2u3u4u5sE-2u3u4u5u6sO-1u2u3sKA-1v2v3v4v5v6v7v8v9",
  "v10w1vKEtI-1v2v3v4v5v6v7v8tU-1v2v3v4v5v6v7tE-1v2v3v4v5v6tO-1v2v3vKIsSA-1v2v3v4v5v6v7v8tI-1v2",
  "v3v4v5v6tU-1v2v3v4v5v6v7v8tE-1v2v3v4v5tO-1v2v3v4v5v6v7sTA-1v2v3v4tI-1v2v3v4v5v6v7tU-1v2v3v4",
  "vTOtE-1v2v3v4v5v6v7v8v9tO-1v2v3v4v5v6vRAsNA-1v2v3v4v5v6v7v8v9tI-1v2v3v4v5v6v7vTEtU-1v2v3tE-1",
  "v2v3v4v5v6vKOtO-1v2v3v4v5sHA-1v2v3v4v5v6v7v8v9v10w1tI-1v2v3v4v5v6v7tU-1v2v3tE-1v2v3v4v5v6v7",
  "tO-1v2v3v4v5v6v7v8sMA-1v2v3v4v5v6v7tI-1v2v3v4v5v6v7tU-1v2v3v4tE-1v2vMAtO-1v2v3v4v5v6sYA-1v2v3",
  "v4v5vYOtU-1v2v3v4tO-1v2v3v4v5v6sRA-1v2v3v4tI-1v2v3v4v5v6v7tU-1v2v3v4v5v6tE-1v2v3v4tO-1v2v3v4",
  "v5v6sWA-1v2v3v4v5tI-1v2v3v4v5tE-1v2v3v4tO-1v2v3v4v5v6v7sN-MU-MO-1yc2",
  "bIRAGANA LETTER ARCHAIC WUaKATAKANA LETTER ARCHAIC YIybEyaWU*45aHIRAGANA LETTER SMALL WIxExO",
  "*17aKATAKANA LETTER SMALL WIxExOwN*8aNUSHU CHARACTER-1B170u1u2u3u4u5u6u7u8u9uAuBuCuDuEuFt80u1",
  "u2u3u4u5u6u7u8u9uAuBuCuDuEuFt90u1u2u3u4u5u6u7u8u9uAuBuCuDuEuFtA0u1u2u3u4u5u6u7u8u9uAuBuCuDuE",
  "uFtB0u1u2u3u4u5u6u7u8u9uAuBuCuDuEuFtC0u1u2u3u4u5u6u7u8u9uAuBuCuDuEuFtD0u1u2u3u4u5u6u7u8u9uAuB",
  "uCuDuEuFtE0u1u2u3u4u5u6u7u8u9uAuBuCuDuEuFtF0u1u2u3u4u5u6u7u8u9uAuBuCuDuEuFs200u1u2u3u4u5u6u7",
  "u8u9uAuBuCuDuEuFt10u1u2u3u4u5u6u7u8u9uAuBuCuDuEuFt20u1u2u3u4u5u6u7u8u9uAuBuCuDuEuFt30u1u2u3u4",
  "u5u6u7u8u9uAuBuCuDuEuFt40u1u2u3u4u5u6u7u8u9uAuBuCuDuEuFt50u1u2u3u4u5u6u7u8u9uAuBuCuDuEuFt60u1",
  "u2u3u4u5u6u7u8u9uAuBuCuDuEuFt70u1u2u3u4u5u6u7u8u9uAuBuCuDuEuFt80u1u2u3u4u5u6u7u8u9uAuBuCuDuE",
  "uFt90u1u2u3u4u5u6u7u8u9uAuBuCuDuEuFtA0u1u2u3u4u5u6u7u8u9uAuBuCuDuEuFtB0u1u2u3u4u5u6u7u8u9uAuB",
  "uCuDuEuFtC0u1u2u3u4u5u6u7u8u9uAuBuCuDuEuFtD0u1u2u3u4u5u6u7u8u9uAuBuCuDuEuFtE0u1u2u3u4u5u6u7u8",
  "u9uAuBuCuDuEuFtF0u1u2u3u4u5u6u7u8u9uAuB*2308aDUPLOYAN LETTER HqXqPqTqFqKqLqBqDqVqGqRqP NqD S",
  "qF NqK MqR SqTHqSLOAN DHqDHqKKqSLOAN JqHLqLHqRHqMqNqJqSqM NqN MqJ MqS JqM WITH DOTqN WITH DOT",
  "qJ WITH DOTycS INSIDE AND ABOVEqS WITH DOTyc BELOWqM SqN SqJ SqS SqM N SqN M SqJ M SqS J S",
  "qJ S WITH DOTsNt SqS Tt RsPt RqT SsR SqWrHr RqS NsMqK R SqG R SqS Kt RqAqSLOAN OWqOArqAOUqIqE",
  "qIEqSHORT IqUIqEEqSLOAN EHqROMANIAN IqSLOAN EEqLONG IqYEqUqEUqXWqU NqLONG UqROMANIAN UqUH",
  "qSLOAN UqOOHrWrUqWArOrIrEIrOWqNASAL UwOwIwAqPERNIN ANyaMqSLOAN ENwANwONqVOCALIC M",
  "*5jAFFIX LEFT HORIZONTAL SECANTpMID HORIZONTAL SECANTpRIGHT HORIZONTAL SECANT",
  "pLOW VERTICAL SECANTpMID VERTICAL SECANTpHIGH VERTICAL SECANTpATTACHED SECANT",
  "yaLEFT-TO-RIGHT SECANTyaTANGENTycILyaE HOOKyaI HOOKyaTANGENT HOOK*3pHIGH ACUTEuTIGHT ACUTE",
  "uGRAVEuLONG GRAVEuDOTuCIRCLEuLINEuWAVEuVERTICAL*7pLOW ACUTEtTIGHT ACUTEtGRAVEtLONG GRAVEtDOT",
  "tCIRCLEtLINEtWAVEtVERTICALtARROW*2jSIGN O WITH CROSSjTHICK LETTER SELECTORjDOUBLE MARK",
  "jPUNCTUATION CHINOOK FULL STOPaSHORTHAND FORMAT LETTER OVERLAPrCONTINUING OVERLAPrDOWN STEP",
  "rUP STEP*4700aZNAMENNY COMBINING MARK GORAZDO NIZKO S KRYZHEM ON LEFT",
  "yaNIZKO S KRYZHEM ON LEFTyaTSATA ON LEFTyaGORAZDO NIZKO ON LEFTyaNIZKO ON LEFT",
  "yaSREDNE ON LEFTyaMALO POVYSHE ON LEFTyaPOVYSHE ON LEFTyaVYSOKO ON LEFT",
  "yaMALO POVYSHE S KHOKHLOM ON LEFTyaPOVYSHE S KHOKHLOM ON LEFTyaVYSOKO S KHOKHLOM ON LEFT",
  "yaGORAZDO NIZKO S KRYZHEM ON RIGHTyaNIZKO S KRYZHEM ON RIGHTyaTSATA ON RIGHT",
  "yaGORAZDO NIZKO ON RIGHTyaNIZKO ON RIGHTyaSREDNE ON RIGHTyaMALO POVYSHE ON RIGHT",
  "yaPOVYSHE ON RIGHTyaVYSOKO ON RIGHTyaMALO POVYSHE S KHOKHLOM ON RIGHT",
  "yaPOVYSHE S KHOKHLOM ON RIGHTyaVYSOKO S KHOKHLOM ON RIGHTyaTSATA S KRYZHEM",
  "yaMALO POVYSHE S KRYZHEMyaSTRANNO MALO POVYSHEyaPOVYSHE S KRYZHEMyjTRANNOyaVYSOKO S KRYZHEM",
  "yaMALO POVYSHE STRANNOyaGORAZDO VYSOKOyaZELOyaONyaRAVNOyaTIKHAYAyaBORZAYAyaUDARKAyaPODVERTKA",
  "yaLOMKAyaKUPNAYAybACHKAyaZEVOKyaSKOBAyaRAZSEKAyaKRYZH ON LEFT*2tTONAL RANGE MARK MRACHNO",
  "ymSVETLOymTRESVETLOtMARK ZADERZHKAyaDEMESTVENNY ZADERZHKAyaOTSECHKAyaPODCHASHIE",
  "yk WITH VERTICAL STROKEyaCHASHKAyh POLNAYAyaOBLACHKOyaSOROCHYA NOZHKAyaTOCHKAyaDVOETOCHIE",
  "tATTACHING VERTICAL OMETtMARK CURVED OMETyaKRYZHtLOWER TONAL RANGE INDICATOR",
  "jPRIZNAK MODIFIER LEVEL-2yi3ycDIRECTION FLIPycKRYZHycROG*9jNEUME KRYUKu TIKHYpPARAKLIT",
  "pDVA V CHELNUpKLYUCHpZANOZHEKpSTOPITSAx S OCHKOMpPEREVODKAya NEPOSTOYANNAYA",
  "pSTOPITSA WITH SOROCHYA NOZHKApCHELYUSTKApPALKApZAPYATAYApGOLUBCHIK BORZYybTIKHYybMRACHNY",
  "ybSVETLYybTRESVETLYpVRAKHIYA PROSTAYAyaMRACHNAYAyaSVETLAYAyaTRESVETLAYAyaKLYUCHEVAYA PROSTAYA",
  "ymMRACHNAYAymSVETLAYAymTRESVETLAYApDOUBLE ZAPYATAYApREVERSED CHELYUSTKApDERBITSApKHAMILO",
  "pCHASHKApPODCHASHIEpSKAMEYTSA MRACHNAYAybSVETLAYAybTRESVETLAYAycIKHAYApDEMESTVENNY KLYUCH",
  "pSKAMEYTSA KLYUCHEVAYA SVETLAYAyiNEPOSTOYANNAYAyiVAYA TIKHAYAybDVOECHELNAYA PROSTAYA",
  "yoSVETLAYAyoNEPOSTOYANNAYAyoKLYUCHEVAYAqLOZHITIEya S ZAPYATOYybZAKRYTOEybS KRYZHEMpKRYZHpROG",
  "pFITApKOBYLApZMEYTSApSTATYAv S ZAPYATOYyaKRYZHEMyaZAPYATOY I KRYZHEMyaKRYZHEM I ZAPYATOY",
  "wZAKRYTAYAyh S ZAPYATOYwS ROGOMyaDVUMYA ZAPYATYMIyaZAPYATOY I PODCHASHIEMpPOLKULIZMY",
  "pSTATYA NEPOSTOYANNAYArRELA PROSTAYAwMRACHNOTIKHAYAwKRYZHEVAYAwPOLUPOVODNAYAyaVODNAYA",
  "wNEPOSTOYANNAYAwKLYUCHEPOVODNAYAyfNEPOSTOYANNAYAwTIKHAYA PUTNAYAwDVOECHELNAYAyhOKRYZHEVAYA",
  "yiPOVODNAYAyhAYA KLYUCHEVAYAyhOPOVODNAYA KLYUCHEVAYAwGROMNAYA WITH SINGLE ZAPYATAYA",
  "ycOPOVODNAYA WITH SINGLE ZAPYATAYAycNAYAycOPOVODNAYAym WITH DOUBLE ZAPYATAYAydKRYZHEVAYA",
  "yn POVODNAYApMECHIKv POVODNYwKLYUCHEVOYyfPOVODNYyfNEPOSTOYANNYpSTRELA TRYASOGLASNAYA",
  "yePOVODNAYAyeSTRELNAYApOSOKAu SVETLAYAvTRESVETLAYAvKRYUKOVAYA SVETLAYAwLYUCHEVAYA SVETLAYA",
  "yjNEPOSTOYANNAYApSTRELA KRYUKOVAYAyi POVODNAYAyjGROMNAYA WITH SINGLE ZAPYATAYA",
  "ynOPOVODNAYA WITH SINGLE ZAPYATAYAynNAYAynOPOVODNAYAyx WITH DOUBLE ZAPYATAYAyoKRYZHEVAYA",
  "yy POVODNAYAyjTRYASKApKUFISMApOBLAKOpDUDApNEMKApPAUK*60aBYZANTINE MUSICAL SYMBOL PSILI",
  "ybDASEIAybPERISPOMENIybOXEIA EKFONITIKONyhDIPLIybVAREIA EKFONITIKONyiDIPLIybKATHISTI",
  "ybSYRMATIKIybPARAKLITIKIybYPOKRISISyk DIPLIybKREMASTIybAPESO EKFONITIKONybEXO EKFONITIKON",
  "ybTELEIAybKENTIMATAybAPOSTROFOSyl DIPLIybSYNEVMAybTHITAybOLIGON ARCHAIONybGORGON ARCHAION",
  "ybPSILONybCHAMILONybVATHYybISON ARCHAIONybKENTIMA ARCHAIONyiTA ARCHAIONybSAXIMATAybPARICHON",
  "ybSTAVROS APODEXIAybOXEIAI ARCHAIONybVAREIAI ARCHAIONybAPODERMA ARCHAIONyeTHEMAybKLASMA",
  "ybREVMAybPIASMA ARCHAIONybTINAGMAybANATRICHISMAybSEISMAycYNAGMA ARCHAIONyjMETA STAVROU",
  "ybOYRANISMA ARCHAIONybTHEMAybLEMOIybDYOybTRIAycESSERAybKRATIMATAybAPESO EXO NEO",
  "ybFTHORA ARCHAIONybIMIFTHORAybTROMIKON ARCHAIONybKATAVA TROMIKONybPELASTONycSIFISTON",
  "ybKONTEVMAybCHOREVMA ARCHAIONybRAPISMAybPARAKALESMA ARCHAIONygLITIKI ARCHAIONybICHADINybNANA",
  "ybPETASMAybKONTEVMA ALLOybTROMIKON ALLOybSTRAGGISMATAybGRONTHISMATAybISON NEOybOLIGON NEO",
  "ycXEIA NEOybPETASTIybKOUFISMAybPETASTOKOUFISMAybKRATIMOKOUFISMAybPELASTON NEO",
  "ybKENTIMATA NEO ANOyi NEO ANOybYPSILIybAPOSTROFOS NEOykI SYNDESMOS NEOybYPORROI",
  "ybKRATIMOYPORROONybELAFRONybCHAMILIybMIKRON ISONybVAREIA NEOybPIASMA NEOycSIFISTON NEO",
  "ybOMALONybANTIKENOMAybLYGISMAybPARAKLITIKI NEOygALESMA NEOybETERON PARAKALESMAybKYLISMA",
  "ybANTIKENOKYLISMAybTROMIKON NEOybEKSTREPTONybSYNAGMA NEOydRMAybCHOREVMA NEOybEPEGERMA",
  "ybSEISMA NEOybXIRON KLASMAybTROMIKOPSIFISTONybPSIFISTOLYGISMAybTROMIKOLYGISMAyiPARAKALESMA",
  "ybPSIFISTOPARAKALESMAybTROMIKOSYNAGMAybPSIFISTOSYNAGMAybGORGOSYNTHETONybARGOSYNTHETON",
  "ybETERON ARGOSYNTHETONybOYRANISMA NEOybTHEMATISMOS ESOyoXOyg APLOUNyeS KAI APOTHESybKATAVASMA",
  "ybENDOFONONybYFEN KATOygANOybSTAVROSybKLASMA ANOybDIPLI ARCHAIONybKRATIMA ARCHAIONykLLOyjNEO",
  "ybAPODERMA NEOydLIybDIPLIybTRIPLIycETRAPLIybKORONISybLEIMMA ENOS CHRONOUyiDYO CHRONON",
  "yiTRION CHRONONyjESSARON CHRONONyiIMISEOS CHRONOUybGORGON NEO ANOyiPARESTIGMENON ARISTERA",
  "ywDEXIAybDIGORGONyj PARESTIGMENON ARISTERA KATOzhANOyyDEXIAybTRIGORGONybARGONybIMIDIARGON",
  "ybDIARGONybAGOGI POLI ARGIyhARGOTERIykIyhMETRIAyjSIyhGORGIylOTERIyhPOLI GORGI",
  "ybMARTYRIA PROTOS ICHOSykALLI PROTOS ICHOSykDEYTEROS ICHOSykALLI DEYTEROS ICHOSykTRITOS ICHOS",
  "ynFONIASylETARTOS ICHOSytLEGETOS ICHOSykLEGETOS ICHOSykPLAGIOS ICHOSybISAKIA TELOUS ICHIMATOS",
  "ybAPOSTROFOI TELOUS ICHIMATOSybFANEROSIS TETRAFONIASylMONOFONIASylDIFONIAS",
  "ybMARTYRIA VARYS ICHOSykPROTOVARYS ICHOSylLAGIOS TETARTOS ICHOSybGORTHMIKON N APLOUNyoDIPLOUN",
  "ybENARXIS KAI FTHORA VOUybIMIFONONyfTHORONybFTHORA ARCHAION DEYTEROU ICHOUyiDIATONIKI PA",
  "ysNANAyiNAOS ICHOSyiDIATONIKI DIyiSKLIRON DIATONON DIyiDIATONIKI KEysZOysNI KATOyvANO",
  "yiMALAKON CHROMA DIFONIASyxMONOFONIASycHTORA SKLIRON CHROMA VASIS",
  "ycTHORA SKLIRON CHROMA SYNAFIyiNENANOybCHROA ZYGOSyhKLITONyhSPATHI",
  "ybFTHORA I YFESIS TETARTIMORIONyiENARMONIOS ANTIFONIAybYFESIS TRITIMORIONybDIESIS TRITIMORION",
  "yjETARTIMORIONyiAPLI DYO DODEKATAyiMONOGRAMMOS TESSERA DODEKATAyiDIGRAMMOS EX DODEKATA",
  "yiTRIGRAMMOS OKTO DODEKATAybYFESIS APLI DYO DODEKATAyiMONOGRAMMOS TESSERA DODEKATA",
  "yiDIGRAMMOS EX DODEKATAyiTRIGRAMMOS OKTO DODEKATAybGENIKI DIESISyiYFESISybDIASTOLI APLI MIKRI",
  "yqEGALIykDIPLIykTHESEOSybSIMANSIS THESEOSyr DISIMOUysTRISIMOUytETRASIMOUykARSEOSyq DISIMOU",
  "yrTRISIMOUysETRASIMOUybDIGRAMMA GGydFTOGGOS OUybSTIGMAybARKTIKO PAyjVOUyjGAyjDIyjKEyjZOyjNI",
  "ybKENTIMATA NEO MESOyi NEO MESOyiTA NEO KATOyi NEO KATOycLASMA KATOybGORGON NEO KATO",
  "*10aMUSICAL SYMBOL SINGLE BARLINEpDOUBLE BARLINEpFINAL BARLINEpREVERSE FINAL BARLINE",
  "pDASHED BARLINEpSHORT BARLINEpLEFT REPEAT SIGNpRIGHT REPEAT SIGNqEPEAT DOTSpDAL SEGNOr CAPO",
  "pSEGNOpCODApREPEATED FIGURE-1yh2yh3pFERMATAw BELOWpBREATH MARKpCAESURApBRACEtKET",
  "pONE-LINE STAFFpTWO-LINE STAFFqHREE-LINE STAFFpFOUR-LINE STAFFqIVE-LINE STAFFpSIX-LINE STAFF",
  "tSTRING FRETBOARDpFOUR-STRING FRETBOARDpG CLEFv OTTAVA ALTAyfBASSApC CLEFpF CLEFv OTTAVA ALTA",
  "yfBASSApDRUM CLEF-1yb2*2pMULTIPLE MEASURE RESTpDOUBLE SHARPwFLATpFLAT UPuDOWNpNATURAL UPxDOWN",
  "pSHARP UPvDOWNpQUARTER TONE SHARPyeFLATpCOMMON TIMEqUT TIMEpOTTAVA ALTAwBASSA",
  "pQUINDICESIMA ALTAyeBASSApMULTI RESTpWHOLE RESTpHALF RESTpQUARTER RESTpEIGHTH REST",
  "pSIXTEENTH RESTpTHIRTY-SECOND RESTpSIXTY-FOURTH RESTpONE HUNDRED TWENTY-EIGHTH REST",
  "pX NOTEHEADpPLUS NOTEHEADpCIRCLE X NOTEHEADpSQUARE NOTEHEAD WHITEyhBLACK",
  "pTRIANGLE NOTEHEAD UP WHITEymBLACKyjLEFT WHITEyoBLACKyjRIGHT WHITEypBLACKyjDOWN WHITEyoBLACK",
  "yjUP RIGHT WHITEysBLACKpMOON NOTEHEAD WHITEyfBLACKpTRIANGLE-ROUND NOTEHEAD DOWN WHITEyuBLACK",
  "pPARENTHESIS NOTEHEADpVOID NOTEHEADpNOTEHEAD BLACKqULL NOTEHEADpCLUSTER NOTEHEAD WHITEyiBLACK",
  "pBREVEpWHOLE NOTEpHALF NOTEpQUARTER NOTEpEIGHTH NOTEpSIXTEENTH NOTEpTHIRTY-SECOND NOTE",
  "pSIXTY-FOURTH NOTEpONE HUNDRED TWENTY-EIGHTH NOTEpCOMBINING STEMycPRECHGESANG STEMybTREMOLO-1",
  "yj2yj3pFINGERED TREMOLO-1yi2yi3pCOMBINING AUGMENTATION DOTybFLAG-1yg2yg3yg4yg5pBEGIN BEAM",
  "pEND BEAMpBEGIN TIEpEND TIEpBEGIN SLURpEND SLURpBEGIN PHRASEpEND PHRASEpCOMBINING ACCENT",
  "ybSTACCATOybTENUTOybSTACCATISSIMOybMARCATOyi-STACCATOybACCENT-STACCATOybLOUREpARPEGGIATO UP",
  "ycDOWNpCOMBINING DOITybRIPybFLIPybSMEARybBENDybDOUBLE TONGUEybTRIPLE TONGUEpRINFORZANDO",
  "pSUBITOpZpPIANOpMEZZOpFORTEpCRESCENDOpDECRESCENDOpGRACE NOTE SLASHycNO SLASHpTRqURN",
  "pINVERTED TURNpTURN SLASHuUPpORNAMENT STROKE-1yh2yh3yh4yh5yh6yh7yh8yh9yh10yi1pHAUPTSTIMME",
  "pNEBENSTIMMEpEND OF STIMMEpDEGREE SLASHpCOMBINING DOWN BOWybUP BOWybHARMONICybSNAP PIZZICATO",
  "pPEDAL MARKvUP MARKpHALF PEDAL MARKpGLISSANDO UPybDOWNpWITH FINGERNAILSpDAMPt ALLpMAXIMA",
  "pLONGApBREVISpSEMIBREVIS WHITEycBLACKpMINIMAv BLACKpSEMIMINIMA WHITEycBLACKpFUSA WHITEuBLACK",
  "pLONGA PERFECTA RESTvIMPERFECTA RESTpBREVIS RESTpSEMIBREVIS RESTpMINIMA RESTpSEMIMINIMA REST",
  "pTEMPUS PERFECTUM CUM PROLATIONE PERFECTAyxIMPERFECTAyxPERFECTA DIMINUTION-1",
  "wIMPERFECTUM CUM PROLATIONE PERFECTAyzIMPERFECTAzj DIMINUTION-1zv2zv3pCROIXpGREGORIAN C CLEF",
  "ybF CLEFpSQUARE BpVIRGApPODATUSpCLIVISpSCANDICUSpCLIMACUSpTORCULUSpPORRECTUSya FLEXUS",
  "pSCANDICUS FLEXUSpTORCULUS RESUPINUSpPES SUBPUNCTISpKIEVAN C CLEFwEND OF PIECEwFINAL NOTE",
  "wRECITATIVE MARKwWHOLE NOTEwHALF NOTEwQUARTER NOTE STEM DOWNyqUPwEIGHTH NOTE STEM DOWNypUP",
  "wFLAT SIGNpSORIpKORON*21aGREEK VOCAL NOTATION SYMBOL-1ye2ye3ye4ye5ye6ye7ye8ye9ye10yf1yf2yf3",
  "yf4yf5yf6yf7yf8yf9ye20yf1yf2yf3yf4ye50yf1yf2yf3yf4gINSTRUMENTAL NOTATION SYMBOL-1yl2yl4yl5yl7",
  "yl8yl11ym2ym3ym4ym7ym8ym9yl23ym4ym5ym6ym7ym9yl30ym2ym6ym7ym8ym9yl40ym2ym3ym5ym7ym8ym9yl50ym1",
  "ym2ym3ym4aCOMBINING GREEK MUSICAL TRISEMEybETRASEMEyaPENTASEMEaGREEK MUSICAL LEIMMA",
  "*154aMAYAN NUMERAL ZEROoONEoTWOpHREEoFOURpIVEoSIXpEVENoEIGHToNINEoTENoELEVENoTWELVEpHIRTEEN",
  "oFOURTEENpIFTEENoSIXTEENpEVENTEENoEIGHTEENoNINETEEN*12bONOGRAM FOR EARTH",
  "aDIGRAM FOR HEAVENLY EARTHmUMAN EARTHlEARTHLY HEAVENuUMANqaTETRAGRAM FOR CENTREoFULL CIRCLE",
  "oMIREDoBARRIERoKEEPING SMALLoCONTRARIETYoASCENToOPPOSITIONoBRANCHING OUT",
  "oDEFECTIVENESS OR DISTORTIONpIVERGENCEoYOUTHFULNESSoINCREASEoPENETRATIONoREACHoCONTACT",
  "oHOLDING BACKoWAITINGoFOLLOWINGoADVANCEoRELEASEqSISTANCEoEASEoJOYoCONTENTIONoENDEAVOURoDUTIES",
  "oCHANGEoDECISIVENESSoBOLD RESOLUTIONoPACKINGoLEGIONoCLOSENESSoKINSHIPoGATHERINGoSTRENGTH",
  "oPURITYoFULLNESSoRESIDENCEoLAW OR MODELoRESPONSEoGOING TO MEEToENCOUNTERSoSTOVEoGREATNESS",
  "oENLARGEMENToPATTERNoRITUALoFLIGHToVASTNESS OR WASTINGoCONSTANCYoMEASUREoETERNITYoUNITY",
  "oDIMINISHMENToCLOSED MOUTHoGUARDEDNESSpATHERING INoMASSINGoACCUMULATIONoEMBELLISHMENToDOUBT",
  "oWATCHoSINKINGoINNERoDEPARTUREpARKENINGpIMMINGoEXHAUSTIONoSEVERANCEpTOPPAGEoHARDNESS",
  "oCOMPLETIONpLOSUREoFAILUREoAGGRAVATIONoCOMPLIANCEoON THE VERGEoDIFFICULTIESoLABOURING",
  "oFOSTERING*9aCOUNTING ROD UNIT DIGIT ONEyaTWOybHREEyaFOURybIVEyaSIXybEVENyaEIGHTyaNINE",
  "nTENS DIGIT ONEyaTWOybHREEyaFOURybIVEyaSIXybEVENyaEIGHTyaNINEaIDEOGRAPHIC TALLY MARK ONExTWO",
  "yaHREExFOURyaIVEaTALLY MARK ONElFIVE*135aMATHEMATICAL BOLD CAPITAL AycBycCycDycEycFycGycHycI",
  "ycJycKycLycMycNycOycPycQycRycSycTycUycVycWycXycYycZsSMALL AyaByaCyaDyaEyaFyaGyaHyaIyaJyaKyaL",
  "yaMyaNyaOyaPyaQyaRyaSyaTyaUyaVyaWyaXyaYyaZnITALIC CAPITAL AyeByeCyeDyeEyeFyeGyeHyeIyeJyeKyeL",
  "yeMyeNyeOyePyeQyeRyeSyeTyeUyeVyeWyeXyeYyeZuSMALL AycBycCycDycEycFycG*1ycIycJycKycLycMycNycO",
  "ycPycQycRycSycTycUycVycWycXycYycZnBOLD ITALIC CAPITAL AyjByjCyjDyjEyjFyjGyjHyjIyjJyjKyjLyjM",
  "yjNyjOyjPyjQyjRyjSyjTyjUyjVyjWyjXyjYyjZybSMALL AyhByhCyhDyhEyhFyhGyhHyhIyhJyhKyhLyhMyhNyhOyhP",
  "yhQyhRyhSyhTyhUyhVyhWyhXyhYyhZnSCRIPT CAPITAL A*1yeCyeD*2yeG*2yeJyeK*2yeNyeOyePyeQ*1yeSyeTyeU",
  "yeVyeWyeXyeYyeZuSMALL AycBycCycD*1ycF*1ycHycIycJycKycLycMycN*1ycPycQycRycSycTycUycVycWycXycY",
  "ycZnBOLD SCRIPT CAPITAL AyjByjCyjDyjEyjFyjGyjHyjIyjJyjKyjLyjMyjNyjOyjPyjQyjRyjSyjTyjUyjVyjW",
  "yjXyjYyjZybSMALL AyhByhCyhDyhEyhFyhGyhHyhIyhJyhKyhLyhMyhNyhOyhPyhQyhRyhSyhTyhUyhVyhWyhXyhYyhZ",
  "nFRAKTUR CAPITAL AyfB*1yfDyfEyfFyfG*2yfJyfKyfLyfMyfNyfOyfPyfQ*1yfSyfTyfUyfVyfWyfXyfY",
  "*1vSMALL AydBydCydDydEydFydGydHydIydJydKydLydMydNydOydPydQydRydSydTydUydVydWydXydYydZ",
  "nDOUBLE-STRUCK CAPITAL AylB*1ylDylEylFylG*1ylIylJylKylLylM*1ylO*3ylSylTylUylVylWylXylY",
  "*1ydSMALL AyjByjCyjDyjEyjFyjGyjHyjIyjJyjKyjLyjMyjNyjOyjPyjQyjRyjSyjTyjUyjVyjWyjXyjYyjZ",
  "nBOLD FRAKTUR CAPITAL AykBykCykDykEykFykGykHykIykJykKykLykMykNykOykPykQykRykSykTykUykVykWykX",
  "ykYykZycSMALL AyiByiCyiDyiEyiFyiGyiHyiIyiJyiKyiLyiMyiNyiOyiPyiQyiRyiSyiTyiUyiVyiWyiXyiYyiZ",
  "nSANS-SERIF CAPITAL AyiByiCyiDyiEyiFyiGyiHyiIyiJyiKyiLyiMyiNyiOyiPyiQyiRyiSyiTyiUyiVyiWyiXyiY",
  "yiZyaSMALL AygBygCygDygEygFygGygHygIygJygKygLygMygNygOygPygQygRygSygTygUygVygWygXygYygZ",
  "yaBOLD CAPITAL AynBynCynDynEynFynGynHynIynJynKynLynMynNynOynPynQynRynSynTynUynVynWynXynYynZ",
  "yfSMALL AylBylCylDylEylFylGylHylIylJylKylLylMylNylOylPylQylRylSylTylUylVylWylXylYylZ",
  "yaITALIC CAPITAL AypBypCypDypEypFypGypHypIypJypKypLypMypNypOypPypQypRypSypTypUypVypWypXypYypZ",
  "yhSMALL AynBynCynDynEynFynGynHynIynJynKynLynMynNynOynPynQynRynSynTynUynVynWynXynYynZ",
  "yaBOLD ITALIC CAPITAL AyuByuCyuDyuEyuFyuGyuHyuIyuJyuKyuLyuMyuNyuOyuPyuQyuRyuSyuTyuUyuVyuWyuX",
  "yuYyuZymSMALL AysBysCysDysEysFysGysHysIysJysKysLysMysNysOysPysQysRysSysTysUysVysWysXysYysZ",
  "nMONOSPACE CAPITAL AyhByhCyhDyhEyhFyhGyhHyhIyhJyhKyhLyhMyhNyhOyhPyhQyhRyhSyhTyhUyhVyhWyhXyhY",
  "yhZxSMALL AyfByfCyfDyfEyfFyfGyfHyfIyfJyfKyfLyfMyfNyfOyfPyfQyfRyfSyfTyfUyfVyfWyfXyfYyfZ",
  "nITALIC SMALL DOTLESS IykJ*2nBOLD CAPITAL ALPHAycBETAycGAMMAycDELTAycEPSILONycZETAycETA",
  "ycTHETAycIOTAycKAPPAycLAMDAycMUycNUycXIycOMICRONycPIycRHOycTHETA SYMBOLycSIGMAycTAUycUPSILON",
  "ycPHIycCHIycPSIycOMEGAsNABLAsSMALL ALPHAyaBETAyaGAMMAyaDELTAyaEPSILONyaZETAyaETAyaTHETAyaIOTA",
  "yaKAPPAyaLAMDAyaMUyaNUyaXIyaOMICRONyaPIyaRHOyaFINAL SIGMAyaSIGMAyaTAUyaUPSILONyaPHIyaCHIyaPSI",
  "yaOMEGAsPARTIAL DIFFERENTIALsEPSILON SYMBOLsTHETA SYMBOLsKAPPA SYMBOLsPHI SYMBOLsRHO SYMBOL",
  "sPI SYMBOLnITALIC CAPITAL ALPHAyeBETAyeGAMMAyeDELTAyeEPSILONyeZETAyeETAyeTHETAyeIOTAyeKAPPA",
  "yeLAMDAyeMUyeNUyeXIyeOMICRONyePIyeRHOyeTHETA SYMBOLyeSIGMAyeTAUyeUPSILONyePHIyeCHIyePSI",
  "yeOMEGAuNABLAuSMALL ALPHAycBETAycGAMMAycDELTAycEPSILONycZETAycETAycTHETAycIOTAycKAPPAycLAMDA",
  "ycMUycNUycXIycOMICRONycPIycRHOycFINAL SIGMAycSIGMAycTAUycUPSILONycPHIycCHIycPSIycOMEGA",
  "uPARTIAL DIFFERENTIALuEPSILON SYMBOLuTHETA SYMBOLuKAPPA SYMBOLuPHI SYMBOLuRHO SYMBOL",
  "uPI SYMBOLnBOLD ITALIC CAPITAL ALPHAyjBETAyjGAMMAyjDELTAyjEPSILONyjZETAyjETAyjTHETAyjIOTA",
  "yjKAPPAyjLAMDAyjMUyjNUyjXIyjOMICRONyjPIyjRHOyjTHETA SYMBOLyjSIGMAyjTAUyjUPSILONyjPHIyjCHI",
  "yjPSIyjOMEGAybNABLAybSMALL ALPHAyhBETAyhGAMMAyhDELTAyhEPSILONyhZETAyhETAyhTHETAyhIOTAyhKAPPA",
  "yhLAMDAyhMUyhNUyhXIyhOMICRONyhPIyhRHOyhFINAL SIGMAyhSIGMAyhTAUyhUPSILONyhPHIyhCHIyhPSIyhOMEGA",
  "ybPARTIAL DIFFERENTIALybEPSILON SYMBOLybTHETA SYMBOLybKAPPA SYMBOLybPHI SYMBOLybRHO SYMBOL",
  "ybPI SYMBOLnSANS-SERIF BOLD CAPITAL ALPHAynBETAynGAMMAynDELTAynEPSILONynZETAynETAynTHETA",
  "ynIOTAynKAPPAynLAMDAynMUynNUynXIynOMICRONynPIynRHOynTHETA SYMBOLynSIGMAynTAUynUPSILONynPHI",
  "ynCHIynPSIynOMEGAyfNABLAyfSMALL ALPHAylBETAylGAMMAylDELTAylEPSILONylZETAylETAylTHETAylIOTA",
  "ylKAPPAylLAMDAylMUylNUylXIylOMICRONylPIylRHOylFINAL SIGMAylSIGMAylTAUylUPSILONylPHIylCHIylPSI",
  "ylOMEGAyfPARTIAL DIFFERENTIALyfEPSILON SYMBOLyfTHETA SYMBOLyfKAPPA SYMBOLyfPHI SYMBOL",
  "yfRHO SYMBOLyfPI SYMBOLyfITALIC CAPITAL ALPHAyuBETAyuGAMMAyuDELTAyuEPSILONyuZETAyuETAyuTHETA",
  "yuIOTAyuKAPPAyuLAMDAyuMUyuNUyuXIyuOMICRONyuPIyuRHOyuTHETA SYMBOLyuSIGMAyuTAUyuUPSILONyuPHI",
  "yuCHIyuPSIyuOMEGAymNABLAymSMALL ALPHAysBETAysGAMMAysDELTAysEPSILONysZETAysETAysTHETAysIOTA",
  "ysKAPPAysLAMDAysMUysNUysXIysOMICRONysPIysRHOysFINAL SIGMAysSIGMAysTAUysUPSILONysPHIysCHIysPSI",
  "ysOMEGAymPARTIAL DIFFERENTIALymEPSILON SYMBOLymTHETA SYMBOLymKAPPA SYMBOLymPHI SYMBOL",
  "ymRHO SYMBOLymPI SYMBOLnBOLD CAPITAL DIGAMMAsSMALL DIGAMMA*2sDIGIT ZEROyaONEyaTWOybHREEyaFOUR",
  "ybIVEyaSIXybEVENyaEIGHTyaNINEnDOUBLE-STRUCK DIGIT ZEROyjONEyjTWOykHREEyjFOURykIVEyjSIXykEVEN",
  "yjEIGHTyjNINEnSANS-SERIF DIGIT ZEROygONEygTWOyhHREEygFOURyhIVEygSIXyhEVENygEIGHTygNINE",
  "yaBOLD DIGIT ZEROylONEylTWOymHREEylFOURymIVEylSIXymEVENylEIGHTylNINEnMONOSPACE DIGIT ZERO",
  "yfONEyfTWOygHREEyfFOURygIVEyfSIXygEVENyfEIGHTyfNINEaSIGNWRITING HAND-FIST INDEXrCIRCLE INDEX",
  "sUP INDEXrOVAL INDEXrHINGE INDEXrANGLE INDEXrFIST INDEX BENTrCIRCLE INDEX BENT",
  "rFIST THUMB UNDER INDEX BENTwINDEX RAISED KNUCKLEyeCUPPEDyeHINGEDyk LOWrCIRCLE INDEX HINGE",
  "rFIST INDEX MIDDLErCIRCLE INDEX MIDDLErFIST INDEX MIDDLE BENTylRAISED KNUCKLESylHINGED",
  "yeUP MIDDLE HINGEDyeHINGED MIDDLE UPyeMIDDLE CONJOINEDyu INDEX BENTyvMIDDLE BENTyvCUPPED",
  "yvHINGEDymROSSEDrCIRCLE INDEX MIDDLE CROSSEDrFIST MIDDLE BENT OVER INDEX",
  "wINDEX BENT OVER MIDDLEyeMIDDLE THUMBrCIRCLE INDEX MIDDLE THUMB",
  "rFIST INDEX MIDDLE STRAIGHT THUMB BENTylBENT THUMB STRAIGHTylTHUMB BENT",
  "ylHINGED SPREAD THUMB SIDEyeUP MIDDLE HINGED THUMB SIDEzbCONJOINED",
  "yeHINGED MIDDLE UP THUMB SIDEyeMIDDLE UP SPREAD THUMB FORWARDylTHUMB CUPPEDysIRCLEDyrHOOKED",
  "ysINGEDwTHUMB BETWEEN INDEX MIDDLE STRAIGHTwINDEX MIDDLE CONJOINED THUMB SIDEzf CONJOINED",
  "zgBENTwMIDDLE THUMB HOOKED INDEX UPwINDEX THUMB HOOKED MIDDLE UP",
  "yeMIDDLE CONJOINED HINGED THUMB SIDEymROSSED THUMB SIDEymONJOINED THUMB FORWARD",
  "yvCUPPED THUMB FORWARDwMIDDLE THUMB CUPPED INDEX UPwINDEX THUMB CUPPED MIDDLE UP",
  "wMIDDLE THUMB CIRCLED INDEX UPyzHINGEDwINDEX THUMB ANGLED OUT MIDDLE UPyrIN MIDDLE UP",
  "ykCIRCLED MIDDLE UPyeMIDDLE THUMB CONJOINED HINGEDyrANGLED OUTyx",
  "wMIDDLE THUMB ANGLED OUT INDEX UPzcCROSSEDysINDEX UPwINDEX THUMB HOOKED MIDDLE HINGED",
  "sLAT FOUR FINGERSyk BENTylHINGEDylCONJOINEDyu SPLITrCLAW FOUR FINGERS CONJOINED",
  "rFIST FOUR FINGERS CONJOINED BENTrHINGE FOUR FINGERS CONJOINEDrFLAT FIVE FINGERS SPREAD",
  "wHEEL FIVE FINGERS SPREADwFIVE FINGERS SPREAD FOUR BENTwHEEL FIVE FINGERS SPREAD FOUR BENT",
  "wFIVE FINGERS SPREAD BENTwHEEL FIVE FINGERS SPREAD BENTwFIVE FINGERS SPREAD THUMB FORWARD",
  "rCUP FIVE FINGERS SPREADyq OPENrHINGE FIVE FINGERS SPREAD OPENrOVAL FIVE FINGERS SPREAD",
  "rFLAT FIVE FINGERS SPREAD HINGEDyy THUMB SIDEyzNO THUMBvv BETWEEN PALM FACINGSwHEEL",
  "wTHUMB SIDEwHEEL THUMB SIDEwTHUMB BENTyeFORWARDwSPLIT INDEX THUMB SIDEyeCENTREyk THUMB SIDE",
  "yv BENTyeLITTLErCLAWv THUMB SIDEwNO THUMBwTHUMB FORWARDrHOOK CURLICUEvrCUP OPENu",
  "u OPEN THUMB SIDEvTHUMB SIDEvOPEN NO THUMBvNO THUMBvOPEN THUMB FORWARDvTHUMB FORWARD",
  "tRLICUE OPENybsIRCLErOVALv THUMB SIDEwNO THUMBwTHUMB FORWARDrHINGE OPENyd THUMB FORWARDw",
  "w SMALLxOPEN THUMB SIDExTHUMB SIDExOPEN NO THUMBxNO THUMBxTHUMB SIDE TOUCHING INDEX",
  "yfBETWEEN MIDDLE RINGrANGLErFIST INDEX MIDDLE RINGrCIRCLE INDEX MIDDLE RING",
  "rHINGE INDEX MIDDLE RINGrANGLE INDEX MIDDLE RINGrHINGE LITTLErFIST INDEX MIDDLE RING BENT",
  "yqCONJOINEDrHINGE INDEX MIDDLE RING CONJOINEDrFIST LITTLE DOWNyj RIPPLE STRAIGHTyrCURVED",
  "ykOTHERS CIRCLEDyfUPwTHUMB UNDER LITTLE UPrCIRCLE LITTLE UPrOVAL LITTLE UPrANGLE LITTLE UP",
  "rFIST LITTLE RAISED KNUCKLEyfBENTyfTOUCHES THUMBygHUMBrHINGE LITTLE THUMB",
  "rFIST LITTLE INDEX THUMBrHINGE LITTLE INDEX THUMBrANGLE LITTLE INDEX THUMB INDEX THUMB OUTzd",
  "rFIST LITTLE INDEXrCIRCLE LITTLE INDEXrHINGE LITTLE INDEXrANGLE LITTLE INDEX",
  "rFIST INDEX MIDDLE LITTLErCIRCLE INDEX MIDDLE LITTLErHINGE INDEX MIDDLE LITTLExRING",
  "rANGLE INDEX MIDDLE LITTLErFIST INDEX MIDDLE CROSS LITTLErCIRCLE INDEX MIDDLE CROSS LITTLE",
  "rFIST RING DOWNrHINGE RING DOWN INDEX THUMB HOOK MIDDLE",
  "rANGLE RING DOWN MIDDLE THUMB INDEX CROSSrFIST RING UPydRAISED KNUCKLEydLITTLE",
  "rCIRCLE RING LITTLErOVAL RING LITTLErANGLE RING LITTLErFIST RING MIDDLEyj CONJOINED",
  "ykRAISED KNUCKLESydINDEXydTHUMBrHOOK RING THUMBrFIST INDEX RING LITTLE",
  "rCIRCLE INDEX RING LITTLEsURLICUE INDEX RING LITTLE ONrHOOK INDEX RING LITTLE OUTyqINyqUNDER",
  "rCUP INDEX RING LITTLErHINGE INDEX RING LITTLErANGLE INDEX RING LITTLE OUTyqrFIST MIDDLE DOWN",
  "rHINGE MIDDLErFIST MIDDLE UPrCIRCLE MIDDLE UPrFIST MIDDLE RAISED KNUCKLEyfUP THUMB SIDE",
  "rHOOK MIDDLE THUMBrFIST MIDDLE THUMB LITTLEyfLITTLEyfRING LITTLErCIRCLE MIDDLE RING LITTLE",
  "sURLICUE MIDDLE RING LITTLE ONtP MIDDLE RING LITTLErHINGE MIDDLE RING LITTLE",
  "rANGLE MIDDLE RING LITTLE OUTysINyrrCIRCLE MIDDLE RING LITTLE BENT",
  "sLAW MIDDLE RING LITTLE CONJOINEDza SIDErHOOK MIDDLE RING LITTLE CONJOINED OUTzbINza",
  "sINGE INDEX HINGEDrFIST INDEX THUMB SIDErHINGE INDEX THUMB SIDE",
  "rFIST INDEX THUMB SIDE THUMB DIAGONALyvCONJOINEDyvBENTypINDEX BENTypBOTH BENTypINDEX HINGE",
  "ykFORWARD INDEX STRAIGHTyyBENTykHOOKykCURLICUEynVE THUMB INSIDE",
  "rCLAW INDEX THUMB CURVE THUMB INSIDErFIST INDEX THUMB CURVE THUMB UNDERylIRCLE",
  "rCUP INDEX THUMByi OPENrHINGE INDEX THUMB OPENylLARGEykyk SMALLrANGLE INDEX THUMB OUTylINyk",
  "rFIST THUMByd HEELyeSIDE DIAGONALyjCONJOINEDyjBENTyeFORWARDyeBETWEEN INDEX MIDDLE",
  "ymMIDDLE RINGymRING LITTLEyeUNDER TWO FINGERSyeOVER TWO FINGERSyeUNDER THREE FINGERS",
  "ykFOUR FINGERSyeOVER FOUR RAISED KNUCKLESvv HEELmTOUCH SINGLEsMULTIPLEsBETWEENmGRASP SINGLE",
  "sMULTIPLEsBETWEENmSTRIKE SINGLEtMULTIPLEtBETWEENmBRUSH SINGLEsMULTIPLEsBETWEENmRUB SINGLE",
  "qMULTIPLEqBETWEENmSURFACE SYMBOLSuBETWEENnQUEEZE LARGE SINGLEuSMALL SINGLEuLARGE MULTIPLE",
  "uSMALL MULTIPLEvEQUENTIALmFLICK LARGE SINGLEsSMALL SINGLEsLARGE MULTIPLEsSMALL MULTIPLE",
  "tEQUENTIALmSQUEEZE FLICK ALTERNATINGmMOVEMENT-HINGE UP DOWN LARGEylSMALLygSEQUENTIAL",
  "ydDOWN SEQUENTIALydUP DOWN ALTERNATING LARGEyxSMALLydSIDE TO SIDE SCISSORS",
  "vWALLPLANE FINGER CONTACTvFLOORPLANE FINGER CONTACTvWALLPLANE SINGLE STRAIGHT SMALLyxMEDIUM",
  "yxLARGEzcSTyoWRIST FLEXyhDOUBLE STRAIGHTyoWRIST FLEXyoALTERNATINGyz WRIST FLEXyhCROSS",
  "yhTRIPLE STRAIGHT MOVEMENTyoWRIST FLEXyoALTERNATINGyz WRIST FLEXyhBEND SMALLymMEDIUMymLARGE",
  "yhCORNER SMALLyoMEDIUMyoLARGEyoROTATIONyiHECK SMALLynMEDIUMynLARGEyhBOX SMALLylMEDIUMylLARGE",
  "yhZIGZAG SMALLyoMEDIUMyoLARGEyhPEAKS SMALLynMEDIUMynLARGE",
  "mTRAVEL-WALLPLANE ROTATION-WALLPLANE SINGLEyyDOUBLEyyALTERNATINGyoFLOORPLANE SINGLEyzDOUBLE",
  "yzALTERNATINGyfSHAKINGyfARM SPIRAL SINGLEyqDOUBLEyqTRIPLEmMOVEMENT-DIAGONAL AWAY SMALL",
  "ylMEDIUMylLARGEyqSTygTOWARDS SMALLyoMEDIUMyoLARGEytSTygBETWEEN AWAY SMALLytMEDIUMytLARGEyyST",
  "yoTOWARDS SMALLywMEDIUMywLARGEzbSTvFLOORPLANE SINGLE STRAIGHT SMALLyyMEDIUMyyLARGEzdST",
  "ypWRIST FLEXyiDOUBLE STRAIGHTypWRIST FLEXypALTERNATINGza WRIST FLEXyiCROSS",
  "yiTRIPLE STRAIGHT MOVEMENTypWRIST FLEXypALTERNATING MOVEMENTzbWRIST FLEXyiBENDyiCORNER SMALL",
  "ypMEDIUMypLARGEyjHECKyiBOX SMALLymMEDIUMymLARGEyiZIGZAG SMALLypMEDIUMypLARGEyiPEAKS SMALL",
  "yoMEDIUMyoLARGEmTRAVEL-FLOORPLANE ROTATION-FLOORPLANE SINGLEzaDOUBLEzaALTERNATING",
  "ypWALLPLANE SINGLEyzDOUBLEyzALTERNATINGygSHAKINGmMOVEMENT-WALLPLANE CURVE QUARTER SMALL",
  "yvMEDIUMyvLARGEzaSTynHALF-CIRCLE SMALLyzMEDIUMyzLARGEzeSTynTHREE-QUARTER CIRCLE SMALLziMEDIUM",
  "yhHUMP SMALLymMEDIUMymLARGEyhLOOP SMALLymMEDIUMymLARGEymSMALL DOUBLEyhWAVE CURVE DOUBLE SMALL",
  "yzMEDIUMyzLARGEysTRIPLE SMALLyzMEDIUMyzLARGEyhCURVE THEN STRAIGHTymD CROSS SMALLyuMEDIUM"]

end LintScaffold.Text.CharName
