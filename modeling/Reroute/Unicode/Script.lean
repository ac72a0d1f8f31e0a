import Reroute.Unicode.CharSet

set_option autoImplicit false

/-!
# Scripts

Every assigned code point belongs to one script. Each entry of `scriptNames` holds the names of one
script, in lower case and without separators; its place, counted from 1, is its label in the table,
and label 0 stands for no script. The scripts that share a character besides its own are given by
the code points to add to and to take from the script.
-/

namespace Reroute.Unicode

/-- The names of the scripts, one script between two commas. -/
def scriptNames : String :=
  "adlam adlm,caucasianalbanian aghb,ahom,arabic arab,imperialaramaic armi,armenian armn,avesta" ++
    "n avst,balinese bali,bamum bamu,bassavah bass,batak batk,bengali beng,bhaiksuki bhks,bopomof" ++
    "o bopo,brahmi brah,braille brai,buginese bugi,buhid buhd,chakma cakm,canadianaboriginal cans" ++
    ",carian cari,cham,cherokee cher,chorasmian chrs,coptic copt qaac,cyprominoan cpmn,cypriot cp" ++
    "rt,cyrillic cyrl,devanagari deva,divesakuru diak,dogra dogr,deseret dsrt,duployan dupl,egypt" ++
    "ianhieroglyphs egyp,elbasan elba,elymaic elym,ethiopic ethi,georgian geor,glagolitic glag,gu" ++
    "njalagondi gong,masaramgondi gonm,gothic goth,grantha gran,greek grek,gujarati gujr,gurmukhi" ++
     "guru,hangul hang,han hani,hanunoo hano,hatran hatr,hebrew hebr,hiragana hira,anatolianhiero" ++
    "glyphs hluw,pahawhhmong hmng,nyiakengpuachuehmong hmnp,oldhungarian hung,olditalic ital,java" ++
    "nese java,kayahli kali,katakana kana,kawi,kharoshthi khar,khmer khmr,khojki khoj,khitansmall" ++
    "script kits,kannada knda,kaithi kthi,taitham lana,lao laoo,latin latn,lepcha lepc,limbu limb" ++
    ",lineara lina,linearb linb,lisu,lycian lyci,lydian lydi,mahajani mahj,makasar maka,mandaic m" ++
    "and,manichaean mani,marchen marc,medefaidrin medf,mendekikakui mend,meroiticcursive merc,mer" ++
    "oitichieroglyphs mero,malayalam mlym,modi,mongolian mong,mro mroo,meeteimayek mtei,multani m" ++
    "ult,myanmar mymr,nagmundari nagm,nandinagari nand,oldnortharabian narb,nabataean nbat,newa,n" ++
    "ko nkoo,nushu nshu,ogham ogam,olchiki olck,oldturkic orkh,oriya orya,osage osge,osmanya osma" ++
    ",olduyghur ougr,palmyrene palm,paucinhau pauc,oldpermic perm,phagspa phag,inscriptionalpahla" ++
    "vi phli,psalterpahlavi phlp,phoenician phnx,miao plrd,inscriptionalparthian prti,rejang rjng" ++
    ",hanifirohingya rohg,runic runr,samaritan samr,oldsoutharabian sarb,saurashtra saur,signwrit" ++
    "ing sgnw,shavian shaw,sharada shrd,siddham sidd,khudawadi sind,sinhala sinh,sogdian sogd,old" ++
    "sogdian sogo,sorasompeng sora,soyombo soyo,sundanese sund,sylotinagri sylo,syriac syrc,tagba" ++
    "nwa tagb,takri takr,taile tale,newtailue talu,tamil taml,tangut tang,taiviet tavt,telugu tel" ++
    "u,tifinagh tfng,tagalog tglg,thaana thaa,thai,tibetan tibt,tirhuta tirh,tangsa tnsa,toto,uga" ++
    "ritic ugar,vai vaii,vithkuqi vith,warangciti wara,wancho wcho,oldpersian xpeo,cuneiform xsux" ++
    ",yezidi yezi,yi yiii,zanabazarsquare zanb,inherited zinh qaai,common zyyy,garay gara,gurungk" ++
    "hema gukh,kiratrai krai,olonal onao,sunuwar sunu,todhri todr,tulutigalari tutg,sidetic sidt," ++
    "tolongsiki tols,beriaerfe berf,taiyo tayo"

def scriptTable : String :=
  "rbUgvSbuRgvSmkQjLedGjLbnYgbNnAidJnAemiVkiUbkJbnYoAfkXbdgCbcQnAvXnMbcQnAiLbaYiLnAiLnAvXgTiLgT" ++
    "fgIgTqjTdrFefKbimHtSbruPgTjwAnMmyUnMuLgToiEcbWhbSbaYbqJcwBbhVnAboOnAdqKnAuJnAihOnAcpMdcHgtEm" ++
    "ZbbzCnAivAdvLgTptBnMzKmlGneEdqGpkYnMyAmcGnMebPgThjOnMjVgTdbGbhRivAbhRtkZnAhnJvaIbhEdyCtTguDb" ++
    "bKgTccInMnYnMfsOgTbvPgThFuFbbKnMcjBnMnYnMbbKcbWhFbaYnYgTbiDnMgmTnMvZgTbqEbaYpGnMftWgTbwXgTpG" ++
    "gTpGgTpGnMiNgTbjLbaYpGnMvZuFiNbvDbcSgTiNbvDemFcpIvYgTckIgTvYgTftVgTbwWgTpFgTbjKnMcrBgTvYgTvY" ++
    "nMiMdwZbcRnMdeNbvDbwWgTyFgTcfWnMrMnMfwCgTbzDgTrMgTblRnMcmPnMrMnMyFbvDyFbaYrMgTblRnMevEcpIsWg" ++
    "TbtUuFzPgTbgIuFsWgTmDgTsWuFsWuFzPuFdiEbaYbnBuFzPgTbgInMmDboKmDdqGfqTbhRdpAgTzSgTgeIgTejFnMco" ++
    "CgTzSgTbgLbvDsZgTzSgTsZnMbgLnMcuVbvDcoCdmBgTwTgTgbJgTcrWgTbkFnMclDgTwTgTbdMbvDqAbhRwTgTbdMnM" ++
    "crWgTwTdcUdmWgTxOgTniQgTxOgTbrTbaYehBnMgwJgTzDgTewCuFgkMgTcnNgTlRnMcaBuFlRbaYbtIgTlRgTcgUboK" ++
    "cuGnMzDdcUpgBbaYnAhmDjpBqDgTjKgTbkIgTgiFgTjKgTgbMnMbkIgTjKgTbxUgTcrZnMbdPihKswIgTjoAbaYkiFgT" ++
    "joAgTecRgTcaVbhFtEjpBbpoNjxGgTiFbhRiFnMleXnAbcKcoiXsyUgTbcJnMbwOgTiEgTbcJnMkrKgTbcJnMipOgTbc" ++
    "JnMbwOgTiEgTbcJnMdyKgTovCgTbcJnMrkKnMiiVuFguLboKwhTnMbpHnMgjsMhrCuFtpKbaMdaQbvDfxRciPmIfnGtT" ++
    "ciPffIdcUdoTgTzLgTsSdcUylDnMcrTboKcrTboKqXtTkEnAfiBboKxeMbvDlgWbhRsdYcpIidLgTdfObaYdfObaYjNu" ++
    "FdfOhzGnMbmZcwBlpNbaYgyJboKdbKuFsVijVhhDnMoDqkRgThpVnMcyRboKcrYboKdsWnMmdWnMdjAfeQtyPgTmyWqt" ++
    "XnmLcbWbbJopRuFdzSuFwYmpAcxDbhRleXnMvRcgZcbWbaLnAdpTnAcbJbhFmZbuRmZbaMtSnAbhRjyMbjJhVmuNbjJb" ++
    "dQbjJdmFhVsfWiLqvAcojUftUnMbqCnMjxMnMbqCnMcdOgTiLgTiLgTiLgTicJnMnuLgTdyRgTdrYnMbqCgTezPnMvXg" ++
    "TckHgTdjBtSwtWgTdcIjLnMdcIjLedGgTdmFuFjbDdqGiuJdwZkcBiLbaMqEbuRjLhgAjLeqSksRbaMbaYgqqZfsCdcI" ++
    "flJjgmLcohSggvFnMbjzDyxRikCbebTbhRbwCjxGgTiFbhRiFnMosMbvDtAdqGmHgaGciPbwOgTbwOgTbwOgTbwOgTbw" ++
    "OgTbwOgTbwOgTbwOgTiiMyoZiuWguWgTxcXdcUcdmGgtAfrQiPnAiPgsOckLbhEpHciDbcUbhFgTwiWnMtStTwFnAxkC" ++
    "tTwNbhRldZgTykNgTejZihYkcBciPnAegAicMgTqvBicMvfMmgRnAwwQbrtBcnqpCqvBibakElpvNuFomJciPmnZczxD" ++
    "feQyxGwuRcbWjbDbanGbaMviQfeQdzRlwBuFcvPboKorFcbWshWcbWdhMboKiiNlzXnAjAjmVcwBlGhpAuFuhGgTnAcr" ++
    "ObaYpSieGgTohBciPdrCnMcqEnMbbUikZroLgfObnDgcIcpIbpVnMbpVnMbpVciPbwOgTbwOgTlgDnAclHiLbdQtTbaY" ++
    "utJmbDnMcsVboKehgfZdcUgaQbaYmtQdgeaMdqvInMbbnIjvUbxVdcUbhXbhRguZgTbjQgTiSgTpLgTpLgTcrHexxEtT" ++
    "blhKihKedWejYcvPboKdwMoOjhWgTfeEgTbhFbaYbhVgTbiyVnMnAgTinRgvSbuRgvSdcIcrQnAltFtTicMuFbqFnMbq" ++
    "FnMbqFnMwAuFcbKgTcbKcpIbnYnMdfQgTgvWgTfaTgTqIgTdzVnMdtCiuWbfyTbhRbaMbaYlxEuFcoWunLgTdpUuFiLm" ++
    "eJlxEmZbhrAhqDuFmsQdwZmZhgAbaYjkNciPwKhbJbhRlhRbhRhzUgTmPjoJbaYdwHkwSutSmpWhyAnMctKboKjmJbaY" ++
    "jmJbaYkkPcbWnmCcwBgVdbZgTecXgTcbBgTtKgTdbZgTecXgTcbBgTtKuFnsNdcUdcqCciPfuXcpIceRgfObrCgTkzKg" ++
    "TclHrwLbpLnMhUgTllFgToNuFhUnMhUfsHgTciUilOieKcbWcmImlCezVgTpKbhRbjPhkWuFlDgvZbhRjSgzPjvUikSg" ++
    "iVbaYfhXnMmaXbdIgTpWbhRceGgTwPgThpPnMwPbaYcrSbvDckZbvDimBilCihKkfQbaYdfXciPnzTuFbvKfwOnMcgIf" ++
    "cFbhRcgEevNbvDbfHdcUbzMusMtbIogFnhLdjNnhLbvDbqOknUcbWctWboKkcCuFhtNcbWtUcbwAiaVgTlcVgTbaInMt" ++
    "PedSboOcbWciTioDboOkoGcbWlbRfsCgxDjvUhhKfeQgaFciPufPbaYjiXciPhIrlOcpIjInMgrIbvDcuJboKntMgTer" ++
    "XcbWkfNciPzaZgTfjOcwBetQgTmgVqbIbyRgTkHgTbeMgTeaNgTczPboKpmAbhRcuFboKbcPgTcdNnMpDnMftTgTbwUg" ++
    "TpDgTbjIgTmZckGnMpDnMvWnMiKboKiKbhRbwUnMbwUuFbjIcwBcvWgTnHnMnHgTkcIgTcvWgTnHnMnHgTbhMgTcvWgT" ++
    "uAcbWuAhnFxzAgTblLhtYswJcbWcvBbqzIoeInMkaQiuWrzVcwBcsSboKdmYexXpfRboKcuPboKfiFhgMgzWnMdxCbaY" ++
    "fyYbvxFppBzxCvsQdcUmSbwHnMhXnMcdAgToQgThvCgToQnMddYciPcqMsdEcfNnMmbHnMczSgzTswVcbWvrTdjNeeMo" ++
    "xWbvDcqLwgWcgRwuIjbIdqGcvUboKcjCgTlrKgTdqTcpIhnSuFikOnMfvGgTdtKsxJbwSgTpBgTllTuFiIgTpBgTckEc" ++
    "bWcqXboKbpYgTpAgTjqPgTpAgTbpYbvDcqWboKlqUbaYcvYclrUgpIbvDemUgTksIuFhpOwaDjQdwZndYdjNmDjexWba" ++
    "kObczFgTbnTcwBbyzIbagkIzrJdjNlbkMcpIbnugTbhRfvaCcqczFpgTrgxEfriEbvDieDgTcsUbaYqYurNgTcvCboKh" ++
    "uInMboUcpIsfGcpIcrKgTbxFgTfnLbhRezZehvSpgUbzgSxrSbhRgsYnMgsYlkEtpGbaYoyCbvDeoWqoUmEkPpIjGcwB" ++
    "bwZciPcqvoNertZkpZjGigCzcXbdzMdiqmLbdGgTbxLgTpUgTjBcwjTwNdwZiThnFwFnMjBdqGbdGcbWdyrGwzmQbbtM" ++
    "bhRdkUuFcjWbvDcqPnMbcFbhFbndxKcntEuFejcXboKgfCdwZeqSdwZmdWnMgfBciPbehBpnWclyBcpIkiUnMqhPbaLe" ++
    "qSciCtTcbJiaFbhEqaWflJseWbfpEfkXdcUfkXdcUwtWciPgsObiyRwgKgTsqEgTtTnMnAnMtTnMbhFgTdjBgTnAgTcb" ++
    "KgTrbUgTbhFnMciDgTcbKgThmTgTbhFgTbnYgTnAuFcbKgTdkgTnMcxvRnMneVgmzFdwZbmKgTebSkzuUidJboKbrCcd" ++
    "dRbwQgTelYnMbwQgToZgTbjEbhRqcKioDhVbczWltAuFdsJnMcrLbaYpPdevWigMekLpgKbhRmTeqdClaIcdkKljWbaY" ++
    "nEbxsIihJgTfyUcbWuEcfzSbwOgTbcJgToXgTdyKgTbzdFnMegYkpZtrPbaYcpJbaYnNhvfRrvZtrOqaWbyfUbbCgTgz" ++
    "XgTnQgTgXnMgXgTcpMgTbbCgTgXgTgXboKgXbaYgXgTgXgTgXgTuJgTnQgTgXnMgXgTgXgTgXgTgXgTgXgTnQgTgXnMb" ++
    "bCgTbvHgTbbCgTbbCgTgXgTcpMgTekPbhRuJgTbhVgTekPnmAnQcrxIlqLbaYbadJdcUedGnMedGgTedGgTjvIcpIbth" ++
    "LomYgzHiTtTdjNlqLbaYcoWbvDtTdqGbuRbnwOjvgCuFeqSuFdpUuFcerPboKdjBbaYnAdwZdjBbaYotFcbWcvPboKkp" ++
    "NcbWiaFnMdjBbaYtTdqGcoWkcNdlhRcbWdwNnMdpUuFdcIuFozYgTnAbaYejZnMdjBbaYcvPbvDbmhSgTbaxOkgjZqjj" ++
    "gIihKbrqmCnMcfmvInMcwkqXdwZgfcKyokCfkjYozwObxerDbhRdgnyCkkybaFnAhtYzcLbhdOckjQcxcqqQ"

/-- For each script, the code points on which its extension differs from it. -/
def scriptExtensionTable : String :=
  "ciHAbGAjwOAfhHA,bdSAbSAbSA,,chOAOADAbGAKKbAAjuSAfhHAdakABcdKbB,,bdWA,hBArfSB,,,,,baYAcmUBRBh" ++
    "jEABACBBAIAIACAEACCcbaFA,,bbJABCNArcPCEJBMKDCAGAhNAcztHBkWE,,,cmhZA,iuNB,dtMJckEJ,,hBAlzMACA" ++
    "fgDA,,bdOCBAGBWBLB,,hBAwMADBBAeEBqdTAdcpCbB,dtiMB,dtiMCEbSDI,baYAcPCBABABACAFAoHBjqNAgeKA,ba" ++
    "YAcmUBRBhjEbMBBbnAAbzfRJ,,doMLcidCJ,,hBAwTBBAYBqiHAfuwPD,,hBAwRA,,beCA,hBAbvLAeiRAfvIAfgGA,h" ++
    "BAwPABAoSACAjXAeiRAfvIAfgYAbtnFA,hBAdhKB,doMB,hBAwQBCAbOA,dnTBRByQNgkAABBbECDBbnAAdntQAetWBB" ++
    "A,hBAwMBCABABAKAbUACAbUAjyXBzRA,dnTBRBcidMJ,dnTBRBcidMJ,seRCEJBMQAGAhNAcztHBkWE,hBArwYPBCCAB" ++
    "JBMKDCAGAEDhFAfSPbGbLJAbWbNcEbWPLbZAdKYKEdSbEbroJHbhaZBkWEdchERlrYB,iuNB,,bdVB,seRCEJBMQFBAE" ++
    "BdNDDAdMBcztGBkWEKAbTB,,,,mgOACAfgDAPA,,cmhZA,cmbUA,bdTAbDAqzTCEJBMQFBAEBdNDDAdMBcztGBkWEKAb" ++
    "TB,,,,edIJchoIJ,,dnTBRBhjEABBGAXABAcasXF,doOJnxXAbufEJ,,,hBAtWAKABCBAJABAbMOBBBAPCHBBBbMAFAE" ++
    "MkRBbvEBcxKAexWAvUAhKAezMAbtuMHvEA,,doNA,dtiTbS,dtiMCEbSDI,baYAQArdKB,mgOA,hBArfTA,hBAdhKLci" ++
    "dCJ,,cjOA,cjOA,,,,,mgRA,dnTBRBhjOAXAcasZC,clsAJ,jcKBBAdcJAfzTBFD,,,dyKJ,cmbUA,,dnTASBbiMJgbH" ++
    "AIAHAcasRF,,,dnTBhkCABBJAGABABA,chOAOADAdppEB,,,,mgOAfgFA,dnTBRBhjOAXA,bdPACAGAcYA,,cjOAdusV" ++
    "A,,,hBAwMAFCKAoDA,jcKBBAdcJAfzUA,,cjOA,,,,,chOAOADAbGAfRA,irRC,rmVA,,,,hBA,dnTAhkFABACBCAJAC" ++
    "AcatEFCA,,doMBcidMJ,doMBhkMA,cjOA,,,,,doMBeYJ,bdRBCBBAYCHBBBbcCAOBCAbGAKKbAAixRABA,iuNB,doMB" ++
    "cidMJ,bdOBFBDAezZJ,,dnTBRBhjOAcbbKAboeFABAcDB,seAPtBA,,dnTBRBhjJBBABAXA,bdQABABDZA,iuNB,chOA" ++
    "OBCAcMJdptGAKA,baYAbAAbRAbTA,seYD,dnTBRBhjJAMAPAcasZJ,,baYA,,,,,,,,chOAOADAcMJ,seRBFJCHiPAda" ++
    "eFE,,bdOOBBBAPCHBBBQACASAFAEMkRBrKKbAAbcIBhjXCBMBGEAGADBhQBcCABAbdDAftXDeDBdbqJAgfAA,hBAtWAK" ++
    "ABCBAJABAfYAzNAOADAbGAbeXBcwRAcgLCcTBhVBBAbvHANAHDBFBCCAbfOAbFAKACAffDAYBKAEABAqMPBCCABJBMQF" ++
    "BAEDdNBDAdMBfRPbGbLJAbWbNcEbWPLbZAdKYKEdSbEbroJHlKJjKAgEAbfpMBkBBkWEKAbTBnOCEbSDIqBbAcshWDip" ++
    "WRlrYB,chOAOADA,doNA,,doMB,bdOBBAJACAbCADA,bdPACACAJABAcWA,exAJgbQABAcasXFhFA,,,,"

def scriptRows : List (List String) :=
  (scriptNames.splitOn ",").map fun row => row.splitOn " "

def scriptRuns : List (Nat × Nat × Nat) :=
  runsFrom (scriptRows.length + 1) 0 (numerals scriptTable)

def scriptIndex? (name : String) : Option Nat :=
  scriptRows.findIdx? fun names => names.contains name

def scriptSet? (name : String) : Option CharSet :=
  (scriptIndex? name).map fun index => labelled scriptRuns (· == index + 1)

def scriptExtensionSet? (name : String) : Option CharSet := do
  let index ← scriptIndex? name
  let differences ← (scriptExtensionTable.splitOn ",")[index]?
  some ((labelled scriptRuns (· == index + 1)).symmDiff (setOfTable differences))

end Reroute.Unicode
