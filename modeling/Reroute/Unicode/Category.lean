import Reroute.Unicode.CharSet

set_option autoImplicit false

namespace Reroute.Unicode

/-- Each row holds the names of one category, in lower case and without separators; its number is the
label in the table. Surrogates have no name: no character is one. -/
def categoryNames : List String :=
  ["lu uppercaseletter", "ll lowercaseletter", "lt titlecaseletter",
   "lm modifierletter", "lo otherletter", "mn nonspacingmark", "mc spacingmark",
   "me enclosingmark", "nd decimalnumber digit", "nl letternumber",
   "no othernumber", "pc connectorpunctuation", "pd dashpunctuation",
   "ps openpunctuation", "pe closepunctuation", "pi initialpunctuation",
   "pf finalpunctuation", "po otherpunctuation", "sm mathsymbol",
   "sc currencysymbol", "sk modifiersymbol", "so othersymbol", "zs spaceseparator",
   "zl lineseparator", "zp paragraphseparator", "cc control cntrl",
   "cf format", "", "co privateuse", "cn unassigned"]

def categoryGroups : List (String × String) :=
  [("lc casedletter", "lu ll lt"), ("l letter", "lu ll lt lm lo"),
   ("m mark combiningmark", "mn mc me"), ("n number", "nd nl no"),
   ("p punctuation punct", "pc pd ps pe pi pf po"), ("s symbol", "sm sc sk so"),
   ("z separator", "zs zl zp"), ("c other", "cc cf co cn")]

/-- The runs of equal category over all code points. -/
def categoryTable : String :=
  "blXcAeDbXeDbRbSbVbWbVbQcZlWcZeEcZbeAbRbVbSbYbPbYbeBbRbWbSbWbnBcAbVfJbZbVbYbZbIbTbWcEbZbYbZbW" ++
    "cSbYbFcZbYbObIbUdWbVbaObWiCbbTbWjHbEbFbEbFbEbFbEbFbEbFbEbFbEbFbEbFbEbFbEbFbEbFbEbFbEbFbEbFbE" ++
    "bFbEbFbEbFbEbFbEbFbEbFbEbFbEbFbEbFbEbFbEbFbEbFbEbFbEcJbEbFbEbFbEbFbEbFbEbFbEbFbEbFbEcJbEbFbE" ++
    "bFbEbFbEbFbEbFbEbFbEbFbEbFbEbFbEbFbEbFbEbFbEbFbEbFbEbFbEbFbEbFbEbFbEbFbEbFbEbFbEbFbEbFcIbFbE" ++
    "bFbEdNcIbFbEbFcIbFdMcJeQbFcIbFdMdNcIbFcIbFbEbFbEbFcIbFbEcJbEbFcIbFdMbFbEbFcIcJbIbEdNeUbEbGbF" ++
    "bEbGbFbEbGbFbEbFbEbFbEbFbEbFbEbFbEbFbEbFbEcJbEbFbEbFbEbFbEbFbEbFbEbFbEbFbEbFbEcJbEbGbFbEbFdM" ++
    "bFbEbFbEbFbEbFbEbFbEbFbEbFbEbFbEbFbEbFbEbFbEbFbEbFbEbFbEbFbEbFbEbFbEbFbEbFbEbFbEbFbEbFbEbFbE" ++
    "bFbEbFbEbFbEbFbEbFbEbFbEiDcIbFcIcJbEbFeQbFbEbFbEbFbEbFbEdbRcMbeBuXfKnZqYfXiWbHbYbHuKezLbEbFb" ++
    "EbFbHbYbEbFdLbHdNbVbEfTdCbEbVdMcHbEcHcIbFtQcHkKboLbEcJdMdNbEbFbEbFbEbFbEbFbEbFbEbFbEbFbEbFbE" ++
    "bFbEbFbEbFbEfVbEbFbWbEbFcIcJcgWcdLbEbFbEbFbEbFbEbFbEbFbEbFbEbFbEbFbEbFbEbFbEbFbEbFbEbFbEbFbE" ++
    "bFbEbFbEbFbZfZcPbEbFbEbFbEbFbEbFbEbFbEbFbEbFbEbFbEbFbEbFbEbFbEbFbEbFbEbFbEbFbEbFbEbFbEbFbEbF" ++
    "bEbFbEbFbEbFbEbFbEbFbEbFbEbFbEbFcIbFbEbFbEbFbEbFbEbFbEbFbEcJbEbFbEbFbEbFbEbFbEbFbEbFbEbFbEbF" ++
    "bEbFbEbFbEbFbEbFbEbFbEbFbEbFbEbFbEbFbEbFbEbFbEbFbEbFbEbFbEbFbEbFbEbFbEbFbEbFbEbFbEbFbEbFbEbF" ++
    "bEbFbEbFbEbFbEbFbEbFbEbFbEbFbEbFbEbFbEbFbEbFbEbFbEbFbEbFbEbFbEbFbEbFcHbrWdLbHhPbvJbVbQdLdDbX" ++
    "cHcaDbQbJbVcNbVcNbVbJkJbfIfTeUcZnVhYeEcZbXcZdDmXbVcEeDblCbHlSyLlWfHcMbJekKbVbIiHcEbZhDcLcNbZ" ++
    "eVcMlWdQdDbIqVcHcEbIbJbiUbfJdLdyWmXbIrHlWbmGkPcLbZeDbHdLbJdBzOeVbHkPbHdRbHfZdLrZcHbdAdRdLbVc" ++
    "HmWgXbbWbYiGdIgXkPbvMbHbbXcEblDbKckMbJbKbJbIdSjLeWbJcObIiHlScNcZlWbVbHrMbJcOcHjKdLcMdLzOcHiG" ++
    "cHbIePeUdLbJbIdSeVdLcOdLcObJbIkJbKfTcMcHdQcNdLlWcMdBhIbZbXbIbVbJdLcNbKcHhCfTcMdLzOcHiGcHcMcH" ++
    "cMcHcMdLbJcHdScNfTcNdLdRePbJjFeUcHbIjFlWcNdQbJbVmRcNbKcHkOcHdQcHzOcHiGcHcMcHfYdLbJbIdSfZcHcN" ++
    "bKcHcObJdLbIsLcMcNdLlWbVbXjFbIhDcHbJcOcHjKdLcMdLzOcHiGcHcMcHfYdLbJbIbKbJbKeVdLcOdLcObJjFcNbK" ++
    "fTcMcHdQcNdLlWbZbIhImRbJbIcHhCePdQcHeUePcMcHbIcHcMePcMePdQePoAfTcObJcOePdScHdSbJdLbIiBbKrHlW" ++
    "dWhTbXbZgXbJdSbJjKcHdQcHbaScHsQdLbJbIdReWcHdRcHeVjFcNcHdQcHcMdLcMcNdLlWjFbViMbZbIbJcObVjKcHd" ++
    "QcHbaScHlScHfYdLbJbIbKbJgAcHbJcOcHcOcNjFcOgXdQcHcMcNdLlWcHcMbKoZcNcOkOcHdQcHbvMcNbIdSeVcHdSc" ++
    "HdSbJbIbZfTdQbKiMdQcNdLlWkUbZhCcHbJcOcHuYePbbWcHkOcHbIdLiGePbJfTdSdRcHbJcHjMiBlWdLcObVoZcdOb" ++
    "JcMiHfTbXhCbHjLbVlWcZbrVcMcHbIcHfYcHbbWcHbIcHlSbJcMkPbIdLfYcHbHcHiHcHlWdLeUbmBbIeHrZbZbVeHcN" ++
    "hTlWlYbZbJbZbJbZbJbRbSbRbScOjKcHbpSfTqJbKfZbVcNfYmXcHbpTcHkBbJhTcHdDgLfLcZbrVbxUcOeVbKhDbKcN" ++
    "cOcNbIlWhPhCcOcNeUdRbIdScMiIdQeVpEbJcOcNhEbJbIbKlWdSbJdDbrWcHbEgXbEdLbxRbVbHdNopUcHeUdLiGcHb" ++
    "IcHeUdLbvMcHeUdLbmGcHeUdLiGcHbIcHeUdLrMcHcnYcHeUdLczMdLdRlBxMePsQmJiBdvGdLgZdLbQbbnObZbVtUcA" ++
    "beEbRbSePdiSeDdVjKjFuYdRbKlNwCcNbKcZlNuYcNoZpEcHdQcHcNoZciEcNbKiHjMbJcOmXeDbHeDbXbIbJdLlWiBl" ++
    "YiBhPbQfHdRcEbJlWiBboObHcjIjFfYcNbnKbJbIgXdcYmRbjYcHdReWcNdSfTcObJhEdRfTbZePcZlWbiUdLfYnVbyY" ++
    "fTbeEiBlWbOePboBbaScNcObJdLcZcjIbKbJbKiHcHbJbKbJcOjLhElTdLbJlWiBlWiBiTbHhPdLqJbLbjZdLoByFeVb" ++
    "KccKbJbKfZbKbJgAbJcOjKcHcZlWiTmJkPlFeDcNbKbiUbKeVcOcNbKdRcMlWbyYbJbKcNdSbJbKdRcOkJfHbpSjMjLc" ++
    "OcNePgLlWePdQlWbiUhBcZkLbEbFgXbxQdLdMjXkJdRbVpFbKiHeUbJhCbJcMbKcNbIgXbyVcuVpBbHbnHbqVcwBbEbF" ++
    "bEbFbEbFbEbFbEbFbEbFbEbFbEbFbEbFbEbFbEbFbEbFbEbFbEbFbEbFbEbFbEbFbEbFbEbFbEbFbEbFbEbFbEbFbEbF" ++
    "bEbFbEbFbEbFbEbFbEbFbEbFbEbFbEbFbEbFbEbFbEbFbEbFbEbFbEbFbEbFbEbFbEbFbEbFbEbFbEbFbEbFbEbFbEbF" ++
    "bEbFbEbFbEbFbEbFbEbFbEbFbEbFbEbFbEbFbEbFbEbFbEbFbEbFbEbFbEbFbEbFbEbFbEbFbEbFbEbFbEbFbEbFbEbF" ++
    "bEbFbEbFbEbFbEbFbEkLbEbFbEbFbEbFbEbFbEbFbEbFbEbFbEbFbEbFbEbFbEbFbEbFbEbFbEbFbEbFbEbFbEbFbEbF" ++
    "bEbFbEbFbEbFbEbFbEbFbEbFbEbFbEbFbEbFbEbFbEbFbEbFbEbFbEbFbEbFbEbFbEbFbEbFbEbFbEbFbEbFbEbFbEbF" ++
    "bEbFbEbFbEbFbEbFbEbFbEbFbEbFbEkLjGgZdLgYdLjHjGjHjGgZdLgYdLjHcHbEcHbEcHbEcHbEjHjGqFdLjHjIjHjI" ++
    "jHjIfVcHcJeQbGbYbFeGdNcHcJeQbGeGeRdLcJeQcHeGjHfUeGdLdNcHcJeQbGdCcHnOgUhKcZbTbUbRcXbUbRbTjXcB" ++
    "cCgUcAlBbTbUfHcTeDbWbRbSnJbWbVbPmFcAgUcHmObObHdLhIeEbRbSbHlYeEbRbScHpDePbnZrHpFeXbJdToBsLdDb" ++
    "EfLbEdDbFdMcJdMbFbZbEdDbWfUhTbEbZbEbZbEbZeQbZbFeQbFeUbFdDcJcIgMbEeRbZbWdDbFbZsWboTbEbFeZbOdD" ++
    "fTgMgPdAfLbWdDbWdDbWiXbWbkPdAdDbWbZbWbkPlxYkBbRbSbRbSxXdAiXbRbSdqHbWbjLbdObuZhQdfXbaNnNzJcrQ" ++
    "dmVzUidZbWlFbWclDjYeyXbWlaZbRbSbRbSbRbSbRbSbRbSbRbSbRbSbjAbzPgMbRbSbkMbRbSbRbSbRbSbRbSbRbStE" ++
    "lkFfvWbRbSbRbSbRbSbRbSbRbSbRbSbRbSbRbSbRbSbRbSbRbScvKbRbSbRbSblQbRbSlmKceFyYdDhQbtVdLgeBcdKc" ++
    "dLbEbFdMcJbEbFbEbFbEbFeQbFbEcJbEgZcLdMbFbEbFbEbFbEbFbEbFbEbFbEbFbEbFbEbFbEbFbEbFbEbFbEbFbEbF" ++
    "bEbFbEbFbEbFbEbFbEbFbEbFbEbFbEbFbEbFbEbFbEbFbEbFbEbFbEbFbEbFbEbFbEbFbEbFbEbFbEbFbEbFbEbFbEbF" ++
    "bEbFbEbFbEbFbEbFbEbFbEbFbEbFbEbFbEbFbEbFbEbFbEbFbEcJhTbEbFbEbFdRbEbFgXfHbOcZbrXcHbFgXbFdLcmU" ++
    "jFbHbVrHbJbaSlNiGcHiGcHiGcHiGcHiGcHiGcHiGcHiGcHblDcZbTbUbTbUeDbTbUbVbTbUlBbQcZbQbVbTbUcZbTbU" ++
    "bRbSbRbSbRbSbRbSgLbHmFcUfHbQbVbRpRdDeDbRbSbRbSbRbSbRbSbQboJbeVcHdzNoZjnTbfDtHcAeDbZbHbIbNbRb" ++
    "SbRbSbRbSbRbSbRbSdDbRbSbRbSbRbSbRbSbQbRcWbZkTeVcObQfXdDdVbHbIbVdDcHdvKdLcNdCcLbIbQeaAbVdPbIg" ++
    "XbxUcHeeQcHdDfAmJblCbsRlNbZsQbkPcHlYbjLjQbZrSblTlYbtVrSogBlgoIcwRbjwnYbHbytAePcmHlNbuIhBcZlx" ++
    "KbHeDsQlWcMyFbEbFbEbFbEbFbEbFbEbFbEbFbEbFbEbFbEbFbEbFbEbFbEbFbEbFbEbFbEbFbEbFbEbFbEbFbEbFbEb" ++
    "FbEbFbEbFbEbFbIbJdTbVlTbVbHbEbFbEbFbEbFbEbFbEbFbEbFbEbFbEbFbEbFbEbFbEbFbEbFbEbFbEbFcLcNdcYlX" ++
    "cNhPkJbbIkNdCbEbFbEbFbEbFbEbFbEbFbEbFbEdNbEbFbEbFbEbFbEbFbEbFbEbFbEbFbEbFbEbFbEbFbEbFbEbFbEb" ++
    "FbEbFbEbFbEbFbEbFbEbFbEbFbEbFbEbFbEbFbEbFbEbFbEbFbEbFbEbFbEbFbEbFbEbFbEbFbHjHbEbFbEbFcIbFbEb" ++
    "FbEbFbEbFbEbFbHdCbEbFbEbFbIbEbFbEdNbEbFbEbFbEbFbEbFbEbFbEbFbEbFbEbFbEbFbEbFfUbFfUbFbEbFbEbFb" ++
    "EbFbEbFbEbFbEbFbEbFeQbFbEbFcIbFbEbFbEbFbEbFbEbFbEbFbEbFbEbFbEyFeTbEbFbIcLbFiGbJdQbJeUbJbaScO" ++
    "cNbKfLbJePhIdDbXbZiBciEfHkJcOcfWsScNkJcZlWiBuZhCeDbIbVcMbJlWbgMjLcZbaSmXcOnVbVbhQePdRbKccKbJ" ++
    "cOeVcOcNdSpRcHbHlWfTcZfYbJbHkOlWfYcHbvMhDcOcNcOcNlNdQbJjKbJbKdLlWdLfHsQbHhCeHbIbKbJbKcfWbJbI" ++
    "dRcMcNfYcNbIbJbIbcVcMbHcZmWbKcNcOcZbIcLbKbJmRhCdLhCdLhClNiGcHiGcHbxRbYeTkLbHdCfTdoJboOcObJcO" ++
    "bJcObVbKbJdLlWiBtbuYoZbaSfTceSfTdmyDkybSqgMdLesMbsZiDoZfVgXbIbJlSbWpEcHfYcHbIcHcMcHcMcHeuUuK" ++
    "tHqdAbSbRtHcwAdDckMkBbmBoAbXeHsRiTbRbSbViBsRbVcUcTbRbSbRbSbRbSbRbSbRbSbRbSbRbSbRbScZbRbSfHdX" ++
    "eDcHfHbQbRbSbRbSbRbSeDbWbQeEcHbVbXcZfTfYcHfzYdLcEcHeDbXeDbRbSbVbWbVbQcZlWcZeEcZbeAbRbVbSbYbP" ++
    "bYbeBbRbWbSbWbRbSbVbRbScZlSbHcaCcLbjYePhCdLhCdLhCdLdQePdBbWbYbZdBcHbZfIdDmReMdDdLoAcHbeEcHwC" ++
    "cHcMcHrMdLqIboJfmCgXeDfTcaIePlFcjNfAuLcSeHcHpVePbZcdJcaTbJfvDbhQePceSsLbJbfOfTblCfAlNxGbNjKb" ++
    "NgXbsAfZgXbiUcHbVbpSfTjKbVgDbxPbuEbuFdmEdLlWiBbpOfTbpPfTbuIkJciEnVbVmScHrIcHiCcHcIcHmTcHrJcH" ++
    "iDcHcJePciEoZnvAlNzOmRjKbcVhBcHbwPcHkNdcThCdLbIcHbyYcHcMePbIdLbaScHbVjQbaSdDiMbjYkJkUceNwCcH" ++
    "cMgXgEzOhIePbVbeEgXbVbeEbsZcmUfTcScMsWdLcbMbIdRcHcNgXeVeUcHdQcHbhQdLdRfTbJkUjFlBjFbhQcSbVbhQ" ++
    "dWbmBjKbZbgMcNfTgEiTlNckMePiTzOdLjQwCgXjQuYjFfHoZiMdpLdgKcmPcgWqDcgXjFhIbpSeVkJlWiBlWeUbHbIz" ++
    "KePfZbQbHzLkJdAjhDbkEcHbwQcHcNbQdLcMtPdQbHcMkJbVkBbnFhDbhQlYbIkJzOmXfAgLbaNuYeVfHbsZyKiMyFba" ++
    "SlNbKbJbKcjIrNiTfTxMlWbJcMcNbIlNdRbKcaCdSeVcOcNcZcEfHbJmRcEdLbdAjFlWiBdRbpSfZbKjLcHlWfHbIcOb" ++
    "IkJboObJcZbIlNcNbKcdOdSkPcOeUfHeVbVbKbJlWbIbVbIeDcHxMnVuYcHbdAdSdRcObJbKcNhPbJcMbJcuRiGcHbIc" ++
    "HeUcHrMcHlSbViBccKbJdSjLgXlWiBcNcOcHjKdLcMdLzOcHiGcHcMcHfYcHcNbIcObJeWdLcOdLdSdLbIiBbKgXfYcO" ++
    "dLiHePfZnVlScHbIdLbIcHbsAcHbIdShDcHbKdLbKcHeWcHcObJbKbJbIbJbIcZcHcZkJcNbiPcjIdSjLcOdRbKbJeUg" ++
    "LlWcZcHbVbJdQbjTcdOdShDbKbJeWcNbKcNcMbVbIkJlWhkRccKdSeVdLeWcNbKcNbbFeUcNboJcdOdSjLcObJbKcNeD" ++
    "bInVlWiBpRxBbxUbJbKbJcOhDbKbJbIbViBlWiBxKbhLbfIdLbJbKbJcOeVbKfZfTlWcSeDbZiGigPbyYdSkPbKcNbVe" ++
    "mNbkYbkZlWkUoZjKdLbIdLjKcHcMcHbbWhEcHcOdLcNbKbJbIbKbIbKbJeDlNlWddXjKdLbtEdSeVdLcNeWbJbIbVbIb" ++
    "KbgHbIlTbuIhDbKbIeVjXbJkJbIhDcOdRcbGpFbKcNeDbIgLqDdgKjFmFdwJbJbKdRbKbJbKdyRbmGbVrHlWiBkOcHbq" ++
    "WbKiHcHhDbKbJbIgLmRlWwIePcZbiUdLzPcHbKiHbKcNbKcNdhJiGcHcMcHbsAhDePbJcHcNcHiHbIbJkJlWiBhCcHcM" ++
    "cHblCgAcHcNcHcObJbKbJbIjFlWiBbvMbHcMfTlWkyZwCcNcOcZjFcNbIbKpEcHbnKcOfZePcObJbKbJpRlWbJdvFbIs" ++
    "LyQkBfJuLqDbVboyAeoVeyLcHgLnVisIenaReiCcZqDbvpCtMbJhCrNmRgvhUgXzwWlrqPbiUoBdSdRlWcyzXzgSjFbj" ++
    "YcHlWfTcZdnIcHlWiBbiUdLfZbVmRcdOiHgLfLeTbVbZmRlWcHiMcHyKgXwCtfPdPbuIcLeDlWivPbkYbkZbaYfHgXbc" ++
    "WdLbcXbzXdiSfTbJbIclSjFeVpDcwZcLbVbHbJnVcOcLdVlNmppWbwLblCejBfcWoweTeTcHiFcHcLcHmxYsLbIbiPdQ" ++
    "dLbIrHeUkJrpCdymFetQgXpEePkOjFlSdLbZcNbVfQgsoBkrTlWeHePtjXiBbbJsLtHbWsLcbHdLbaTlNfeRcsJkyRmR" ++
    "btVdLcsBcOdReHhEkGjLdDiHbjLeVctFzJcyZdRbZflXxMoZxMoZdxFlNbdGgaXbeAbeBbeAiDcHuVbeAbeBbEcHcIdL" ++
    "bEdLcIdLeQcHjGeRcHbFcHiDcHmTbeAbeBcIcHeQdLjGcHiCcHbeBcIcHeQcHfUcHbEePiCcHbeBbeAbeBbeAbeBbeAb" ++
    "eBbeAbeBbeAbeBbeAbgJdLbcWbWbcXbWgZbcWbWbcXbWgZbcWbWbcXbWgZbcWbWbcXbWgZbcWbWbcXbWgZbEbFdLcgAw" ++
    "tPclRfLcfXkBbJqZbJdDgLsLfZcHrNbxaZlPbIxDiBgZjmXiHcHtVdLiHcHcNcHfZgXctRbnFbJfaJcaCePiHiFdLlWf" ++
    "TbIbZogJbiUbJuTbyYeVlWgXbXuqNbfIbHeVlWjoBbiUcNbIlWfTbVioRbjYcHdQbJcMbJiGcNfYbJkJbIbHjzPiGcHe" ++
    "UcHcMcHrMcHitMdLkUiHbwLbnGbnHiHbHfTlWfTcZbiwXcqMbZdWbXfAdkVcaIbZrSiqZeUcHbfIcHcMcHbIdLbIcHlS" ++
    "cHeUcHbIcHbIiBbIfTbIcHbIcHbIcHdQcHcMcHbIdLbIcHbIcHbIcHbIcHbIcHcMcHbIdLeUcHiGcHeUcHeUcHbIcHlS" ++
    "cHtUgXdQcHfYcHtUcjDdAmaRbzPfTemFoZsDdLsDcHsDcHbrNmRpKhePcnTbiHqDbzPfTlFjFdDrHhTgwVleLgObgjZe" ++
    "PuLePpVePjsJiBoRfTbZsLoRfTcnLkJmJiBbuZkJbjLdLoRfTdDrHlCbuDphTkJqZdLpVePnNePcoPcHbZfTtHdLoRfT" ++
    "mJjFgoLcHecZlWbZbtsLcuxwMbmBhmmIdLjwgMdLmtqWsLbbpWefmNybOcowVilfAgXomuIbuloiPcEbjTehUfsVkrDe" ++
    "halHehwjGdLehwjGdL"

def categoryRuns : List (Nat × Nat × Nat) :=
  runsFrom categoryNames.length 0 (numerals categoryTable)

def hasName (row name : String) : Bool :=
  (row.splitOn " ").contains name

def categoryUnion (shortNames : List String) : CharSet :=
  labelled categoryRuns fun label =>
    match categoryNames[label]? with
    | some row => shortNames.any (hasName row)
    | none => false

def categorySet? (name : String) : Option CharSet :=
  if name == "any" then some CharSet.empty.complement
  else if name == "assigned" then some (categoryUnion ["cn"]).complement
  else if name == "ascii" then some ⟨#[(0, 0x7F)]⟩
  else
    match categoryGroups.find? fun group => hasName group.1 name with
    | some group => some (categoryUnion (group.2.splitOn " "))
    | none =>
      if !name.isEmpty && categoryNames.any fun row => hasName row name then
        some (categoryUnion [name])
      else none

end Reroute.Unicode
