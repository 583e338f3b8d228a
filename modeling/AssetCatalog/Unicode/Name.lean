import AssetCatalog.Unicode.Name.Basic
import AssetCatalog.Unicode.Name.Supplementary
import AssetCatalog.Unicode.Normal

/-! The names of characters in Unicode 14: the character that a name stands for. -/

namespace AssetCatalog.Unicode

/-- Other names for characters, most of them for controls, as a table of names. -/
def aliasNames : List String :=
  ["aNULLyaNULaSTART OF HEADINGyaSOHaSTART OF TEXTyaSTXaEND OF TEXTyaETXaEND OF TRANSMISSIONyaEOTaENQUIRY",
    "yaENQaACKNOWLEDGEyaACKaALERTyaBELaBACKSPACEyaBSaCHARACTER TABULATIONyaHORIZONTAL TABULATIONyaHTyaTAB",
    "aLINE FEEDyaNEW LINEyaEND OF LINEyaEOLyaLFyaNLaLINE TABULATIONyaVERTICAL TABULATIONyaVTaFORM FEEDyaFF",
    "aCARRIAGE RETURNyaCRaSHIFT OUTyaLOCKING-SHIFT ONEyaSOaSHIFT INyaLOCKING-SHIFT ZEROyaSIaDATA LINK ESCAPE",
    "yaDLEaDEVICE CONTROL ONEyaDC1aDEVICE CONTROL TWOyaDC2aDEVICE CONTROL THREEyaDC3aDEVICE CONTROL FOURyaDC4",
    "aNEGATIVE ACKNOWLEDGEyaNAKaSYNCHRONOUS IDLEyaSYNaEND OF TRANSMISSION BLOCKyaETBaCANCELyaCAN",
    "aEND OF MEDIUMyaEOMaSUBSTITUTEyaSUBaESCAPEyaESCaINFORMATION SEPARATOR FOURyaFILE SEPARATORyaFS",
    "aINFORMATION SEPARATOR THREEyaGROUP SEPARATORyaGSaINFORMATION SEPARATOR TWOyaRECORD SEPARATORyaRS",
    "aINFORMATION SEPARATOR ONEyaUNIT SEPARATORyaUSaSPz5EaDELETEyaDELaPADDING CHARACTERyaPAD",
    "aHIGH OCTET PRESETyaHOPaBREAK PERMITTED HEREyaBPHaNO BREAK HEREyaNBHaINDEXyaINDaNEXT LINEyaNEL",
    "aSTART OF SELECTED AREAyaSSAaEND OF SELECTED AREAyaESAaCHARACTER TABULATION SET",
    "yaHORIZONTAL TABULATION SETyaHTSaCHARACTER TABULATION WITH JUSTIFICATION",
    "yaHORIZONTAL TABULATION WITH JUSTIFICATIONyaHTJaLINE TABULATION SETyaVERTICAL TABULATION SETyaVTS",
    "aPARTIAL LINE FORWARDycDOWNyaPLDaPARTIAL LINE BACKWARDycUPyaPLUaREVERSE LINE FEEDybINDEXyaRI",
    "aSINGLE SHIFT TWOyaSINGLE-SHIFT-2yaSS2aSINGLE SHIFT THREEyaSINGLE-SHIFT-3yaSS3aDEVICE CONTROL STRING",
    "yaDCSaPRIVATE USE ONEybUSE-1yaPU1aPRIVATE USE TWOybUSE-2yaPU2aSET TRANSMIT STATEyaSTSaCANCEL CHARACTER",
    "yaCCHaMESSAGE WAITINGyaMWaSTART OF GUARDED AREAycPROTECTED AREAyaSPAaEND OF GUARDED AREAycPROTECTED AREA",
    "yaEPAaSTART OF STRINGyaSOSaSINGLE GRAPHIC CHARACTER INTRODUCERyaSGCaSINGLE CHARACTER INTRODUCERyaSCI",
    "aCONTROL SEQUENCE INTRODUCERyaCSIaSTRING TERMINATORyaSTaOPERATING SYSTEM COMMANDyaOSCaPRIVACY MESSAGE",
    "yaPMaAPPLICATION PROGRAM COMMANDyaAPCaNBSPzCaSHYzF4aLATIN CAPITAL LETTER GHAbSMALL LETTER GHAz1ABaCGJ",
    "z2CCaALMzECaSYRIAC SUBLINEAR COLON SKEWED LEFTz5D4aKANNADA LETTER LLLAz1BEaLAO LETTER FO FONz1dFAYz3cRO",
    "z1cLOz12AaTIBETAN MARK BKA- SHOG GI MGO RGYANz21BaHANGUL JONGSEONG YESIEUNG-KIYEOKdSSANGKIYEOK",
    "cSSANGYESIEUNGcYESIEUNG-KHIEUKHz61BaFVS1aFVS2aFVS3aMVSaFVS4z7FBaZWSPaZWNJaZWJaLRMaRLMz1AaLREaRLEaPDFaLRO",
    "aRLOaNNBSPz2FaMMSPaWJz5aLRIaRLIaFSIaPDIzAEaWEIERSTRASS ELLIPTIC FUNCTIONz32FaMICR ON US SYMBOL",
    "bDASH SYMBOLz730aLEFTWARDS TRIANGLE-HEADED ARROW WITH DOUBLE VERTICAL STROKE",
    "z1aRIGHTWARDS TRIANGLE-HEADED ARROW WITH DOUBLE VERTICAL STROKEz7498aYI SYLLABLE ITERATION MARK",
    "zA58aMYANMAR LETTER KHAMTI LLAz5391aVS1aVS2aVS3aVS4aVS5aVS6aVS7aVS8aVS9aVS10aVS11aVS12aVS13aVS14aVS15",
    "aVS16z8aPRESENTATION FORM FOR VERTICAL RIGHT WHITE LENTICULAR BRACKETzE6aBYTE ORDER MARKyaBOMyaZWNBSP",
    "z23D4aCUNEIFORM SIGN NU11 TENUdOVER NU11 BUR OVER BURz4B80aMEDEFAIDRIN CAPITAL LETTER HdNG",
    "z1EbSMALL LETTER HdNGz4189aHENTAIGANA LETTER E-1",
    "z20C3aBYZANTINE MUSICAL SYMBOL FTHORA SKLIRON CHROMA VASISzC303AaVS17aVS18aVS19aVS20aVS21aVS22aVS23aVS24",
    "aVS25aVS26aVS27aVS28aVS29aVS30aVS31aVS32aVS33aVS34aVS35aVS36aVS37aVS38aVS39aVS40aVS41aVS42aVS43aVS44",
    "aVS45aVS46aVS47aVS48aVS49aVS50aVS51aVS52aVS53aVS54aVS55aVS56aVS57aVS58aVS59aVS60aVS61aVS62aVS63aVS64",
    "aVS65aVS66aVS67aVS68aVS69aVS70aVS71aVS72aVS73aVS74aVS75aVS76aVS77aVS78aVS79aVS80aVS81aVS82aVS83aVS84",
    "aVS85aVS86aVS87aVS88aVS89aVS90aVS91aVS92aVS93aVS94aVS95aVS96aVS97aVS98aVS99aVS100aVS101aVS102aVS103",
    "aVS104aVS105aVS106aVS107aVS108aVS109aVS110aVS111aVS112aVS113aVS114aVS115aVS116aVS117aVS118aVS119aVS120",
    "aVS121aVS122aVS123aVS124aVS125aVS126aVS127aVS128aVS129aVS130aVS131aVS132aVS133aVS134aVS135aVS136aVS137",
    "aVS138aVS139aVS140aVS141aVS142aVS143aVS144aVS145aVS146aVS147aVS148aVS149aVS150aVS151aVS152aVS153aVS154",
    "aVS155aVS156aVS157aVS158aVS159aVS160aVS161aVS162aVS163aVS164aVS165aVS166aVS167aVS168aVS169aVS170aVS171",
    "aVS172aVS173aVS174aVS175aVS176aVS177aVS178aVS179aVS180aVS181aVS182aVS183aVS184aVS185aVS186aVS187aVS188",
    "aVS189aVS190aVS191aVS192aVS193aVS194aVS195aVS196aVS197aVS198aVS199aVS200aVS201aVS202aVS203aVS204aVS205",
    "aVS206aVS207aVS208aVS209aVS210aVS211aVS212aVS213aVS214aVS215aVS216aVS217aVS218aVS219aVS220aVS221aVS222",
    "aVS223aVS224aVS225aVS226aVS227aVS228aVS229aVS230aVS231aVS232aVS233aVS234aVS235aVS236aVS237aVS238aVS239",
    "aVS240aVS241aVS242aVS243aVS244aVS245aVS246aVS247aVS248aVS249aVS250aVS251aVS252aVS253aVS254aVS255aVS256"]

/-- The number that upper-case hexadecimal digits stand for. -/
def hexadecimal? (digits : Text) : Option Nat :=
  digits.foldlM (fun value c =>
    if c.isDigit then some (16 * value + (c.toNat - '0'.toNat))
    else if 'A' ≤ c ∧ c ≤ 'F' then some (16 * value + (c.toNat - 'A'.toNat + 10))
    else none) 0

/-- The entries of a table of names: a small letter each, with what stands behind it. -/
def nameEntries (table : List String) : List Text :=
  table.flatMap fun row => row.toList.splitBy fun _ c => !c.isLower

/-- The words of a name, each with the space or hyphen that ends it. -/
def nameWords (name : Text) : List Text :=
  name.splitBy fun c _ => c != ' ' && c != '-'

/-- The code of a name among the entries of a table, given the code and the words that the first entry starts from. -/
def findName? (name : Text) (code : Nat) (words : List Text) : List Text → Option Nat
  -- The last two letters move the code; any other one tells how many words are those of the name before.
  | [] => none
  | ('y' :: _) :: entries => findName? name (code - 1) words entries
  | ('z' :: digits) :: entries => findName? name (code + (hexadecimal? digits).getD 0) words entries
  | (letter :: rest) :: entries =>
    let words := words.take (letter.toNat - 'a'.toNat) ++ nameWords rest
    if words.flatten = name then some code else findName? name (code + 1) words entries
  | [] :: entries => findName? name code words entries

/-- The code of a name in upper case, as the tables have it. -/
def tabledCode? (name : Text) : Option Nat :=
  findName? name 0 [] (nameEntries aliasNames)
    <|> findName? name 0 [] (nameEntries basicNames)
    <|> findName? name 0x10000 [] (nameEntries supplementaryNames)

/-- The names of the leading consonants of Hangul syllables, in order. -/
def leadingNames : List Text :=
  ["G", "GG", "N", "D", "DD", "R", "M", "B", "BB", "S", "SS", "", "J", "JJ", "C", "K", "T", "P", "H"]

/-- The names of the vowels of Hangul syllables, in order. -/
def vowelNames : List Text :=
  ["A", "AE", "YA", "YAE", "EO", "E", "YEO", "YE", "O", "WA", "WAE", "OE", "YO", "U", "WEO", "WE", "WI", "YU",
    "EU", "YI", "I"]

/-- The names of the endings of Hangul syllables, in order; the first one is none. -/
def endingNames : List Text :=
  ["", "G", "GG", "GS", "N", "NJ", "NH", "D", "L", "LG", "LM", "LB", "LS", "LT", "LP", "LH", "M", "B", "BS", "S",
    "SS", "NG", "J", "C", "K", "T", "P", "H"]

/-- The longest of some names that a text starts with: its place among them, and the rest of the text. -/
def longestName? (names : List Text) (text : Text) : Option (Nat × Text) :=
  let longest := names.zipIdx.foldl (fun found (name, place) =>
    if name.isPrefixOf text && found.all (fun (other, _) => other.length < name.length) then some (name, place)
    else found) (none : Option (Text × Nat))
  longest.map fun (name, place) => (place, text.drop name.length)

/-- The code of the Hangul syllable that is spelled by the names of its parts. -/
def syllableCode? (spelling : Text) : Option Nat := do
  let (leading, rest) ← longestName? leadingNames spelling
  let (vowel, rest) ← longestName? vowelNames rest
  let (ending, rest) ← longestName? endingNames rest
  if rest.isEmpty then some (hangulSyllables.1 + 588 * leading + 28 * vowel + ending) else none

/-- The runs of the codes of unified ideographs, first and last. -/
def ideographRuns : List (Nat × Nat) :=
  [(0x3400, 0x4DBF), (0x4E00, 0x9FFF), (0x20000, 0x2A6DF), (0x2A700, 0x2B738), (0x2B740, 0x2B81D),
    (0x2B820, 0x2CEA1), (0x2CEB0, 0x2EBE0), (0x30000, 0x3134A)]

/-- The code of the unified ideograph that has this code, in four or five digits. -/
def ideographCode? (digits : Text) : Option Nat :=
  if digits.length = 4 ∨ digits.length = 5 then
    (hexadecimal? digits).filter fun code => ideographRuns.any fun (first, last) => first ≤ code && code ≤ last
  else none

/-- The character that a name stands for. -/
def named? (name : Text) : Option Char :=
  -- Syllables and ideographs are named by a rule, which minds the case of letters; the tables do not.
  let syllable : Text := "HANGUL SYLLABLE "
  let ideograph : Text := "CJK UNIFIED IDEOGRAPH-"
  let code? :=
    if Text.startsWith name syllable then syllableCode? (name.drop syllable.length)
    else if Text.startsWith name ideograph then ideographCode? (name.drop ideograph.length)
    else tabledCode? (name.map Char.toUpper)
  code?.map Char.ofNat

end AssetCatalog.Unicode
