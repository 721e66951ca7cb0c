import Milp.Name
import Milp.Number.Power
import Milp.Text.CodePage
import Milp.Text.Letter
import Milp.Text.Quoted
import Milp.Text.Utf8

/-!
# Encodings

A text as bytes, in the encoding of a name. The name may be written in large or small letters and
with anything between its parts. Characters that the encoding cannot write are an error, or else
something is done about them: they are left out, or stand there in another form.
-/

namespace Milp.Text

/-! ### Names -/

/-- Encodings with the other names that they have. -/
def encodingNames : List (String × List String) := [
  ("ascii", ["646", "ansi_x3.4_1968", "ansi_x3.4_1986", "ansi_x3_4_1968", "cp367", "csascii",
    "ibm367", "iso646_us", "iso_646.irv_1991", "iso_ir_6", "us", "us_ascii"]),
  ("base64_codec", ["base64", "base_64"]),
  ("big5", ["big5_tw", "csbig5", "x_mac_trad_chinese"]),
  ("big5hkscs", ["big5_hkscs", "hkscs"]),
  ("bz2_codec", ["bz2"]),
  ("cp037", ["037", "csibm037", "ebcdic_cp_ca", "ebcdic_cp_nl", "ebcdic_cp_us", "ebcdic_cp_wt",
    "ibm037", "ibm039"]),
  ("cp1026", ["1026", "csibm1026", "ibm1026"]),
  ("cp1125", ["1125", "cp866u", "ibm1125", "ruscii"]),
  ("cp1140", ["1140", "ibm1140"]),
  ("cp1250", ["1250", "windows_1250"]),
  ("cp1251", ["1251", "windows_1251"]),
  ("cp1252", ["1252", "windows_1252"]),
  ("cp1253", ["1253", "windows_1253"]),
  ("cp1254", ["1254", "windows_1254"]),
  ("cp1255", ["1255", "windows_1255"]),
  ("cp1256", ["1256", "windows_1256"]),
  ("cp1257", ["1257", "windows_1257"]),
  ("cp1258", ["1258", "windows_1258"]),
  ("cp273", ["273", "csibm273", "ibm273"]),
  ("cp424", ["424", "csibm424", "ebcdic_cp_he", "ibm424"]),
  ("cp437", ["437", "cspc8codepage437", "ibm437"]),
  ("cp500", ["500", "csibm500", "ebcdic_cp_be", "ebcdic_cp_ch", "ibm500"]),
  ("cp775", ["775", "cspc775baltic", "ibm775"]),
  ("cp850", ["850", "cspc850multilingual", "ibm850"]),
  ("cp852", ["852", "cspcp852", "ibm852"]),
  ("cp855", ["855", "csibm855", "ibm855"]),
  ("cp857", ["857", "csibm857", "ibm857"]),
  ("cp858", ["858", "csibm858", "ibm858"]),
  ("cp860", ["860", "csibm860", "ibm860"]),
  ("cp861", ["861", "cp_is", "csibm861", "ibm861"]),
  ("cp862", ["862", "cspc862latinhebrew", "ibm862"]),
  ("cp863", ["863", "csibm863", "ibm863"]),
  ("cp864", ["864", "csibm864", "ibm864"]),
  ("cp865", ["865", "csibm865", "ibm865"]),
  ("cp866", ["866", "csibm866", "ibm866"]),
  ("cp869", ["869", "cp_gr", "csibm869", "ibm869"]),
  ("cp932", ["932", "ms932", "ms_kanji", "mskanji"]),
  ("cp949", ["949", "ms949", "uhc"]),
  ("cp950", ["950", "ms950"]),
  ("euc_jis_2004", ["euc_jis2004", "eucjis2004", "jisx0213"]),
  ("euc_jisx0213", ["eucjisx0213"]),
  ("euc_jp", ["eucjp", "u_jis", "ujis"]),
  ("euc_kr", ["euckr", "korean", "ks_c_5601", "ks_c_5601_1987", "ks_x_1001", "ksc5601", "ksx1001",
    "x_mac_korean"]),
  ("gb18030", ["gb18030_2000"]),
  ("gb2312", ["chinese", "csiso58gb231280", "euc_cn", "euccn", "eucgb2312_cn", "gb2312_1980",
    "gb2312_80", "iso_ir_58", "x_mac_simp_chinese"]),
  ("gbk", ["936", "cp936", "ms936"]),
  ("hex_codec", ["hex"]),
  ("hp_roman8", ["cp1051", "csHPRoman8", "ibm1051", "r8", "roman8"]),
  ("hz", ["hz_gb", "hz_gb_2312", "hzgb"]),
  ("iso2022_jp", ["csiso2022jp", "iso2022jp", "iso_2022_jp"]),
  ("iso2022_jp_1", ["iso2022jp_1", "iso_2022_jp_1"]),
  ("iso2022_jp_2", ["iso2022jp_2", "iso_2022_jp_2"]),
  ("iso2022_jp_2004", ["iso2022jp_2004", "iso_2022_jp_2004"]),
  ("iso2022_jp_3", ["iso2022jp_3", "iso_2022_jp_3"]),
  ("iso2022_jp_ext", ["iso2022jp_ext", "iso_2022_jp_ext"]),
  ("iso2022_kr", ["csiso2022kr", "iso2022kr", "iso_2022_kr"]),
  ("iso8859_10", ["csisolatin6", "iso_8859_10", "iso_8859_10_1992", "iso_ir_157", "l6", "latin6"]),
  ("iso8859_11", ["iso_8859_11", "iso_8859_11_2001", "thai"]),
  ("iso8859_13", ["iso_8859_13", "l7", "latin7"]),
  ("iso8859_14", ["iso_8859_14", "iso_8859_14_1998", "iso_celtic", "iso_ir_199", "l8", "latin8"]),
  ("iso8859_15", ["iso_8859_15", "l9", "latin9"]),
  ("iso8859_16", ["iso_8859_16", "iso_8859_16_2001", "iso_ir_226", "l10", "latin10"]),
  ("iso8859_2", ["csisolatin2", "iso_8859_2", "iso_8859_2_1987", "iso_ir_101", "l2", "latin2"]),
  ("iso8859_3", ["csisolatin3", "iso_8859_3", "iso_8859_3_1988", "iso_ir_109", "l3", "latin3"]),
  ("iso8859_4", ["csisolatin4", "iso_8859_4", "iso_8859_4_1988", "iso_ir_110", "l4", "latin4"]),
  ("iso8859_5", ["csisolatincyrillic", "cyrillic", "iso_8859_5", "iso_8859_5_1988", "iso_ir_144"]),
  ("iso8859_6", ["arabic", "asmo_708", "csisolatinarabic", "ecma_114", "iso_8859_6",
    "iso_8859_6_1987", "iso_ir_127"]),
  ("iso8859_7", ["csisolatingreek", "ecma_118", "elot_928", "greek", "greek8", "iso_8859_7",
    "iso_8859_7_1987", "iso_ir_126"]),
  ("iso8859_8", ["csisolatinhebrew", "hebrew", "iso_8859_8", "iso_8859_8_1988", "iso_ir_138"]),
  ("iso8859_9", ["csisolatin5", "iso_8859_9", "iso_8859_9_1989", "iso_ir_148", "l5", "latin5"]),
  ("johab", ["cp1361", "ms1361"]),
  ("koi8_r", ["cskoi8r"]),
  ("kz1048", ["kz_1048", "rk1048", "strk1048_2002"]),
  ("latin_1", ["8859", "cp819", "csisolatin1", "ibm819", "iso8859", "iso8859_1", "iso_8859_1",
    "iso_8859_1_1987", "iso_ir_100", "l1", "latin", "latin1"]),
  ("mac_cyrillic", ["maccyrillic"]),
  ("mac_greek", ["macgreek"]),
  ("mac_iceland", ["maciceland"]),
  ("mac_latin2", ["mac_centeuro", "maccentraleurope", "maclatin2"]),
  ("mac_roman", ["macintosh", "macroman"]),
  ("mac_turkish", ["macturkish"]),
  ("ptcp154", ["cp154", "csptcp154", "cyrillic_asian", "pt154"]),
  ("quopri_codec", ["quopri", "quoted_printable", "quotedprintable"]),
  ("rot_13", ["rot13"]),
  ("shift_jis", ["csshiftjis", "s_jis", "shiftjis", "sjis", "x_mac_japanese"]),
  ("shift_jis_2004", ["s_jis_2004", "shiftjis2004", "sjis_2004"]),
  ("shift_jisx0213", ["s_jisx0213", "shiftjisx0213", "sjisx0213"]),
  ("tis_620", ["iso_ir_166", "tis620", "tis_620_0", "tis_620_2529_0", "tis_620_2529_1"]),
  ("utf_16", ["u16", "utf16"]),
  ("utf_16_be", ["unicodebigunmarked", "utf_16be"]),
  ("utf_16_le", ["unicodelittleunmarked", "utf_16le"]),
  ("utf_32", ["u32", "utf32"]),
  ("utf_32_be", ["utf_32be"]),
  ("utf_32_le", ["utf_32le"]),
  ("utf_7", ["u7", "unicode_1_1_utf_7", "utf7"]),
  ("utf_8", ["cp65001", "u8", "utf", "utf8", "utf8_ucs2", "utf8_ucs4"]),
  ("uu_codec", ["uu"]),
  ("zlib_codec", ["zip", "zlib"])]

/-- Encodings that write something else than texts. -/
def formNames : List String := [
  "base64_codec", "bz2_codec", "hex_codec", "quopri_codec", "rot_13", "uu_codec", "zlib_codec"]

/-- Encodings of which nothing more is known than what they write of ASCII characters. -/
def otherEncodings : List String := [
  "big5", "big5hkscs", "cp932", "cp949", "cp950", "euc_jis_2004", "euc_jisx0213", "euc_jp",
  "euc_kr", "gb18030", "gb2312", "gbk", "hz", "idna", "iso2022_jp", "iso2022_jp_1", "iso2022_jp_2",
  "iso2022_jp_2004", "iso2022_jp_3", "iso2022_jp_ext", "iso2022_kr", "iso8859_1", "johab",
  "shift_jis", "shift_jis_2004", "shift_jisx0213", "undefined"]

/-- Encodings that are none of these. -/
def ownEncodings : List String := [
  "ascii", "charmap", "latin_1", "punycode", "raw_unicode_escape", "unicode_escape", "utf_16",
  "utf_16_be", "utf_16_le", "utf_32", "utf_32_be", "utf_32_le", "utf_7", "utf_8", "utf_8_sig"]

/-- A name in small letters, with a low line for what separates its parts. -/
def plainName (name : String) : String :=
  String.ofList (partsFrom false false (points name))
where
  /-- The characters of the parts; some came before, and a separator may have come after them. -/
  partsFrom : (hasParts isSeparated : Bool) → List Nat → List Char
    | _, _, [] => []
    | hasParts, isSeparated, p :: ps =>
      if isLetterOrNumeral p || p = 0x2E then
        let low := if isSeparated && hasParts then ['_'] else []
        if p < 128 then low ++ (Char.ofNat p).toLower :: partsFrom true false ps
        else low ++ partsFrom (hasParts || !low.isEmpty) false ps
      else partsFrom hasParts true ps

/-- The encoding that a name stands for. -/
def encodingNamed? (name : String) : Option String :=
  let name := plainName name
  let alias? := fun name : String =>
    (encodingNames.find? fun e => e.2.any (· == name)).map Prod.fst
  let known := fun name : String =>
    [codePages.map Prod.fst, formNames, otherEncodings, ownEncodings].any fun names =>
      names.any (· == name)
  let low := String.ofList (name.toList.map fun c => if c = '.' then '_' else c)
  match alias? name, alias? low with
  | some e, _ => some e
  | none, some e => some e
  | none, none => if known name then some name else none

/-! ### Errors -/

/-- Why a text has no bytes in an encoding. -/
inductive EncodingError where
  | unknown (name : String)
  /-- The encoding writes something else than texts. -/
  | form (name : String)
  /-- Nothing is known by the name that could be done about characters. The encoding is named if it
  was looked up first. -/
  | unknownHandler (name : String) (codec? : Option String)
  /-- Some code points in a row cannot be written. The first one is given with its place. -/
  | unencodable (codec : String) (point start count : Nat) (reason : String)
  deriving DecidableEq, Repr

def EncodingError.message : EncodingError → String
  | unknown name => "unknown encoding: " ++ name
  | form name =>
    "'" ++ name ++ "' is not a text encoding; use codecs.encode() to handle arbitrary codecs"
  | unknownHandler name codec? =>
    let text := "unknown error handler name '" ++ name ++ "'"
    match codec? with
    | some codec => "encoding with '" ++ codec ++ "' codec failed (LookupError: " ++ text ++ ")"
    | none => text
  | unencodable codec point start count reason =>
    "'" ++ codec ++ "' codec can't encode character" ++
      (if count = 1 then " '" ++ escapeText point ++ "' in position " ++ toString start
        else "s in position " ++ toString start ++ "-" ++ toString (start + count - 1)) ++
      ": " ++ reason
where
  /-- A code point by its number. -/
  escapeText (p : Nat) : String := String.ofList
    (if p < 0x100 then ['\\', 'x'] ++ hexDigits p 2
    else if p < 0x10000 then ['\\', 'u'] ++ hexDigits p 4
    else ['\\', 'U'] ++ hexDigits p 8)

/-! ### Codes -/

/-- How an encoding writes code points one by one. -/
structure Code where
  /-- The name of the encoding in messages. -/
  name : String
  /-- Why a code point cannot be written. -/
  reason : String
  /-- Code points in a row that cannot be written are told as one. -/
  collects : Bool
  /-- The bytes of a surrogate, where it is to pass. -/
  passed? : Nat → Option (List Nat)
  bytes? : Nat → Option (List Nat)

/-- The code points below a limit are bytes. -/
def Code.below (name : String) (limit : Nat) : Code where
  name
  reason := "ordinal not in range(" ++ toString limit ++ ")"
  collects := true
  passed? _ := none
  bytes? p := if p < limit then some [p] else none

/-- The bytes of a code page. -/
def Code.ofPage (page : String) : Code where
  name := "charmap"
  reason := "character maps to <undefined>"
  collects := true
  passed? _ := none
  bytes? p :=
    let start := 256 - page.length
    let i := page.toList.findIdx (·.toNat = p)
    if p < start then some [p]
    else if i < page.length ∧ p ≠ 0xFFFE then some [start + i] else none

/-- Unicode in units of some bytes. -/
def Code.unicode (name : String) (collects : Bool) (bytes : Nat → List Nat) : Code where
  name
  reason := "surrogates not allowed"
  collects
  passed? p := some (bytes p)
  bytes? p := if isSurrogate p then none else some (bytes p)

/-- A number as so many bytes, the lowest or the highest one first. -/
def inBytesOf (count : Nat) (lowFirst : Bool) (n : Nat) : List Nat :=
  let bytes := (List.range count).map fun i => n / Nat.pow 256 i % 256
  if lowFirst then bytes else bytes.reverse

/-- The units of two bytes of a code point. -/
def shortUnits (p : Nat) : List Nat :=
  if p < 0x10000 then [p] else [0xD7C0 + p / 0x400, 0xDC00 + p % 0x400]

/-- Unicode in units of two bytes. -/
def Code.utf16 (name : String) (lowFirst : Bool) : Code :=
  .unicode name false fun p => (shortUnits p).flatMap (inBytesOf 2 lowFirst)

/-- Unicode in units of four bytes. -/
def Code.utf32 (name : String) (lowFirst : Bool) : Code :=
  .unicode name false (inBytesOf 4 lowFirst)

/-- The code that can write everything, in one way or another. -/
def Code.total (bytes : Nat → List Nat) : Code :=
  ⟨"", "", false, fun _ => none, some ∘ bytes⟩

/-- An encoding of which nothing more is known than its name. -/
def Code.other (name : String) : Code where
  name
  reason := "illegal multibyte sequence"
  collects := false
  passed? _ := none
  bytes? p := if isSurrogate p then none else some [if p < 128 then p else 0x3F]

/-- A code point in an escape, or the byte that it is. -/
def escapedByte (isRaw : Bool) (p : Nat) : List Nat :=
  let escape := fun c width => (['\\', c] ++ hexDigits p width).map Char.toNat
  if p < 0x100 ∧ isRaw then [p]
  else if p = 0x5C then [0x5C, 0x5C]
  else if p = 9 then [0x5C, 0x74]
  else if p = 0xA then [0x5C, 0x6E]
  else if p = 0xD then [0x5C, 0x72]
  else if 0x20 ≤ p ∧ p < 0x7F then [p]
  else if p < 0x100 then escape 'x' 2
  else if p < 0x10000 then escape 'u' 4
  else escape 'U' 8

/-- The bytes in front of a text, and how its code points are written, in an encoding that writes
them one by one. -/
def codeOf? (encoding : String) : Option (List Nat × Code) :=
  match encoding with
  | "ascii" => some ([], .below "ascii" 128)
  | "latin_1" | "charmap" => some ([], .below "latin-1" 256)
  | "utf_8" => some ([], .unicode "utf-8" true bytesOf)
  | "utf_8_sig" => some (bytesOf 0xFEFF, .unicode "utf-8" true bytesOf)
  | "utf_16" => some ([0xFF, 0xFE], .utf16 "utf-16" true)
  | "utf_16_le" => some ([], .utf16 "utf-16-le" true)
  | "utf_16_be" => some ([], .utf16 "utf-16-be" false)
  | "utf_32" => some ([0xFF, 0xFE, 0, 0], .utf32 "utf-32" true)
  | "utf_32_le" => some ([], .utf32 "utf-32-le" true)
  | "utf_32_be" => some ([], .utf32 "utf-32-be" false)
  | "unicode_escape" => some ([], .total (escapedByte false))
  | "raw_unicode_escape" => some ([], .total (escapedByte true))
  | name =>
    match codePages.find? fun page => page.1 == name with
    | some page => some ([], .ofPage page.2)
    | none => some ([], .other name)

/-! ### What is done about characters -/

/-- What stands for code points that cannot be written, or nothing if they stay an error. -/
def standIn? (handler : String) (code : Code) (p : Nat) : Option (List Nat) :=
  let write := fun t : String => ((points t).flatMap fun p => (code.bytes? p).getD [])
  match handler with
  | "ignore" => some []
  | "replace" => some (write "?")
  | "backslashreplace" | "namereplace" => some (write (EncodingError.message.escapeText p))
  | "xmlcharrefreplace" => some (write ("&#" ++ toString p ++ ";"))
  | "surrogateescape" => if 0xDC80 ≤ p ∧ p ≤ 0xDCFF then some [p - 0xDC00] else none
  | "surrogatepass" => if isSurrogate p then code.passed? p else none
  | _ => none

/-- All that can be done about characters. -/
def handlers : List String := [
  "strict", "ignore", "replace", "backslashreplace", "namereplace", "xmlcharrefreplace",
  "surrogateescape", "surrogatepass"]

/-- The bytes of code points, from a place on. -/
def encodeFrom (code : Code) (handler : String) :
    (place : Nat) → List Nat → Except EncodingError (List Nat)
  | _, [] => .ok []
  | place, p :: ps =>
    match code.bytes? p, standIn? handler code p with
    | some bytes, _ => (bytes ++ ·) <$> encodeFrom code handler (place + 1) ps
    | none, some bytes => (bytes ++ ·) <$> encodeFrom code handler (place + 1) ps
    | none, none =>
      let others := if code.collects then ps.takeWhile fun p => (code.bytes? p).isNone else []
      .error (if handlers.any (· == handler) then
        .unencodable code.name p place (others.length + 1) code.reason
        else .unknownHandler handler none)

/-! ### Seven bits -/

/-- The digits of base 64. -/
def digitOf64 (n : Nat) : Nat :=
  if n < 26 then 0x41 + n else if n < 52 then 0x61 + (n - 26) else if n < 62 then 0x30 + (n - 52)
  else if n = 62 then 0x2B else 0x2F

/-- The byte is one of those digits. -/
def isDigitOf64 (p : Nat) : Bool :=
  p = 0x2B || p = 0x2F || p < 128 && (Char.ofNat p).isAlphanum

/-- Bits in groups of six as digits; the last group is filled with zeros. The fuel is used up by one
for every digit. -/
def digitsOf64 : (fuel : Nat) → List Bool → List Nat
  | 0, _ | _, [] => []
  | fuel + 1, bits =>
    let six := bits.take 6 ++ List.replicate (6 - bits.length) false
    digitOf64 (six.foldl (fun n b => 2 * n + if b then 1 else 0) 0) :: digitsOf64 fuel (bits.drop 6)

/-- The bits of a unit of two bytes. -/
def bitsOfUnit (n : Nat) : List Bool := (List.range 16).reverse.map fun i => n / twoPow i % 2 = 1

/-- The code point is written as it is where no bits are. -/
def isDirect (p : Nat) : Bool :=
  p = 9 || p = 0xA || p = 0xD || (0x20 ≤ p && p < 0x7E && p ≠ 0x2B && p ≠ 0x5C)

/-- Unicode in seven bits: what is not written as it is stands in digits of base 64 behind a plus
sign, and a hyphen ends them where they would go on. The bits so far are given in front of a row. -/
def encodeUtf7 : (bits? : Option (List Bool)) → List Nat → List Nat
  | none, [] => []
  | some bits, [] => digitsOf64 bits.length bits ++ [0x2D]
  | none, p :: ps =>
    if p = 0x2B then 0x2B :: 0x2D :: encodeUtf7 none ps
    else if isDirect p then p :: encodeUtf7 none ps
    else 0x2B :: encodeUtf7 (some ((shortUnits p).flatMap bitsOfUnit)) ps
  | some bits, p :: ps =>
    if isDirect p then
      let ending := if isDigitOf64 p || p = 0x2D then [0x2D] else []
      digitsOf64 bits.length bits ++ ending ++ p :: encodeUtf7 none ps
    else encodeUtf7 (some (bits ++ (shortUnits p).flatMap bitsOfUnit)) ps

/-! ### All encodings -/

/-- Encodings that are found without being looked up. -/
def commonNames : List String := [
  "utf8", "utf_8", "utf16", "utf_16", "utf32", "utf_32", "ascii", "us_ascii", "latin1", "latin_1",
  "iso_8859_1", "iso8859_1"]

/-- The bytes of a text in the encoding of a name. -/
def encode (name handler : String) (ps : List Nat) : Except EncodingError (List Nat) :=
  match encodingNamed? name with
  | none => .error (.unknown name)
  | some "utf_7" => .ok (encodeUtf7 none ps)
  | some "punycode" =>
    .ok ((ps.filter (· < 128)) ++ if ps.any (· < 128) then [0x2D] else [])
  | some encoding =>
    if formNames.any (· == encoding) then .error (.form name)
    else
      match codeOf? encoding with
      | some (front, code) =>
        match encodeFrom code handler 0 ps with
        | .ok bytes => .ok (front ++ bytes)
        | .error (.unknownHandler handler _) =>
          let isCommon := commonNames.any (· == plainName name)
          .error (.unknownHandler handler (if isCommon then none else some name))
        | .error e => .error e
      | none => .error (.unknown name)

end Milp.Text
