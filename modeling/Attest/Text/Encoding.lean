import Attest.Text.CodePages.Mac
import Attest.Text.CodePages.Mainframe
import Attest.Text.CodePages.National
import Attest.Text.CodePages.Standard
import Attest.Text.CodePages.Terminal
import Attest.Text.CodePages.Typographic
import Attest.Text.DomainName
import Attest.Text.Escapes
import Attest.Text.Multibyte.Chinese
import Attest.Text.Multibyte.Japanese
import Attest.Text.Multibyte.Korean
import Attest.Text.Multibyte.Switched
import Attest.Text.Utf
import Attest.Text.Utf7

/-!
# Encodings of Text

Byte strings as text, by the name of the encoding.

Names are compared in a normal form: letters are small, and whatever stands between
letters and digits is one underscore. Most encodings go by several names. A name may
also be written with points, which then count as underscores, but only if it is one
of the other names.

## Main definitions

* `Encoding`: A decoder with its names.
* `Encoding.all`: The encodings.
* `Encoding.named?`: The encoding that goes by a name.
-/

namespace Attest

namespace Text

/-- A decoder with its names. -/
structure Encoding where
  /-- The code points of a byte string. -/
  decode : Decoder
  /-- The name of the encoding. -/
  name : String
  /-- The other names that it goes by. -/
  otherNames : List String

namespace Encoding

/-- The decoder of ASCII. -/
def ascii : Decoder :=
  Decoder.ofCharacters (·.mapM ascii?)

/-- The decoder to the characters with the numbers of the bytes. -/
def direct : Decoder :=
  fun bs => .ok (bs.map UInt8.toNat)

/-- The decoder that refuses everything. -/
def undefined : Decoder :=
  fun _ => .error .badText

/-- The encodings with one byte for each character that are no code pages. -/
def simple : List Encoding :=
  [⟨ascii, "ascii", ["646", "ansi_x3.4_1968", "ansi_x3.4_1986", "ansi_x3_4_1968", "cp367", "csascii",
      "ibm367", "iso646_us", "iso_646.irv_1991", "iso_ir_6", "us", "us_ascii"]⟩,
    ⟨direct, "latin_1", ["8859", "cp819", "csisolatin1", "ibm819", "iso8859", "iso8859_1",
      "iso_8859_1", "iso_8859_1_1987", "iso_ir_100", "l1", "latin", "latin1"]⟩,
    ⟨direct, "charmap", []⟩, ⟨undefined, "undefined", []⟩]

/-- The encodings that have room for all characters. -/
def universal : List Encoding :=
  [⟨.ofCharacters utf8?, "utf_8", ["cp65001", "u8", "utf", "utf8", "utf8_ucs2", "utf8_ucs4"]⟩,
    ⟨.ofCharacters Marked.utf8?, "utf_8_sig", []⟩,
    ⟨.ofCharacters Marked.utf16?, "utf_16", ["u16", "utf16"]⟩,
    ⟨.ofCharacters (utf16? .big), "utf_16_be", ["unicodebigunmarked", "utf_16be"]⟩,
    ⟨.ofCharacters (utf16? .little), "utf_16_le", ["unicodelittleunmarked", "utf_16le"]⟩,
    ⟨.ofCharacters Marked.utf32?, "utf_32", ["u32", "utf32"]⟩,
    ⟨.ofCharacters (utf32? .big), "utf_32_be", ["utf_32be"]⟩,
    ⟨.ofCharacters (utf32? .little), "utf_32_le", ["utf_32le"]⟩,
    ⟨Utf7.decoder, "utf_7", ["u7", "unicode_1_1_utf_7", "utf7"]⟩,
    ⟨Escapes.full, "unicode_escape", []⟩, ⟨Escapes.plain, "raw_unicode_escape", []⟩,
    ⟨Punycode.decoder, "punycode", []⟩, ⟨DomainName.decoder, "idna", []⟩]

/-- The Chinese encodings. -/
def chinese : List Encoding :=
  [⟨Chinese.big5, "big5", ["big5_tw", "csbig5", "x_mac_trad_chinese"]⟩,
    ⟨Chinese.big5Hkscs, "big5hkscs", ["big5_hkscs", "hkscs"]⟩,
    ⟨Chinese.cp950, "cp950", ["950", "ms950"]⟩,
    ⟨Chinese.gb2312, "gb2312", ["chinese", "csiso58gb231280", "euc_cn", "euccn", "eucgb2312_cn",
      "gb2312_1980", "gb2312_80", "iso_ir_58", "x_mac_simp_chinese"]⟩,
    ⟨Chinese.gbk, "gbk", ["936", "cp936", "ms936"]⟩,
    ⟨Chinese.gb18030, "gb18030", ["gb18030_2000"]⟩,
    ⟨Switched.tilde, "hz", ["hz_gb", "hz_gb_2312", "hzgb"]⟩]

/-- The Japanese encodings. -/
def japanese : List Encoding :=
  [⟨Japanese.cp932, "cp932", ["932", "ms932", "ms_kanji", "mskanji"]⟩,
    ⟨Japanese.eucJp, "euc_jp", ["eucjp", "u_jis", "ujis"]⟩,
    ⟨Japanese.eucJisx0213 .revised, "euc_jis_2004", ["euc_jis2004", "eucjis2004", "jisx0213"]⟩,
    ⟨Japanese.eucJisx0213 .first, "euc_jisx0213", ["eucjisx0213"]⟩,
    ⟨Japanese.shiftJis, "shift_jis", ["csshiftjis", "s_jis", "shiftjis", "sjis",
      "x_mac_japanese"]⟩,
    ⟨Japanese.shiftJisx0213 .revised, "shift_jis_2004", ["s_jis_2004", "shiftjis2004",
      "sjis_2004"]⟩,
    ⟨Japanese.shiftJisx0213 .first, "shift_jisx0213", ["s_jisx0213", "shiftjisx0213",
      "sjisx0213"]⟩,
    ⟨Switched.decoder Switched.iso2022Jp, "iso2022_jp", ["csiso2022jp", "iso2022jp",
      "iso_2022_jp"]⟩,
    ⟨Switched.decoder Switched.iso2022Jp1, "iso2022_jp_1", ["iso2022jp_1", "iso_2022_jp_1"]⟩,
    ⟨Switched.decoder Switched.iso2022Jp2, "iso2022_jp_2", ["iso2022jp_2", "iso_2022_jp_2"]⟩,
    ⟨Switched.decoder (Switched.iso2022Jisx0213 .revised), "iso2022_jp_2004",
      ["iso2022jp_2004", "iso_2022_jp_2004"]⟩,
    ⟨Switched.decoder (Switched.iso2022Jisx0213 .first), "iso2022_jp_3",
      ["iso2022jp_3", "iso_2022_jp_3"]⟩,
    ⟨Switched.decoder Switched.iso2022JpExt, "iso2022_jp_ext",
      ["iso2022jp_ext", "iso_2022_jp_ext"]⟩]

/-- The Korean encodings. -/
def korean : List Encoding :=
  [⟨Korean.eucKr, "euc_kr", ["euckr", "korean", "ks_c_5601", "ks_c_5601_1987", "ks_x_1001",
      "ksc5601", "ksx1001", "x_mac_korean"]⟩,
    ⟨Korean.cp949, "cp949", ["949", "ms949", "uhc"]⟩,
    ⟨Korean.johab, "johab", ["cp1361", "ms1361"]⟩,
    ⟨Switched.decoder Switched.iso2022Kr, "iso2022_kr", ["csiso2022kr", "iso2022kr",
      "iso_2022_kr"]⟩]

/-- All code pages. -/
def pages : List CodePage :=
  standardPages ++ typographicPages ++ terminalPages ++ macPages ++ nationalPages ++ mainframePages

/-- All encodings. -/
def all : List Encoding :=
  simple ++ universal ++
    pages.map (fun p => ⟨.ofCharacters p.decode?, p.name, p.otherNames⟩) ++
    chinese ++ japanese ++ korean

/-- Whether a character is part of a name: a letter or digit of ASCII, or a point. -/
def isNamePart (c : Char) : Bool :=
  c.isAlphanum || c = '.'

/-- The normal form of the characters of a name. `afterPart` says whether a part of the
    name stands in front of them, and `apart` whether something else stands in between. -/
def normalCharacters (afterPart apart : Bool) : List Char → List Char
  | [] => []
  | c :: cs =>
    if isNamePart c then
      let c := c.toLower
      if afterPart && apart then '_' :: c :: normalCharacters true false cs
      else c :: normalCharacters true false cs
    else normalCharacters afterPart true cs

/-- The normal form of a name. -/
def normalName (name : String) : String :=
  String.ofList (normalCharacters false false name.toList)

/-- The encoding that goes by a name, if there is one. -/
def named? (name : String) : Option Encoding :=
  let name := normalName name
  let other := String.ofList (name.toList.map fun c => if c = '.' then '_' else c)
  all.find? fun e => e.otherNames.contains name || e.otherNames.contains other || e.name = name

end Encoding

end Text

end Attest
