import ScopeProbe.Text.CodePage

/-!
# Named encodings

Encodings that a document can name.  A name is first brought into its normal form, so that letters
of both cases, hyphens and underscores make no difference.
-/

namespace ScopeProbe

inductive Charset where
  | utf8
  | utf16 (order : Encoding.ByteOrder)
  | latin
  | codePage (page : CodePage)
  deriving DecidableEq, Repr

namespace Charset

def decode : Charset -> Encoding.Octets -> Encoding.Readable Char
  | utf8, octets => Encoding.utf8Prefix Encoding.charOf? octets
  | utf16 order, octets =>
      Encoding.utf16Prefix (Encoding.ofPairedUnits Encoding.charOf?) order octets
  | latin, octets => ⟨Encoding.latin octets, true⟩
  | codePage page, octets => page.read octets

/-!
# Names
-/

def normalize (name : Text) : Text :=
  let parts := Text.parts '_' (name.map fun c => if c = '-' then '_' else c.toLower)
  ['_'].intercalate (parts.filter fun part => !part.isEmpty)

/-- Encodings in which a character takes several octets, or in which the ASCII characters have
other octets than in ASCII. -/
def otherNames : List String :=
  ["big5_hkscs", "big5_tw", "chinese", "cp1361", "cp936", "csbig5", "csibm037", "csibm1026",
   "csibm273", "csibm424", "csibm500", "csibm864", "csiso2022kr", "csiso58gb231280",
   "csshiftjis", "ebcdic_cp_be", "ebcdic_cp_ca", "ebcdic_cp_ch", "ebcdic_cp_he", "ebcdic_cp_nl",
   "ebcdic_cp_us", "ebcdic_cp_wt", "euc_cn", "euc_jis2004", "euccn", "eucgb2312_cn",
   "eucjis2004", "eucjisx0213", "eucjp", "euckr", "gb18030_2000", "gb2312_1980", "gb2312_80",
   "hkscs", "ibm037", "ibm039", "ibm1026", "ibm1140", "ibm273", "ibm424", "ibm500", "ibm864",
   "iso2022kr", "iso_2022_kr", "iso_ir_58", "jisx0213", "korean", "ks_c_5601", "ks_c_5601_1987",
   "ks_x_1001", "ksc5601", "ksx1001", "ms1361", "ms932", "ms936", "ms949", "ms950", "ms_kanji",
   "mskanji", "s_jis", "s_jis_2004", "s_jisx0213", "shiftjis", "shiftjis2004", "shiftjisx0213",
   "sjis", "sjis_2004", "sjisx0213", "u16", "u32", "u7", "u_jis", "uhc", "ujis",
   "unicode_1_1_utf_7", "unicodebigunmarked", "unicodelittleunmarked", "utf16", "utf32", "utf7",
   "utf_16be", "utf_16le", "utf_32be", "utf_32le", "x_mac_japanese", "x_mac_korean",
   "x_mac_simp_chinese", "x_mac_trad_chinese"]

def otherPlainNames : List String :=
  ["big5", "big5hkscs", "cp037", "cp1026", "cp1140", "cp273", "cp424", "cp500", "cp864",
   "cp875", "cp932", "cp949", "cp950", "euc_jis_2004", "euc_jisx0213", "euc_jp", "euc_kr",
   "gb18030", "gb2312", "gbk", "idna", "iso2022_kr", "johab", "mac_arabic", "mac_farsi",
   "punycode", "shift_jis", "shift_jis_2004", "shift_jisx0213", "undefined", "utf_16",
   "utf_16_be", "utf_16_le", "utf_32", "utf_32_be", "utf_32_le", "utf_7"]

/-- Encodings that do not make text out of octets. -/
def textlessNames : List String :=
  ["base64", "base_64", "bz2", "hex", "quopri", "quoted_printable", "quotedprintable", "rot13",
   "uu", "zip", "zlib"]

def textlessPlainNames : List String :=
  ["base64_codec", "bz2_codec", "hex_codec", "quopri_codec", "rot_13", "uu_codec", "zlib_codec"]

inductive Standing where
  | codePage (page : CodePage)
  | other
  /-- An encoding that does not make text out of octets. -/
  | textless
  | unknown

def standing (name : Text) : Standing :=
  let name := normalize name
  match CodePage.ofName? name with
  | some page => .codePage page
  | none =>
      if CodePage.isNamed otherNames otherPlainNames name then .other
      else if CodePage.isNamed textlessNames textlessPlainNames name then .textless
      else .unknown

end Charset
end ScopeProbe
