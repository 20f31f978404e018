/-
  Intake.Charset.Basic — the character encodings a file can be in, their names, and how a file in
  each of them gets to the server.

  The server takes many encodings as they are, each under a name of its own. A file in any other
  is sent as UTF-8, so what is declared always describes the bytes that are sent.
-/

namespace Intake

/-- The encodings that map each byte on its own. -/
inductive SingleByte where
  | ibm866 | iso8859_2 | iso8859_3 | iso8859_4 | iso8859_5 | iso8859_6 | iso8859_7 | iso8859_8
  | iso8859_8i | iso8859_10 | iso8859_13 | iso8859_14 | iso8859_15 | iso8859_16 | koi8r | koi8u
  | macRoman | windows874 | windows1250 | windows1251 | windows1252 | windows1253 | windows1254
  | windows1255 | windows1256 | windows1257 | windows1258 | macCyrillic
  deriving DecidableEq, Repr

inductive Charset where
  | utf8
  | utf16le
  | utf16be
  | single (bytes : SingleByte)
  | shiftJis
  | eucJp
  | iso2022Jp
  | eucKr
  | gbk
  | gb18030
  | big5
  /-- Encodings that are unsafe to read: one malformed sequence stands for the whole text. -/
  | replacement
  | userDefined
  deriving DecidableEq, Repr

namespace SingleByte

def name : SingleByte → String
  | ibm866 => "IBM866"
  | iso8859_2 => "ISO-8859-2"
  | iso8859_3 => "ISO-8859-3"
  | iso8859_4 => "ISO-8859-4"
  | iso8859_5 => "ISO-8859-5"
  | iso8859_6 => "ISO-8859-6"
  | iso8859_7 => "ISO-8859-7"
  | iso8859_8 => "ISO-8859-8"
  | iso8859_8i => "ISO-8859-8-I"
  | iso8859_10 => "ISO-8859-10"
  | iso8859_13 => "ISO-8859-13"
  | iso8859_14 => "ISO-8859-14"
  | iso8859_15 => "ISO-8859-15"
  | iso8859_16 => "ISO-8859-16"
  | koi8r => "KOI8-R"
  | koi8u => "KOI8-U"
  | macRoman => "macintosh"
  | windows874 => "windows-874"
  | windows1250 => "windows-1250"
  | windows1251 => "windows-1251"
  | windows1252 => "windows-1252"
  | windows1253 => "windows-1253"
  | windows1254 => "windows-1254"
  | windows1255 => "windows-1255"
  | windows1256 => "windows-1256"
  | windows1257 => "windows-1257"
  | windows1258 => "windows-1258"
  | macCyrillic => "x-mac-cyrillic"

def serverName? : SingleByte → Option String
  | ibm866 => "WIN866"
  | iso8859_2 => "LATIN2"
  | iso8859_3 => "LATIN3"
  | iso8859_4 => "LATIN4"
  | iso8859_5 => "ISO_8859_5"
  | iso8859_6 => "ISO_8859_6"
  | iso8859_7 => "ISO_8859_7"
  | iso8859_8 => "ISO_8859_8"
  | iso8859_8i => none
  | iso8859_10 => "LATIN6"
  | iso8859_13 => "LATIN7"
  | iso8859_14 => "LATIN8"
  | iso8859_15 => "LATIN9"
  | iso8859_16 => "LATIN10"
  | koi8r => "KOI8R"
  | koi8u => "KOI8U"
  | macRoman => none
  | windows874 => "WIN874"
  | windows1250 => "WIN1250"
  | windows1251 => "WIN1251"
  | windows1252 => "WIN1252"
  | windows1253 => "WIN1253"
  | windows1254 => "WIN1254"
  | windows1255 => "WIN1255"
  | windows1256 => "WIN1256"
  | windows1257 => "WIN1257"
  | windows1258 => "WIN1258"
  | macCyrillic => none

end SingleByte

namespace Charset

def name : Charset → String
  | utf8 => "UTF-8"
  | utf16le => "UTF-16LE"
  | utf16be => "UTF-16BE"
  | single s => s.name
  | shiftJis => "Shift_JIS"
  | eucJp => "EUC-JP"
  | iso2022Jp => "ISO-2022-JP"
  | eucKr => "EUC-KR"
  | gbk => "GBK"
  | gb18030 => "gb18030"
  | big5 => "Big5"
  | replacement => "replacement"
  | userDefined => "x-user-defined"

/-- The name the server knows the encoding by, if it takes it. `eucKr` has all characters of the
    server's extended form. -/
def serverName? : Charset → Option String
  | utf8 => "UTF8"
  | utf16le => none
  | utf16be => none
  | single s => s.serverName?
  | shiftJis => "SJIS"
  | eucJp => "EUC_JP"
  | iso2022Jp => none
  | eucKr => "UHC"
  | gbk => "GBK"
  | gb18030 => "GB18030"
  | big5 => "BIG5"
  | replacement => none
  | userDefined => none

/-- How a file gets to the server: what it is in, what is sent, and what is declared. -/
structure Transfer where
  source : Charset
  sent : Charset
  declared : String
  deriving DecidableEq, Repr

def transfer (source : Charset) : Transfer :=
  match source.serverName? with
  | some declared => ⟨source, source, declared⟩
  | none => ⟨source, utf8, "UTF8"⟩

def Transfer.transcodes (t : Transfer) : Bool := t.source ≠ t.sent

end Charset

end Intake
