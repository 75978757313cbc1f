import StagedAnalysis.Encoding.Decoding
import StagedAnalysis.Encoding.Utf16
import StagedAnalysis.Encoding.Utf8
import StagedAnalysis.Text.Lines

/-!
# Codecs

A codec is asked for by a name that is compared without regard to case and separators. Reading a
file differs from decoding bytes already at hand: a file in UTF-16 has to start with a byte order
mark, and one in signed UTF-8 may be cut off inside it. Text of a file has its newlines unified.

The codecs written out here are part of any registry; which others there are, and what they do, is
left to it.
-/

namespace StagedAnalysis.Encoding

inductive Codec where
  | utf8
  /-- UTF-8 with a byte order mark that is dropped. -/
  | utf8Signed
  | latin1
  | ascii
  | windows1252
  /-- UTF-16 in the order that its byte order mark shows. -/
  | utf16
  /-- UTF-16 in a given order; a mark is a character of the text. -/
  | utf16Ordered (order : ByteOrder)
  deriving DecidableEq, Repr

/-! ## Names -/

/-- Lower case, with one underscore for every run of separators between what is left. -/
def normalizeName (name : String) : String :=
  let isPart (c : Char) : Bool := c.isAlphanum || c == '.'
  let spaced := name.toList.map fun c => if isPart c then c.toLower else '_'
  let words := (Text.pieces '_' spaced).filter (!·.isEmpty)
  String.ofList (Text.join '_' words)

/-- The name of a codec and the other names that it goes by, in normal form. -/
structure CodecNames where
  codec : Codec
  name : String
  aliases : List String

def codecNames : List CodecNames :=
  [⟨.utf8, "utf_8", ["u8", "utf", "utf8", "utf8_ucs2", "utf8_ucs4", "cp65001"]⟩,
    ⟨.utf8Signed, "utf_8_sig", []⟩,
    ⟨.latin1, "latin_1", ["8859", "cp819", "csisolatin1", "ibm819", "iso8859", "iso8859_1",
      "iso_8859_1", "iso_8859_1_1987", "iso_ir_100", "l1", "latin", "latin1"]⟩,
    ⟨.ascii, "ascii", ["646", "ansi_x3.4_1968", "ansi_x3_4_1968", "ansi_x3.4_1986", "cp367",
      "csascii", "ibm367", "iso646_us", "iso_646.irv_1991", "iso_ir_6", "us", "us_ascii"]⟩,
    ⟨.windows1252, "cp1252", ["1252", "windows_1252"]⟩,
    ⟨.utf16, "utf_16", ["u16", "utf16"]⟩,
    ⟨.utf16Ordered .little, "utf_16_le", ["unicodelittleunmarked", "utf_16le"]⟩,
    ⟨.utf16Ordered .big, "utf_16_be", ["unicodebigunmarked", "utf_16be"]⟩]

/-- In an alias a dot may stand for an underscore. -/
def CodecNames.covers (n : CodecNames) (normal : String) : Bool :=
  let undotted := String.ofList (normal.toList.map fun c => if c = '.' then '_' else c)
  normal == n.name || n.aliases.contains normal || n.aliases.contains undotted

def Codec.ofName? (name : String) : Option Codec :=
  (codecNames.find? (·.covers (normalizeName name))).map (·.codec)

/-! ## Bytes at hand -/

/-- Decodes bytes; where no mark shows an order they are taken as little-endian. -/
def Codec.decode (c : Codec) (bs : List UInt8) : Except DecodeError (List Char) :=
  match c with
  | utf8 => decodeUtf8 bs
  | utf8Signed => decodeUtf8 (if utf8Mark.isPrefixOf bs then bs.drop 3 else bs)
  | latin1 => .ok (decodeLatin1 bs)
  | ascii => decodeAscii bs
  | windows1252 => decodeWindows1252 bs
  | utf16 =>
    match ByteOrder.ofMark? bs with
    | some o => decodeUtf16 o 2 (bs.drop 2)
    | none => decodeUtf16 .little 0 bs
  | utf16Ordered o => decodeUtf16 o 0 bs

/-! ## Files -/

/-- Why a file is not decoded, with what the codec says of it. -/
inductive FileFault where
  /-- Some bytes are no character. -/
  | undecodable (message : String)
  /-- Anything else. -/
  | refused (message : String)
  deriving DecidableEq, Repr

def markMissing : String := "UTF-16 stream does not start with BOM"

/-- Decodes the content of a file. The order of bytes has to be shown as soon as there are two. -/
def Codec.decodeFile (c : Codec) (bs : List UInt8) : Except FileFault (List Char) :=
  if c = utf8Signed ∧ bs.length < 3 ∧ bs.isPrefixOf utf8Mark then .ok []
  else
    match c.decode bs with
    | .error e => .error (.undecodable e.message)
    | .ok cs =>
      if c = utf16 ∧ 2 ≤ bs.length ∧ ByteOrder.ofMark? bs = none then
        .error (.refused markMissing)
      else .ok cs

/-! ## Decoders -/

/-- What a codec makes of the bytes of a file, and of bytes at hand if they are characters. -/
structure Decoder where
  decodeFile : List UInt8 → Except FileFault (List Char)
  decode : List UInt8 → Option (List Char)

def Codec.decoder (c : Codec) : Decoder := ⟨c.decodeFile, fun bs => (c.decode bs).toOption⟩

/-- The text of a file. -/
def Decoder.readText (d : Decoder) (bs : List UInt8) : Except FileFault String :=
  (d.decodeFile bs).map fun cs => String.ofList (Text.unifyNewlines cs)

end StagedAnalysis.Encoding
