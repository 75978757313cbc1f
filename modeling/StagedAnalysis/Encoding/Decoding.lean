/-!
# Decoding

Bytes are decoded character by character. A reader looks at a first byte and what follows, and
either takes a character with some of the following bytes or names the defect that starts here. The
first defect makes the whole decoding fail. The codecs of one byte a character are made from a
reader each that looks at the first byte only.
-/

namespace StagedAnalysis.Encoding

inductive Reason where
  | invalidStart
  | invalidContinuation
  | endOfData
  | notAscii
  | undefined
  | truncated
  | illegalEncoding
  | illegalSurrogate
  deriving DecidableEq, Repr

def Reason.text : Reason → String
  | invalidStart => "invalid start byte"
  | invalidContinuation => "invalid continuation byte"
  | endOfData => "unexpected end of data"
  | notAscii => "ordinal not in range(128)"
  | undefined => "character maps to <undefined>"
  | truncated => "truncated data"
  | illegalEncoding => "illegal encoding"
  | illegalSurrogate => "illegal UTF-16 surrogate"

/-- Bytes that are no character. -/
structure Defect where
  count : Nat
  reason : Reason
  deriving DecidableEq, Repr

structure DecodeError where
  /-- The encoding that the bytes were read in. -/
  encoding : String
  /-- The first byte of the defect. -/
  byte : UInt8
  position : Nat
  defect : Defect
  deriving DecidableEq, Repr

def hexByte (b : UInt8) : String :=
  let digits := Nat.toDigits 16 b.toNat
  "0x" ++ String.ofList (List.replicate (2 - digits.length) '0' ++ digits)

def DecodeError.message (e : DecodeError) : String :=
  "'" ++ e.encoding ++ "' codec can't decode " ++
    (if e.defect.count = 1 then
      "byte " ++ hexByte e.byte ++ " in position " ++ toString e.position
    else
      "bytes in position " ++ toString e.position ++ "-" ++
        toString (e.position + e.defect.count - 1)) ++
    ": " ++ e.defect.reason.text

/-- A character and how many bytes after the first belong to it. -/
abbrev Reader := UInt8 → List UInt8 → Except Defect (Char × Nat)

/-- Decodes bytes the first of which stands at `position`. -/
def decodeFrom (encoding : String) (read : Reader) (position : Nat) :
    List UInt8 → Except DecodeError (List Char)
  | [] => .ok []
  | b :: bs =>
    match read b bs with
    | .error defect => .error ⟨encoding, b, position, defect⟩
    | .ok (c, n) =>
      match decodeFrom encoding read (position + 1 + n) (bs.drop n) with
      | .error e => .error e
      | .ok cs => .ok (c :: cs)
termination_by bytes => bytes.length
decreasing_by simp only [List.length_drop, List.length_cons]; omega

/-! ## One byte a character -/

/-- Latin-1 knows every byte. -/
def decodeLatin1 (bs : List UInt8) : List Char := bs.map fun b => Char.ofNat b.toNat

/-- ASCII knows the lower half. -/
def readAscii : Reader := fun b _ =>
  if b.toNat < 0x80 then .ok (Char.ofNat b.toNat, 0) else .error ⟨1, .notAscii⟩

def decodeAscii (bs : List UInt8) : Except DecodeError (List Char) :=
  decodeFrom "ascii" readAscii 0 bs

/-- What Windows-1252 has from 0x80 on. -/
def windows1252Block : List (Option Nat) :=
  [some 0x20AC, none, some 0x201A, some 0x0192, some 0x201E, some 0x2026, some 0x2020, some 0x2021,
    some 0x02C6, some 0x2030, some 0x0160, some 0x2039, some 0x0152, none, some 0x017D, none,
    none, some 0x2018, some 0x2019, some 0x201C, some 0x201D, some 0x2022, some 0x2013, some 0x2014,
    some 0x02DC, some 0x2122, some 0x0161, some 0x203A, some 0x0153, none, some 0x017E, some 0x0178]

/-- Latin-1 with other characters, or none, where Latin-1 has its second block of controls. -/
def readWindows1252 : Reader := fun b _ =>
  if b.toNat < 0x80 then .ok (Char.ofNat b.toNat, 0)
  else match windows1252Block[b.toNat - 0x80]? with
    | some (some n) => .ok (Char.ofNat n, 0)
    | some none => .error ⟨1, .undefined⟩
    | none => .ok (Char.ofNat b.toNat, 0)

def decodeWindows1252 (bs : List UInt8) : Except DecodeError (List Char) :=
  decodeFrom "charmap" readWindows1252 0 bs

end StagedAnalysis.Encoding
