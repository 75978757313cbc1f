import StagedAnalysis.Encoding.Decoding

/-!
# UTF-8

The first byte of a character says how many bytes follow it and between which bounds the first of
those lies; this keeps out surrogates, overlong forms and what lies beyond Unicode. A defect covers
the longest start of a character that stands there.
-/

namespace StagedAnalysis.Encoding

/-- What a first byte promises. -/
structure Lead where
  /-- The bits that it gives to the character. -/
  bits : Nat
  /-- How many bytes follow. -/
  tail : Nat
  /-- The bounds of the first of them. -/
  low : Nat
  high : Nat
  deriving DecidableEq, Repr

def lead? (b : Nat) : Option Lead :=
  if b < 0x80 then some ⟨b, 0, 0x80, 0xBF⟩
  else if b < 0xC2 then none
  else if b < 0xE0 then some ⟨b - 0xC0, 1, 0x80, 0xBF⟩
  else if b = 0xE0 then some ⟨0, 2, 0xA0, 0xBF⟩
  else if b = 0xED then some ⟨0xD, 2, 0x80, 0x9F⟩
  else if b < 0xF0 then some ⟨b - 0xE0, 2, 0x80, 0xBF⟩
  else if b = 0xF0 then some ⟨0, 3, 0x90, 0xBF⟩
  else if b < 0xF4 then some ⟨b - 0xF0, 3, 0x80, 0xBF⟩
  else if b = 0xF4 then some ⟨4, 3, 0x80, 0x8F⟩
  else none

def isContinuation (b : UInt8) : Bool := 0x80 ≤ b.toNat && b.toNat ≤ 0xBF

/-- The bytes that keep the promise, as far as they go. -/
def Lead.followers (l : Lead) (bs : List UInt8) : List UInt8 :=
  match bs.take l.tail with
  | [] => []
  | b :: bs => if l.low ≤ b.toNat ∧ b.toNat ≤ l.high then b :: bs.takeWhile isContinuation else []

def readUtf8 : Reader := fun b bs =>
  match lead? b.toNat with
  | none => .error ⟨1, .invalidStart⟩
  | some l =>
    let found := l.followers bs
    if found.length = l.tail then
      .ok (Char.ofNat (found.foldl (fun n b => n * 0x40 + b.toNat % 0x40) l.bits), l.tail)
    else if found.length < bs.length then .error ⟨found.length + 1, .invalidContinuation⟩
    else .error ⟨found.length + 1, .endOfData⟩

def decodeUtf8 (bs : List UInt8) : Except DecodeError (List Char) :=
  decodeFrom "utf-8" readUtf8 0 bs

/-- The bytes of the byte order mark. -/
def utf8Mark : List UInt8 := [0xEF, 0xBB, 0xBF]

end StagedAnalysis.Encoding
