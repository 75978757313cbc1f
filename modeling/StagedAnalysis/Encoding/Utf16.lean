import StagedAnalysis.Encoding.Decoding

/-!
# UTF-16

Two bytes make a unit, in either order. A high surrogate needs a low one after it; a low one
cannot stand alone.
-/

namespace StagedAnalysis.Encoding

inductive ByteOrder where
  | little
  | big
  deriving DecidableEq, Repr

namespace ByteOrder

def unit (o : ByteOrder) (a b : UInt8) : Nat :=
  match o with
  | little => b.toNat * 0x100 + a.toNat
  | big => a.toNat * 0x100 + b.toNat

def encoding : ByteOrder → String
  | little => "utf-16-le"
  | big => "utf-16-be"

/-- The order that a byte order mark at the start shows. -/
def ofMark? : List UInt8 → Option ByteOrder
  | 0xFF :: 0xFE :: _ => some little
  | 0xFE :: 0xFF :: _ => some big
  | _ => none

end ByteOrder

def isHighSurrogate (u : Nat) : Bool := 0xD800 ≤ u && u < 0xDC00

def isLowSurrogate (u : Nat) : Bool := 0xDC00 ≤ u && u < 0xE000

def readUtf16 (o : ByteOrder) : Reader := fun a bs =>
  match bs with
  | [] => .error ⟨1, .truncated⟩
  | b :: bs =>
    let u := o.unit a b
    if isLowSurrogate u then .error ⟨2, .illegalEncoding⟩
    else if isHighSurrogate u then
      match bs with
      | c :: d :: _ =>
        let v := o.unit c d
        if isLowSurrogate v then
          .ok (Char.ofNat (0x10000 + (u - 0xD800) * 0x400 + (v - 0xDC00)), 3)
        else .error ⟨2, .illegalSurrogate⟩
      | _ => .error ⟨2 + bs.length, .endOfData⟩
    else .ok (Char.ofNat u, 1)

/-- Decodes units the first byte of which stands at `position`. -/
def decodeUtf16 (o : ByteOrder) (position : Nat) (bs : List UInt8) :
    Except DecodeError (List Char) := decodeFrom o.encoding (readUtf16 o) position bs

end StagedAnalysis.Encoding
