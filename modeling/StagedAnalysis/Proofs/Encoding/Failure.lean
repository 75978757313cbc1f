import StagedAnalysis.Encoding.Codec
import StagedAnalysis.Proofs.Text.SingleLine

/-!
# Failures of decoding

A decoding that fails names the encoding that it read in, whatever the bytes are, and so its message
is one line. A file can fail in one way more: in UTF-16 it needs a byte order mark.

* `encoding_of_decodeFrom`, `Codec.encoding_of_decode`: the encoding that an error names.
* `Codec.singleLine_message`: what is said of bytes is one line.
* `Decoder.readText_eq_error_iff`, `Codec.singleLine_of_decodeFile`,
  `Codec.decodeFile_eq_refused_iff`: the failures of a file.
-/

namespace StagedAnalysis.Encoding

open Text (SingleLine singleLine_append singleLine_toString_nat)

/-! ## Messages -/

theorem encoding_of_decodeFrom {encoding : String} {read : Reader} {position : Nat}
    {bs : List UInt8} {e : DecodeError} (h : decodeFrom encoding read position bs = .error e) :
    e.encoding = encoding := by
  fun_induction decodeFrom encoding read position bs with
  | case1 => cases h
  | case2 position b bs defect hd =>
    cases h
    rfl
  | case3 position b bs c n hr e' he ih =>
    cases h
    exact ih he
  | case4 => cases h

/-- The encodings that errors name. -/
def errorEncodings : List String := ["utf-8", "ascii", "charmap", "utf-16-le", "utf-16-be"]

theorem Codec.encoding_of_decode {c : Codec} {bs : List UInt8} {e : DecodeError}
    (h : c.decode bs = .error e) : e.encoding ∈ errorEncodings := by
  have horder (o : ByteOrder) {position : Nat} {bs : List UInt8}
      (h : decodeUtf16 o position bs = .error e) : e.encoding ∈ errorEncodings := by
    rw [encoding_of_decodeFrom h]
    cases o <;> decide
  cases c with
  | utf8 | utf8Signed | ascii | windows1252 =>
    rw [encoding_of_decodeFrom h]
    decide
  | latin1 => cases h
  | utf16 =>
    rw [decode] at h
    split at h
    · exact horder _ h
    · exact horder _ h
  | utf16Ordered o => exact horder o h

theorem singleLine_hexByte (b : UInt8) : SingleLine (hexByte b) := by
  refine singleLine_append.2 ⟨by decide, ?_⟩
  rw [SingleLine, String.toList_ofList]
  exact Text.newline_not_mem_hex 2 b.toNat

theorem DecodeError.singleLine_message {e : DecodeError} (h : SingleLine e.encoding) :
    SingleLine e.message := by
  have hreason : SingleLine e.defect.reason.text := by cases e.defect.reason <;> decide
  have hwhere : SingleLine (if e.defect.count = 1 then
        "byte " ++ hexByte e.byte ++ " in position " ++ toString e.position
      else "bytes in position " ++ toString e.position ++ "-" ++
        toString (e.position + e.defect.count - 1)) := by
    split
    · simp only [singleLine_append, singleLine_hexByte, singleLine_toString_nat]
      decide
    · simp only [singleLine_append, singleLine_toString_nat]
      decide
  simp only [message, singleLine_append]
  exact ⟨⟨⟨⟨⟨by decide, h⟩, by decide⟩, hwhere⟩, by decide⟩, hreason⟩

/-- What a codec says of bytes that it cannot decode is one line. -/
theorem Codec.singleLine_message {c : Codec} {bs : List UInt8} {e : DecodeError}
    (h : c.decode bs = .error e) : SingleLine e.message := by
  refine DecodeError.singleLine_message ?_
  have hall : ∀ encoding ∈ errorEncodings, SingleLine encoding := by decide
  exact hall _ (encoding_of_decode h)

/-! ## Files -/

section
variable {c : Codec} {bs : List UInt8}

theorem Codec.decode_utf16_of_no_mark (h : ByteOrder.ofMark? bs = none) :
    Codec.utf16.decode bs = decodeUtf16 .little 0 bs := by
  rw [Codec.decode, h]

/-- The mark of a file in UTF-16 is missed once its bytes have been decoded; no other file is
refused. -/
theorem Codec.decodeFile_eq_refused_iff {message : String} :
    c.decodeFile bs = .error (.refused message) ↔ message = markMissing ∧ c = .utf16 ∧
      2 ≤ bs.length ∧ ByteOrder.ofMark? bs = none ∧ ∃ cs, decodeUtf16 .little 0 bs = .ok cs := by
  unfold Codec.decodeFile
  constructor
  · intro h
    split at h
    · cases h
    · split at h
      · cases h
      · next cs hcs =>
        split at h
        · next hmark =>
          obtain ⟨rfl, hlen, hno⟩ := hmark
          cases h
          exact ⟨rfl, rfl, hlen, hno, cs, Codec.decode_utf16_of_no_mark hno ▸ hcs⟩
        · cases h
  · rintro ⟨rfl, rfl, hlen, hno, cs, hcs⟩
    rw [if_neg (by simp), Codec.decode_utf16_of_no_mark hno, hcs]
    exact if_pos ⟨rfl, hlen, hno⟩

theorem Codec.singleLine_of_decodeFile {message : String}
    (h : c.decodeFile bs = .error (.undecodable message)) : SingleLine message := by
  unfold Codec.decodeFile at h
  split at h
  · cases h
  · split at h
    · next he =>
      cases h
      exact Codec.singleLine_message he
    · split at h <;> cases h

theorem Decoder.readText_eq_error_iff {d : Decoder} {f : FileFault} :
    d.readText bs = .error f ↔ d.decodeFile bs = .error f := by
  unfold readText
  cases d.decodeFile bs <;> simp [Except.map]

end

end StagedAnalysis.Encoding
