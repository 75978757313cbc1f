import StagedAnalysis.Encoding.Codec
import StagedAnalysis.FileTree
import StagedAnalysis.Settings

/-!
# Reading files

A file is opened and then decoded. What can be wrong with the file itself makes it unreadable, and
the caller goes on without its text; a fault ends everything.

The registry of codecs is not part of this. Assumed of it: the codecs of `Encoding.Codec` go by
their names there; any other name is found or is a fault; and a codec that is found decodes a file,
tells which bytes are no characters, or refuses the file with a message, which is a fault. A text
has no halves of surrogate pairs, and bytes at hand are not refused.
-/

namespace StagedAnalysis

/-! ## The registry -/

/-- The codecs of a system. -/
structure Registry where
  /-- What is found under a name that is none of `Encoding.Codec`. -/
  other : String → Except Fault Encoding.Decoder

/-- The registry without other codecs. -/
def Registry.builtIn : Registry := ⟨fun name => .error (.unknownEncoding name)⟩

def Registry.decoder (codecs : Registry) (name : String) : Except Fault Encoding.Decoder :=
  match Encoding.Codec.ofName? name with
  | some c => .ok c.decoder
  | none => codecs.other name

section
variable {codecs : Registry} {name : String}

theorem Registry.decoder_of_builtIn {c : Encoding.Codec}
    (h : Encoding.Codec.ofName? name = some c) : codecs.decoder name = .ok c.decoder := by
  rw [decoder, h]

theorem Registry.decoder_of_other (h : Encoding.Codec.ofName? name = none) :
    codecs.decoder name = codecs.other name := by
  rw [decoder, h]

end

/-! ## Files -/

/-- Why there is no text. -/
inductive Unreadable where
  | unopened (e : OpenError) (path : Path)
  | undecodable (message : String)
  deriving DecidableEq, Repr

def Unreadable.message : Unreadable → String
  | unopened e path => e.message path
  | undecodable message => message

/-- The text of a file that has been opened. -/
def decodeFile (codecs : Registry) (encoding : String) (content : Bytes) :
    Except Fault (Except Unreadable String) :=
  match codecs.decoder encoding with
  | .error f => .error f
  | .ok d =>
    match d.readText content with
    | .ok s => .ok (.ok s)
    | .error (.undecodable message) => .ok (.error (.undecodable message))
    | .error (.refused message) => .error (.refused message)

/-- Opens and decodes a file. It is opened before its encoding is looked up. -/
def readFile (codecs : Registry) (opener : Path → Except OpenError Bytes)
    (file encoding : String) : Except Fault (Except Unreadable String) :=
  let path := Path.ofString file
  if hasNul encoding then .error .nulInEncoding
  else if hasNul file then .error .nulForSystem
  else match opener path with
    | .error e => .ok (.error (.unopened e path))
    | .ok content => decodeFile codecs encoding content

end StagedAnalysis
