import StagedAnalysis.Reading

/-!
# Samples and uploads

Samples are the program files of one directory; one that cannot be decoded is left out. An upload
is admitted by its name alone, and then decoded whatever it holds: where the chosen encoding is not
known or fails, every byte stands for the character of its number.

The library of controls is not part of this. Assumed of its file box: it takes the upload of a name
that ends, in any case, in one of the allowed extensions, and turns away any other, and first of all
one with a NUL, with the message of `Upload.BadName`.
-/

namespace StagedAnalysis.Workbench

/-! ## Samples -/

structure Sample where
  name : String
  text : String
  deriving DecidableEq, Repr

/-- The suffixes of program files, in any case. -/
def sampleSuffixes : List String := [".mc", ".c", ".txt"]

def isSampleName (name : String) : Bool :=
  sampleSuffixes.contains (String.ofList ((suffix name).toList.map Char.toLower))

/-- The program files that stand in the directory itself, by name. -/
def sampleFiles (t : FileTree) : List (String × Bytes) :=
  let files := t.files.filterMap fun (parts, content) =>
    match parts with
    | [name] => if isSampleName name then some (name, content) else none
    | _ => none
  files.mergeSort fun a b => decide (a.1 ≤ b.1)

/-- Reads the samples of a directory that may not exist. -/
def readSamples (codecs : Registry) (encoding : String) :
    Option FileTree → Except Fault (List Sample)
  | none => .ok []
  | some t => do
    let samples ← (sampleFiles t).mapM fun (name, content) => do
      match ← decodeFile codecs encoding content with
      | .ok text => return some ⟨name, text⟩
      | .error _ => return none
    return samples.filterMap id

/-! ## Uploads -/

structure Upload where
  name : String
  content : Bytes
  deriving DecidableEq, Repr

namespace Upload

/-- What tells one upload from another. -/
def signature (u : Upload) : String × Nat := (u.name, u.content.length)

def text (codecs : Registry) (encoding : String) (u : Upload) : String :=
  let decoded? := (codecs.decoder encoding).toOption.bind fun d => d.decode u.content
  String.ofList (decoded?.getD (Encoding.decodeLatin1 u.content))

/-! ## Names of uploads -/

/-- What the name of an upload ends in, in any case; it may be no more than that. -/
def endings : List String := [".mc", ".txt", ".c", ".cpp", ".java"]

/-- Why the name of an upload is turned away. -/
inductive BadName where
  | nul
  | extension (found : String)
  deriving DecidableEq, Repr

def BadName.message : BadName → String
  | nul => "Filename cannot contain null bytes."
  | extension found =>
    "Invalid file extension: `" ++ found ++ "`. Allowed: [" ++
      ", ".intercalate (endings.map Text.quoted) ++ "]"

def hasEnding (name : String) : Bool :=
  endings.any fun e => e.toList.isSuffixOf (name.toList.map Char.toLower)

/-- What is wrong with the name of an upload. -/
def badName? (u : Upload) : Option BadName :=
  if hasNul u.name then some .nul
  else if hasEnding u.name then none
  else some (.extension (extension u.name))

end Upload

end StagedAnalysis.Workbench
