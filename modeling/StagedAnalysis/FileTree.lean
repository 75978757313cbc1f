import StagedAnalysis.Log
import StagedAnalysis.Path
import StagedAnalysis.Text.Quoted

/-!
# File trees

The files below a working directory, and the walk along a path that opens one of them. Nothing
outside the working directory is known but that it lies in directories.
-/

namespace StagedAnalysis

abbrev Bytes := List UInt8

/-! ## Failures -/

inductive OpenError where
  | notFound
  | notDirectory
  | isDirectory
  | nameTooLong
  deriving DecidableEq, Repr

namespace OpenError

def all : List OpenError := [notFound, notDirectory, isDirectory, nameTooLong]

def number : OpenError → Nat
  | notFound => 2
  | notDirectory => 20
  | isDirectory => 21
  | nameTooLong => 36

def reason : OpenError → String
  | notFound => "No such file or directory"
  | notDirectory => "Not a directory"
  | isDirectory => "Is a directory"
  | nameTooLong => "File name too long"

def message (e : OpenError) (path : Path) : String :=
  "[Errno " ++ toString e.number ++ "] " ++ e.reason ++ ": " ++ Text.quoted path.toString

end OpenError

/-! ## Trees -/

structure FileTree where
  files : List (List String × Bytes)
  directories : List (List String)

inductive Node where
  | file (content : Bytes)
  | directory

/-- Where a walk has come to. -/
inductive Location where
  | inside (parts : List String)
  | outside

namespace FileTree

/-- The tree of files and directories at these paths, if the system can hold it. -/
def ofPaths (files : List (String × Bytes)) (directories : List String) :
    Except Fault FileTree :=
  if (files.map Prod.fst ++ directories).any hasNul then .error .nulForSystem
  else .ok ⟨files.map fun (path, content) => ((Path.ofString path).parts, content),
    directories.map fun path => (Path.ofString path).parts⟩

/-- What stands at the end of these parts. A directory may be known by what it holds only. -/
def find? (t : FileTree) (parts : List String) : Option Node :=
  match t.files.lookup parts with
  | some content => some (.file content)
  | none =>
    if parts = [] ∨ t.directories.any parts.isPrefixOf ∨ t.files.any (parts.isPrefixOf ·.1) then
      some .directory
    else none

def nodeAt (t : FileTree) : Location → Option Node
  | .inside parts => t.find? parts
  | .outside => some .directory

/-- One part further; a double dot leads up, and above the working directory nothing is named. -/
def next : Location → String → Option Location
  | .inside parts, ".." => some (if parts = [] then .outside else .inside parts.dropLast)
  | .inside parts, part => some (.inside (parts ++ [part]))
  | .outside, ".." => some .outside
  | .outside, _ => none

/-- The longest part, in bytes. -/
def maxPart : Nat := 255

/-- The longest path, in bytes. -/
def maxPath : Nat := 4095

def walk (t : FileTree) (here : Location) : List String → Except OpenError Node
  | [] =>
    match t.nodeAt here with
    | some node => .ok node
    | none => .error .notFound
  | part :: parts =>
    match t.nodeAt here with
    | none => .error .notFound
    | some (.file _) => .error .notDirectory
    | some .directory =>
      if maxPart < part.utf8ByteSize then .error .nameTooLong
      else match next here part with
        | none => .error .notFound
        | some there => walk t there parts

/-- The content of a file. -/
def read (t : FileTree) (path : Path) : Except OpenError Bytes :=
  if maxPath < path.toString.utf8ByteSize then .error .nameTooLong
  else
    match t.walk (if path.root = "" then .inside [] else .outside) path.parts with
    | .error e => .error e
    | .ok (.file content) => .ok content
    | .ok .directory => .error .isDirectory

end FileTree

end StagedAnalysis
