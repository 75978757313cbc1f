import StagedAnalysis.Text.Lines

/-!
# Paths

A path is a root and the parts below it. Reading one drops empty parts and single dots, so a path
has one written form; a double dot stays, since what it leads to depends on the files. Exactly two
leading slashes are a root of their own.
-/

namespace StagedAnalysis

structure Path where
  /-- The slashes in front: none, one or two. -/
  root : String
  parts : List String
  deriving DecidableEq, Repr

namespace Path

def rootOf : List Char → String
  | '/' :: '/' :: '/' :: _ => "/"
  | '/' :: '/' :: _ => "//"
  | '/' :: _ => "/"
  | _ => ""

def ofString (s : String) : Path where
  root := rootOf s.toList
  parts := ((Text.pieces '/' s.toList).map String.ofList).filter fun p => p != "" && p != "."

/-- The written form; a path without root or parts is a dot. -/
def toString (p : Path) : String :=
  if p.root = "" ∧ p.parts = [] then "." else p.root ++ "/".intercalate p.parts

def child (p : Path) (part : String) : Path := { p with parts := p.parts ++ [part] }

/-- The last part. -/
def name (p : Path) : String := p.parts.getLast?.getD ""

end Path

/-- What stands from the last dot of a file name on; a dot at either end starts no suffix. -/
def suffix (name : String) : String :=
  let rev := name.toList.reverse
  let tail := rev.takeWhile (· != '.')
  if tail.isEmpty || (rev.drop (tail.length + 1)).isEmpty then ""
  else String.ofList ('.' :: tail.reverse)

/-- What stands from the last dot on in the last part of a text with slashes. Dots in front of that
part do not count, and a dot behind it stands alone. -/
def extension (name : String) : String :=
  let part := ((Text.pieces '/' name.toList).getLast?.getD []).dropWhile (· == '.')
  if part.contains '.' then
    String.ofList ('.' :: (part.reverse.takeWhile (· != '.')).reverse)
  else ""

end StagedAnalysis
