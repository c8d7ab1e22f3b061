import PropertyGen.Text.Pieces

/-!
Paths: names between slashes, perhaps from the root of all files. Doubled slashes and the name
`.` mean nothing; the name `..` is kept.
-/

namespace PropertyGen

structure Path where
  /-- One or two slashes, or nothing for a path that begins where the reader stands. -/
  root : String
  names : List String
deriving DecidableEq, Repr

namespace Path

/-- Two slashes in front are another root than one; more than two are one. -/
def rootOf (text : List Char) : String :=
  match (text.takeWhile (· = '/')).length with
  | 0 => ""
  | 2 => "//"
  | _ => "/"

def ofText (text : String) : Path :=
  { root := rootOf text.toList
    names := ((Text.piecesAt '/' text.toList).map String.ofList).filter fun name =>
      name ≠ "" && name ≠ "." }

def text (path : Path) : String :=
  if path.root = "" && path.names.isEmpty then "." else path.root ++ "/".intercalate path.names

/-- One path below another; a path from the root stands for itself. -/
def join (path below : Path) : Path :=
  if below.root = "" then { path with names := path.names ++ below.names } else below

/-- The last name from its last point on. A point at either end of the name does not count. -/
def suffixOf (name : List Char) : List Char :=
  let stem := Text.beforeLast '.' name
  let ending := Text.afterLast '.' name
  if stem.isEmpty || ending.isEmpty then [] else '.' :: ending

def suffix (path : Path) : String := String.ofList (suffixOf ((path.names.getLast?.getD "").toList))

def precedes (first second : Path) : Bool :=
  !second.names.lex first.names fun name other =>
    name.toList.lex other.toList fun character another => character.toNat.blt another.toNat

/-- One name further from a folder. The root of all files is the folder above itself. -/
def step (folder : List String) (name : String) : List String :=
  if name = ".." then folder.dropLast else folder ++ [name]

def holdsNull (path : Path) : Bool := path.text.toList.contains '\x00'

end Path

end PropertyGen
