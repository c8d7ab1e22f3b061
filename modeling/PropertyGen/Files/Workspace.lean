import PropertyGen.Files.Path
import PropertyGen.Text.Utf8

/-!
A workspace: folders and documents, each known by the names that lead to it from the root of all
files, and the folder in which a reader stands.
-/

namespace PropertyGen

structure Workspace where
  here : List String
  folders : List (List String)
  documents : List (List String × List UInt8)
deriving Repr

inductive Place where
  | folder (names : List String)
  | document (names : List String) (bytes : List UInt8)
  | missing
  /-- A document stands where the path asks for a folder. -/
  | blocked
  | tooLong
deriving Repr

namespace Workspace

def bare (here : List String) : Workspace := { here, folders := [], documents := [] }

/-- A folder is there if it was made or if something lies below it, the reader included. -/
def isFolder (workspace : Workspace) (names : List String) : Bool :=
  names.isPrefixOf workspace.here || workspace.folders.any names.isPrefixOf
    || workspace.documents.any fun entry => names.isPrefixOf entry.1 && names ≠ entry.1

def document? (workspace : Workspace) (names : List String) : Option (List UInt8) :=
  (workspace.documents.find? fun entry => entry.1 = names).map (·.2)

def nameLimit : Nat := 255

def pathLimit : Nat := 4095

def follow (workspace : Workspace) (folder : List String) : List String → Place
  | [] => .folder folder
  | name :: rest =>
      if name = ".." then workspace.follow folder.dropLast rest
      else if name.utf8ByteSize > nameLimit then .tooLong
      else if workspace.isFolder (folder ++ [name]) then workspace.follow (folder ++ [name]) rest
      else match workspace.document? (folder ++ [name]) with
        | none => .missing
        | some bytes => if rest.isEmpty then .document (folder ++ [name]) bytes else .blocked

def start (workspace : Workspace) (path : Path) : List String :=
  if path.root = "" then workspace.here else []

def place (workspace : Workspace) (path : Path) : Place :=
  if path.holdsNull then .missing
  else if path.text.utf8ByteSize > pathLimit then .tooLong
  else workspace.follow (workspace.start path) path.names

def locate (workspace : Workspace) (path : Path) : List String :=
  path.names.foldl Path.step (workspace.start path)

def below? : List String → List String → Option (List String)
  | [], rest => some rest
  | _ :: _, [] => none
  | name :: names, first :: rest => if name = first then below? names rest else none

def documentsBelow (workspace : Workspace) (folder : List String) : List (List String) :=
  workspace.documents.filterMap fun entry => below? folder entry.1

def addFolder (workspace : Workspace) (names : List String) : Workspace :=
  { workspace with folders := workspace.folders ++ [names] }

/-- Puts a document in place of the one that is there, or else at the end. -/
def putDocument (workspace : Workspace) (names : List String) (bytes : List UInt8) : Workspace :=
  let documents := workspace.documents
  if documents.any fun entry => entry.1 = names then
    { workspace with
      documents := documents.map fun entry => if entry.1 = names then (names, bytes) else entry }
  else { workspace with documents := documents ++ [(names, bytes)] }

/-- Makes the folders on the way from a folder that are not there yet, up to the first that cannot
be made: what becomes of the workspace, and whether all are there. -/
def makeFrom (workspace : Workspace) (folder : List String) : List String → Workspace × Bool
  | [] => (workspace, true)
  | name :: rest =>
      if name = ".." then workspace.makeFrom folder.dropLast rest
      else if name.utf8ByteSize > nameLimit then (workspace, false)
      else
        let next := folder ++ [name]
        if workspace.isFolder next then workspace.makeFrom next rest
        else if (workspace.document? next).isSome then (workspace, false)
        else (workspace.addFolder next).makeFrom next rest

def makeFolder (workspace : Workspace) (path : Path) : Workspace × Bool :=
  if path.holdsNull || path.text.utf8ByteSize > pathLimit then (workspace, false)
  else workspace.makeFrom (workspace.start path) path.names

def write (workspace : Workspace) (path : Path) (text : String) : Option Workspace :=
  match workspace.place path, path.names.getLast? with
  | .document names _, _ => some (workspace.putDocument names (Text.Utf8.encode text))
  | .missing, some name =>
      match workspace.place { path with names := path.names.dropLast } with
      | .folder names =>
          if path.holdsNull then none
          else some (workspace.putDocument (names ++ [name]) (Text.Utf8.encode text))
      | _ => none
  | _, _ => none

def addedSince (workspace before : Workspace) : List (List String × List UInt8) :=
  workspace.documents.filter fun entry => (before.document? entry.1).isNone

def changedSince (workspace before : Workspace) : List (List String × List UInt8) :=
  workspace.documents.filter fun entry => before.document? entry.1 ≠ some entry.2

end Workspace

end PropertyGen
