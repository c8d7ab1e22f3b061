import PropertyGen.Files.Language
import PropertyGen.Files.Workspace
import PropertyGen.Generation.Run

/-!
Sources from a workspace: folders stand for the supported documents below them, other paths for
themselves.
-/

namespace PropertyGen

abbrev Parser := List UInt8 → Node

namespace Workspace

variable (workspace : Workspace)

/-- The supported documents below a folder that a path leads to, in the order of their names. -/
def expand (path : Path) (folder : List String) : List Path :=
  let paths := (workspace.documentsBelow folder).map fun names =>
    { path with names := path.names ++ names : Path }
  (paths.filter Path.isSupported).mergeSort Path.precedes

def collectPath (path : Path) : Except Fault (List Path) :=
  match workspace.place path with
  | .folder folder => .ok (workspace.expand path folder)
  | .tooLong => .error (.fileNameTooLong path.text)
  | _ => .ok [path]

def collect (paths : List Path) : Except Fault (List Path) := do
  let collected ← paths.mapM workspace.collectPath
  pure collected.flatten

/-- Reads the source at a path. The language is settled before the file is looked for. -/
def readSource (parse : Parser) (path : Path) : Except Fault Source := do
  let _ ← Language.ofPath path
  if path.holdsNull then .error .nullInPath
  else match workspace.place path with
    | .document _ bytes => .ok { path := path.text, bytes, root := parse bytes }
    | .folder _ => .error (.isADirectory path.text)
    | .missing => .error (.fileNotFound path.text)
    | .blocked => .error (.notADirectory path.text)
    | .tooLong => .error (.fileNameTooLong path.text)

def readSources (parse : Parser) (paths : List Path) : Except Fault (List Source) := do
  let collected ← workspace.collect paths
  collected.mapM (workspace.readSource parse)

def generate (parse : Parser) (renderer : Renderer) (paths : List Path) (options : Options) :
    Logged GenerationResult := do
  let sources ← Logged.ofExcept (workspace.readSources parse paths)
  generateWith renderer sources options

end Workspace

end PropertyGen
