import PropertyGen.CommandLine.Input
import PropertyGen.CommandLine.Run

/-!
The program: arguments from the command line, documents with their syntax trees from standard
input, and new documents written where they belong.
-/

namespace PropertyGen.CommandLine

open PropertyGen.Console

def usage : List String :=
  ["Usage: propertygen [-v] generate [--out FOLDER] [--qualified-keys | --simple-keys]",
   "                   [--reference NAME[=KIND]]... PATHS...",
   "       propertygen [-v] fields PATHS..."]

partial def readLines (input : IO.FS.Stream) (lines : List String) : IO (List String) := do
  let line ← input.getLine
  if line.isEmpty then pure lines.reverse else readLines input (line :: lines)

def printTo (stream : IO.FS.Stream) (printed : List Printed) : IO Unit :=
  printed.forM fun
    | .line text => stream.putStrLn text
    | .row cells => stream.putStrLn (" | ".intercalate cells)

def writeChanged (names : List String) (bytes : List UInt8) : IO Unit := do
  IO.FS.createDirAll ("/".intercalate ("" :: names.dropLast))
  IO.FS.writeBinFile ("/".intercalate ("" :: names)) (ByteArray.mk bytes.toArray)

def runEntries (entries : List Entry) (arguments : List String) : IO UInt32 := do
  let qualifiedKeys? ← IO.getEnv Options.qualifiedKeysVariable
  let references? ← IO.getEnv Options.referencesVariable
  let here := (← IO.currentDir).toString
  let workspace := workspaceOf (Path.ofText here).names entries
  let outcome := run
    { environment := fun name =>
        if name = Options.qualifiedKeysVariable then qualifiedKeys?
        else if name = Options.referencesVariable then references?
        else none
      workspace
      parse := parserOf entries
      renderer := render }
    arguments
  printTo (← IO.getStdout) outcome.output
  printTo (← IO.getStderr) outcome.errors
  (outcome.workspace.changedSince workspace).forM fun entry => writeChanged entry.1 entry.2
  pure outcome.exitCode.toUInt32

/-- Misuse and help need no input. -/
def start (arguments : List String) : IO UInt32 := do
  match request arguments with
  | .misuse => do
      printTo (← IO.getStderr) (usage.map .line)
      pure 2
  | .help => do
      printTo (← IO.getStdout) (usage.map .line)
      pure 0
  | .run _ _ => do
      match entries? (← readLines (← IO.getStdin) []) with
      | none => do
          (← IO.getStderr).putStrLn "unreadable input"
          pure 2
      | some entries => runEntries entries arguments

end PropertyGen.CommandLine

def main (arguments : List String) : IO UInt32 := PropertyGen.CommandLine.start arguments
