import PropertyGen.CommandLine.Arguments
import PropertyGen.Console.Shown
import PropertyGen.Files.Collect

/-!
Running a command over a workspace: what is printed, what is written, and the exit code.
-/

namespace PropertyGen.CommandLine

open PropertyGen.Console

structure Outcome where
  exitCode : Nat
  output : List Printed
  errors : List Printed
  workspace : Workspace

structure Context where
  environment : String → Option String
  workspace : Workspace
  parse : Parser
  renderer : Renderer

/-- Faults in what the user gave; they are told to the user. Others only show in the exit code. -/
def isTold : Fault → Bool
  | .notANumber .. | .tooManyDigits _ | .codePointOutOfRange | .unsupportedLanguage _
  | .unsupportedExtension _ | .fileNotFound _ | .nullInPath | .duplicateSource _
  | .flawedRecord _ => true
  | _ => false

def printFault (fault : Fault) : List Printed :=
  if isTold fault then printStyled "red" fault.message else []

def leastLevel (isVerbose : Bool) : LogLevel := if isVerbose then .debug else .warning

/-- Prints sources until one cannot be encoded: what is printed, and whether all are. -/
def printFragments : List (String × Points) → List Printed × Bool
  | [] => ([], true)
  | (key, points) :: rest =>
      let heading := printText ("// ----- " ++ key ++ "\n")
      match points.text? with
      | none => (heading, false)
      | some text =>
          let (printed, isComplete) := printFragments rest
          (heading ++ printText text ++ printed, isComplete)

@[irreducible]
def targetOf (folder : Path) (key : String) : Path := folder.join (Path.ofText (key ++ ".g.cs"))

def printWritten (target : Path) : List Printed :=
  printMarkup (styled "green" "Wrote" ++ ' ' :: escape target.text.toList)

/-- Writes sources into a folder until one cannot be written: what is printed, what becomes of
the workspace, and whether all are written. -/
def writeFragments (folder : Path) (workspace : Workspace) :
    List (String × Points) → List Printed × Workspace × Bool
  | [] => ([], workspace, true)
  | (key, points) :: rest =>
      let target := targetOf folder key
      -- a document is emptied before its text is encoded
      match workspace.write target (points.text?.getD "") with
      | none => ([], workspace, false)
      | some next =>
          if points.text?.isNone then ([], next, false)
          else
            let (printed, last, isComplete) := writeFragments folder next rest
            (printWritten target ++ printed, last, isComplete)

def deliver (workspace : Workspace) (folder? : Option Path) (result : GenerationResult)
    (log diagnostics : List Printed) : Outcome :=
  let exitCode := if result.hasErrors then 1 else 0
  match folder? with
  | none =>
      let (printed, isComplete) := printFragments result.fragments
      { exitCode := if isComplete then exitCode else 1
        output := log ++ printed
        errors := diagnostics
        workspace }
  | some folder =>
      match workspace.makeFolder folder with
      | (last, false) => { exitCode := 1, output := log, errors := diagnostics, workspace := last }
      | (ready, true) =>
          let (printed, last, isComplete) := writeFragments folder ready result.fragments
          { exitCode := if isComplete then exitCode else 1
            output := log
            errors := diagnostics ++ printed
            workspace := last }

def runGenerate (context : Context) (isVerbose : Bool) (paths : List Path)
    (folder? : Option Path) (overrides : Options.Overrides) : Outcome :=
  let workspace := context.workspace
  let options := Options.load context.environment overrides
  let generated := workspace.generate context.parse context.renderer paths options
  let log := logEvents (leastLevel isVerbose) generated.events
  match generated.outcome with
  | .error fault => { exitCode := 1, output := log, errors := printFault fault, workspace }
  | .ok result =>
      deliver workspace folder? result log (result.diagnostics.flatMap printDiagnostic)

def headings : List String := ["type", "field", "field_type", "property", "location"]

/-- The cells of a field; the property may be skipped. Nothing if its name cannot be encoded. -/
def cellsOf? (field : ResolvedField) : Option (List (List Char)) := do
  let name ← match field.spec? with
    | some spec => (spec.name.text?).map fun name => escape name.toList
    | none => some "(skipped)".toList
  pure
    [escape field.containing.display.toList,
     escape field.identifier.toList,
     escape field.declaredType.toList,
     name,
     escape ((field.location?.map Location.text).getD "").toList]

def printTable? (fields : List ResolvedField) : Option (List Printed) := do
  let rows ← fields.mapM cellsOf?
  pure (.row headings :: rows.flatMap printRow
    ++ printMarkup ("(" ++ toString fields.length ++ " rows)").toList)

/-- The notes among some events. Inspection reports diagnostics, but does not log them. -/
def notesOf (events : List Event) : List Event :=
  events.filter fun event => event.diagnostic?.isNone

def inspect (isVerbose : Bool) (workspace : Workspace) (sources : List Source) (options : Options) :
    Outcome :=
  let found := findFields sources options
  let level := leastLevel isVerbose
  let log := logEvents level (notesOf found.events)
  match found.outcome with
  | .error _ => { exitCode := 1, output := log, errors := [], workspace }
  | .ok fields =>
      let notes := fields.flatMap fun field => field.specNotes.map Event.note
      let table? := printTable? fields
      { exitCode := if table?.isSome then 0 else 1
        output := log ++ logEvents level notes ++ table?.getD []
        errors := found.diagnostics.flatMap printDiagnostic
        workspace }

def runFields (context : Context) (isVerbose : Bool) (paths : List Path) : Outcome :=
  let workspace := context.workspace
  match workspace.readSources context.parse paths with
  | .error fault => { exitCode := 1, output := printFault fault, errors := [], workspace }
  | .ok sources =>
      let overrides := { qualifiedKeys? := none, extraReferences? := none : Options.Overrides }
      inspect isVerbose workspace sources (Options.load context.environment overrides)

def runCommand (context : Context) (isVerbose : Bool) : Command → Outcome
  | .generate paths folder? overrides => runGenerate context isVerbose paths folder? overrides
  | .fields paths => runFields context isVerbose paths

/-- Runs what some arguments ask for. Texts for misuse and help are not part of the outcome. -/
def run (context : Context) (arguments : List String) : Outcome :=
  let silent := fun exitCode =>
    { exitCode, output := [], errors := [], workspace := context.workspace : Outcome }
  match request arguments with
  | .misuse => silent 2
  | .help => silent 0
  | .run isVerbose command =>
      if command.paths.any Path.holdsNull then silent 1
      else runCommand context isVerbose command

end PropertyGen.CommandLine
