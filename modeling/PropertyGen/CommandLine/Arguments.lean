import PropertyGen.Files.Path
import PropertyGen.Settings
import PropertyGen.Text.Pieces

/-!
Reading the arguments of the command line: options of the program, the name of a command, and
the options and paths of that command.
-/

namespace PropertyGen.CommandLine

inductive Switch where
  | help
  | verbose
  | folder
  | qualifiedKeys
  | simpleKeys
  | reference
deriving DecidableEq, Repr

def Switch.takesValue : Switch → Bool
  | .folder | .reference => true
  | _ => false

structure Grammar where
  long : List (String × Switch)
  short : List (Char × Switch)
  /-- Whether options may follow other arguments. -/
  isMixed : Bool

def Grammar.program : Grammar :=
  { long := [("--verbose", .verbose), ("--help", .help)]
    short := [('v', .verbose), ('h', .help)]
    isMixed := false }

def Grammar.generate : Grammar :=
  { long := [("--out", .folder), ("--qualified-keys", .qualifiedKeys),
      ("--simple-keys", .simpleKeys), ("--reference", .reference), ("--help", .help)]
    short := [('h', .help)]
    isMixed := true }

def Grammar.fields : Grammar :=
  { long := [("--help", .help)]
    short := [('h', .help)]
    isMixed := true }

structure Setting where
  switch : Switch
  value : String
deriving DecidableEq, Repr

inductive Shape where
  | plain
  | ending
  | settings (settings : List Setting)
  /-- An option whose value is the next argument. -/
  | open (switch : Switch)
  | unknown
deriving DecidableEq, Repr

namespace Grammar

def long? (grammar : Grammar) (name : String) : Option Switch :=
  (grammar.long.find? fun option => option.1 = name).map (·.2)

def short? (grammar : Grammar) (letter : Char) : Option Switch :=
  (grammar.short.find? fun option => option.1 = letter).map (·.2)

def readLetters (grammar : Grammar) (letters : List Char) : Shape :=
  match letters.mapM grammar.short? with
  | some switches => .settings (switches.map fun switch => { switch, value := "" })
  | none => .unknown

/-- An argument that begins with a dash and is longer than that. A value may follow an equals
sign. -/
def readOption (grammar : Grammar) (characters : List Char) : Shape :=
  let name := String.ofList (Text.beforeFirst '=' characters)
  match grammar.long? name with
  | some switch =>
      if characters.contains '=' then
        if switch.takesValue then
          .settings [{ switch, value := String.ofList (Text.afterFirst '=' characters) }]
        else .unknown
      else if switch.takesValue then .open switch
      else .settings [{ switch, value := "" }]
  | none =>
      if characters.take 2 = ['-', '-'] then .unknown else grammar.readLetters (characters.drop 1)

def shape (grammar : Grammar) (argument : String) : Shape :=
  let characters := argument.toList
  if argument = "--" then .ending
  else if characters.head? = some '-' && characters.length > 1 then grammar.readOption characters
  else .plain

end Grammar

structure Parsed where
  settings : List Setting
  plain : List String
deriving DecidableEq, Repr

namespace Parsed

def addSettings (settings : List Setting) (parsed : Parsed) : Parsed :=
  { parsed with settings := settings ++ parsed.settings }

def addPlain (argument : String) (parsed : Parsed) : Parsed :=
  { parsed with plain := argument :: parsed.plain }

def has (parsed : Parsed) (switch : Switch) : Bool :=
  parsed.settings.any fun setting => setting.switch = switch

def values (parsed : Parsed) (switch : Switch) : List String :=
  (parsed.settings.filter fun setting => setting.switch = switch).map (·.value)

end Parsed

/-- Takes arguments apart; nothing if one of them is unknown or lacks its value. -/
def parse (grammar : Grammar) : List String → Option Parsed
  | [] => some { settings := [], plain := [] }
  | argument :: rest =>
      match grammar.shape argument, rest with
      | .plain, rest =>
          if grammar.isMixed then (parse grammar rest).map (·.addPlain argument)
          else some { settings := [], plain := argument :: rest }
      | .ending, rest => some { settings := [], plain := rest }
      | .settings settings, rest => (parse grammar rest).map (·.addSettings settings)
      | .open switch, value :: more => (parse grammar more).map (·.addSettings [{ switch, value }])
      | .open _, [] => none
      | .unknown, _ => none

inductive Command where
  | generate (paths : List Path) (folder? : Option Path) (overrides : Options.Overrides)
  | fields (paths : List Path)
deriving DecidableEq, Repr

def Command.paths : Command → List Path
  | .generate paths folder? _ => folder?.toList ++ paths
  | .fields paths => paths

inductive Request where
  | misuse
  | help
  | run (isVerbose : Bool) (command : Command)
deriving DecidableEq, Repr

/-- Of the two options for keys, the last one counts. -/
def qualifiedKeys? (parsed : Parsed) : Option Bool :=
  (parsed.settings.filterMap fun setting =>
    match setting.switch with
    | .qualifiedKeys => some true
    | .simpleKeys => some false
    | _ => none).getLast?

/-- Without any reference, the references of the environment count. -/
def references? (parsed : Parsed) : Option (List String) :=
  let references := parsed.values .reference
  if references.isEmpty then none else some references

def generateCommand (parsed : Parsed) : Command :=
  .generate (parsed.plain.map Path.ofText) ((parsed.values .folder).getLast?.map Path.ofText)
    { qualifiedKeys? := qualifiedKeys? parsed, extraReferences? := references? parsed }

def fieldsCommand (parsed : Parsed) : Command := .fields (parsed.plain.map Path.ofText)

def requestOf (isVerbose : Bool) (grammar : Grammar) (command : Parsed → Command)
    (arguments : List String) : Request :=
  match parse grammar arguments with
  | none => .misuse
  | some parsed =>
      if parsed.has .help then .help
      else if parsed.plain.isEmpty then .misuse
      else .run isVerbose (command parsed)

def request (arguments : List String) : Request :=
  match parse Grammar.program arguments with
  | none => .misuse
  | some parsed =>
      let isVerbose := parsed.has .verbose
      if parsed.has .help then .help
      else match parsed.plain with
        | "generate" :: rest => requestOf isVerbose Grammar.generate generateCommand rest
        | "fields" :: rest => requestOf isVerbose Grammar.fields fieldsCommand rest
        | _ => .misuse

end PropertyGen.CommandLine
