import PropertyGen.Console.Markup
import PropertyGen.Reports.Logged

/-!
What a console shows: lines of text, rows of a table, and the log.
-/

namespace PropertyGen.Console

def isDropped (character : Char) : Bool := [7, 8, 11, 12, 13].contains character.toNat

def tabWidth : Nat := 8

/-- A tab reaches to the next column that is a multiple of the tab width. -/
def expandTabs (column : Nat) : List Char → List Char
  | [] => []
  | character :: rest =>
      if character = '\n' then '\n' :: expandTabs 0 rest
      else if character = '\t' then
        let width := tabWidth - column % tabWidth
        List.replicate width ' ' ++ expandTabs (column + width) rest
      else character :: expandTabs (column + 1) rest

def shown (text : List Char) : List Char :=
  expandTabs 0 (text.filter fun character => !isDropped character)

def shownLines (text : List Char) : List String :=
  (Text.piecesAt '\n' (shown text)).map String.ofList

inductive Printed where
  | line (text : String)
  | row (cells : List String)
deriving DecidableEq, Repr

def printMarkup (markup : List Char) : List Printed := (shownLines (plain markup)).map .line

def printStyled (style text : String) : List Printed := printMarkup (styled style text)

def printText (text : String) : List Printed :=
  (Text.piecesAt '\n' text.toList).dropLast.map fun line => .line (String.ofList line)

def printRow (cells : List (List Char)) : List Printed :=
  let columns := cells.map fun cell => shownLines (plain cell)
  (List.range ((columns.map List.length).foldl max 1)).map fun index =>
    .row (columns.map fun lines => Text.trim (lines[index]?.getD ""))

def severityStyle : Severity → String
  | .info => "blue"
  | .warning => "yellow"
  | .error => "red"

def printDiagnostic (diagnostic : Diagnostic) : List Printed :=
  printStyled (severityStyle diagnostic.severity) diagnostic.text

def levelWidth : Nat := 8

def logLines (level : LogLevel) (text : String) : List Printed :=
  let label := level.name ++ String.ofList (List.replicate (levelWidth - level.name.length) ' ')
  let blank := String.ofList (List.replicate levelWidth ' ')
  match shownLines text.toList with
  | [] => []
  | first :: more =>
      .line (label ++ " " ++ first) :: more.map fun line => .line (blank ++ " " ++ line)

def logEvents (least : LogLevel) (events : List Event) : List Printed :=
  events.flatMap fun event =>
    let (level, text) := match event with
      | .note note => (note.level, note.text)
      | .report diagnostic => (diagnostic.severity.logLevel, diagnostic.text)
    if least.rank ≤ level.rank then logLines level text else []

end PropertyGen.Console
