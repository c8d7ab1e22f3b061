import PropertyGen.Fault

/-!
Diagnostics: findings about the sources, each with an identifier, a severity and perhaps a
place, and the templates that this library's own diagnostics are made from.
-/

namespace PropertyGen

/-- A place in a source, counted from zero; columns count bytes. -/
structure Location where
  path : String
  line : Nat
  column : Nat
deriving DecidableEq, Repr

def Location.text (location : Location) : String :=
  location.path ++ ":" ++ toString (location.line + 1) ++ ":" ++ toString (location.column + 1)

inductive Severity where
  | info
  | warning
  | error
deriving DecidableEq, Repr

def Severity.name : Severity → String
  | .info => "info"
  | .warning => "warning"
  | .error => "error"

def Severity.all : List Severity := [.info, .warning, .error]

structure Diagnostic where
  id : String
  severity : Severity
  message : String
  path : Option String
  line : Option Int
  column : Option Int
deriving DecidableEq, Repr

/-- A diagnostic on one line. Without a path the line and column are not shown. -/
def Diagnostic.text (diagnostic : Diagnostic) : String :=
  let place := match diagnostic.path with
    | none => ""
    | some path =>
        path ++ ":" ++ toString (diagnostic.line.getD 0 + 1) ++ ":"
          ++ toString (diagnostic.column.getD 0 + 1) ++ ": "
  place ++ diagnostic.severity.name ++ " " ++ diagnostic.id ++ ": " ++ diagnostic.message

inductive Piece where
  | fixed (text : String)
  | hole (index : Nat)
deriving DecidableEq, Repr

structure Template where
  id : String
  severity : Severity
  pieces : List Piece
deriving DecidableEq, Repr

/-- Arguments beyond the last hole are ignored. -/
def fill (arguments : List String) : List Piece → Except Fault String
  | [] => .ok ""
  | .fixed text :: rest => do
      let message ← fill arguments rest
      pure (text ++ message)
  | .hole index :: rest =>
      match arguments[index]? with
      | none => .error (.missingArgument index)
      | some argument => do
          let message ← fill arguments rest
          pure (argument ++ message)

def Template.diagnostic (template : Template) (location : Option Location) (message : String) :
    Diagnostic :=
  { id := template.id
    severity := template.severity
    message
    path := location.map (·.path)
    line := location.map (·.line)
    column := location.map (·.column) }

def Template.create (template : Template) (location : Option Location) (arguments : List String) :
    Except Fault Diagnostic :=
  (fill arguments template.pieces).map (template.diagnostic location)

def fillAll (arguments : List String) (pieces : List Piece) : String :=
  String.join (pieces.map fun
    | .fixed text => text
    | .hole index => arguments[index]?.getD "")

def Template.report (template : Template) (location : Option Location) (arguments : List String) :
    Diagnostic :=
  template.diagnostic location (fillAll arguments template.pieces)

end PropertyGen
