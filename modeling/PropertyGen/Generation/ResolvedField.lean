import PropertyGen.Generation.Candidate
import PropertyGen.Generation.Marker
import PropertyGen.Program.FieldSymbol
import PropertyGen.Reports.Templates

/-!
Resolved fields: the declared fields whose attributes bind to the marker and that can back a
property. Each marked field gets one verdict, and the verdict says what is reported.
-/

namespace PropertyGen

structure ResolvedField where
  identifier : String
  declaredType : String
  containing : TypeSymbol
  /-- The name argument of the marker, if it is given, as it folds. -/
  nameArgument? : Option Folding
  documentation? : Option String
  location? : Option Location
  usings : List Using
deriving DecidableEq, Repr

def ResolvedField.override? (field : ResolvedField) : Option Points :=
  field.nameArgument?.bind Folding.display?

def FieldSymbol.markers (field : FieldSymbol) (marker : String) : List AttributeUse :=
  field.attributes.filter fun used => used.type? = some marker

def FieldSymbol.unsupported? (field : FieldSymbol) : Option String :=
  if field.isConst then some "const"
  else if field.isStatic then some "static"
  else if field.isReadonly then some "readonly"
  else none

inductive Verdict where
  | unsupported (reason : String)
  | nonConstantName
  | accepted (field : ResolvedField)
deriving DecidableEq, Repr

namespace Verdict

def isName : Folding → Bool
  | some (.text _) | some .null => true
  | _ => false

def ofField (field : FieldSymbol) (marker : AttributeUse) : Verdict :=
  match field.unsupported? with
  | some reason => .unsupported reason
  | none =>
      let argument? := marker.argument? Marker.nameArgument
      if argument?.all isName then
        .accepted
          { identifier := field.name
            declaredType := field.type
            containing := field.containing
            nameArgument? := argument?
            documentation? := field.documentation?
            location? := some field.location
            usings := field.usings }
      else .nonConstantName

def events (field : FieldSymbol) (marker : AttributeUse) : Verdict → List Event
  | .unsupported reason =>
      [.note (.skippedField reason field.display),
       .report (Templates.unsupportedField.report (some field.location) [field.display, reason])]
  | .nonConstantName =>
      [.note (.skippedName field.display),
       .report (Templates.nonConstantName.report marker.location? [field.display])]
  | .accepted _ => []

def field? : Verdict → Option ResolvedField
  | .accepted field => some field
  | _ => none

end Verdict

/-- A second marker is reported where it stands; only the first one is used. -/
def duplicateEvents (field : FieldSymbol) : List AttributeUse → List Event
  | first :: second :: more =>
      [.report (Templates.duplicateMarker.report second.location?
        [field.display, toString (first :: second :: more).length])]
  | _ => []

/-- The resolved field of a symbol, with what is reported about it. Unmarked fields are passed
over in silence. -/
def FieldSymbol.resolve? (field : FieldSymbol) (marker : String) : Logged (Option ResolvedField) :=
  match field.markers marker with
  | [] => pure none
  | first :: more => do
      let verdict := Verdict.ofField field first
      Logged.emit (duplicateEvents field (first :: more) ++ verdict.events field first)
      pure verdict.field?

namespace Program

def resolveDeclarator? (program : Program) (marker : String) (source : Source) (declarator : Site) :
    Logged (Option ResolvedField) := do
  match ← program.fieldSymbol? source declarator with
  | none => pure none
  | some field => field.resolve? marker

def resolveFields (program : Program) (marker : String) (candidates : List Candidate) :
    Logged (List ResolvedField) := do
  let declarators := candidates.flatMap fun candidate =>
    candidate.declarators.map fun declarator => (candidate.source, declarator)
  let found ← Logged.forEach
    (fun declarator => program.resolveDeclarator? marker declarator.1 declarator.2) declarators
  let fields := found.filterMap id
  Logged.emit [.note (.resolvedFields fields.length)]
  pure fields

end Program

end PropertyGen
