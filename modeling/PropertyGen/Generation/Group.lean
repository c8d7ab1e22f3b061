import PropertyGen.Documentation.Summary
import PropertyGen.Generation.ResolvedField
import PropertyGen.Names.Property

/-!
Groups: the properties to declare for one type, with the using directives of all its parts in
one declaration space. A type whose parts bind one alias to different targets has no group.
-/

namespace PropertyGen

structure PropertySpec where
  name : Points
  backingField : String
  type : String
  summary? : Option String
deriving DecidableEq, Repr

structure TypeGroup where
  containing : TypeSymbol
  members : List PropertySpec
  usings : List Using
deriving DecidableEq, Repr

namespace ResolvedField

def derivedName (field : ResolvedField) : Points :=
  Names.propertyName field.identifier field.override?

def hasUsableName (field : ResolvedField) : Bool :=
  field.derivedName ≠ [] && field.derivedName ≠ field.identifier

def spec? (field : ResolvedField) : Option PropertySpec :=
  if field.hasUsableName then
    some
      { name := field.derivedName
        backingField := field.identifier
        type := field.declaredType
        summary? := Documentation.summary? field.documentation? }
  else none

def specNotes (field : ResolvedField) : List Note :=
  if field.hasUsableName then Documentation.summaryNotes field.documentation?
  else [.unusableName field.containing.display field.identifier field.derivedName]

end ResolvedField

/-- Adds a directive to a declaration space, unless one with its key is there. -/
def mergeUsing (space : List Using) (directive : Using) : List Using :=
  if space.any fun present => present.key = directive.key then space else space ++ [directive]

def conflict? (space : List Using) (directive : Using) : Option Using :=
  (space.find? fun present => present.key = directive.key).filter fun present =>
    present.target ≠ directive.target

/-- The first conflict met while directives are added to a space: the directive that is there
and the one that is added. -/
def firstConflict? (space : List Using) : List Using → Option (Using × Using)
  | [] => none
  | directive :: rest =>
      match conflict? space directive with
      | some present => some (present, directive)
      | none => firstConflict? (mergeUsing space directive) rest

structure Draft where
  containing : TypeSymbol
  members : List PropertySpec
  usings : List Using
  isConflicting : Bool
deriving DecidableEq, Repr

namespace Draft

def ofType (containing : TypeSymbol) : Draft :=
  { containing, members := [], usings := [], isConflicting := false }

def name (draft : Draft) : String := draft.containing.metadataName

def conflictWith? (draft : Draft) (field : ResolvedField) : Option (Using × Using) :=
  if draft.isConflicting then none else firstConflict? draft.usings field.usings

def add (draft : Draft) (field : ResolvedField) : Draft :=
  { draft with
    members := draft.members ++ field.spec?.toList
    usings := field.usings.foldl mergeUsing draft.usings
    isConflicting := draft.isConflicting || (draft.conflictWith? field).isSome }

def conflictEvents (draft : Draft) (field : ResolvedField) : List Event :=
  match draft.conflictWith? field with
  | none => []
  | some (present, added) =>
      let name := added.alias?.getD ""
      [.note (.conflictingAlias name draft.containing.display),
       .report (Templates.conflictingAlias.report field.location?
        [name, present.target, added.target, draft.containing.display])]

def group (draft : Draft) : TypeGroup :=
  { containing := draft.containing, members := draft.members, usings := draft.usings }

end Draft

def draftFor (drafts : List Draft) (field : ResolvedField) : Draft :=
  (drafts.find? fun draft => draft.name = field.containing.metadataName).getD
    (Draft.ofType field.containing)

/-- Adds a field to the draft of its type. Drafts stand in the order of their first fields. -/
def addField : List Draft → ResolvedField → List Draft
  | [], field => [(Draft.ofType field.containing).add field]
  | draft :: rest, field =>
      if draft.name = field.containing.metadataName then draft.add field :: rest
      else draft :: addField rest field

def groupEvents (drafts : List Draft) : List ResolvedField → List Event
  | [] => []
  | field :: rest =>
      (draftFor drafts field).conflictEvents field ++ field.specNotes.map .note
        ++ groupEvents (addField drafts field) rest

/-- The groups of the types without a conflict, in the order of their first fields. -/
def typeGroups (fields : List ResolvedField) : List TypeGroup :=
  ((fields.foldl addField []).filter fun draft => !draft.isConflicting).map Draft.group

def buildGroups (fields : List ResolvedField) : Logged (List TypeGroup) := do
  Logged.emit (groupEvents [] fields)
  pure (typeGroups fields)

end PropertyGen
