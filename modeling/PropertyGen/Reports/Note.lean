import PropertyGen.Reports.Diagnostic

/-!
Notes on progress, which only a log shows.
-/

namespace PropertyGen

inductive LogLevel where
  | debug
  | info
  | warning
  | error
deriving DecidableEq, Repr

def LogLevel.name : LogLevel → String
  | .debug => "DEBUG"
  | .info => "INFO"
  | .warning => "WARNING"
  | .error => "ERROR"

def LogLevel.rank : LogLevel → Nat
  | .debug => 0
  | .info => 1
  | .warning => 2
  | .error => 3

def Severity.logLevel : Severity → LogLevel
  | .info => .info
  | .warning => .warning
  | .error => .error

inductive Note where
  | unresolvedBase (base type : String)
  /-- The candidates are listed as often as they are imported. -/
  | ambiguousName (name : String) (candidates : List String)
  | circularConstant (constant : String)
  | malformedComment (reason : String)
  | skippedField (reason field : String)
  | skippedName (field : String)
  | resolvedFields (count : Nat)
  | conflictingAlias (name type : String)
  | unusableName (type field : String) (name : Points)
  | skippedNested (type : String)
  | generatedFragment (key : String) (properties : Nat)
  | generatedSources (sources trees : Nat)
  | failedType (type : String)
deriving DecidableEq, Repr

def Note.level : Note → LogLevel
  | .generatedFragment .. | .generatedSources .. => .info
  | .failedType _ => .error
  | _ => .debug

def Note.text : Note → String
  | .unresolvedBase base type => "Unresolved base type " ++ base ++ " of " ++ type
  | .ambiguousName name candidates =>
      "Ambiguous reference " ++ name ++ " between " ++ Text.quoteList candidates
        ++ "; using the first"
  | .circularConstant constant => "Circular constant " ++ constant
  | .malformedComment reason => "Ignoring malformed documentation comment: " ++ reason
  | .skippedField reason field => "Skipping " ++ reason ++ " field " ++ field
  | .skippedName field => "Skipping " ++ field ++ ": PropertyName does not fold to a string"
  | .resolvedFields count => "Resolved " ++ toString count ++ " annotated field(s)"
  | .conflictingAlias name type => "Conflicting alias " ++ name ++ " in parts of " ++ type
  | .unusableName type field name =>
      "No property generated for " ++ type ++ "." ++ field ++ ": derived name " ++ Text.quotePoints name
        ++ " is unusable"
  | .skippedNested type => "Skipping nested type " ++ type
  | .generatedFragment key properties =>
      "Generated " ++ key ++ " (" ++ toString properties ++ " properties)"
  | .generatedSources sources trees =>
      "Generated " ++ toString sources ++ " source(s) from " ++ toString trees ++ " syntax tree(s)"
  | .failedType type => "Error generating properties for " ++ type

end PropertyGen
