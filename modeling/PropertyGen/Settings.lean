import PropertyGen.Text.Blank
import PropertyGen.Text.Lowercase
import PropertyGen.Text.Pieces

/-!
The options of a generation run, as the environment and the caller set them.
-/

namespace PropertyGen

structure Options where
  qualifiedKeys : Bool
  extraReferences : List String
deriving DecidableEq, Repr

def Options.standard : Options := { qualifiedKeys := false, extraReferences := [] }

namespace Options

def qualifiedKeysVariable : String := "AUTONOTIFY_QUALIFIED_KEYS"

def referencesVariable : String := "AUTONOTIFY_REFERENCES"

def trueWords : List String := ["1", "true", "yes", "on"]

def isTrueWord (text : String) : Bool := trueWords.contains (Text.lower (Text.trim text))

/-- The entries of a list between commas, without blank ones. -/
def entries (text : String) : List String :=
  ((Text.piecesAt ',' text.toList).map fun piece => String.ofList (Text.trimChars piece)).filter
    (· ≠ "")

def ofEnvironment (environment : String → Option String) : Options :=
  { qualifiedKeys := isTrueWord ((environment qualifiedKeysVariable).getD "")
    extraReferences := entries ((environment referencesVariable).getD "") }

/-- What a caller sets replaces what the environment gives. -/
structure Overrides where
  qualifiedKeys? : Option Bool
  extraReferences? : Option (List String)
deriving DecidableEq, Repr

def Overrides.apply (overrides : Overrides) (options : Options) : Options :=
  { qualifiedKeys := overrides.qualifiedKeys?.getD options.qualifiedKeys
    extraReferences := overrides.extraReferences?.getD options.extraReferences }

def load (environment : String → Option String) (overrides : Overrides) : Options :=
  overrides.apply (ofEnvironment environment)

end Options

end PropertyGen
