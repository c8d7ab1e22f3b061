import PropertyGen.Text.Lowercase
import PropertyGen.Text.Points

/-!
The name of a property, derived from the name of its field.
-/

namespace PropertyGen.Names

def capitalized : List Char → List Char
  | [] => []
  | first :: rest => Text.upperAscii first :: rest

/-- An identifier less its leading underscores, capitalized. -/
def derivedName (identifier : String) : String :=
  String.ofList (capitalized (identifier.toList.dropWhile (· = '_')))

def propertyName (identifier : String) (override : Option Points) : Points :=
  match override with
  | some name => name
  | none => derivedName identifier

end PropertyGen.Names
