import PropertyGen.Text.Points

/-!
Values of constant expressions. An expression that is not constant has no value; `null` is a
value.
-/

namespace PropertyGen

inductive Value where
  | null
  | boolean (value : Bool)
  | integer (value : Int)
  | text (value : Points)
deriving DecidableEq, Repr

abbrev Folding := Option Value

/-- The sign rule: only integers have a negation. -/
def Folding.negated : Folding → Folding
  | some (.integer value) => some (.integer (-value))
  | _ => none

def Folding.joined : Folding → Folding → Folding
  | some (.text left), some (.text right) => some (.text (left ++ right))
  | _, _ => none

/-- The text that stands for what was folded; `null` has none. -/
def Folding.display? : Folding → Option Points
  | none => some (Points.ofText "NOT_CONSTANT")
  | some .null => none
  | some (.boolean true) => some (Points.ofText "True")
  | some (.boolean false) => some (Points.ofText "False")
  | some (.integer value) => some (Points.ofText (toString value))
  | some (.text value) => some value

end PropertyGen
