/-!
Character classes given by ranges of code points.
-/

namespace PropertyGen.Text

def within (ranges : List (Nat × Nat)) (character : Char) : Bool :=
  ranges.any fun range => range.1 ≤ character.toNat && character.toNat ≤ range.2

end PropertyGen.Text
