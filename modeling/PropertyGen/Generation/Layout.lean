import PropertyGen.Text.Points

/-!
Laying out source text: lines, and blocks of lines between braces, indented by depth.
-/

namespace PropertyGen

inductive Layout where
  | line (text : Points)
  | block (header : Points) (body : List Layout)
deriving Repr

namespace Layout

def indentation (depth : Nat) : Points := List.replicate (4 * depth) (.character ' ')

/-- A line at a depth. Empty lines are not indented. -/
def indented (depth : Nat) (text : Points) : Points :=
  if text = [] then [] else indentation depth ++ text

mutual

def lines (depth : Nat) : Layout → List Points
  | .line text => [indented depth text]
  | .block header body =>
      indented depth header :: indented depth "\x7b" :: linesOf (depth + 1) body
        ++ [indented depth "\x7d"]

def linesOf (depth : Nat) : List Layout → List Points
  | [] => []
  | first :: rest => first.lines depth ++ linesOf depth rest

end

/-- The text of a layout; every line ends with a line break. -/
def text (layout : List Layout) : Points :=
  (Points.ofText "\n").intercalate (linesOf 0 layout) ++ "\n"

end Layout

end PropertyGen
