import PropertyGen.Text.Pieces

/-!
Type names as code writes them, cut into metadata segments: `Foo<int, T>.Bar` has the
segments `` Foo`2 `` and `Bar`.
-/

namespace PropertyGen.Names

def bracketDepth (depth : Int) (character : Char) : Int :=
  if character = '<' then depth + 1 else if character = '>' then depth - 1 else depth

def dottedPieces (depth : Int) : List Char → List (List Char)
  | [] => [[]]
  | character :: rest =>
      let depth := bracketDepth depth character
      if character = '.' ∧ depth = 0 then [] :: dottedPieces depth rest
      else Text.attach character (dottedPieces depth rest)

/-- The commas that stand outside all angle brackets. -/
def outerCommas (depth : Int) : List Char → Nat
  | [] => 0
  | character :: rest =>
      if character = '<' then outerCommas (depth + 1) rest
      else if character = '>' then outerCommas (depth - 1) rest
      else if character = ',' ∧ depth = 0 then outerCommas depth rest + 1
      else outerCommas depth rest

/-- A piece without a nullable mark at its end and a verbatim mark at its beginning. -/
def unmarked (piece : List Char) : List Char :=
  ((piece.reverse.dropWhile (· = '?')).reverse).dropWhile (· = '@')

/-- One metadata segment. The closing bracket of the type arguments is not counted. -/
def segmentChars (piece : List Char) : List Char :=
  let name := unmarked piece
  if name.contains '<' then
    let arguments := (Text.afterFirst '<' name).dropLast
    Text.beforeFirst '<' name ++ '`' :: (toString (outerCommas 0 arguments + 1)).toList
  else name

def segmentsChars (text : List Char) : List (List Char) :=
  ((dottedPieces 0 text).filter fun piece => !piece.isEmpty).map segmentChars

def segments (text : String) : List String := (segmentsChars text.toList).map String.ofList

end PropertyGen.Names
