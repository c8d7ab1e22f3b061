/-!
Cutting texts at a separator.
-/

namespace PropertyGen.Text

def attach (character : Char) : List (List Char) → List (List Char)
  | [] => [[character]]
  | piece :: more => (character :: piece) :: more

/-- The pieces between separators; always at least one. -/
def piecesAt (separator : Char) : List Char → List (List Char)
  | [] => [[]]
  | character :: rest =>
      if character = separator then [] :: piecesAt separator rest
      else attach character (piecesAt separator rest)

def afterLast (separator : Char) (text : List Char) : List Char :=
  (text.reverse.takeWhile (· ≠ separator)).reverse

/-- The part before the last separator: nothing if there is none. -/
def beforeLast (separator : Char) (text : List Char) : List Char :=
  ((text.reverse.dropWhile (· ≠ separator)).drop 1).reverse

def beforeFirst (separator : Char) (text : List Char) : List Char :=
  text.takeWhile (· ≠ separator)

def afterFirst (separator : Char) (text : List Char) : List Char :=
  (text.dropWhile (· ≠ separator)).drop 1

def dropPrefix? : List Char → List Char → Option (List Char)
  | [], text => some text
  | _ :: _, [] => none
  | expected :: more, character :: rest =>
      if expected = character then dropPrefix? more rest else none

def dropSuffix? (ending text : List Char) : Option (List Char) :=
  (dropPrefix? ending.reverse text.reverse).map List.reverse

def replaceChar (character : Char) (text : List Char) (source : List Char) : List Char :=
  source.flatMap fun current => if current = character then text else [current]

end PropertyGen.Text
