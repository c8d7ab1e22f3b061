import PropertyGen.Reports.Note
import PropertyGen.Text.Blank
import PropertyGen.Xml.Document

/-!
The summary of a documentation comment: the text of its first element named `summary`, or else
of its first element, on one line.
-/

namespace PropertyGen.Documentation

open PropertyGen.Xml

structure Tag where
  name : List Char
  attributes : List Attribute
deriving Repr

/-- A name without a prefix is plain unless the tag sets a default namespace. -/
def Tag.isSummary (tag : Tag) : Bool :=
  tag.name = "summary".toList
    && !tag.attributes.any fun given =>
      given.name = declaringPrefix && !given.value.isEmpty

/-- The text up to the end of the element that is open at a depth, and the outermost elements
after it with their texts. -/
def outline : Nat → List Token → List Char × List (Tag × List Char)
  | _, [] => ([], [])
  | 0, .opening name attributes true :: rest =>
      ([], ({ name, attributes }, []) :: (outline 0 rest).2)
  | 0, .opening name attributes false :: rest =>
      let (text, elements) := outline 1 rest
      ([], ({ name, attributes }, text) :: elements)
  | 0, .closing _ :: _ => ([], [])
  | 0, _ :: rest => outline 0 rest
  | depth + 1, .text characters :: rest =>
      let (text, elements) := outline (depth + 1) rest
      (characters ++ text, elements)
  | depth + 1, .opening _ _ true :: rest => outline (depth + 1) rest
  | depth + 1, .opening _ _ false :: rest => outline (depth + 2) rest
  | depth + 1, .closing _ :: rest => outline depth rest
  | depth + 1, .aside :: rest => outline (depth + 1) rest

def summaryOf? (elements : List (Tag × List Char)) : Option (List Char) :=
  match elements.find? fun element => element.1.isSummary with
  | some element => some element.2
  | none => (elements.head?).map (·.2)

def wrapper : List Char := "member".toList

def wrapped (documentation : List Char) : List Char :=
  '<' :: wrapper ++ '>' :: documentation ++ '<' :: '/' :: wrapper ++ ['>']

def read (documentation : List Char) : Except DocumentFault (List Token) :=
  (tokens (wrapped documentation)).map (List.drop 1)

def nonEmpty? (text : List Char) : Option (List Char) := if text.isEmpty then none else some text

def summaryChars? (documentation : List Char) : Option (List Char) :=
  if documentation.all Text.isBlank then none
  else match read documentation with
    | .error _ => none
    | .ok tokens => do
        let text ← summaryOf? (outline 0 tokens).2
        nonEmpty? (Text.squeezeChars text)

/-- The summary of a comment; none if the comment is blank or ill-formed or the summary empty. -/
def summary? (documentation : Option String) : Option String := do
  let text ← documentation
  let summary ← summaryChars? text.toList
  pure (String.ofList summary)

def summaryNotes (documentation : Option String) : List Note :=
  match documentation with
  | none => []
  | some text =>
      let characters := text.toList
      if characters.all Text.isBlank then []
      else match read characters with
        | .error fault => [.malformedComment (fault.text (wrapped characters))]
        | .ok _ => []

end PropertyGen.Documentation
