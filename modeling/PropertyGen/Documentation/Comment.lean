import PropertyGen.Syntax.Source
import PropertyGen.Text.Pieces

/-!
The documentation comment above a declaration: the unbroken run of comments before it that
begin with three slashes, as one text.
-/

namespace PropertyGen.Documentation

def commentLine? (comment : String) : Option (List Char) :=
  Text.dropPrefix? ['/', '/', '/'] (Text.trim comment).toList

/-- The lines of the comments before a declaration, the nearest comment first. -/
def linesAbove (source : Source) : List Node → List (List Char)
  | [] => []
  | sibling :: rest =>
      if sibling.kind = "comment" then
        match commentLine? (source.text sibling) with
        | some line => line :: linesAbove source rest
        | none => []
      else []

def unindented : List Char → List Char
  | ' ' :: rest => rest
  | line => line

def joinLines (lines : List (List Char)) : List Char :=
  ['\n'].intercalate (lines.map unindented)

/-- The documentation of the declaration at a site; none without a documentation comment. -/
def collect? (source : Source) (site : Site) : Option String :=
  match linesAbove source site.earlier with
  | [] => none
  | lines => some (String.ofList (joinLines lines.reverse))

end PropertyGen.Documentation
