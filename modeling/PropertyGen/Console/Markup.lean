import PropertyGen.Console.Emoji

/-!
Markup: text with tags in brackets, which give the text between them a style. A backslash in
front of a tag makes it plain text, and two backslashes there are one. `escape` writes a text so
that it has no tags, `plain` reads what is left of a text without its tags.
-/

namespace PropertyGen.Console

def beginsTag (character : Char) : Bool :=
  ('a' ≤ character && character ≤ 'z') || "#/@".toList.contains character

def tagBody (text : List Char) : List Char :=
  text.takeWhile fun character => character ≠ '[' && character ≠ ']'

def tag? : List Char → Option (List Char)
  | '[' :: first :: rest =>
      if beginsTag first && (rest.drop (tagBody rest).length).head? = some ']' then
        some ('[' :: first :: tagBody rest ++ [']'])
      else none
  | _ => none

inductive Markup where
  | plain (text : List Char)
  /-- A tag with its brackets and the backslashes in front of it. -/
  | tag (backslashes : Nat) (text : List Char)
deriving DecidableEq, Repr

namespace Markup

def cons (character : Char) : List Markup → List Markup
  | .plain text :: rest => .plain (character :: text) :: rest
  | pieces => .plain [character] :: pieces

def leadingBackslashes (text : List Char) : Nat := (text.takeWhile (· = '\\')).length

def pieces : List Char → List Markup
  | [] => []
  | character :: rest =>
      let count := leadingBackslashes (character :: rest)
      match tag? ((character :: rest).drop count) with
      | some text => .tag count text :: pieces (rest.drop (count + text.length - 1))
      | none => cons character (pieces rest)
termination_by text => text.length
decreasing_by all_goals simp; try omega

end Markup

def backslashes (count : Nat) : List Char := List.replicate count '\\'

def escapePiece : Markup → List Char
  | .plain text => text
  | .tag count text => backslashes (2 * count + 1) ++ text

/-- Whether a text ends in exactly one backslash. -/
def endsInBackslash (text : List Char) : Bool :=
  text.getLast? = some '\\' && text.dropLast.getLast? ≠ some '\\'

/-- Writes a text without tags. A backslash at its end would escape what comes after it. -/
def escape (text : List Char) : List Char :=
  let escaped := (Markup.pieces text).flatMap escapePiece
  if endsInBackslash escaped then escaped ++ ['\\'] else escaped

def unescaped : List Char → List Char
  | [] => []
  | '\\' :: '[' :: rest => '[' :: unescaped rest
  | character :: rest => character :: unescaped rest

def plainPiece : Markup → List Char
  | .plain text => replaceEmoji (unescaped text)
  | .tag count text =>
      backslashes (count / 2) ++ if count % 2 = 1 then replaceEmoji text else []

/-- The text without its tags. A text without brackets has nothing to unescape. -/
def plain (markup : List Char) : List Char :=
  if markup.contains '[' then (Markup.pieces markup).flatMap plainPiece else replaceEmoji markup

def styled (style : String) (text : String) : List Char :=
  "[".toList ++ style.toList ++ "]".toList ++ escape text.toList
    ++ "[/".toList ++ style.toList ++ "]".toList

end PropertyGen.Console
