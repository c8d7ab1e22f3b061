import PropertyGen.Console.EmojiTable
import PropertyGen.Text.Blank
import PropertyGen.Text.Lowercase
import PropertyGen.Text.Pieces

/-!
Emoji by name: a name between two colons stands for its picture. The name may end by asking for
the picture as text or in colour.
-/

namespace PropertyGen.Console

def hexValue (character : Char) : Nat :=
  if character.isDigit then character.toNat - 48 else character.toNat - 55

def readHex (digits : List Char) : Nat :=
  digits.foldl (fun total digit => total * 16 + hexValue digit) 0

def picture (codes : List Char) : List Char :=
  (Text.piecesAt '-' codes).map fun code => Char.ofNat (readHex code)

def entryPicture? (name entry : List Char) : Option (List Char) :=
  if Text.beforeLast '=' entry = name then some (picture (Text.afterLast '=' entry)) else none

def emoji? (name : List Char) : Option (List Char) :=
  let lowered := (Text.lower (String.ofList name)).toList
  (Text.words emojiNames.toList).findSome? (entryPicture? lowered)

/-- A name without its ending, and the character that the ending puts after the picture. -/
def splitVariant (code : List Char) : List Char × List Char :=
  match Text.dropSuffix? "-emoji".toList code with
  | some name => (name, ['\uFE0F'])
  | none =>
      match Text.dropSuffix? "-text".toList code with
      | some name => (name, ['\uFE0E'])
      | none => (code, [])

def decodeEmoji (code : List Char) : List Char :=
  let (name, variant) := splitVariant code
  match emoji? name with
  | some picture => picture ++ variant
  | none => ':' :: code ++ [':']

def code (text : List Char) : List Char :=
  text.takeWhile fun character => character ≠ ':' && !Text.isBlank character

/-- Replaces the codes of a text from left to right. A colon belongs to one code at most. -/
def replaceEmoji : List Char → List Char
  | [] => []
  | ':' :: rest =>
      match _ : rest.drop (code rest).length with
      | ':' :: after => decodeEmoji (code rest) ++ replaceEmoji after
      | _ => ':' :: replaceEmoji rest
  | character :: rest => character :: replaceEmoji rest
termination_by text => text.length
decreasing_by
  · have shorter := congrArg List.length ‹rest.drop _ = _›
    simp only [List.length_drop, List.length_cons] at shorter ⊢
    omega
  · simp
  · simp

end PropertyGen.Console
