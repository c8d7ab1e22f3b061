import PropertyGen.Text.Points
import PropertyGen.Text.Unprintable

/-!
Texts in quotes, as messages show them: single quotes unless the text holds one and no double
quote; backslashes and the quote escaped; characters without a visible form by their number.
-/

namespace PropertyGen.Text

def hexDigit (value : Nat) : Char :=
  if value < 10 then Char.ofNat (48 + value) else Char.ofNat (87 + value)

def hexDigits : Nat → Nat → List Char
  | 0, _ => []
  | width + 1, value => hexDigits width (value / 16) ++ [hexDigit (value % 16)]

def quoteMark (text : List Char) : Char :=
  if text.contains '\'' && !text.contains '"' then '"' else '\''

def escaped (mark character : Char) : List Char :=
  if character = mark ∨ character = '\\' then ['\\', character]
  else if character = '\t' then ['\\', 't']
  else if character = '\n' then ['\\', 'n']
  else if character = '\r' then ['\\', 'r']
  else if isPrintable character then [character]
  else if character.toNat < 0x100 then '\\' :: 'x' :: hexDigits 2 character.toNat
  else if character.toNat < 0x10000 then '\\' :: 'u' :: hexDigits 4 character.toNat
  else '\\' :: 'U' :: hexDigits 8 character.toNat

def quoteChars (text : List Char) : List Char :=
  let mark := quoteMark text
  mark :: text.flatMap (escaped mark) ++ [mark]

def quote (text : String) : String := String.ofList (quoteChars text.toList)

def escapedPoint (mark : Char) : CodePoint → List Char
  | .character character => escaped mark character
  | .surrogate index => '\\' :: 'u' :: hexDigits 4 (CodePoint.surrogate index).toNat

def quotePoints (points : Points) : String :=
  let mark := quoteMark (points.filterMap CodePoint.char?)
  String.ofList (mark :: points.flatMap (escapedPoint mark) ++ [mark])

def quoteList (texts : List String) : String := "[" ++ ", ".intercalate (texts.map quote) ++ "]"

end PropertyGen.Text
