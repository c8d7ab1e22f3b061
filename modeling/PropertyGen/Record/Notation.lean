import PropertyGen.Constant.Literal
import PropertyGen.Record.Datum

/-!
Reading data from text: lists in brackets, records in braces, quoted texts, decimal numbers
without an exponent, and the words `true`, `false` and `null`. Spaces may stand between all of
these.
-/

namespace PropertyGen.Notation

def isSpace (character : Char) : Bool :=
  character = ' ' || character = '\t' || character = '\n' || character = '\r'

def skipSpace (text : List Char) : List Char := text.dropWhile isSpace

def escape? : Char → Option Char
  | '"' => some '"'
  | '\\' => some '\\'
  | '/' => some '/'
  | 'b' => some '\x08'
  | 'f' => some '\x0c'
  | 'n' => some '\n'
  | 'r' => some '\r'
  | 't' => some '\t'
  | _ => none

/-- The rest of a quoted text, each escape read by itself. -/
def quotedPoints : List Char → Option (Points × List Char)
  | [] => none
  | '"' :: rest => some ([], rest)
  | '\\' :: 'u' :: first :: second :: third :: fourth :: rest =>
      let digits := [first, second, third, fourth]
      if digits.all Literal.isHex then
        (quotedPoints rest).map fun (points, after) =>
          (.ofNat (Numeral.value 16 digits) :: points, after)
      else none
  | '\\' :: letter :: rest =>
      match escape? letter with
      | some character =>
          (quotedPoints rest).map fun (points, after) => (.character character :: points, after)
      | none => none
  | character :: rest =>
      (quotedPoints rest).map fun (points, after) => (.character character :: points, after)

/-- Two surrogates of which the first is a high one and the second a low one are a character. -/
def joinPairs : Points → Points
  | .surrogate high :: .surrogate low :: rest =>
      if high.val < 0x400 ∧ 0x400 ≤ low.val then
        .character (Char.ofNat (0x10000 + high.val * 0x400 + (low.val - 0x400))) :: joinPairs rest
      else .surrogate high :: joinPairs (.surrogate low :: rest)
  | point :: rest => point :: joinPairs rest
  | [] => []

/-- A quoted text is unreadable if a surrogate is left in it. -/
def quoted (text : List Char) : Option (String × List Char) := do
  let (points, after) ← quotedPoints text
  let content ← (joinPairs points).text?
  pure (content, after)

def digits (text : List Char) : List Char × List Char := text.span (·.isDigit)

def magnitude (sign : Int) (text : List Char) : Option (Datum × List Char) :=
  let (whole, rest) := digits text
  if whole.isEmpty then none
  else match rest with
    | '.' :: more =>
        let (fraction, after) := digits more
        if fraction.isEmpty then none
        else some (.number (sign * Numeral.value 10 (whole ++ fraction)) fraction.length, after)
    | _ => some (.number (sign * Numeral.value 10 whole) 0, rest)

def word (text : List Char) : Option (Datum × List Char) :=
  [("null", Datum.null), ("true", .boolean true), ("false", .boolean false)].findSome? fun entry =>
    (Text.dropPrefix? entry.1.toList text).map fun rest => (entry.2, rest)

mutual

/-- Reads one datum from the front of a text. Every step takes at least one character, so the
length of the text is fuel enough. -/
def value : Nat → List Char → Option (Datum × List Char)
  | 0, _ => none
  | fuel + 1, text =>
      match skipSpace text with
      | '"' :: rest => (quoted rest).map fun (content, after) => (.text content, after)
      | '[' :: rest =>
          match skipSpace rest with
          | ']' :: after => some (.list [], after)
          | _ => (items fuel rest).map fun (items, after) => (.list items, after)
      | '\x7b' :: rest =>
          match skipSpace rest with
          | '\x7d' :: after => some (.record [], after)
          | _ => (members fuel rest).map fun (members, after) => (.record members, after)
      | '-' :: rest => magnitude (-1) rest
      | other => word other <|> magnitude 1 other

def items : Nat → List Char → Option (List Datum × List Char)
  | 0, _ => none
  | fuel + 1, text => do
      let (first, rest) ← value fuel text
      match skipSpace rest with
      | ',' :: more =>
          let (others, after) ← items fuel more
          pure (first :: others, after)
      | ']' :: after => pure ([first], after)
      | _ => none

def members : Nat → List Char → Option (List (String × Datum) × List Char)
  | 0, _ => none
  | fuel + 1, text => do
      let '"' :: rest := skipSpace text | none
      let (name, rest) ← quoted rest
      let ':' :: rest := skipSpace rest | none
      let (first, rest) ← value fuel rest
      match skipSpace rest with
      | ',' :: more =>
          let (others, after) ← members fuel more
          pure ((name, first) :: others, after)
      | '\x7d' :: after => pure ([(name, first)], after)
      | _ => none

end

def read? (text : String) : Option Datum := do
  let characters := text.toList
  let (datum, rest) ← value (2 * characters.length + 2) characters
  if rest.all isSpace then some datum else none

end PropertyGen.Notation
