import PropertyGen.Fault
import PropertyGen.Text.Pieces
import PropertyGen.Text.Points

/-!
Literals of the language: the text a string or character literal denotes in its regular,
verbatim and raw forms, and the number an integer literal denotes.
-/

namespace PropertyGen.Literal

def isHex (character : Char) : Bool :=
  ('0' ≤ character && character ≤ '9') || ('a' ≤ character && character ≤ 'f')
    || ('A' ≤ character && character ≤ 'F')

def takeHex : Nat → List Char → List Char × List Char
  | 0, text => ([], text)
  | _ + 1, [] => ([], [])
  | limit + 1, character :: rest =>
      if isHex character then
        let (digits, suffix) := takeHex limit rest
        (character :: digits, suffix)
      else ([], character :: rest)

theorem length_takeHex_le (limit : Nat) (text : List Char) :
    (takeHex limit text).2.length ≤ text.length := by
  induction limit generalizing text with
  | zero => simp [takeHex]
  | succ limit induction =>
      match text with
      | [] => simp [takeHex]
      | character :: rest =>
          have shorter := induction rest
          simp only [takeHex]
          split
          · simp
            omega
          · simp

/-- The least and the greatest number of digits after the letter of a numeric escape. -/
def escapeDigits? : Char → Option (Nat × Nat)
  | 'u' => some (4, 4)
  | 'U' => some (8, 8)
  | 'x' => some (1, 4)
  | _ => none

def simpleEscape : Char → Char
  | '0' => '\x00'
  | 'a' => '\x07'
  | 'b' => '\x08'
  | 'e' => '\x1b'
  | 'f' => '\x0c'
  | 'n' => '\n'
  | 'r' => '\r'
  | 't' => '\t'
  | 'v' => '\x0b'
  | character => character

def codePoint (digits : List Char) : Except Fault CodePoint :=
  let code := Numeral.value 16 digits
  if code ≥ 0x80000000 then .error .codePointTooLarge
  else if code ≥ 0x110000 then .error .codePointOutOfRange
  else .ok (.ofNat code)

/-- The code points of the body of a regular literal, each by itself: two surrogates are not
joined. A backslash at the very end is kept, and a numeric escape with too few digits has no
number. -/
def unescape (text : List Char) : Except Fault Points :=
  match text with
  | [] => .ok []
  | ['\\'] => .ok ['\\']
  | '\\' :: letter :: rest =>
      match escapeDigits? letter with
      | none => do
          let points ← unescape rest
          pure (simpleEscape letter :: points)
      | some (least, most) =>
          if (takeHex most rest).1.length < least then .error (.notANumber 16 "")
          else do
            let point ← codePoint (takeHex most rest).1
            let points ← unescape (takeHex most rest).2
            pure (point :: points)
  | character :: rest => do
      let points ← unescape rest
      pure (character :: points)
termination_by text.length
decreasing_by
  all_goals simp only [List.length_cons]
  · omega
  · have shorter := length_takeHex_le most rest
    omega
  · omega

def inner (count : Nat) (text : List Char) : List Char :=
  (text.drop count).take (text.length - 2 * count)

def isLineEnd (character : Char) : Bool := character = '\r' || character = '\n'

def undouble : List Char → List Char
  | '"' :: '"' :: rest => '"' :: undouble rest
  | character :: rest => character :: undouble rest
  | [] => []

def withoutSuffix (text : List Char) : List Char :=
  match text.reverse with
  | '8' :: 'u' :: rest => rest.reverse
  | '8' :: 'U' :: rest => rest.reverse
  | _ => text

def decodeChars (literal : List Char) : Except Fault Points :=
  let text := withoutSuffix literal
  match text with
  | '@' :: '"' :: rest => .ok ((undouble rest.dropLast).map .character)
  | '"' :: '"' :: '"' :: _ =>
      let quotes := (text.takeWhile (· = '"')).length
      let body := (inner quotes text).dropWhile isLineEnd
      .ok ((body.reverse.dropWhile isLineEnd).reverse.map .character)
  | _ => unescape (inner 1 text)

def decode (literal : String) : Except Fault Points := decodeChars literal.toList

def isIntegerSuffix (character : Char) : Bool :=
  character = 'u' || character = 'U' || character = 'l' || character = 'L'

/-- The number an integer literal denotes; nothing if it is not written as one. -/
def integer? (literal : String) : Option Int :=
  let digits :=
    ((literal.toList.reverse.dropWhile isIntegerSuffix).reverse).filter (· ≠ '_')
  let natural := fun base text => (Numeral.readNat base text).toOption.map fun n => (n : Int)
  match digits with
  | '0' :: 'x' :: rest => natural 16 rest
  | '0' :: 'X' :: rest => natural 16 rest
  | '0' :: 'b' :: rest => natural 2 rest
  | '0' :: 'B' :: rest => natural 2 rest
  | _ => (Numeral.readInt 10 digits).toOption

end PropertyGen.Literal
