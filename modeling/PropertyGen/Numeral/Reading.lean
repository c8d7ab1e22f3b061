import PropertyGen.Text.Blank

/-!
Reading whole numbers. Digits of every script count; one underscore may stand between two
digits; blanks around the number and a sign in front are allowed.
-/

namespace PropertyGen.Numeral

/-- The zeros of the decimal digits of Unicode 14; each is followed by one to nine. -/
def decimalZeros : List Nat :=
  [48, 1632, 1776, 1984, 2406, 2534, 2662, 2790, 2918, 3046, 3174, 3302, 3430, 3558, 3664, 3792,
   3872, 4160, 4240, 6112, 6160, 6470, 6608, 6784, 6800, 6992, 7088, 7232, 7248, 42528, 43216,
   43264, 43472, 43504, 43600, 44016, 65296, 66720, 68912, 69734, 69872, 69942, 70096, 70384,
   70736, 70864, 71248, 71360, 71472, 71904, 72016, 72784, 73040, 73120, 92768, 92864, 93008,
   120782, 120792, 120802, 120812, 120822, 123200, 123632, 125264, 130032]

def decimalDigit? (character : Char) : Option Nat :=
  decimalZeros.findSome? fun first =>
    if first ≤ character.toNat ∧ character.toNat < first + 10 then some (character.toNat - first)
    else none

def digit? (character : Char) : Option Nat :=
  if 'a' ≤ character ∧ character ≤ 'z' then some (character.toNat - 87)
  else if 'A' ≤ character ∧ character ≤ 'Z' then some (character.toNat - 55)
  else decimalDigit? character

def isDigit (base : Nat) (character : Char) : Bool := (digit? character).any (· < base)

/-- Blanks around a number. The ASCII separators 1C to 1F are not among them. -/
def isBlankAround (character : Char) : Bool :=
  Text.isBlank character && !(0x1C ≤ character.toNat && character.toNat ≤ 0x1F)

inductive Unreadable where
  | malformed
  | tooLong (digits : Nat)
deriving DecidableEq, Repr

/-- Numbers that are not written in a power of two may not have more digits. -/
def digitLimit : Nat := 4300

def wellSpaced : List Char → Bool
  | [] => false
  | ['_'] => false
  | [_] => true
  | '_' :: _ :: _ => false
  | _ :: '_' :: rest => wellSpaced rest
  | _ :: next :: rest => wellSpaced (next :: rest)

def value (base : Nat) (digits : List Char) : Nat :=
  digits.foldl (fun total character => total * base + (digit? character).getD 0) 0

def readNat (base : Nat) (text : List Char) : Except Unreadable Nat :=
  let belongs := fun character => character = '_' || isDigit base character
  let run := text.takeWhile belongs
  let digits := run.filter (· ≠ '_')
  if !wellSpaced run then .error .malformed
  else if base = 10 ∧ digits.length > digitLimit then .error (.tooLong digits.length)
  else if (text.dropWhile belongs).all isBlankAround then .ok (value base digits)
  else .error .malformed

def readInt (base : Nat) (text : List Char) : Except Unreadable Int :=
  match text.dropWhile isBlankAround with
  | '-' :: rest => (readNat base rest).map fun magnitude => -(magnitude : Int)
  | '+' :: rest => (readNat base rest).map fun magnitude => (magnitude : Int)
  | rest => (readNat base rest).map fun magnitude => (magnitude : Int)

end PropertyGen.Numeral
