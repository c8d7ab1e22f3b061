import PropertyGen.Fault
import PropertyGen.Table
import PropertyGen.Text.Lowercase
import PropertyGen.Text.Pieces

/-!
Data from outside, and reading single values from it. A reader accepts some spellings of a value
besides the plain one; what it refuses, it refuses with a flaw.
-/

namespace PropertyGen

inductive Datum where
  | null
  | boolean (value : Bool)
  /-- A decimal number: its digits, and how many of them stand after the point. -/
  | number (digits : Int) (places : Nat)
  | text (value : String)
  | list (items : List Datum)
  | record (fields : List (String × Datum))
deriving Repr, Inhabited

/-- What a reader makes of a datum: a value, or all that is wrong, in order. -/
abbrev Checked (α : Type) := Except (List Flaw) α

namespace Checked

variable {α β : Type}

def refuse (kind : FlawKind) : Checked α := .error [{ kind, place := [] }]

def flaws : Checked α → List Flaw
  | .ok _ => []
  | .error flaws => flaws

def inside (place : String) (checked : Checked α) : Checked α :=
  checked.mapError fun flaws => flaws.map (Flaw.within [place])

def orFault (checked : Checked α) : Except Fault α := checked.mapError Fault.flawedRecord

end Checked

namespace Datum

def readText : Datum → Checked String
  | .text value => .ok value
  | _ => Checked.refuse .notText

def whole? (digits : Int) (places : Nat) : Option Int :=
  let unit : Int := Nat.pow 10 places
  if digits % unit = 0 then some (digits / unit) else none

def integerPart (text : List Char) : List Char :=
  let isAround := Numeral.isBlankAround
  let trimmed := ((text.dropWhile isAround).reverse.dropWhile isAround).reverse
  let fraction := Text.afterFirst '.' trimmed
  if !fraction.isEmpty && fraction.all (· = '0') then Text.beforeFirst '.' trimmed else trimmed

def integerOf? (text : String) : Option Int :=
  let part := integerPart text.toList
  if part.all fun character => character.isDigit || "+-_".toList.contains character then
    (Numeral.readInt 10 part).toOption
  else none

/-- Whole numbers, also when they are written as texts; truth values count as one and zero. -/
def readInteger : Datum → Checked Int
  | .boolean value => .ok (if value then 1 else 0)
  | .number digits places =>
      match whole? digits places with
      | some value => .ok value
      | none => Checked.refuse .fractionalInteger
  | .text value =>
      match integerOf? value with
      | some value => .ok value
      | none => Checked.refuse .unreadableInteger
  | _ => Checked.refuse .notInteger

def falseWords : List String := ["0", "off", "f", "false", "n", "no"]

def trueWords : List String := ["1", "on", "t", "true", "y", "yes"]

def readWord (text : String) : Checked Bool :=
  let word := String.ofList (text.toList.map Text.lowerAscii)
  if trueWords.contains word then .ok true
  else if falseWords.contains word then .ok false
  else Checked.refuse .unreadableBoolean

/-- Truth values, also when they are written as words or as one and zero. -/
def readBoolean : Datum → Checked Bool
  | .boolean value => .ok value
  | .text value => readWord value
  | .number digits places =>
      match whole? digits places with
      | some 0 => .ok false
      | some 1 => .ok true
      | some _ => Checked.refuse .unreadableBoolean
      | none => Checked.refuse .notBoolean
  | _ => Checked.refuse .notBoolean

def readOptional {α : Type} (read : Datum → Checked α) : Datum → Checked (Option α)
  | .null => .ok none
  | datum => (read datum).map some

/-- Reads every item; the flaws of all items are kept. -/
def readItems {α : Type} (read : Datum → Checked α) : Nat → List Datum → Checked (List α)
  | _, [] => .ok []
  | index, item :: rest =>
      match (read item).inside (toString index), readItems read (index + 1) rest with
      | .ok value, .ok values => .ok (value :: values)
      | first, others => .error (first.flaws ++ others.flaws)

def readList {α : Type} (read : Datum → Checked α) : Datum → Checked (List α)
  | .list items => readItems read 0 items
  | _ => Checked.refuse .notSequence

end Datum

abbrev Fields := Table Datum

namespace Fields

def required {α : Type} (fields : Fields) (name : String) (read : Datum → Checked α) : Checked α :=
  match fields.get? name with
  | none => (Checked.refuse .missing).inside name
  | some datum => (read datum).inside name

def optional {α : Type} (fields : Fields) (name : String) (read : Datum → Checked α) :
    Checked (Option α) :=
  match fields.get? name with
  | none => .ok none
  | some datum => (datum.readOptional read).inside name

end Fields

end PropertyGen
