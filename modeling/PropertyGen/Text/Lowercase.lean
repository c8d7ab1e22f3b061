import PropertyGen.Text.LowercaseTable

/-!
Lower-casing of a whole text. A sigma that ends a word takes its final form.
-/

namespace PropertyGen.Text

def lowerAscii (character : Char) : Char :=
  if 'A' ≤ character ∧ character ≤ 'Z' then Char.ofNat (character.toNat + 32) else character

def upperAscii (character : Char) : Char :=
  if 'a' ≤ character ∧ character ≤ 'z' then Char.ofNat (character.toNat - 32) else character

/-- The one letter whose lower case is two characters is the dotted capital I. -/
def lowerLetter (character : Char) : List Char :=
  if character.toNat < 0x80 then [lowerAscii character]
  else if character = '\u0130' then ['i', '\u0307']
  else match lowercaseRuns.find? fun run => run.covers character.toNat with
    | some run => [Char.ofNat (run.apply character.toNat)]
    | none => [character]

/-- Whether the nearest character that is not looked through is a letter with case. -/
def meetsCased : List Char → Bool
  | [] => false
  | character :: rest =>
      if within caseIgnorableRanges character then meetsCased rest
      else within casedRanges character

def lowerFrom (before : List Char) : List Char → List Char
  | [] => []
  | character :: rest =>
      let lowered :=
        if character = 'Σ' then
          if meetsCased before && !meetsCased rest then ['ς'] else ['σ']
        else lowerLetter character
      lowered ++ lowerFrom (character :: before) rest

def lower (text : String) : String := String.ofList (lowerFrom [] text.toList)

end PropertyGen.Text
