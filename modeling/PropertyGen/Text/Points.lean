/-!
Texts as a program holds them: lists of code points. Every text is one, and so are lists with
surrogates in them, which an escape can name but no encoding can write.
-/

namespace PropertyGen

/-- A character, or one of the code points that are none, counted from the first surrogate. -/
inductive CodePoint where
  | character (value : Char)
  | surrogate (index : Fin 0x800)
deriving DecidableEq, Repr

namespace CodePoint

instance : Coe Char CodePoint := ⟨character⟩

def firstSurrogate : Nat := 0xD800

def toNat : CodePoint → Nat
  | .character value => value.toNat
  | .surrogate index => firstSurrogate + index

def ofNat (code : Nat) : CodePoint :=
  if inside : firstSurrogate ≤ code ∧ code - firstSurrogate < 0x800 then
    .surrogate ⟨code - firstSurrogate, inside.2⟩
  else .character (Char.ofNat code)

def char? : CodePoint → Option Char
  | .character value => some value
  | .surrogate _ => none

theorem of_nat_to_nat (character : Char) : ofNat character.toNat = character := by
  have outside : ¬ (firstSurrogate ≤ character.toNat ∧ character.toNat - firstSurrogate < 0x800) := by
    have valid : character.toNat < 0xD800 ∨ 0xDFFF < character.toNat ∧ character.toNat < 0x110000 :=
      character.valid
    unfold firstSurrogate
    omega
  rw [ofNat, dif_neg outside, Char.ofNat_toNat]

end CodePoint

abbrev Points := List CodePoint

namespace Points

def ofText (text : String) : Points := text.toList.map .character

instance : Coe String Points := ⟨ofText⟩

/-- The text that some code points are, unless there is a surrogate among them. -/
def text? (points : Points) : Option String := (points.mapM CodePoint.char?).map String.ofList

@[simp] theorem of_text_empty : ofText "" = [] := rfl

@[simp] theorem of_text_append (first second : String) :
    ofText (first ++ second) = ofText first ++ ofText second := by
  simp [ofText]

@[simp] theorem of_text_inj {first second : String} :
    ofText first = ofText second ↔ first = second := by
  have injective : Function.Injective CodePoint.character := fun _ _ => CodePoint.character.inj
  rw [ofText, ofText, List.map_inj_right fun _ _ same => injective same, String.toList_inj]

@[simp] theorem of_text_eq_nil {text : String} : ofText text = [] ↔ text = "" := by
  simp [ofText]

@[simp] theorem character_mem_of_text {character : Char} {text : String} :
    .character character ∈ ofText text ↔ character ∈ text.toList := by
  simp [ofText]

@[simp] theorem surrogate_not_mem_of_text {index : Fin 0x800} {text : String} :
    .surrogate index ∉ ofText text := by
  simp [ofText]

theorem characters_iff {points : Points} {characters : List Char} :
    points.mapM CodePoint.char? = some characters ↔ points = characters.map .character := by
  induction points generalizing characters with
  | nil => cases characters <;> simp
  | cons first rest induction =>
      cases first with
      | surrogate index => cases characters <;> simp [CodePoint.char?]
      | character value =>
          cases characters with
          | nil => simp [CodePoint.char?, Option.bind_eq_some_iff]
          | cons other others =>
              simp [CodePoint.char?, Option.bind_eq_some_iff, induction]
              exact and_comm

theorem text_iff {points : Points} {text : String} : points.text? = some text ↔ points = text := by
  simp only [text?, Option.map_eq_some_iff, characters_iff, ofText]
  constructor
  · rintro ⟨characters, rfl, rfl⟩
    rw [String.toList_ofList]
  · rintro rfl
    exact ⟨_, rfl, String.ofList_toList⟩

@[simp] theorem text_of_text (text : String) : text? (ofText text) = some text := text_iff.mpr rfl

theorem text_none_iff {points : Points} :
    points.text? = none ↔ ∃ index, .surrogate index ∈ points := by
  simp only [text?, Option.map_eq_none_iff]
  induction points with
  | nil => simp
  | cons first rest induction =>
      cases first with
      | surrogate index => simp [CodePoint.char?]
      | character value =>
          cases later : rest.mapM CodePoint.char? <;> simp [CodePoint.char?, later, ← induction]

end Points

end PropertyGen
