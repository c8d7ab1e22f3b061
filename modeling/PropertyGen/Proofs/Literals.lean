import PropertyGen.Constant.Expression
import PropertyGen.Proofs.Runs

/-!
Literals without a value. Of all literals only those of the regular form can have none, and
exactly if one of their numeric escapes has too few digits or no code point.
-/

namespace PropertyGen

namespace Literal

/-- A text in which, read from the left, some numeric escape has too few digits or a number that
is no code point. -/
inductive IllFormed : List Char → Prop
  | short (letter : Char) (rest : List Char) (least most : Nat)
      (numeric : escapeDigits? letter = some (least, most))
      (fewer : (takeHex most rest).1.length < least) : IllFormed ('\\' :: letter :: rest)
  | large (letter : Char) (rest : List Char) (least most : Nat)
      (numeric : escapeDigits? letter = some (least, most))
      (tooLarge : 0x110000 ≤ Numeral.value 16 (takeHex most rest).1) :
      IllFormed ('\\' :: letter :: rest)
  | afterNumber (letter : Char) (rest : List Char) (least most : Nat)
      (numeric : escapeDigits? letter = some (least, most))
      (later : IllFormed (takeHex most rest).2) : IllFormed ('\\' :: letter :: rest)
  | afterLetter (letter : Char) (rest : List Char) (simple : escapeDigits? letter = none)
      (later : IllFormed rest) : IllFormed ('\\' :: letter :: rest)
  | afterCharacter (character : Char) (rest : List Char) (plain : character ≠ '\\')
      (later : IllFormed rest) : IllFormed (character :: rest)

theorem code_point_faults {digits : List Char} :
    (∃ fault, codePoint digits = .error fault) ↔ 0x110000 ≤ Numeral.value 16 digits := by
  unfold codePoint
  by_cases huge : Numeral.value 16 digits ≥ 0x80000000
  · simp only [huge, if_true]
    constructor
    · intro _
      omega
    · intro _
      exact ⟨_, rfl⟩
  · by_cases large : Numeral.value 16 digits ≥ 0x110000
    · simp [huge, large]
    · simp [huge, large]

theorem not_ill_formed_backslash : ¬ IllFormed ['\\'] := by
  intro ill
  cases ill with
  | afterCharacter _ _ plain => exact plain rfl

theorem ill_formed_letter {letter : Char} {rest : List Char} (simple : escapeDigits? letter = none) :
    IllFormed ('\\' :: letter :: rest) ↔ IllFormed rest := by
  constructor
  · intro ill
    cases ill with
    | short _ _ _ _ numeric => cases simple.symm.trans numeric
    | large _ _ _ _ numeric => cases simple.symm.trans numeric
    | afterNumber _ _ _ _ numeric => cases simple.symm.trans numeric
    | afterLetter _ _ _ later => exact later
    | afterCharacter _ _ plain => exact absurd rfl plain
  · exact fun later => .afterLetter letter rest simple later

theorem ill_formed_number {letter : Char} {rest : List Char} {least most : Nat}
    (numeric : escapeDigits? letter = some (least, most)) :
    IllFormed ('\\' :: letter :: rest) ↔
      (takeHex most rest).1.length < least ∨
        0x110000 ≤ Numeral.value 16 (takeHex most rest).1 ∨ IllFormed (takeHex most rest).2 := by
  have digits : ∀ {otherLeast otherMost : Nat},
      escapeDigits? letter = some (otherLeast, otherMost) →
        otherLeast = least ∧ otherMost = most :=
    fun other => Prod.mk.inj (Option.some.inj (other.symm.trans numeric))
  constructor
  · intro ill
    cases ill with
    | short _ _ _ _ other fewer =>
        obtain ⟨rfl, rfl⟩ := digits other
        exact .inl fewer
    | large _ _ _ _ other tooLarge =>
        obtain ⟨rfl, rfl⟩ := digits other
        exact .inr (.inl tooLarge)
    | afterNumber _ _ _ _ other later =>
        obtain ⟨rfl, rfl⟩ := digits other
        exact .inr (.inr later)
    | afterLetter _ _ simple => cases simple.symm.trans numeric
    | afterCharacter _ _ plain => exact absurd rfl plain
  · intro given
    rcases given with fewer | tooLarge | later
    · exact .short letter rest least most numeric fewer
    · exact .large letter rest least most numeric tooLarge
    · exact .afterNumber letter rest least most numeric later

theorem ill_formed_character {character : Char} {rest : List Char} (plain : character ≠ '\\') :
    IllFormed (character :: rest) ↔ IllFormed rest := by
  constructor
  · intro ill
    cases ill with
    | short => exact absurd rfl plain
    | large => exact absurd rfl plain
    | afterNumber => exact absurd rfl plain
    | afterLetter => exact absurd rfl plain
    | afterCharacter _ _ _ later => exact later
  · exact fun later => .afterCharacter character rest plain later

theorem unescape_faults (text : List Char) :
    (∃ fault, unescape text = .error fault) ↔ IllFormed text := by
  fun_induction unescape text with
  | case1 =>
      constructor
      · intro given
        rcases given with ⟨fault, same⟩
        cases same
      · intro ill
        cases ill
  | case2 =>
      constructor
      · intro given
        rcases given with ⟨fault, same⟩
        cases same
      · exact fun ill => absurd ill not_ill_formed_backslash
  | case3 letter rest simple induction =>
      rw [last_faults, induction, ill_formed_letter simple]
  | case4 letter rest least most numeric fewer =>
      exact iff_of_true ⟨_, rfl⟩ ((ill_formed_number numeric).mpr (.inl fewer))
  | case5 letter rest least most numeric enough induction =>
      rw [chain_faults, code_point_faults, ill_formed_number numeric]
      simp only [last_faults, induction, enough, false_or]
      constructor
      · rintro (tooLarge | ⟨-, -, later⟩)
        · exact .inl tooLarge
        · exact .inr later
      · rintro (tooLarge | later)
        · exact .inl tooLarge
        · cases point : codePoint (takeHex most rest).1 with
          | error fault => exact .inl (code_point_faults.mp ⟨fault, point⟩)
          | ok code => exact .inr ⟨code, rfl, later⟩
  | case6 character rest notLast notEscape induction =>
      have plain : character ≠ '\\' := by
        intro escape
        cases rest with
        | nil => exact notLast escape rfl
        | cons letter after => exact notEscape letter after escape rfl
      rw [last_faults, induction, ill_formed_character plain]

/-- Verbatim and raw literals, which have no escapes. -/
def hasNoEscapes : List Char → Bool
  | '@' :: '"' :: _ => true
  | '"' :: '"' :: '"' :: _ => true
  | _ => false

/-- A literal has no value exactly if it is a regular one with an ill-formed escape. -/
theorem decode_faults (literal : String) :
    (∃ fault, decode literal = .error fault) ↔
      hasNoEscapes (withoutSuffix literal.toList) = false ∧
        IllFormed (inner 1 (withoutSuffix literal.toList)) := by
  unfold decode decodeChars
  generalize withoutSuffix literal.toList = text
  dsimp only
  split
  · simp [hasNoEscapes]
  · simp [hasNoEscapes]
  · next verbatim raw =>
      have regular : hasNoEscapes text = false := by
        unfold hasNoEscapes
        split
        · next rest => exact (verbatim rest rfl).elim
        · next rest => exact (raw rest rfl).elim
        · rfl
      rw [unescape_faults, regular]
      simp

end Literal

end PropertyGen
