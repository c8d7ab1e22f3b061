import Mathlib.Algebra.Group.Nat.Defs
import Mathlib.Data.List.TakeWhile
import PropertyGen.Numeral.Reading

/-!
Reading numbers as they are printed. A run of digits is read as its value unless it is longer than
the limit for decimal numbers, and the digits of a number have that number as their value.
-/

namespace PropertyGen.Numeral

section Digits

theorem digit_listed {character : Char} (isDigit : character.isDigit = true) :
    character ∈ "0123456789".toList := by
  have among : ∀ code < 58, 48 ≤ code → Char.ofNat code ∈ "0123456789".toList := by decide
  unfold Char.isDigit at isDigit
  rw [Bool.and_eq_true, decide_eq_true_eq, decide_eq_true_eq] at isDigit
  have least : 48 ≤ character.toNat := isDigit.1
  have most : character.toNat ≤ 57 := isDigit.2
  rw [← Char.ofNat_toNat character]
  exact among character.toNat (by omega) least

theorem ascii_digit {character : Char} (isDigit : character.isDigit = true) :
    digit? character = some (character.toNat - '0'.toNat) ∧
      Numeral.isDigit 10 character = true ∧ isBlankAround character = false ∧
      character ≠ '-' ∧ character ≠ '+' := by
  have each : ("0123456789".toList.all fun character =>
      digit? character = some (character.toNat - '0'.toNat) ∧
        Numeral.isDigit 10 character = true ∧ isBlankAround character = false ∧
        character ≠ '-' ∧ character ≠ '+') = true := by decide +kernel
  exact of_decide_eq_true (List.all_eq_true.mp each character (digit_listed isDigit))

theorem underscore_no_digit (base : Nat) : isDigit base '_' = false := by
  unfold isDigit
  rw [show digit? '_' = none by decide +kernel, Option.any_none]

end Digits

section Runs

variable {base : Nat} {digits : List Char}

theorem well_spaced_clean (some : digits ≠ []) (clean : '_' ∉ digits) :
    wellSpaced digits = true := by
  induction digits with
  | nil => exact absurd rfl some
  | cons first rest induction =>
      rw [List.mem_cons, not_or] at clean
      cases rest with
      | nil => exact wellSpaced.eq_3 first (Ne.symm clean.1)
      | cons next rest =>
          have notNext : next ≠ '_' := fun same => clean.2 (same ▸ List.mem_cons_self)
          rw [wellSpaced.eq_6 first next rest (Ne.symm clean.1) notNext]
          exact induction (List.cons_ne_nil _ _) clean.2

/-- A run of digits is read as a whole. -/
theorem read_nat_digits (some : digits ≠ [])
    (each : ∀ digit ∈ digits, isDigit base digit = true) :
    readNat base digits =
      if base = 10 ∧ digitLimit < digits.length then .error (.tooLong digits.length)
      else .ok (value base digits) := by
  have clean : '_' ∉ digits := by
    intro member
    have isDigit := each '_' member
    rw [underscore_no_digit] at isDigit
    cases isDigit
  have belong : ∀ digit ∈ digits, (decide (digit = '_') || isDigit base digit) = true :=
    fun digit member => Bool.or_eq_true_iff.mpr (.inr (each digit member))
  have kept : digits.filter (fun digit => decide (digit ≠ '_')) = digits :=
    List.filter_eq_self.mpr fun digit member =>
      decide_eq_true fun same => clean (same ▸ member)
  unfold readNat
  dsimp only
  rw [List.takeWhile_eq_self_iff.mpr belong, List.dropWhile_eq_nil_iff.mpr belong,
    well_spaced_clean some clean, kept]
  rfl

end Runs

section Printed

variable {digits : List Char}

theorem value_ascii (each : ∀ digit ∈ digits, digit.isDigit = true) :
    value 10 digits = Nat.ofDigitChars 10 digits 0 := by
  have step (total : Nat) :
      digits.foldl (fun total digit => total * 10 + (digit? digit).getD 0) total =
        digits.foldl (fun total digit => 10 * total + (digit.toNat - '0'.toNat)) total := by
    induction digits generalizing total with
    | nil => rfl
    | cons digit rest induction =>
        obtain ⟨own, others⟩ := List.forall_mem_cons.mp each
        rw [List.foldl_cons, List.foldl_cons, (ascii_digit own).1, Option.getD_some,
          Nat.mul_comm total 10]
        exact induction others _
  exact step 0

theorem read_int_ascii {first : Char} (isDigit : first.isDigit = true) (rest : List Char) :
    readInt 10 (first :: rest) =
      (readNat 10 (first :: rest)).map fun magnitude : Nat => (magnitude : Int) := by
  obtain ⟨-, -, notBlank, notMinus, notPlus⟩ := ascii_digit isDigit
  unfold readInt
  rw [List.dropWhile_cons_of_neg (ne_true_of_eq_false notBlank)]
  split
  · exact absurd (List.cons_eq_cons.mp ‹_›).1 notMinus
  · exact absurd (List.cons_eq_cons.mp ‹_›).1 notPlus
  · cases readNat 10 (first :: rest) <;> rfl

theorem read_int_interrupted {first other : Char} (isDigit : first.isDigit = true)
    (notSpacer : other ≠ '_') (notDigit : Numeral.isDigit 10 other = false)
    (notBlank : isBlankAround other = false) (rest : List Char) :
    readInt 10 (first :: other :: rest) = .error .malformed := by
  have own := (ascii_digit isDigit).2.1
  have notUnderscore : first ≠ '_' := by
    rintro rfl
    rw [underscore_no_digit] at own
    cases own
  have belongs : (decide (first = '_') || Numeral.isDigit 10 first) = true := by
    rw [own, Bool.or_true]
  have stops : (decide (other = '_') || Numeral.isDigit 10 other) = false := by
    rw [notDigit, decide_eq_false notSpacer, Bool.or_false]
  have run : (first :: other :: rest).takeWhile
      (fun character => decide (character = '_') || Numeral.isDigit 10 character) = [first] := by
    rw [List.takeWhile_cons, if_pos belongs, List.takeWhile_cons, stops]
    rfl
  have behind : (first :: other :: rest).dropWhile
      (fun character => decide (character = '_') || Numeral.isDigit 10 character) =
        other :: rest := by
    rw [List.dropWhile_cons, if_pos belongs, List.dropWhile_cons, stops]
    rfl
  have short : ¬ (10 = 10 ∧ ([first].filter (· ≠ '_')).length > digitLimit) := by
    have few : ([first].filter (· ≠ '_')).length ≤ 1 := List.length_filter_le _ _
    exact fun both => absurd (both.2.trans_le few) (by decide)
  rw [read_int_ascii isDigit]
  unfold readNat
  dsimp only
  rw [run, behind, wellSpaced.eq_3 first notUnderscore, Bool.not_true, if_neg Bool.false_ne_true,
    if_neg short, List.all_cons, notBlank]
  rfl

/-- A printed number is read back if it is not too long. -/
theorem read_int_printed (count : Nat) :
    readInt 10 (Nat.toDigits 10 count) =
      if digitLimit < (Nat.toDigits 10 count).length then
        .error (.tooLong (Nat.toDigits 10 count).length)
      else .ok (count : Int) := by
  have each : ∀ digit ∈ Nat.toDigits 10 count, digit.isDigit = true := fun digit member =>
    Nat.isDigit_of_mem_toDigits (by decide) (by decide) member
  obtain ⟨first, rest, begins⟩ :=
    List.exists_cons_of_ne_nil (Nat.toDigits_ne_nil : Nat.toDigits 10 count ≠ [])
  have isDigit := each first (begins ▸ List.mem_cons_self)
  rw [begins, read_int_ascii isDigit, ← begins,
    read_nat_digits Nat.toDigits_ne_nil fun digit member => (ascii_digit (each digit member)).2.1,
    value_ascii each, Nat.ofDigitChars_ten_toDigits]
  by_cases tooLong : digitLimit < (Nat.toDigits 10 count).length
  · rw [if_pos ⟨rfl, tooLong⟩, if_pos tooLong]
    rfl
  · rw [if_neg fun both => tooLong both.2, if_neg tooLong]
    rfl

theorem within_limit_iff (count : Nat) :
    (Nat.toDigits 10 count).length ≤ digitLimit ↔ count < 10 ^ digitLimit :=
  Nat.length_toDigits_le_iff (by decide) (by decide)

end Printed

end PropertyGen.Numeral
