import Mathlib.Data.List.Infix
import PropertyGen.Syntax.Source

/-!
The texts of nodes as pieces of the text of a source. Where a slice of bytes cuts a character, its
text has replacement characters at its ends; what is left without them stands in the whole text.
-/

namespace PropertyGen.Text

namespace Utf8

/-- A pending character whose next byte can begin no other character. -/
def Pending.Sound (pending : Pending) : Prop := 0x80 ≤ pending.low ∧ pending.high ≤ 0xBF

/-- What some bytes are read as, and what is pending after them. -/
def readFrom : Option Pending → List UInt8 → List Char × Option Pending
  | pending, [] => ([], pending)
  | pending, byte :: rest =>
      let (characters, next) := step byte.toNat pending
      let (others, last) := readFrom next rest
      (characters ++ others, last)

theorem decode_from_cons (pending : Option Pending) (byte : UInt8) (rest : List UInt8) :
    decodeFrom pending (byte :: rest) =
      (step byte.toNat pending).1 ++ decodeFrom (step byte.toNat pending).2 rest := by
  cases pending <;> rfl

theorem decode_from_append (pending : Option Pending) (first second : List UInt8) :
    decodeFrom pending (first ++ second) =
      (readFrom pending first).1 ++ decodeFrom (readFrom pending first).2 second := by
  induction first generalizing pending with
  | nil => rfl
  | cons byte rest induction =>
      rw [List.cons_append, decode_from_cons, induction, ← List.append_assoc]
      rfl

theorem begin_sound (byte : Nat) : ∀ pending ∈ (begin byte).2, pending.Sound := by
  unfold begin
  intro pending member
  split at member
  · cases member
  split at member
  · cases member
  split at member
  · cases member
    exact ⟨Nat.le_refl _, Nat.le_refl _⟩
  split at member
  · cases member
    exact ⟨by decide, Nat.le_refl _⟩
  split at member
  · cases member
    exact ⟨Nat.le_refl _, by decide⟩
  split at member
  · cases member
    exact ⟨Nat.le_refl _, Nat.le_refl _⟩
  split at member
  · cases member
    exact ⟨by decide, Nat.le_refl _⟩
  split at member
  · cases member
    exact ⟨Nat.le_refl _, Nat.le_refl _⟩
  split at member
  · cases member
    exact ⟨Nat.le_refl _, by decide⟩
  · cases member

theorem step_sound (byte : Nat) (pending : Option Pending) :
    ∀ next ∈ (step byte pending).2, next.Sound := by
  cases pending with
  | none => exact begin_sound byte
  | some pending =>
      unfold step
      dsimp only
      split
      · split
        · intro next member
          cases member
        · intro next member
          cases member
          exact ⟨Nat.le_refl _, Nat.le_refl _⟩
      · exact begin_sound byte

theorem read_from_sound (bytes : List UInt8) (pending : Option Pending)
    (sound : ∀ next ∈ pending, next.Sound) :
    ∀ next ∈ (readFrom pending bytes).2, next.Sound := by
  induction bytes generalizing pending with
  | nil => exact sound
  | cons byte rest induction => exact induction _ (step_sound byte.toNat pending)

theorem begin_continuation {byte : Nat} (least : 0x80 ≤ byte) (most : byte ≤ 0xBF) :
    begin byte = ([replacement], none) := by
  unfold begin
  rw [if_neg (by omega), if_pos (by omega)]

/-- Some bytes read afresh and read inside a character: after some replacement characters on one
side, and something else on the other, both are the same. -/
theorem decode_from_pending (bytes : List UInt8) {pending : Pending} (sound : pending.Sound) :
    ∃ cut broken rest, (∀ character ∈ cut, character = replacement) ∧
      decodeFrom none bytes = cut ++ rest ∧ decodeFrom (some pending) bytes = broken ++ rest := by
  induction bytes generalizing pending with
  | nil => exact ⟨[], [replacement], [], by simp, rfl, rfl⟩
  | cons byte bytes induction =>
      by_cases continues : pending.low ≤ byte.toNat ∧ byte.toNat ≤ pending.high
      · have alone : step byte.toNat none = ([replacement], none) :=
          begin_continuation (sound.1.trans continues.1) (continues.2.trans sound.2)
        have fresh : decodeFrom none (byte :: bytes) = replacement :: decodeFrom none bytes := by
          rw [decode_from_cons, alone]
          rfl
        by_cases last : pending.missing ≤ 1
        · have completed : step byte.toNat (some pending) =
              ([Char.ofNat (pending.value * 64 + (byte.toNat - 0x80))], none) := by
            unfold step
            simp only [if_pos continues, if_pos last]
          refine ⟨[replacement], [Char.ofNat (pending.value * 64 + (byte.toNat - 0x80))],
            decodeFrom none bytes, by simp, fresh, ?_⟩
          rw [decode_from_cons, completed]
        · obtain ⟨next, goesOn, nextSound⟩ : ∃ next,
              step byte.toNat (some pending) = ([], some next) ∧ next.Sound := by
            unfold step
            simp only [if_pos continues, if_neg last]
            exact ⟨_, rfl, Nat.le_refl _, Nat.le_refl _⟩
          obtain ⟨cut, broken, rest, replaced, own, others⟩ := induction nextSound
          refine ⟨replacement :: cut, broken, rest, ?_, ?_, ?_⟩
          · exact List.forall_mem_cons.mpr ⟨rfl, replaced⟩
          · rw [fresh, own]
            rfl
          · rw [decode_from_cons, goesOn]
            exact others
      · have breaks : step byte.toNat (some pending) =
            (replacement :: (begin byte.toNat).1, (begin byte.toNat).2) := by
          unfold step
          simp only [if_neg continues]
        refine ⟨[], [replacement], decodeFrom none (byte :: bytes), by simp, rfl, ?_⟩
        rw [decode_from_cons, decode_from_cons, breaks]
        rfl

/-- Nothing but a replacement character stands for a character that is not complete. -/
theorem decode_from_nil (pending : Option Pending) :
    ∀ character ∈ decodeFrom pending [], character = replacement := by
  cases pending with
  | none => simp [decodeFrom]
  | some pending => simp [decodeFrom]

end Utf8

section Infixes

variable {α : Type} {mark : α} {word : List α}

theorem infix_behind {marks rest : List α} (clean : mark ∉ word)
    (marked : ∀ element ∈ marks, element = mark) (inside : word <:+: marks ++ rest) :
    word <:+: rest := by
  induction marks with
  | nil => exact inside
  | cons element marks induction =>
      obtain ⟨own, others⟩ := List.forall_mem_cons.mp marked
      rw [List.cons_append] at inside
      rcases List.infix_cons_iff.mp inside with front | later
      · cases word with
        | nil => exact List.nil_infix
        | cons first more =>
            have same := (List.cons_prefix_cons.mp front).1
            rw [same, own] at clean
            exact absurd List.mem_cons_self clean
      · exact induction others later

theorem infix_before {rest marks : List α} (clean : mark ∉ word)
    (marked : ∀ element ∈ marks, element = mark) (inside : word <:+: rest ++ marks) :
    word <:+: rest := by
  rw [← List.reverse_infix, List.reverse_append] at inside
  rw [← List.reverse_infix]
  have reversedClean : mark ∉ word.reverse := fun member => clean (List.mem_reverse.mp member)
  exact infix_behind reversedClean
    (fun element member => marked element (List.mem_reverse.mp member)) inside

theorem prefix_joined {front back : List α} (clean : mark ∉ word)
    (inside : word <+: front ++ mark :: back) : word <+: front := by
  induction front generalizing word with
  | nil =>
      cases word with
      | nil => exact List.nil_prefix
      | cons first more =>
          have same := (List.cons_prefix_cons.mp inside).1
          rw [same] at clean
          exact absurd List.mem_cons_self clean
  | cons element front induction =>
      cases word with
      | nil => exact List.nil_prefix
      | cons first more =>
          obtain ⟨same, later⟩ := List.cons_prefix_cons.mp inside
          have moreClean : mark ∉ more := fun member => clean (List.mem_cons_of_mem _ member)
          exact List.cons_prefix_cons.mpr ⟨same, induction moreClean later⟩

theorem infix_joined {front back : List α} (clean : mark ∉ word)
    (inside : word <:+: front ++ mark :: back) : word <:+: front ∨ word <:+: back := by
  induction front with
  | nil =>
      rcases List.infix_cons_iff.mp inside with own | later
      · exact .inl (prefix_joined clean own).isInfix
      · exact .inr later
  | cons element front induction =>
      rcases List.infix_cons_iff.mp inside with own | later
      · exact .inl (prefix_joined clean own).isInfix
      · rcases induction later with first | second
        · exact .inl (first.trans (List.suffix_cons element front).isInfix)
        · exact .inr second

end Infixes

theorem compact_append (first second : List Char) :
    compactChars (first ++ second) = compactChars first ++ compactChars second :=
  List.filter_append _ _

theorem compact_marked {text : List Char}
    (marked : ∀ character ∈ text, character = Utf8.replacement) :
    ∀ character ∈ compactChars text, character = Utf8.replacement :=
  fun character member => marked character (List.mem_filter.mp member).1

/-- A word without replacement characters that stands in the text of a slice of some bytes stands in
the text of all of them. -/
theorem infix_of_slice {word : List Char} (clean : Utf8.replacement ∉ word) (bytes : List UInt8)
    (start count : Nat)
    (inside : word <:+: compactChars (Utf8.decodeFrom none ((bytes.drop start).take count))) :
    word <:+: compactChars (Utf8.decodeFrom none bytes) := by
  have whole : bytes.take start ++
      ((bytes.drop start).take count ++ (bytes.drop start).drop count) = bytes := by
    rw [List.take_append_drop, List.take_append_drop]
  generalize (bytes.drop start).take count = slice at whole inside
  generalize (bytes.drop start).drop count = after at whole
  have read := Utf8.decode_from_append none (bytes.take start) (slice ++ after)
  rw [whole] at read
  -- the end of the slice may be cut
  have ofSlice := Utf8.decode_from_append none slice []
  rw [List.append_nil] at ofSlice
  rw [ofSlice, compact_append] at inside
  have kept := infix_before clean (compact_marked (Utf8.decode_from_nil _)) inside
  have fresh : word <:+: compactChars (Utf8.decodeFrom none (slice ++ after)) := by
    rw [Utf8.decode_from_append, compact_append]
    exact kept.trans (List.prefix_append _ _).isInfix
  -- and so may its beginning
  rw [read, compact_append]
  refine List.IsInfix.trans ?_ (List.suffix_append _ _).isInfix
  have sound := Utf8.read_from_sound (bytes.take start) none (by simp)
  generalize (Utf8.readFrom none (bytes.take start)).2 = pending at sound ⊢
  cases pending with
  | none => exact fresh
  | some pending =>
      obtain ⟨cut, broken, rest, replaced, own, others⟩ :=
        Utf8.decode_from_pending (slice ++ after) (sound pending rfl)
      rw [own, compact_append] at fresh
      rw [others, compact_append]
      exact (infix_behind clean (compact_marked replaced) fresh).trans
        (List.suffix_append _ _).isInfix

end PropertyGen.Text

namespace PropertyGen.Source

theorem infix_of_compact {word : List Char} (clean : Text.Utf8.replacement ∉ word)
    {source : Source} {node : Node} (inside : word <:+: (source.compactText node).toList) :
    word <:+: Text.compactChars (Text.Utf8.decodeFrom none source.bytes) := by
  unfold compactText Text.compact text Text.Utf8.decode at inside
  rw [String.toList_ofList, String.toList_ofList] at inside
  exact Text.infix_of_slice clean source.bytes _ _ inside

end PropertyGen.Source
