import Mathlib.Algebra.Order.Ring.Int
import Mathlib.Data.List.Infix
import PropertyGen.Names.TypeName

/-!
Angle brackets in names. Texts that close their own brackets can be put behind each other, between
brackets and between commas, and the commas outside of all brackets are counted part by part.
-/

namespace PropertyGen.Names

section Depth

theorem bracket_depth_other {character : Char} (notOpening : character ≠ '<')
    (notClosing : character ≠ '>') (depth : Int) : bracketDepth depth character = depth := by
  unfold bracketDepth
  rw [if_neg notOpening, if_neg notClosing]

theorem bracket_depth_shift (depth : Int) (character : Char) :
    bracketDepth depth character = depth + bracketDepth 0 character := by
  unfold bracketDepth
  split
  · omega
  · split <;> omega

theorem depth_shift (depth : Int) (text : List Char) :
    text.foldl bracketDepth depth = depth + text.foldl bracketDepth 0 := by
  induction text generalizing depth with
  | nil => exact (add_zero depth).symm
  | cons character rest induction =>
      rw [List.foldl_cons, List.foldl_cons, induction, induction (bracketDepth 0 character),
        bracket_depth_shift depth, add_assoc]

theorem depth_flat {text : List Char} (noOpening : '<' ∉ text) (noClosing : '>' ∉ text)
    (depth : Int) : text.foldl bracketDepth depth = depth := by
  induction text with
  | nil => rfl
  | cons character rest induction =>
      rw [List.mem_cons, not_or] at noOpening noClosing
      rw [List.foldl_cons, bracket_depth_other (Ne.symm noOpening.1) (Ne.symm noClosing.1),
        induction noOpening.2 noClosing.2]

end Depth

/-- A text whose first bracket is closed by its last one and not before. -/
structure Bracketed (text : List Char) : Prop where
  opening : text.head? = some '<'
  closing : text.getLast? = some '>'
  closed : text.foldl bracketDepth 0 = 0
  inside : ∀ front ∈ text.inits, front ≠ [] → front ≠ text → front.foldl bracketDepth 0 ≠ 0

instance (text : List Char) : Decidable (Bracketed text) :=
  decidable_of_iff
    (text.head? = some '<' ∧ text.getLast? = some '>' ∧ text.foldl bracketDepth 0 = 0 ∧
      ∀ front ∈ text.inits, front ≠ [] → front ≠ text → front.foldl bracketDepth 0 ≠ 0)
    ⟨fun all => ⟨all.1, all.2.1, all.2.2.1, all.2.2.2⟩,
      fun all => ⟨all.opening, all.closing, all.closed, all.inside⟩⟩

/-- A text that closes the brackets it opens, and none that it has not opened. -/
structure Balanced (text : List Char) : Prop where
  closed : text.foldl bracketDepth 0 = 0
  opened : ∀ front, front <+: text → 0 ≤ front.foldl bracketDepth 0

namespace Balanced

theorem of_flat {text : List Char} (noOpening : '<' ∉ text) (noClosing : '>' ∉ text) :
    Balanced text where
  closed := depth_flat noOpening noClosing 0
  opened := by
    intro front begins
    have noneOpening : '<' ∉ front := fun member => noOpening (begins.subset member)
    have noneClosing : '>' ∉ front := fun member => noClosing (begins.subset member)
    exact (depth_flat noneOpening noneClosing 0).ge

variable {front back inner text : List Char}

theorem append (balanced : Balanced front) (further : Balanced back) :
    Balanced (front ++ back) where
  closed := by
    rw [List.foldl_append, balanced.closed]
    exact further.closed
  opened := by
    rintro part ⟨behind, whole⟩
    rcases List.append_eq_append_iff.mp whole with ⟨rest, within, -⟩ | ⟨rest, rfl, later⟩
    · exact balanced.opened part ⟨rest, within.symm⟩
    · rw [List.foldl_append, balanced.closed]
      exact further.opened rest ⟨behind, later.symm⟩

/-- A beginning of a text between brackets goes past the opening one only, or it is all of it. -/
theorem opened_within (balanced : Balanced inner) {part : List Char}
    (begins : part <+: inner ++ ['>']) (notAll : part ≠ inner ++ ['>']) :
    0 < ('<' :: part).foldl bracketDepth 0 := by
  have within : part <+: inner := (List.prefix_concat_iff.mp begins).resolve_left notAll
  have opened := balanced.opened part within
  rw [List.foldl_cons, depth_shift, show bracketDepth 0 '<' = 1 from rfl]
  omega

theorem bracketed (balanced : Balanced inner) : Bracketed ('<' :: (inner ++ ['>'])) where
  opening := rfl
  closing := by rw [← List.cons_append, List.getLast?_concat]
  closed := by
    rw [List.foldl_cons, List.foldl_append, depth_shift (bracketDepth 0 '<'), balanced.closed]
    rfl
  inside := by
    intro part listed some notAll
    have begins := (List.mem_inits _ _).mp listed
    cases part with
    | nil => exact absurd rfl some
    | cons first part =>
        obtain ⟨rfl, body⟩ := List.cons_prefix_cons.mp begins
        exact (balanced.opened_within body fun same => notAll (congrArg _ same)).ne'

theorem wrapped (balanced : Balanced inner) : Balanced ('<' :: (inner ++ ['>'])) where
  closed := balanced.bracketed.closed
  opened := by
    intro part begins
    cases part with
    | nil => exact le_rfl
    | cons first part =>
        obtain ⟨rfl, body⟩ := List.cons_prefix_cons.mp begins
        by_cases all : part = inner ++ ['>']
        · rw [all, balanced.bracketed.closed]
        · exact (balanced.opened_within body all).le

end Balanced

section Commas

theorem outer_commas_cons (depth : Int) (character : Char) (rest : List Char) :
    outerCommas depth (character :: rest) =
      (if character = ',' ∧ depth = 0 then 1 else 0) +
        outerCommas (bracketDepth depth character) rest := by
  rw [outerCommas]
  by_cases opening : character = '<'
  · rw [if_pos opening, if_neg (fun comma => absurd (opening.symm.trans comma.1) (by decide)),
      zero_add, opening]
    rfl
  · by_cases closing : character = '>'
    · rw [if_neg opening, if_pos closing,
        if_neg (fun comma => absurd (closing.symm.trans comma.1) (by decide)), zero_add, closing]
      rfl
    · rw [if_neg opening, if_neg closing, bracket_depth_other opening closing]
      split
      · rw [add_comm]
      · rw [zero_add]

theorem outer_commas_append (depth : Int) (front back : List Char) :
    outerCommas depth (front ++ back) =
      outerCommas depth front + outerCommas (front.foldl bracketDepth depth) back := by
  induction front generalizing depth with
  | nil => exact (zero_add _).symm
  | cons character rest induction =>
      rw [List.cons_append, outer_commas_cons, induction, outer_commas_cons, List.foldl_cons,
        add_assoc]

theorem outer_commas_inside {depth : Int} {text : List Char}
    (inside : ∀ front, front <+: text → front.foldl bracketDepth depth ≠ 0) :
    outerCommas depth text = 0 := by
  induction text generalizing depth with
  | nil => rfl
  | cons character rest induction =>
      have deep : depth ≠ 0 := inside [] List.nil_prefix
      rw [outer_commas_cons, if_neg (fun comma => deep comma.2), zero_add]
      exact induction fun front begins =>
        inside (character :: front) (List.cons_prefix_cons.mpr ⟨rfl, begins⟩)

theorem outer_commas_clean {text : List Char} (clean : ',' ∉ text) (depth : Int) :
    outerCommas depth text = 0 := by
  induction text generalizing depth with
  | nil => rfl
  | cons character rest induction =>
      rw [List.mem_cons, not_or] at clean
      rw [outer_commas_cons, if_neg (fun comma => clean.1 comma.1.symm), zero_add,
        induction clean.2]

end Commas

structure Counted (commas : Nat) (text : List Char) : Prop extends Balanced text where
  commas : outerCommas 0 text = commas

namespace Counted

theorem of_clean {text : List Char} (clean : '<' ∉ text ∧ '>' ∉ text ∧ ',' ∉ text) :
    Counted 0 text where
  toBalanced := .of_flat clean.1 clean.2.1
  commas := outer_commas_clean clean.2.2 0

theorem comma : Counted 1 [','] where
  toBalanced := .of_flat (by decide) (by decide)
  commas := rfl

variable {own more : Nat} {front back inner : List Char}

theorem append (counted : Counted own front) (further : Counted more back) :
    Counted (own + more) (front ++ back) where
  toBalanced := counted.toBalanced.append further.toBalanced
  commas := by rw [outer_commas_append, counted.closed, counted.commas, further.commas]

/-- What stands in brackets does not count. -/
theorem wrapped (balanced : Balanced inner) : Counted 0 ('<' :: (inner ++ ['>'])) where
  toBalanced := balanced.wrapped
  commas := by
    have within : outerCommas 1 inner = 0 := by
      apply outer_commas_inside
      intro front begins
      have opened := balanced.opened front begins
      rw [depth_shift]
      omega
    rw [outer_commas_cons, if_neg (by decide), zero_add, show bracketDepth 0 '<' = 1 from rfl,
      outer_commas_append, within, outer_commas_cons, if_neg fun comma => absurd comma.1 (by decide)]
    rfl

theorem joined {first : List Char} {rest : List (List Char)}
    (each : ∀ text ∈ first :: rest, Counted 0 text) :
    Counted rest.length ([','].intercalate (first :: rest)) := by
  induction rest generalizing first with
  | nil =>
      rw [List.intercalate_singleton]
      exact each first List.mem_cons_self
  | cons second rest induction =>
      obtain ⟨own, others⟩ := List.forall_mem_cons.mp each
      have whole := (own.append comma).append (induction others)
      rw [List.intercalate_cons_of_ne_nil (List.cons_ne_nil _ _), List.length_cons,
        show rest.length + 1 = 0 + 1 + rest.length by omega]
      exact whole

end Counted

end PropertyGen.Names
