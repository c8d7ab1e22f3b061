import Mathlib.Algebra.Group.Int.Defs
import Mathlib.Algebra.Ring.Int.Defs
import PropertyGen.Generation.Marker
import PropertyGen.Proofs.Folding
import PropertyGen.Proofs.Numerals
import PropertyGen.Proofs.Spellings
import PropertyGen.Proofs.Words

/-!
The spellings of a number as an integer literal. Digits of a base stand with separators among them,
behind a mark that tells the base if it is not ten, and letters that tell a type may follow. A
literal denotes the number that its digits have by their places, and minus signs in front of it,
with parentheses between them, change the sign of that number one after the other.
-/

namespace PropertyGen

namespace Literal

def DigitOf (base : Nat) (digit : Char) (value : Nat) : Prop := HexDigit digit value ∧ value < base

instance (base : Nat) (digit : Char) (value : Nat) : Decidable (DigitOf base digit value) :=
  inferInstanceAs (Decidable (_ ∧ _))

/-- Digits with separators anywhere among them, and the values of the digits. -/
inductive Separated (base : Nat) : List Char → List Nat → Prop
  | nothing : Separated base [] []
  | digit {digit : Char} {value : Nat} {text : List Char} {values : List Nat}
      (isDigit : DigitOf base digit value) (later : Separated base text values) :
      Separated base (digit :: text) (value :: values)
  | separator {text : List Char} {values : List Nat} (later : Separated base text values) :
      Separated base ('_' :: text) values

def baseMarks : List (Char × Nat) := [('x', 16), ('X', 16), ('b', 2), ('B', 2)]

/-- A text that writes a number, the greatest digit first; zeros may stand in front. Without a mark
the base is ten, a digit comes first, and there are at most 4300 digits. -/
inductive WritesNumber : List Char → Nat → Prop
  | decimal {digit : Char} {value : Nat} {text : List Char} {values : List Nat}
      (isDigit : DigitOf 10 digit value) (later : Separated 10 text values)
      (few : (value :: values).length ≤ 4300) :
      WritesNumber (digit :: text) (Nat.ofDigits 10 (value :: values).reverse)
  | marked {mark : Char} {base : Nat} {text : List Char} {values : List Nat}
      (listed : (mark, base) ∈ baseMarks) (digits : Separated base text values)
      (nonempty : values ≠ []) :
      WritesNumber ('0' :: mark :: text) (Nat.ofDigits base values.reverse)

def suffixLetters : List Char := ['u', 'U', 'l', 'L']

def bare (literal : String) : List Char :=
  ((literal.toList.reverse.dropWhile isIntegerSuffix).reverse).filter (· ≠ '_')

structure InNumber (character : Char) : Prop where
  noSuffix : isIntegerSuffix character = false
  visible : Text.isBlank character = false

instance (character : Char) : Decidable (InNumber character) :=
  decidable_of_iff (_ ∧ _) ⟨fun all => ⟨all.1, all.2⟩, fun all => ⟨all.1, all.2⟩⟩

section Digits

variable {base value : Nat} {digit : Char} {text : List Char} {values : List Nat}

theorem digit_cases (isDigit : HexDigit digit value) : InNumber digit ∧ digit ≠ '_' := by
  have cases : ∀ value < 16,
      (InNumber value.digitChar ∧ value.digitChar ≠ '_') ∧
        (InNumber value.digitChar.toUpper ∧ value.digitChar.toUpper ≠ '_') := by decide +kernel
  obtain ⟨small, lower | upper⟩ := isDigit
  · rw [lower]
    exact (cases value small).1
  · rw [upper]
    exact (cases value small).2

theorem digit_of_base (isDigit : DigitOf base digit value) :
    Numeral.isDigit base digit = true := by
  unfold Numeral.isDigit
  rw [(is_hex_of_digit isDigit.1).2]
  exact decide_eq_true isDigit.2

theorem decimal_digit (isDigit : DigitOf 10 digit value) : digit.isDigit = true := by
  have cases : ∀ value < 10,
      value.digitChar.isDigit = true ∧ value.digitChar.toUpper.isDigit = true := by decide
  obtain ⟨⟨-, lower | upper⟩, small⟩ := isDigit
  · rw [lower]
    exact (cases value small).1
  · rw [upper]
    exact (cases value small).2

theorem filter_digit (isDigit : digit ≠ '_') (text : List Char) :
    (digit :: text).filter (· ≠ '_') = digit :: text.filter (· ≠ '_') :=
  List.filter_cons_of_pos (decide_eq_true isDigit)

theorem Separated.digits (separated : Separated base text values) :
    List.Forall₂ (DigitOf base) (text.filter (· ≠ '_')) values := by
  induction separated with
  | nothing => exact .nil
  | digit isDigit _ induction =>
      rw [filter_digit (digit_cases isDigit.1).2]
      exact .cons isDigit induction
  | separator _ induction =>
      rw [List.filter_cons_of_neg (by decide)]
      exact induction

theorem Separated.in_number (separated : Separated base text values) :
    ∀ character ∈ text, InNumber character := by
  induction separated with
  | nothing => simp
  | digit isDigit _ induction =>
      exact List.forall_mem_cons.mpr ⟨(digit_cases isDigit.1).1, induction⟩
  | separator _ induction => exact List.forall_mem_cons.mpr ⟨by decide, induction⟩

theorem read_nat_of_digits {digits : List Char} (each : List.Forall₂ (DigitOf base) digits values)
    (nonempty : values ≠ []) (few : base = 10 → values.length ≤ 4300) :
    Numeral.readNat base digits = .ok (Nat.ofDigits base values.reverse) := by
  have present : digits ≠ [] := by
    rintro rfl
    cases each
    exact nonempty rfl
  have belong : ∀ digit ∈ digits, Numeral.isDigit base digit = true := by
    intro digit member
    obtain ⟨value, -, isDigit⟩ := forall_two_member each.flip member
    exact digit_of_base isDigit
  have number : Numeral.value base digits = Nat.ofDigits base values.reverse :=
    value_of_digits (each.imp fun _ _ isDigit => isDigit.1)
  rw [Numeral.read_nat_digits present belong, if_neg, number]
  rintro ⟨isTen, tooMany⟩
  rw [each.length_eq] at tooMany
  exact absurd tooMany (Nat.not_lt.mpr (few isTen))

theorem unmarked {digits : List Char} (each : List.Forall₂ (DigitOf 10) digits values) {mark : Char}
    (listed : mark ∈ baseMarks.map (·.1)) {rest : List Char} : digits ≠ '0' :: mark :: rest := by
  have marks : ((baseMarks.map (·.1)).all fun mark => !Numeral.isDigit 10 mark) = true := by
    decide +kernel
  have noDigit := List.all_eq_true.mp marks mark listed
  rintro rfl
  obtain ⟨value, -, isDigit⟩ := forall_two_member each.flip
    (List.mem_cons_of_mem _ List.mem_cons_self)
  rw [digit_of_base isDigit] at noDigit
  cases noDigit

end Digits

section Numbers

variable {text : List Char} {number : Nat}

theorem WritesNumber.in_number (writes : WritesNumber text number) :
    ∀ character ∈ text, InNumber character := by
  cases writes with
  | decimal isDigit later _ =>
      exact List.forall_mem_cons.mpr ⟨(digit_cases isDigit.1).1, later.in_number⟩
  | marked listed digits _ =>
      have marks : ∀ mark ∈ baseMarks, InNumber mark.1 := by decide
      exact List.forall_mem_cons.mpr
        ⟨by decide, List.forall_mem_cons.mpr ⟨marks _ listed, digits.in_number⟩⟩

theorem suffix_letter {letter : Char} (listed : letter ∈ suffixLetters) :
    isIntegerSuffix letter = true ∧ Text.isBlank letter = false := by
  unfold suffixLetters at listed
  simp only [List.mem_cons, List.not_mem_nil, or_false] at listed
  rcases listed with rfl | rfl | rfl | rfl
  all_goals decide

theorem without_letters (writes : WritesNumber text number) {suffix : List Char}
    (letters : ∀ letter ∈ suffix, letter ∈ suffixLetters) :
    ((text ++ suffix).reverse.dropWhile isIntegerSuffix).reverse = text := by
  have dropped : ∀ letter ∈ suffix.reverse, isIntegerSuffix letter = true :=
    fun letter member => (suffix_letter (letters letter (List.mem_reverse.mp member))).1
  have kept : text.reverse.dropWhile isIntegerSuffix = text.reverse := by
    apply List.dropWhile_eq_self_iff.mpr
    intro present
    have member := List.mem_reverse.mp (List.getElem_mem present)
    exact ne_true_of_eq_false (writes.in_number _ member).noSuffix
  rw [List.reverse_append, List.dropWhile_append_of_pos dropped, kept, List.reverse_reverse]

/-- Without its suffix and without separators a literal of digits is one of base ten. -/
theorem integer_of_digits {literal : String} {digits : List Char} {values : List Nat}
    (left : bare literal = digits) (each : List.Forall₂ (DigitOf 10) digits values)
    (nonempty : values ≠ []) (few : values.length ≤ 4300) :
    integer? literal = some (Nat.ofDigits 10 values.reverse : Nat) := by
  have read := read_nat_of_digits each nonempty fun _ => few
  unfold bare at left
  unfold integer?
  dsimp only
  rw [left]
  split
  · exact absurd rfl (unmarked each (by decide))
  · exact absurd rfl (unmarked each (by decide))
  · exact absurd rfl (unmarked each (by decide))
  · exact absurd rfl (unmarked each (by decide))
  · cases each with
    | nil => exact absurd rfl nonempty
    | cons isDigit _ =>
        rw [Numeral.read_int_ascii (decimal_digit isDigit), read]
        rfl

theorem integer_of_marked {literal : String} {mark : Char} {base : Nat} {digits : List Char}
    {values : List Nat} (left : bare literal = '0' :: mark :: digits)
    (listed : (mark, base) ∈ baseMarks) (each : List.Forall₂ (DigitOf base) digits values)
    (nonempty : values ≠ []) : integer? literal = some (Nat.ofDigits base values.reverse : Nat) := by
  have notTen : ∀ mark ∈ baseMarks, mark.2 ≠ 10 := by decide
  have read := read_nat_of_digits each nonempty fun isTen => absurd isTen (notTen _ listed)
  have denoted := congrArg
    (fun read : Except Numeral.Unreadable Nat => read.toOption.map fun n => (n : Int)) read
  unfold bare at left
  unfold integer?
  dsimp only
  rw [left]
  unfold baseMarks at listed
  simp only [List.mem_cons, List.not_mem_nil, or_false, Prod.mk.injEq] at listed
  rcases listed with ⟨rfl, rfl⟩ | ⟨rfl, rfl⟩ | ⟨rfl, rfl⟩ | ⟨rfl, rfl⟩
  all_goals exact denoted

theorem integer_of_number (writes : WritesNumber text number) {suffix : List Char}
    (letters : ∀ letter ∈ suffix, letter ∈ suffixLetters) :
    integer? (String.ofList (text ++ suffix)) = some (number : Int) := by
  have left : bare (String.ofList (text ++ suffix)) = text.filter (· ≠ '_') := by
    unfold bare
    rw [String.toList_ofList, without_letters writes letters]
  cases writes with
  | decimal isDigit later few =>
      rw [filter_digit (digit_cases isDigit.1).2] at left
      exact integer_of_digits left (.cons isDigit later.digits) (List.cons_ne_nil _ _) few
  | marked listed digits nonempty =>
      have apart : ∀ mark ∈ baseMarks, mark.1 ≠ '_' := by decide
      rw [filter_digit (by decide), filter_digit (apart _ listed)] at left
      exact integer_of_marked left listed digits.digits nonempty

end Numbers

end Literal

namespace Text

theorem trim_begins {text : String} {first : Char} (begins : text.toList.head? = some first)
    (visible : isBlank first = false) : (trim text).toList.head? = some first := by
  obtain ⟨rest, whole⟩ := List.head?_eq_some_iff.mp begins
  unfold trim trimChars trimLeft trimRight
  rw [String.toList_ofList, whole, List.dropWhile_cons_of_neg (ne_true_of_eq_false visible),
    List.reverse_cons, List.dropWhile_append]
  split
  · rw [List.dropWhile_cons_of_neg (ne_true_of_eq_false visible)]
    rfl
  · rw [List.reverse_append]
    rfl

end Text

namespace Source

/-- An expression that is put in parentheses and behind minus signs, some or none, with the number
of the signs. Comments may follow the inner expression in parentheses, and stand behind a sign. -/
inductive Signed (source : Source) (inner : Node) : Nat → Node → Prop
  | bare : Signed source inner 0 inner
  | parenthesized {count : Nat} {node operand : Node}
      (isParenthesized : node.kind = "parenthesized_expression")
      (first : node.namedChildren.head? = some operand)
      (within : Signed source inner count operand) : Signed source inner count node
  | negated {count : Nat} {node sign operand : Node}
      (isPrefixed : node.kind = "prefix_unary_expression")
      (begins : (source.text node).toList.head? = some '-')
      (front : node.children.head? = some sign) (isSign : sign.kind = "-")
      (last : node.namedChildren.getLast? = some operand)
      (within : Signed source inner count operand) : Signed source inner (count + 1) node

end Source

namespace Expression

theorem named_said (source : Source) (node : Node) :
    (node.children.zip (ofNodes source node.children)).filter (fun part => part.1.named) =
      node.namedChildren.map fun child => (child, ofNode source child) := by
  unfold Node.namedChildren
  induction node.children with
  | nil => rfl
  | cons child rest induction =>
      rw [ofNodes, List.zip_cons_cons, List.filter_cons, List.filter_cons, induction]
      by_cases named : child.named = true <;> simp [named]

theorem of_node_integer {source : Source} {node : Node}
    (isInteger : node.kind = "integer_literal") :
    ofNode source node =
      constant ((Literal.integer? (Text.trim (source.text node))).map .integer) := by
  rw [of_node_assembled]
  unfold assemble
  dsimp only
  rw [isInteger]
  rfl

theorem of_node_parenthesized {source : Source} {node operand : Node}
    (isParenthesized : node.kind = "parenthesized_expression")
    (first : node.namedChildren.head? = some operand) :
    ofNode source node = .parenthesized (ofNode source operand) := by
  rw [of_node_assembled]
  unfold assemble
  dsimp only
  rw [named_said, List.head?_map, first, isParenthesized]
  rfl

theorem of_node_negated {source : Source} {node operand : Node}
    (isPrefixed : node.kind = "prefix_unary_expression")
    (begins : (Text.trim (source.text node)).toList.head? = some '-')
    (last : node.namedChildren.getLast? = some operand) :
    ofNode source node = .negated (ofNode source operand) := by
  rw [of_node_assembled]
  unfold assemble
  dsimp only
  rw [named_said, List.getLast?_map, last, isPrefixed, begins]
  rfl

/-- Every sign changes the sign of the number once. -/
theorem fold_signed {source : Source} {inner node : Node} {count : Nat} {number : Int}
    (signed : source.Signed inner count node)
    (own : ofNode source inner = constant (some (.integer number)))
    (lookup : String → Logged Folding) :
    (ofNode source node).fold lookup = pure (some (.integer ((-1) ^ count * number))) := by
  induction signed with
  | bare =>
      rw [own, pow_zero, one_mul]
      rfl
  | parenthesized isParenthesized first _ induction =>
      rw [of_node_parenthesized isParenthesized first, fold, induction]
  | @negated count node sign operand isPrefixed begins _ _ last _ induction =>
      have sign : -((-1) ^ count * number) = (-1) ^ (count + 1) * number := by
        rw [pow_succ, mul_neg_one, neg_mul]
      rw [of_node_negated isPrefixed (Text.trim_begins begins (by decide)) last, fold, induction,
        ← sign]
      rfl

end Expression

/-- A literal denotes the number that it writes, whatever letters follow, and behind minus signs it
folds to that number with the sign that they give it, whatever the names in the program mean. -/
theorem integer_spelled {text suffix : List Char} {number : Nat}
    (writes : Literal.WritesNumber text number)
    (letters : ∀ letter ∈ suffix, letter ∈ Literal.suffixLetters) :
    Literal.integer? (String.ofList (text ++ suffix)) = some (number : Int) ∧
      ∀ (source : Source) (literal node : Node) (count : Nat) (lookup : String → Logged Folding),
        literal.kind = "integer_literal" →
        source.text literal = String.ofList (text ++ suffix) →
        source.Signed literal count node →
          (Expression.ofNode source node).fold lookup =
            pure (some (.integer ((-1) ^ count * (number : Int)))) := by
  have denoted := Literal.integer_of_number writes letters
  refine ⟨denoted, fun source literal node count lookup isInteger spelled signed => ?_⟩
  have visible : ∀ character ∈ text ++ suffix, Text.isBlank character = false := by
    intro character member
    rcases List.mem_append.mp member with inNumber | letter
    · exact (writes.in_number character inNumber).visible
    · exact (Literal.suffix_letter (letters character letter)).2
  have trimmed : Text.trimChars (text ++ suffix) = text ++ suffix :=
    Text.trim_chars_eq (fun character first => visible character (List.mem_of_head? first))
      fun character last => visible character (List.mem_of_getLast? last)
  have own : Expression.ofNode source literal =
      Expression.constant (some (.integer (number : Int))) := by
    rw [Expression.of_node_integer isInteger, spelled, Text.trim, String.toList_ofList, trimmed,
      denoted]
    rfl
  exact Expression.fold_signed signed own lookup

section Samples

open Marker (branch leaf token)

def signedNumber : Source :=
  { path := "X.cs"
    bytes := Text.Utf8.encode "-(- 0x_fFuL)"
    root :=
      branch "prefix_unary_expression" 0 12 [
        token "-" 0 1,
        branch "parenthesized_expression" 1 12 [
          token "(" 1 2,
          branch "prefix_unary_expression" 2 11 [
            token "-" 2 3,
            leaf "integer_literal" 4 11],
          token ")" 11 12]] }

theorem integer_spelled_signed :
    Literal.WritesNumber "0x_fF".toList 255 ∧
      (∀ letter ∈ "uL".toList, letter ∈ Literal.suffixLetters) ∧
      Literal.integer? "0x_fFuL" = some 255 ∧
      signedNumber.Signed (leaf "integer_literal" 4 11) 2 signedNumber.root ∧
      ∀ lookup, (Expression.ofNode signedNumber signedNumber.root).fold lookup =
        pure (some (.integer 255)) := by
  have digits : Literal.Separated 16 ['_', 'f', 'F'] [15, 15] :=
    .separator (.digit (by decide) (.digit (by decide) .nothing))
  have writes : Literal.WritesNumber "0x_fF".toList 255 :=
    .marked (by decide) digits (List.cons_ne_nil _ _)
  have letters : ∀ letter ∈ "uL".toList, letter ∈ Literal.suffixLetters := by
    simp [Literal.suffixLetters]
  have signed : signedNumber.Signed (leaf "integer_literal" 4 11) 2 signedNumber.root :=
    .negated rfl (by decide +kernel) rfl rfl rfl
      (.parenthesized rfl rfl (.negated rfl (by decide +kernel) rfl rfl rfl .bare))
  obtain ⟨denoted, folds⟩ := integer_spelled writes letters
  have folded := fun lookup => folds signedNumber _ _ 2 lookup rfl (by decide +kernel) signed
  exact ⟨writes, letters, denoted, signed, folded⟩

end Samples

end PropertyGen
