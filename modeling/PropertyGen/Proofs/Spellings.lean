import Mathlib.Data.Nat.Digits.Defs
import PropertyGen.Constant.Literal
import PropertyGen.Proofs.Runs

/-!
The spellings of a text as a literal, and that decoding undoes each of them. A regular literal
leaves a choice at every character: the character itself, its simple escape, or its number. In a
verbatim literal there is none.
-/

namespace PropertyGen.Literal

def HexDigit (digit : Char) (value : Nat) : Prop :=
  value < 16 ∧ (digit = value.digitChar ∨ digit = value.digitChar.toUpper)

instance (digit : Char) (value : Nat) : Decidable (HexDigit digit value) :=
  inferInstanceAs (Decidable (_ ∧ _))

/-- Digits that write a number, the greatest first; zeros may stand in front. -/
def HexNumber (digits : List Char) (code : Nat) : Prop :=
  ∃ values, List.Forall₂ HexDigit digits values ∧ Nat.ofDigits 16 values.reverse = code

def simpleEscapes : List (Char × Char) :=
  [('\'', '\''), ('"', '"'), ('\\', '\\'), ('0', '\x00'), ('a', '\x07'), ('b', '\x08'),
   ('e', '\x1b'), ('f', '\x0c'), ('n', '\n'), ('r', '\r'), ('t', '\t'), ('v', '\x0b')]

/-- The letters of the numeric escapes with the least and the greatest number of digits. -/
def numericEscapes : List (Char × Nat × Nat) := [('u', 4, 4), ('U', 8, 8), ('x', 1, 4)]

/-- The first text spells the second one in a regular literal with a quote. A number with fewer
digits than it may have is not followed by a digit. Line breaks are characters like the others,
though no regular literal contains one. -/
inductive Spells (quote : Char) : List Char → List Char → Prop
  | nothing : Spells quote [] []
  | itself {character : Char} {spelling text : List Char} (notQuote : character ≠ quote)
      (notBackslash : character ≠ '\\') (later : Spells quote spelling text) :
      Spells quote (character :: spelling) (character :: text)
  | simple {letter character : Char} {spelling text : List Char}
      (listed : (letter, character) ∈ simpleEscapes) (later : Spells quote spelling text) :
      Spells quote ('\\' :: letter :: spelling) (character :: text)
  | numeric {letter character : Char} (least most : Nat) (digits : List Char)
      {spelling text : List Char} (listed : (letter, least, most) ∈ numericEscapes)
      (enough : least ≤ digits.length) (fits : digits.length ≤ most)
      (number : HexNumber digits character.toNat)
      (apart : digits.length < most → ∀ next ∈ spelling.head?, ∀ value, ¬ HexDigit next value)
      (later : Spells quote spelling text) :
      Spells quote ('\\' :: letter :: (digits ++ spelling)) (character :: text)

section Numbers

theorem is_hex_of_digit {digit : Char} {value : Nat} (isDigit : HexDigit digit value) :
    isHex digit = true ∧ Numeral.digit? digit = some value := by
  have cases : ∀ value < 16,
      (isHex value.digitChar = true ∧ Numeral.digit? value.digitChar = some value) ∧
        (isHex value.digitChar.toUpper = true ∧
          Numeral.digit? value.digitChar.toUpper = some value) := by decide +kernel
  obtain ⟨small, lower | upper⟩ := isDigit
  · rw [lower]
    exact (cases value small).1
  · rw [upper]
    exact (cases value small).2

theorem digit_of_is_hex {character : Char} (hex : isHex character = true) :
    ∃ value, HexDigit character value := by
  have lower : ∀ code < 128, isHex (Char.ofNat code) = true →
      ∃ value < 16, HexDigit (Char.ofNat code) value := by decide +kernel
  have small : character.toNat < 128 := by
    unfold isHex at hex
    simp only [Bool.or_eq_true, Bool.and_eq_true, decide_eq_true_eq, Char.le_def,
      UInt32.le_iff_toNat_le] at hex
    show character.val.toNat < 128
    rcases hex with (digit | small) | large
    · exact Nat.lt_of_le_of_lt digit.2 (by decide)
    · exact Nat.lt_of_le_of_lt small.2 (by decide)
    · exact Nat.lt_of_le_of_lt large.2 (by decide)
  have same := Char.ofNat_toNat character
  rw [← same] at hex ⊢
  obtain ⟨value, -, isDigit⟩ := lower character.toNat small (by rwa [same] at hex ⊢)
  exact ⟨value, isDigit⟩

theorem value_of_digits {base : Nat} {digits : List Char} {values : List Nat}
    (each : List.Forall₂ HexDigit digits values) :
    Numeral.value base digits = Nat.ofDigits base values.reverse := by
  have step (total : Nat) :
      digits.foldl (fun total character => total * base + (Numeral.digit? character).getD 0) total =
        values.foldl (fun total value => value + base * total) total := by
    induction each generalizing total with
    | nil => rfl
    | @cons digit value digits values isDigit _ induction =>
        rw [List.foldl_cons, List.foldl_cons, induction, (is_hex_of_digit isDigit).2,
          Option.getD_some, Nat.mul_comm, Nat.add_comm]
  rw [Nat.ofDigits_eq_foldr, List.foldr_reverse]
  exact step 0

theorem take_hex_append {digits rest : List Char} {limit : Nat}
    (hex : ∀ digit ∈ digits, isHex digit = true) (fits : digits.length ≤ limit)
    (apart : digits.length < limit → ∀ next ∈ rest.head?, isHex next = false) :
    takeHex limit (digits ++ rest) = (digits, rest) := by
  induction digits generalizing limit with
  | nil =>
      cases limit with
      | zero => rfl
      | succ limit =>
          cases rest with
          | nil => rfl
          | cons next rest =>
              have other := apart (Nat.succ_pos limit) next rfl
              simp [takeHex, other]
  | cons digit digits induction =>
      obtain ⟨own, others⟩ := List.forall_mem_cons.mp hex
      cases limit with
      | zero => cases fits
      | succ limit =>
          have below : takeHex limit (digits ++ rest) = (digits, rest) := by
            apply induction others (Nat.le_of_succ_le_succ fits)
            exact fun fewer => apart (Nat.succ_lt_succ fewer)
          rw [List.cons_append, takeHex, if_pos own, below]

theorem code_point_of_number {digits : List Char} {character : Char}
    (number : HexNumber digits character.toNat) : codePoint digits = .ok character := by
  obtain ⟨values, each, code⟩ := number
  have bound : character.toNat < 0x110000 := by
    rcases character.valid with low | high
    · exact Nat.lt_trans low (by decide)
    · exact high.2
  unfold codePoint
  rw [value_of_digits each, code]
  simp only
  rw [if_neg (by omega), if_neg (by omega), CodePoint.of_nat_to_nat]

end Numbers

section Regular

theorem unescape_itself {character : Char} (notBackslash : character ≠ '\\') (rest : List Char) :
    unescape (character :: rest) = (unescape rest).map (.character character :: ·) := by
  rw [unescape]
  · rfl
  · exact fun same _ => notBackslash same
  · exact fun _ _ same _ => notBackslash same

theorem unescape_simple {letter character : Char} (listed : (letter, character) ∈ simpleEscapes)
    (rest : List Char) :
    unescape ('\\' :: letter :: rest) = (unescape rest).map (.character character :: ·) := by
  have escapes : ∀ escape ∈ simpleEscapes, escapeDigits? escape.1 = none ∧
      simpleEscape escape.1 = escape.2 := by decide
  obtain ⟨notNumeric, code⟩ := escapes _ listed
  rw [unescape, notNumeric]
  dsimp only
  rw [code]
  rfl

theorem unescape_numeric {letter character : Char} {least most : Nat} {digits rest : List Char}
    (listed : (letter, least, most) ∈ numericEscapes) (enough : least ≤ digits.length)
    (fits : digits.length ≤ most) (number : HexNumber digits character.toNat)
    (apart : digits.length < most → ∀ next ∈ rest.head?, ∀ value, ¬ HexDigit next value) :
    unescape ('\\' :: letter :: (digits ++ rest)) =
      (unescape rest).map (.character character :: ·) := by
  have escapes : ∀ escape ∈ numericEscapes, escapeDigits? escape.1 = some escape.2 := by decide
  have code := code_point_of_number number
  obtain ⟨values, each, -⟩ := number
  have hex : ∀ digit ∈ digits, isHex digit = true := by
    intro digit member
    obtain ⟨value, -, isDigit⟩ := forall_two_member each.flip member
    exact (is_hex_of_digit isDigit).1
  have taken : takeHex most (digits ++ rest) = (digits, rest) := by
    apply take_hex_append hex fits
    intro fewer next isNext
    rw [← Bool.not_eq_true]
    intro isHexNext
    obtain ⟨value, isDigit⟩ := digit_of_is_hex isHexNext
    exact apart fewer next isNext value isDigit
  rw [unescape, escapes _ listed]
  dsimp only
  rw [taken, if_neg (Nat.not_lt.mpr enough), code]
  rfl

/-- A spelling is read from left to right, each choice as it was made. -/
theorem unescape_spelled {quote : Char} {spelling text : List Char}
    (spells : Spells quote spelling text) : unescape spelling = .ok (text.map .character) := by
  induction spells with
  | nothing =>
      rw [unescape]
      rfl
  | itself notQuote notBackslash later induction =>
      rw [unescape_itself notBackslash, induction]
      rfl
  | simple listed later induction =>
      rw [unescape_simple listed, induction]
      rfl
  | numeric least most digits listed enough fits number apart later induction =>
      rw [unescape_numeric listed enough fits number apart, induction]
      rfl

theorem spelling_begins {quote : Char} (notBackslash : quote ≠ '\\') {spelling text : List Char}
    (spells : Spells quote spelling text) : ∀ first ∈ spelling.head?, first ≠ quote := by
  intro first isFirst
  cases spells with
  | nothing => cases isFirst
  | itself notQuote _ _ =>
      rw [← Option.some.inj isFirst]
      exact notQuote
  | simple _ _ =>
      rw [← Option.some.inj isFirst]
      exact notBackslash.symm
  | numeric _ _ _ _ _ _ _ _ _ =>
      rw [← Option.some.inj isFirst]
      exact notBackslash.symm

end Regular

theorem inner_between (first last : Char) (body : List Char) :
    inner 1 (first :: body ++ [last]) = body := by
  unfold inner
  simp

def suffixes : List String := ["", "u8", "U8"]

theorem without_suffix_append {suffix : String} (listed : suffix ∈ suffixes) {front : List Char}
    {last : Char} (notDigit : last ≠ '8') :
    withoutSuffix (front ++ [last] ++ suffix.toList) = front ++ [last] := by
  unfold suffixes at listed
  simp only [List.mem_cons, List.not_mem_nil, or_false] at listed
  unfold withoutSuffix
  rcases listed with rfl | rfl | rfl
  · simp [notDigit]
  · simp
  · simp

def doubled (text : List Char) : List Char := Text.replaceChar '"' ['"', '"'] text

theorem undouble_doubled (text : List Char) : undouble (doubled text) = text := by
  induction text with
  | nil => rfl
  | cons character rest induction =>
      have whole : doubled (character :: rest) =
          (if character = '"' then ['"', '"'] else [character]) ++ doubled rest := by
        unfold doubled Text.replaceChar
        rw [List.flatMap_cons]
      rw [whole]
      by_cases quote : character = '"'
      · rw [if_pos quote, quote]
        show '"' :: undouble (doubled rest) = _
        rw [induction]
      · rw [if_neg quote, List.singleton_append, undouble, induction]
        exact fun _ same _ => quote same

/-- A regular literal, of which a text in three quotes is none. -/
theorem decode_chars_regular {quote : Char} (isQuote : quote = '"' ∨ quote = '\'')
    {spelling text : List Char} {suffix : String} (listed : suffix ∈ suffixes)
    (spells : Spells quote spelling text) :
    decodeChars (quote :: spelling ++ [quote] ++ suffix.toList) = .ok (text.map .character) := by
  have stripped : withoutSuffix (quote :: spelling ++ [quote] ++ suffix.toList) =
      quote :: spelling ++ [quote] := by
    apply without_suffix_append listed
    rcases isQuote with rfl | rfl <;> decide
  have begins : ∀ first ∈ spelling.head?, first ≠ quote := by
    apply spelling_begins _ spells
    rcases isQuote with rfl | rfl <;> decide
  have body := inner_between quote quote spelling
  unfold decodeChars
  rw [stripped]
  dsimp only
  split
  · next rest same =>
      rcases isQuote with rfl | rfl <;> cases (List.cons_eq_cons.mp same).1
  · next rest same =>
      obtain ⟨isDouble, others⟩ := List.cons_eq_cons.mp same
      cases spelling with
      | nil => cases (List.cons_eq_cons.mp others).2
      | cons first more =>
          have isFirst := (List.cons_eq_cons.mp others).1
          exact absurd (isFirst.trans isDouble.symm) (begins first rfl)
  · rw [body, unescape_spelled spells]

theorem decode_chars_verbatim (text : List Char) {suffix : String} (listed : suffix ∈ suffixes) :
    decodeChars ('@' :: '"' :: doubled text ++ ['"'] ++ suffix.toList) =
      .ok (text.map .character) := by
  have stripped : withoutSuffix ('@' :: '"' :: doubled text ++ ['"'] ++ suffix.toList) =
      '@' :: '"' :: doubled text ++ ['"'] := without_suffix_append listed (by decide)
  unfold decodeChars
  rw [stripped]
  show Except.ok ((undouble (doubled text ++ ['"']).dropLast).map CodePoint.character) = _
  rw [List.dropLast_concat, undouble_doubled]

/-- Decoding undoes every way to write a text as a literal: as a regular one or as a character
literal in each of its spellings, and as a verbatim one, with the suffix or without it. -/
theorem decode_spelled (text : String) {suffix : String} (listed : suffix ∈ suffixes) :
    (∀ spelling : String, Spells '"' spelling.toList text.toList →
      decode ("\"" ++ spelling ++ "\"" ++ suffix) = .ok text) ∧
    decode ("@\"" ++ String.ofList (doubled text.toList) ++ "\"" ++ suffix) = .ok text ∧
    ∀ spelling : String, Spells '\'' spelling.toList text.toList →
      decode ("'" ++ spelling ++ "'" ++ suffix) = .ok text := by
  unfold decode
  simp only [String.toList_append, String.toList_ofList]
  refine ⟨fun spelling spells => ?_, ?_, fun spelling spells => ?_⟩
  · rw [show "\"".toList = ['"'] from rfl, List.singleton_append,
      decode_chars_regular (.inl rfl) listed spells]
    rfl
  · rw [show "@\"".toList = ['@', '"'] from rfl, show "\"".toList = ['"'] from rfl]
    exact decode_chars_verbatim text.toList listed
  · rw [show "'".toList = ['\''] from rfl, List.singleton_append,
      decode_chars_regular (.inr rfl) listed spells]
    rfl

/-- One text with a number of two digits, the character it is followed by, a letter that is no
digit, and a quote. -/
theorem decode_spelled_numbers :
    "u8" ∈ suffixes ∧ decode "\"\\x4A\\u00e9g\\\"\"u8" = .ok "Jég\"" ∧
      decode "@\"Jég\"\"\"u8" = .ok "Jég\"" := by
  have listed : "u8" ∈ suffixes := by decide
  have spells : Spells '"' ['\\', 'x', '4', 'A', '\\', 'u', '0', '0', 'e', '9', 'g', '\\', '"']
      ['J', 'é', 'g', '"'] := by
    refine .numeric 1 4 ['4', 'A'] (by decide) (by decide) (by decide)
      ⟨[4, 10], by decide, by decide⟩ ?_
      (.numeric 4 4 ['0', '0', 'e', '9'] (by decide) (by decide) (by decide)
        ⟨[0, 0, 14, 9], by decide, by decide⟩ (fun fewer => absurd fewer (by decide))
        (.itself (by decide) (by decide) (.simple (by decide) .nothing)))
    intro _ next isNext value isDigit
    rw [← Option.some.inj isNext] at isDigit
    exact absurd (is_hex_of_digit isDigit).1 (by decide)
  have decoded := decode_spelled "Jég\"" listed
  exact ⟨listed, decoded.1 "\\x4A\\u00e9g\\\"" spells, decoded.2.1⟩

end PropertyGen.Literal
