import Mathlib.Data.List.Chain
import PropertyGen.Text.Blank
import PropertyGen.Text.Pieces

/-!
Words between blanks. A text on one line has its words with one space between them; squeezing a
text puts it on one line and keeps its words.
-/

namespace PropertyGen.Text

attribute [grind =] words

theorem words_blank {blank : Char} (parting : isBlank blank = true) (rest : List Char) :
    words (blank :: rest) = words rest := by
  simp [words, parting]

theorem words_last {first : Char} (plain : isBlank first = false) :
    words [first] = [[first]] := by
  grind

theorem words_parted {first blank : Char} (plain : isBlank first = false)
    (parting : isBlank blank = true) (rest : List Char) :
    words (first :: blank :: rest) = [first] :: words (blank :: rest) := by
  grind

theorem words_attached {first next : Char} (plain : isBlank first = false)
    (attached : isBlank next = false) (rest : List Char) :
    words (first :: next :: rest) = attach first (words (next :: rest)) := by
  rw [words]
  simp only [plain, attached, Bool.false_eq_true, if_false]
  unfold attach
  cases words (next :: rest) <;> rfl

theorem words_ne_nil {first : Char} (plain : isBlank first = false) (rest : List Char) :
    words (first :: rest) ≠ [] := by
  cases rest with
  | nil => simp [words_last plain]
  | cons next rest =>
      by_cases parting : isBlank next = true
      · simp [words_parted plain parting]
      · rw [words_attached plain (by simpa using parting)]
        unfold attach
        cases words (next :: rest) <;> simp

theorem words_eq_nil {text : List Char} : words text = [] ↔ text.all isBlank = true := by
  induction text with
  | nil => simp [words]
  | cons first rest induction =>
      cases parting : isBlank first with
      | true => simp [words_blank parting, parting, induction]
      | false => simp [words_ne_nil parting, parting]

theorem attach_append {character : Char} {pieces : List (List Char)} (some : pieces ≠ [])
    (more : List (List Char)) : attach character (pieces ++ more) = attach character pieces ++ more := by
  cases pieces with
  | nil => exact absurd rfl some
  | cons piece rest => rfl

theorem words_append_blank {blank : Char} (parting : isBlank blank = true)
    (front back : List Char) : words (front ++ blank :: back) = words front ++ words back := by
  induction front with
  | nil => simp [words_blank parting, words]
  | cons first rest induction =>
      by_cases firstBlank : isBlank first = true
      · simp [words_blank firstBlank, induction]
      · have plain : isBlank first = false := by simpa using firstBlank
        cases rest with
        | nil => simp [words_parted plain parting, words_blank parting, words_last plain]
        | cons next rest =>
            simp only [List.cons_append] at induction ⊢
            by_cases nextBlank : isBlank next = true
            · simp [words_parted plain nextBlank, induction]
            · have attached : isBlank next = false := by simpa using nextBlank
              rw [words_attached plain attached, words_attached plain attached, induction,
                attach_append (words_ne_nil attached rest)]

structure IsWord (word : List Char) : Prop where
  nonempty : word ≠ []
  clean : ∀ character ∈ word, isBlank character = false

theorem words_of_word {word : List Char} (isWord : IsWord word) : words word = [word] := by
  obtain ⟨nonempty, clean⟩ := isWord
  induction word with
  | nil => exact absurd rfl nonempty
  | cons first rest induction =>
      have plain := clean first List.mem_cons_self
      cases rest with
      | nil => exact words_last plain
      | cons next rest =>
          have others := fun character member => clean character (List.mem_cons_of_mem _ member)
          have attached := others next List.mem_cons_self
          rw [words_attached plain attached, induction (List.cons_ne_nil _ _) others]
          rfl

theorem mem_words {text word : List Char} (member : word ∈ words text) :
    IsWord word ∧ ∀ character ∈ word, character ∈ text := by
  induction text generalizing word with
  | nil => simp [words] at member
  | cons first rest induction =>
      by_cases firstBlank : isBlank first = true
      · rw [words_blank firstBlank] at member
        obtain ⟨isWord, inside⟩ := induction member
        exact ⟨isWord, fun character found => List.mem_cons_of_mem _ (inside character found)⟩
      · have plain : isBlank first = false := by simpa using firstBlank
        have alone : IsWord [first] ∧ ∀ character ∈ [first], character ∈ first :: rest :=
          ⟨⟨List.cons_ne_nil _ _, by simpa using plain⟩, by simp⟩
        have later {other : List Char} (listed : other ∈ words rest) :
            IsWord other ∧ ∀ character ∈ other, character ∈ first :: rest :=
          ⟨(induction listed).1, fun character found =>
            List.mem_cons_of_mem _ ((induction listed).2 character found)⟩
        cases rest with
        | nil =>
            rw [words_last plain] at member
            simpa [List.mem_singleton.mp member] using alone
        | cons next rest =>
            by_cases nextBlank : isBlank next = true
            · rw [words_parted plain nextBlank] at member
              rcases List.mem_cons.mp member with rfl | listed
              · exact alone
              · exact later listed
            · rw [words_attached plain (by simpa using nextBlank)] at member
              cases parts : words (next :: rest) with
              | nil =>
                  rw [parts] at member
                  simpa [List.mem_singleton.mp member] using alone
              | cons piece more =>
                  rw [parts] at member
                  rcases List.mem_cons.mp member with rfl | listed
                  · obtain ⟨isWord, inside⟩ := later (parts ▸ List.mem_cons_self)
                    refine ⟨⟨List.cons_ne_nil _ _, ?_⟩, ?_⟩
                    · exact List.forall_mem_cons.mpr ⟨plain, isWord.clean⟩
                    · exact List.forall_mem_cons.mpr ⟨List.mem_cons_self, inside⟩
                  · exact later (parts ▸ List.mem_cons_of_mem _ listed)

def spaced (parts : List (List Char)) : List Char := [' '].intercalate parts

theorem spaced_cons (word : List Char) {rest : List (List Char)} (more : rest ≠ []) :
    spaced (word :: rest) = word ++ ' ' :: spaced rest := by
  unfold spaced
  rw [List.intercalate_cons_of_ne_nil more]
  simp

theorem words_spaced {parts : List (List Char)} (each : ∀ word ∈ parts, IsWord word) :
    words (spaced parts) = parts := by
  induction parts with
  | nil => rfl
  | cons word rest induction =>
      obtain ⟨isWord, others⟩ := List.forall_mem_cons.mp each
      cases rest with
      | nil => simpa [spaced] using words_of_word isWord
      | cons next rest =>
          rw [spaced_cons word (List.cons_ne_nil _ _), words_append_blank (by decide),
            words_of_word isWord, induction others]
          rfl

theorem words_squeeze (text : List Char) : words (squeezeChars text) = words text :=
  words_spaced fun _ member => (mem_words member).1

theorem squeeze_eq_nil {text : List Char} : squeezeChars text = [] ↔ text.all isBlank = true := by
  rw [← words_eq_nil]
  refine ⟨fun none => ?_, fun none => by simp [squeezeChars, none]⟩
  rw [← words_squeeze, none, words]

/-- A text on one line: it has something on it, no blanks at its ends, and no blanks in it but
single spaces. -/
structure OneLine (text : List Char) : Prop where
  nonempty : text ≠ []
  begins : ∀ character ∈ text.head?, isBlank character = false
  ends : ∀ character ∈ text.getLast?, isBlank character = false
  spaces : ∀ character ∈ text, isBlank character = true → character = ' '
  single : text.IsChain fun first second => ¬ (isBlank first = true ∧ isBlank second = true)

theorem trim_chars_eq {text : List Char} (begins : ∀ character ∈ text.head?, isBlank character = false)
    (ends : ∀ character ∈ text.getLast?, isBlank character = false) : trimChars text = text := by
  have kept : ∀ characters : List Char,
      (∀ character ∈ characters.head?, isBlank character = false) →
        characters.dropWhile isBlank = characters := by
    intro characters first
    cases characters with
    | nil => rfl
    | cons character rest =>
        exact List.dropWhile_cons_of_neg (by simp [first character (by simp)])
  rw [trimChars, trimLeft, kept text begins, trimRight, kept text.reverse, List.reverse_reverse]
  intro character last
  exact ends character (by simpa using last)

theorem one_line_of_word {word : List Char} (isWord : IsWord word) : OneLine word := by
  obtain ⟨nonempty, clean⟩ := isWord
  refine ⟨nonempty, ?_, ?_, ?_, ?_⟩
  · exact fun character first => clean character (List.mem_of_head? first)
  · exact fun character last => clean character (List.mem_of_getLast? last)
  · intro character member blank
    simp [clean character member] at blank
  · apply List.Pairwise.isChain
    apply List.pairwise_of_forall_mem_list
    intro first inside second _ both
    simp [clean first inside] at both

theorem one_line_spaced {parts : List (List Char)} (some : parts ≠ [])
    (each : ∀ word ∈ parts, IsWord word) : OneLine (spaced parts) := by
  induction parts with
  | nil => exact absurd rfl some
  | cons word rest induction =>
      obtain ⟨isWord, others⟩ := List.forall_mem_cons.mp each
      cases rest with
      | nil => simpa [spaced] using one_line_of_word isWord
      | cons next rest =>
          have before := one_line_of_word isWord
          have behind := induction (List.cons_ne_nil _ _) others
          rw [spaced_cons word (List.cons_ne_nil _ _)]
          generalize spaced (next :: rest) = tail at behind
          refine ⟨by simp, ?_, ?_, ?_, ?_⟩
          · intro character first
            rw [List.head?_append_of_ne_nil _ before.nonempty] at first
            exact before.begins character first
          · intro character last
            rw [List.getLast?_append_of_ne_nil _ (List.cons_ne_nil _ _),
              List.getLast?_cons_of_ne_nil behind.nonempty] at last
            exact behind.ends character last
          · intro character member blank
            rcases List.mem_append.mp member with inWord | inTail
            · exact before.spaces character inWord blank
            · rcases List.mem_cons.mp inTail with rfl | later
              · rfl
              · exact behind.spaces character later blank
          · apply List.isChain_append.mpr
            refine ⟨before.single, List.isChain_cons.mpr ⟨?_, behind.single⟩, ?_⟩
            · intro character first both
              simp [behind.begins character first] at both
            · intro character last other _ both
              simp [before.ends character last] at both

theorem one_line_squeeze {text : List Char} (left : squeezeChars text ≠ []) :
    OneLine (squeezeChars text) := by
  apply one_line_spaced
  · intro none
    exact left (by simp [squeezeChars, none])
  · exact fun _ member => (mem_words member).1

theorem mem_squeeze {text : List Char} {character : Char}
    (member : character ∈ squeezeChars text) : character = ' ' ∨ character ∈ text := by
  have mem_spaced : ∀ parts : List (List Char), character ∈ spaced parts →
      character = ' ' ∨ ∃ word ∈ parts, character ∈ word := by
    intro parts inside
    induction parts with
    | nil => simp [spaced] at inside
    | cons word rest induction =>
        by_cases more : rest = []
        · subst more
          exact .inr ⟨word, by simp, by simpa [spaced] using inside⟩
        · rw [spaced_cons word more] at inside
          rcases List.mem_append.mp inside with inWord | later
          · exact .inr ⟨word, List.mem_cons_self, inWord⟩
          · rcases List.mem_cons.mp later with space | inTail
            · exact .inl space
            · rcases induction inTail with space | ⟨other, listed, found⟩
              · exact .inl space
              · exact .inr ⟨other, List.mem_cons_of_mem _ listed, found⟩
  rcases mem_spaced _ member with space | ⟨word, listed, found⟩
  · exact .inl space
  · exact .inr ((mem_words listed).2 character found)

/-- A text on one line is its words with spaces between them, so squeezing leaves it alone, also
with blanks around it. -/
theorem squeeze_between {blank other : Char} (parting : isBlank blank = true)
    (otherParting : isBlank other = true) (text : List Char) :
    squeezeChars (blank :: squeezeChars text ++ [other]) = squeezeChars text := by
  have kept : words (blank :: squeezeChars text ++ [other]) = words text := by
    rw [List.cons_append, words_blank parting, words_append_blank otherParting, words_squeeze]
    simp [words]
  rw [squeezeChars, kept, squeezeChars]

end PropertyGen.Text
