import PropertyGen.Generation.Layout

/-!
Lines of a layout. They end where the line breaks stand, each of them is indented by the blocks
that are open at it, and the braces that stand alone on a line are those around the blocks.
-/

namespace PropertyGen.Layout

def indent (line : Points) : Nat := (line.takeWhile (· = .character ' ')).length

def content (line : Points) : Points := line.dropWhile (· = .character ' ')

/-- Lines whose lone braces are nested, from a depth down to zero. Every line that is not empty is
indented by four spaces for each open block; a brace counts with the line that opens its block. -/
def Nested : Nat → List Points → Prop
  | depth, [] => depth = 0
  | depth, first :: rest =>
      if content first = "\x7b" then indent first = 4 * depth ∧ Nested (depth + 1) rest
      else if content first = "\x7d" then
        ∃ outer, depth = outer + 1 ∧ indent first = 4 * outer ∧ Nested outer rest
      else (first ≠ [] → indent first = 4 * depth) ∧ Nested depth rest

/-- A text for one line: no line break in it, no space in front, and not a brace alone. -/
structure Neat (text : Points) : Prop where
  unbroken : .character '\n' ∉ text
  flush : text.head? ≠ some (.character ' ')
  noOpening : text ≠ "\x7b"
  noClosing : text ≠ "\x7d"

instance (text : Points) : Decidable (Neat text) :=
  decidable_of_iff
    (.character '\n' ∉ text ∧ text.head? ≠ some (.character ' ') ∧ text ≠ "\x7b" ∧ text ≠ "\x7d")
    ⟨fun all => ⟨all.1, all.2.1, all.2.2.1, all.2.2.2⟩,
      fun neat => ⟨neat.unbroken, neat.flush, neat.noOpening, neat.noClosing⟩⟩

/-- A text on one line that tells by its first character that it is no brace and not indented. -/
structure Begun (text : Points) : Prop where
  begins : ∃ first, text.head? = some (.character first) ∧ first ∉ [' ', '\x7b', '\x7d']
  unbroken : .character '\n' ∉ text

theorem Begun.append {front back : Points} (begun : Begun front)
    (unbroken : .character '\n' ∉ back) : Begun (front ++ back) := by
  obtain ⟨first, isFirst, other⟩ := begun.begins
  constructor
  · refine ⟨first, ?_, other⟩
    rw [List.head?_append, isFirst, Option.some_or]
  · rw [List.mem_append, not_or]
    exact ⟨begun.unbroken, unbroken⟩

theorem Begun.append_text {front : Points} {back : String} (begun : Begun front)
    (unbroken : '\n' ∉ back.toList) : Begun (front ++ back) :=
  begun.append (mt Points.character_mem_of_text.mp unbroken)

theorem Begun.ne_nil {text : Points} (begun : Begun text) : text ≠ [] := by
  obtain ⟨first, isFirst, -⟩ := begun.begins
  rintro rfl
  cases isFirst

theorem Begun.neat {text : Points} (begun : Begun text) : Neat text := by
  obtain ⟨first, isFirst, other⟩ := begun.begins
  simp only [List.mem_cons, List.not_mem_nil, or_false, not_or] at other
  have begins {character : Char} (same : text.head? = some (.character character)) :
      first = character := CodePoint.character.inj (Option.some.inj (isFirst.symm.trans same))
  constructor
  case unbroken => exact begun.unbroken
  case flush => exact fun isSpace => other.1 (begins isSpace)
  case noOpening =>
    rintro rfl
    exact other.2.1 (begins rfl)
  case noClosing =>
    rintro rfl
    exact other.2.2 (begins rfl)

mutual

def IsNeat : Layout → Prop
  | .line text => Neat text
  | .block header body => Neat header ∧ header ≠ "" ∧ AreNeat body

def AreNeat : List Layout → Prop
  | [] => True
  | first :: rest => first.IsNeat ∧ AreNeat rest

end

theorem are_neat_iff {layouts : List Layout} :
    AreNeat layouts ↔ ∀ layout ∈ layouts, layout.IsNeat := by
  induction layouts with
  | nil => simp [AreNeat]
  | cons first rest induction => rw [AreNeat, List.forall_mem_cons, induction]

theorem are_neat_append {front back : List Layout} :
    AreNeat (front ++ back) ↔ AreNeat front ∧ AreNeat back := by
  rw [are_neat_iff, are_neat_iff, are_neat_iff, List.forall_mem_append]

theorem lines_of_append (depth : Nat) (front back : List Layout) :
    linesOf depth (front ++ back) = linesOf depth front ++ linesOf depth back := by
  induction front with
  | nil => rfl
  | cons first rest induction => simp [linesOf, induction]

section Indentation

variable {text : Points}

theorem indented_zero (text : Points) : indented 0 text = text := by
  unfold indented
  split
  · next empty => exact empty.symm
  · exact List.nil_append text

theorem indented_filled (depth : Nat) (some : text ≠ []) :
    indented depth text = List.replicate (4 * depth) (.character ' ') ++ text := by
  rw [indented, if_neg some, indentation]

theorem indented_parts (depth : Nat) (flush : text.head? ≠ some (.character ' ')) (some : text ≠ []) :
    indent (indented depth text) = 4 * depth ∧ content (indented depth text) = text := by
  have spaces : ∀ space ∈ List.replicate (4 * depth) (CodePoint.character ' '),
      decide (space = .character ' ') = true := by
    intro space listed
    exact decide_eq_true (List.eq_of_mem_replicate listed)
  obtain ⟨first, rest, rfl⟩ := List.exists_cons_of_ne_nil some
  have notSpace : decide (first = .character ' ') = false :=
    decide_eq_false fun isSpace => flush (congrArg Option.some isSpace)
  unfold indent content
  rw [indented_filled depth some, List.takeWhile_append_of_pos spaces,
    List.dropWhile_append_of_pos spaces, List.takeWhile_cons, List.dropWhile_cons, notSpace]
  simp

def indentedText (depth : Nat) (text : String) : String :=
  if text = "" then "" else String.ofList (List.replicate (4 * depth) ' ') ++ text

theorem indented_text (depth : Nat) (text : String) :
    indented depth text = Points.ofText (indentedText depth text) := by
  unfold indented indentedText
  by_cases empty : text = ""
  · simp [empty]
  · rw [if_neg (mt Points.of_text_eq_nil.mp empty), if_neg empty]
    simp [indentation, Points.ofText]

theorem indented_ne_nil (depth : Nat) (some : text ≠ []) : indented depth text ≠ [] := by
  rw [indented_filled depth some]
  exact List.append_ne_nil_of_right_ne_nil _ some

theorem indented_inj {depth : Nat} {other : Points} :
    indented depth text = indented depth other ↔ text = other := by
  refine ⟨fun same => ?_, congrArg (indented depth)⟩
  by_cases empty : text = []
  · by_cases otherEmpty : other = []
    · rw [empty, otherEmpty]
    · rw [empty, indented, if_pos rfl] at same
      exact absurd same.symm (indented_ne_nil depth otherEmpty)
  · by_cases otherEmpty : other = []
    · rw [otherEmpty, indented.eq_def depth [], if_pos rfl] at same
      exact absurd same (indented_ne_nil depth empty)
    · rw [indented_filled depth empty, indented_filled depth otherEmpty] at same
      exact List.append_cancel_left same

theorem surrogate_in_indented {depth : Nat} {index : Fin 0x800} :
    .surrogate index ∈ indented depth text ↔ .surrogate index ∈ text := by
  unfold indented
  split
  · next empty => rw [empty]
  · simp [indentation]

theorem indented_unbroken (depth : Nat) (unbroken : .character '\n' ∉ text) :
    .character '\n' ∉ indented depth text := by
  unfold indented
  split
  · exact List.not_mem_nil
  · simp [indentation, unbroken]

end Indentation

section Nesting

section Line

variable {depth : Nat} {rest : List Points}

theorem nested_nil : Nested 0 [] := by rw [Nested]

theorem nested_line {text : Points} (neat : Neat text) (nested : Nested depth rest) :
    Nested depth (indented depth text :: rest) := by
  by_cases empty : text = []
  · rw [empty, indented, if_pos rfl, Nested, if_neg (by decide), if_neg (by decide)]
    exact ⟨fun some => absurd rfl some, nested⟩
  · obtain ⟨spaces, shown⟩ := indented_parts depth neat.flush empty
    rw [Nested, shown, if_neg neat.noOpening, if_neg neat.noClosing]
    exact ⟨fun _ => spaces, nested⟩

theorem nested_opening (nested : Nested (depth + 1) rest) :
    Nested depth (indented depth "\x7b" :: rest) := by
  have ⟨flush, filled⟩ : (Points.ofText "\x7b").head? ≠ some (.character ' ') ∧ Points.ofText "\x7b" ≠ [] := by decide
  obtain ⟨spaces, shown⟩ := indented_parts depth flush filled
  rw [Nested, shown, if_pos rfl]
  exact ⟨spaces, nested⟩

theorem nested_closing (nested : Nested depth rest) :
    Nested (depth + 1) (indented depth "\x7d" :: rest) := by
  have ⟨flush, filled⟩ : (Points.ofText "\x7d").head? ≠ some (.character ' ') ∧ Points.ofText "\x7d" ≠ [] := by decide
  obtain ⟨spaces, shown⟩ := indented_parts depth flush filled
  rw [Nested, shown, if_neg (by decide), if_pos rfl]
  exact ⟨depth, rfl, spaces, nested⟩

end Line

-- From here on, the nesting of lines is followed by the lemmas above alone.
attribute [irreducible] Nested

mutual

/-- The lines of a neat layout keep the nesting of the lines behind them. -/
theorem nested_lines : (layout : Layout) → layout.IsNeat → ∀ (depth : Nat) (rest : List Points),
    Nested depth rest → Nested depth (layout.lines depth ++ rest)
  | .line text, neat => by
      intro depth rest nested
      rw [IsNeat] at neat
      rw [lines, List.singleton_append]
      exact nested_line neat nested
  | .block header body, neat => by
      intro depth rest nested
      rw [IsNeat] at neat
      have inside := nested_lines_of body neat.2.2 _ _ (nested_closing nested)
      rw [lines, List.cons_append, List.cons_append, List.append_assoc, List.singleton_append]
      exact nested_line neat.1 (nested_opening inside)

theorem nested_lines_of : (layouts : List Layout) → AreNeat layouts →
    ∀ (depth : Nat) (rest : List Points), Nested depth rest →
      Nested depth (linesOf depth layouts ++ rest)
  | [], _ => by
      intro depth rest nested
      rw [linesOf, List.nil_append]
      exact nested
  | first :: others, neat => by
      intro depth rest nested
      rw [AreNeat] at neat
      rw [linesOf, List.append_assoc]
      exact nested_lines first neat.1 _ _ (nested_lines_of others neat.2 _ _ nested)

end

mutual

theorem lines_unbroken : (layout : Layout) → layout.IsNeat → ∀ depth : Nat,
    ∀ line ∈ layout.lines depth, .character '\n' ∉ line
  | .line text, neat => by
      intro depth
      rw [IsNeat] at neat
      rw [lines, List.forall_mem_singleton]
      exact indented_unbroken depth neat.unbroken
  | .block header body, neat => by
      intro depth
      rw [IsNeat] at neat
      rw [lines, List.cons_append, List.cons_append, List.forall_mem_cons, List.forall_mem_cons,
        List.forall_mem_append, List.forall_mem_singleton]
      exact ⟨indented_unbroken depth neat.1.unbroken, indented_unbroken depth (by decide),
        lines_of_unbroken body neat.2.2 (depth + 1), indented_unbroken depth (by decide)⟩

theorem lines_of_unbroken : (layouts : List Layout) → AreNeat layouts → ∀ depth : Nat,
    ∀ line ∈ linesOf depth layouts, .character '\n' ∉ line
  | [], _ => by
      intro depth line listed
      rw [linesOf] at listed
      cases listed
  | first :: others, neat => by
      intro depth
      rw [AreNeat] at neat
      rw [linesOf, List.forall_mem_append]
      exact ⟨lines_unbroken first neat.1 depth, lines_of_unbroken others neat.2 depth⟩

end

end Nesting

section Text

/-- Parts without empty lines are found again between the empty lines that join them. -/
theorem parts_inj {first second : List (List Points)}
    (parted : ∀ part ∈ first, part ≠ [] ∧ [] ∉ part)
    (alsoParted : ∀ part ∈ second, part ≠ [] ∧ [] ∉ part)
    (same : [[]].intercalate first = [[]].intercalate second) : first = second := by
  have filled : ∀ {parts : List (List Points)}, (∀ part ∈ parts, part ≠ [] ∧ [] ∉ part) →
      [[]].intercalate parts = [] → parts = [] := by
    intro parts parted none
    match parts with
    | [] => rfl
    | [part] =>
        rw [List.intercalate_singleton] at none
        exact absurd none (parted part List.mem_cons_self).1
    | part :: next :: rest =>
        rw [List.intercalate_cons_cons, List.append_assoc] at none
        exact absurd (List.append_eq_nil_iff.mp none).1 (parted part List.mem_cons_self).1
  by_cases none : first = []
  · rw [none, List.intercalate_nil] at same
    rw [none, filled alsoParted same.symm]
  · by_cases otherNone : second = []
    · rw [otherNone, List.intercalate_nil] at same
      exact absurd (filled parted same) none
    · rw [← List.splitOn_intercalate [] (fun part listed => (parted part listed).2) none, same,
        List.splitOn_intercalate [] (fun part listed => (alsoParted part listed).2) otherNone]

theorem intercalate_ended {α : Type} (separator : List α) {parts : List (List α)}
    (some : parts ≠ []) :
    separator.intercalate parts ++ separator = separator.intercalate (parts ++ [[]]) := by
  induction parts with
  | nil => exact absurd rfl some
  | cons first rest induction =>
      cases rest with
      | nil => simp [List.intercalate_cons_cons]
      | cons second more =>
          have later := induction (List.cons_ne_nil second more)
          rw [List.cons_append] at later ⊢
          rw [List.cons_append, List.intercalate_cons_cons, List.intercalate_cons_cons, ← later,
            List.append_assoc]

theorem mem_intercalate {α : Type} {separator : List α} {parts : List (List α)} {element : α}
    (apart : element ∉ separator) :
    element ∈ separator.intercalate parts ↔ ∃ part ∈ parts, element ∈ part := by
  induction parts with
  | nil => simp
  | cons first rest induction =>
      cases rest with
      | nil => simp
      | cons second more => simp [List.intercalate_cons_cons, apart, induction]

def ended (lines : List Points) : Points := lines.flatMap fun line => line ++ Points.ofText "\n"

theorem intercalate_eq_ended {lines : List Points} (some : lines ≠ []) :
    (Points.ofText "\n").intercalate lines ++ "\n" = ended lines := by
  rw [intercalate_ended _ some]
  clear some
  induction lines with
  | nil => rfl
  | cons first rest induction =>
      obtain ⟨next, more, split⟩ := List.exists_cons_of_ne_nil
        (List.append_ne_nil_of_right_ne_nil rest (List.cons_ne_nil [] []) )
      rw [ended, List.flatMap_cons, List.cons_append, split, List.intercalate_cons_cons, ← split,
        induction]
      rfl

/-- A text gives its lines back: line breaks stand between them and behind the last one. -/
theorem split_text {lines : List Points} (unbroken : ∀ line ∈ lines, .character '\n' ∉ line)
    (some : lines ≠ []) :
    ((Points.ofText "\n").intercalate lines ++ "\n").splitOn (.character '\n') =
      lines ++ [[]] := by
  have ended : (Points.ofText "\n").intercalate lines ++ Points.ofText "\n" =
      [CodePoint.character '\n'].intercalate (lines ++ [[]]) := intercalate_ended _ some
  rw [ended, List.splitOn_intercalate]
  · intro line listed
    rcases List.mem_append.mp listed with inLines | isLast
    · exact unbroken line inLines
    · rw [List.mem_singleton.mp isLast]
      exact List.not_mem_nil
  · exact List.append_ne_nil_of_right_ne_nil _ (List.cons_ne_nil _ _)

end Text

end PropertyGen.Layout
