import PropertyGen.Proofs.Content

/-!
Sequences of tags and passages of text inside a comment. A sequence is well nested exactly if it
is what some content is made of, and a comment with the tags and passages written out is read
exactly if they are well nested.
-/

namespace PropertyGen

namespace Markup

open Xml
open Documentation (wrapper)

section Pieces

structure Name where
  first : Char
  more : List Char
  letters : ∀ character ∈ first :: more, character.isAlpha = true
deriving DecidableEq

def Name.characters (name : Name) : List Char := name.first :: name.more

structure Passage where
  characters : List Char
  allowed : ∀ character ∈ characters, isAllowed character = true

inductive Piece where
  | opening (name : Name)
  | closing (name : Name)
  /-- A tag that closes what it opens. -/
  | empty (name : Name)
  | text (passage : Passage)

def Piece.written : Piece → List Char
  | .opening name => '<' :: (name.characters ++ ['>'])
  | .closing name => '<' :: '/' :: (name.characters ++ ['>'])
  | .empty name => '<' :: (name.characters ++ ['/', '>'])
  | .text passage => escaped passage.characters

def written (pieces : List Piece) : List Char := pieces.flatMap Piece.written

def follow : List Name → List Piece → Option (List Name)
  | opened, [] => some opened
  | opened, .opening name :: rest => follow (name :: opened) rest
  | innermost :: outer, .closing name :: rest =>
      if innermost = name then follow outer rest else none
  | [], .closing _ :: _ => none
  | opened, .empty _ :: rest | opened, .text _ :: rest => follow opened rest

/-- Each closing tag matches the innermost open tag, and none stays open. -/
def WellNested (pieces : List Piece) : Prop := follow [] pieces = some []

instance (pieces : List Piece) : Decidable (WellNested pieces) :=
  inferInstanceAs (Decidable (_ = _))

/-- Passages and elements, one behind the other. -/
inductive Content where
  | nothing
  | text (passage : Passage) (rest : Content)
  | empty (name : Name) (rest : Content)
  | element (name : Name) (inside rest : Content)

def Content.pieces : Content → List Piece
  | .nothing => []
  | .text passage rest => .text passage :: rest.pieces
  | .empty name rest => .empty name :: rest.pieces
  | .element name inside rest => .opening name :: (inside.pieces ++ .closing name :: rest.pieces)

def Content.characters : Content → List Char
  | .nothing => []
  | .text passage rest => passage.characters ++ rest.characters
  | .empty _ rest => rest.characters
  | .element _ inside rest => inside.characters ++ rest.characters

def Content.elements : Content → List (Name × List Char)
  | .nothing => []
  | .text _ rest => rest.elements
  | .empty name rest => (name, []) :: rest.elements
  | .element name inside rest => (name, inside.characters) :: rest.elements

end Pieces

section Nested

theorem follow_content (content : Content) (opened : List Name) (behind : List Piece) :
    follow opened (content.pieces ++ behind) = follow opened behind := by
  induction content generalizing opened behind with
  | nothing => rfl
  | text _ rest induction => simpa [Content.pieces, follow] using induction opened behind
  | empty _ rest induction => simpa [Content.pieces, follow] using induction opened behind
  | element name inside rest inner outer =>
      simp [Content.pieces, follow, inner, outer]

/-- Pieces that close the open elements one after another: contents with the closing tags between
them. -/
def Closes : List Name → List Piece → Prop
  | [], pieces => ∃ content : Content, pieces = content.pieces
  | innermost :: outer, pieces =>
      ∃ (content : Content) (rest : List Piece),
        pieces = content.pieces ++ .closing innermost :: rest ∧ Closes outer rest

/-- What can be put in front of every content can be put in front of the pieces. -/
theorem closes_cons (front : List Piece) (extend : Content → Content)
    (prepends : ∀ content, (extend content).pieces = front ++ content.pieces)
    {opened : List Name} {pieces : List Piece} (closes : Closes opened pieces) :
    Closes opened (front ++ pieces) := by
  cases opened with
  | nil =>
      obtain ⟨content, rfl⟩ := closes
      exact ⟨extend content, (prepends content).symm⟩
  | cons innermost outer =>
      obtain ⟨content, rest, rfl, behind⟩ := closes
      exact ⟨extend content, rest, by rw [prepends, List.append_assoc], behind⟩

theorem closes_of_follow {opened : List Name} {pieces : List Piece}
    (closed : follow opened pieces = some []) : Closes opened pieces := by
  induction pieces generalizing opened with
  | nil =>
      obtain rfl : opened = [] := Option.some.inj closed
      exact ⟨.nothing, rfl⟩
  | cons piece rest induction =>
      cases piece with
      | text passage =>
          rw [follow] at closed
          exact closes_cons [.text passage] (.text passage) (fun _ => rfl)
            (induction closed)
      | empty name =>
          rw [follow] at closed
          exact closes_cons [.empty name] (.empty name) (fun _ => rfl)
            (induction closed)
      | opening name =>
          rw [follow] at closed
          obtain ⟨inside, behind, rfl, closes⟩ := induction closed
          have extended := closes_cons (.opening name :: (inside.pieces ++ [.closing name]))
            (.element name inside) (fun _ => by simp [Content.pieces]) closes
          simpa using extended
      | closing name =>
          cases opened with
          | nil => cases closed
          | cons innermost outer =>
              rw [follow] at closed
              split at closed
              · next same =>
                  subst same
                  exact ⟨.nothing, rest, rfl, induction closed⟩
              · cases closed

/-- The well-nested sequences are those that contents are made of. -/
theorem well_nested_iff (pieces : List Piece) :
    WellNested pieces ↔ ∃ content : Content, content.pieces = pieces := by
  refine ⟨fun nested => ?_, ?_⟩
  · obtain ⟨content, same⟩ := closes_of_follow nested
    exact ⟨content, same.symm⟩
  · rintro ⟨content, rfl⟩
    simpa [WellNested, follow] using follow_content content [] []

end Nested

section Read

theorem letter_begins {character : Char} (letter : character.isAlpha = true) :
    isNameStart character = true := by
  have ranges : ('a' ≤ character ∧ character ≤ 'z') ∨ ('A' ≤ character ∧ character ≤ 'Z') := by
    rcases Bool.or_eq_true_iff.mp letter with upper | lower
    · exact .inr (of_decide_eq_true upper)
    · exact .inl ((Bool.and_eq_true_iff.mp lower).imp of_decide_eq_true of_decide_eq_true)
  simp [isNameStart, ranges]

theorem Name.simple (name : Name) : IsSimpleName name.first name.more := by
  obtain ⟨first, others⟩ := List.forall_mem_cons.mp name.letters
  refine ⟨letter_begins first, fun character member => ?_⟩
  simp [isNameCharacter, letter_begins (others character member)]

theorem Name.characters_inj {name other : Name} :
    name.characters = other.characters ↔ name = other := by
  obtain ⟨first, more, letters⟩ := name
  obtain ⟨otherFirst, otherMore, otherLetters⟩ := other
  simp [Name.characters]

def Piece.tokens : Piece → List Token
  | .opening name => [.opening name.characters [] false]
  | .closing name => [.closing name.characters]
  | .empty name => [.opening name.characters [] true]
  | .text passage => characterTokens passage.characters

theorem opening_next (name : Name) (tail : List Char) :
    nextToken ((Piece.opening name).written ++ tail) =
      .ok (.opening name.characters [] false, tail) := by
  simpa [Piece.written, Name.characters] using opening_read name.simple tail

theorem closing_next (name : Name) (tail : List Char) :
    nextToken ((Piece.closing name).written ++ tail) = .ok (.closing name.characters, tail) := by
  simpa [Piece.written, Name.characters] using closing_read name.simple tail

theorem empty_next (name : Name) (tail : List Char) :
    nextToken ((Piece.empty name).written ++ tail) =
      .ok (.opening name.characters [] true, tail) := by
  simpa [Piece.written, Name.characters] using empty_read name.simple tail

theorem written_cons (piece : Piece) (rest : List Piece) :
    written (piece :: rest) = piece.written ++ written rest := rfl

def ending : List Char := '<' :: '/' :: (wrapper ++ ['>'])

theorem ending_next : nextToken ending = .ok (.closing wrapper, []) := by decide

theorem lexemes_ending :
    lexemes ending = ([{ token := .closing wrapper, start := ending, rest := [] }], none) := by
  rw [lexemes_step ending_next, lexemes]

theorem ends_marks_written (pieces : List Piece) : EndsMarks (written pieces ++ ending) := by
  induction pieces with
  | nil => exact ends_marks_tag _
  | cons piece rest induction =>
      rw [written_cons, List.append_assoc]
      cases piece with
      | text passage => exact ends_marks_escaped induction passage.characters
      | opening name => exact ends_marks_tag _
      | closing name => exact ends_marks_tag _
      | empty name => exact ends_marks_tag _

theorem lexemes_written (pieces : List Piece) :
    (lexemes (written pieces ++ ending)).1.map (·.token) =
      pieces.flatMap Piece.tokens ++ [.closing wrapper] := by
  induction pieces with
  | nil => simp [written, lexemes_ending]
  | cons piece rest induction =>
      rw [written_cons, List.append_assoc, List.flatMap_cons, List.append_assoc, ← induction]
      cases piece with
      | text passage =>
          obtain ⟨read, tokens, found⟩ :=
            lexemes_escaped passage.allowed (ends_marks_written rest)
          rw [Piece.written, found, List.map_append, tokens, Piece.tokens]
      | opening name => rw [lexemes_step (opening_next name _)]; rfl
      | closing name => rw [lexemes_step (closing_next name _)]; rfl
      | empty name => rw [lexemes_step (empty_next name _)]; rfl

end Read

section Epilog

/-- A text whose first character that is not a space begins neither a comment nor an
instruction. -/
def Strays (text : List Char) : Prop :=
  ∃ first rest, skipSpace text = first :: rest ∧
    ∀ next more, first :: rest = '<' :: next :: more → next ≠ '!' ∧ next ≠ '?'

theorem epilog_stray {text : List Char} (strays : Strays text) : epilogFault? text ≠ none := by
  obtain ⟨first, rest, skipped, noAside⟩ := strays
  rw [epilogFault?]
  split
  case h_1 same => simp [skipped] at same
  case h_2 same => exact absurd rfl (noAside _ _ (skipped.symm.trans same)).1
  case h_3 same => exact absurd rfl (noAside _ _ (skipped.symm.trans same)).2
  case h_4 => simp

theorem strays_space {first : Char} (space : isSpace first = true) {rest : List Char}
    (strays : Strays rest) : Strays (first :: rest) := by
  simpa [Strays, skipSpace, space] using strays

theorem strays_plain {first : Char} (plain : isSpace first = false) (noTag : first ≠ '<')
    (rest : List Char) : Strays (first :: rest) :=
  ⟨first, rest, by simp [skipSpace, plain], fun _ _ same => absurd (List.cons.inj same).1 noTag⟩

theorem strays_tag {next : Char} (noMark : next ≠ '!' ∧ next ≠ '?') (more : List Char) :
    Strays ('<' :: next :: more) := by
  have angle : isSpace '<' = false := by decide
  refine ⟨'<', next :: more, by simp [skipSpace, angle], fun other others same => ?_⟩
  rw [← (List.cons.inj (List.cons.inj same).2).1]
  exact noMark

theorem strays_escaped {tail : List Char} (strays : Strays tail) (text : List Char) :
    Strays (escaped text ++ tail) := by
  have reference : isSpace '&' = false := by decide
  induction text with
  | nil => exact strays
  | cons first rest induction =>
      rw [escaped, List.flatMap_cons, List.append_assoc]
      rcases escape_cases first with ⟨-, shown⟩ | ⟨-, shown⟩ | ⟨-, shown⟩ | ⟨-, noTag, -, shown⟩
      case inr.inr.inr =>
        rw [shown]
        cases space : isSpace first with
        | true => exact strays_space space induction
        | false => exact strays_plain space noTag _
      all_goals
        rw [shown]
        exact strays_plain reference (by decide) _

theorem letter_no_mark {character : Char} (letter : character.isAlpha = true) :
    character ≠ '!' ∧ character ≠ '?' := by
  constructor
  all_goals
    rintro rfl
    revert letter
    decide

theorem Name.no_mark (name : Name) : name.first ≠ '!' ∧ name.first ≠ '?' :=
  letter_no_mark (name.letters _ List.mem_cons_self)

theorem strays_written (pieces : List Piece) : Strays (written pieces ++ ending) := by
  have slash : '/' ≠ '!' ∧ '/' ≠ '?' := by decide
  induction pieces with
  | nil => exact strays_tag slash _
  | cons piece rest induction =>
      rw [written_cons, List.append_assoc]
      cases piece with
      | text passage => exact strays_escaped induction passage.characters
      | opening name => exact strays_tag name.no_mark _
      | closing name => exact strays_tag slash _
      | empty name => exact strays_tag name.no_mark _

end Epilog

section Run

def openedIn (names : List Name) : List Opened :=
  (names.map fun name => { name := name.characters, bindings := Bindings.initial }) ++
    [{ name := wrapper, bindings := Bindings.initial }]

theorem opened_in_cons (name : Name) (names : List Name) :
    openedIn (name :: names) =
      { name := name.characters, bindings := Bindings.initial } :: openedIn names := rfl

theorem opened_in_ne_nil (names : List Name) : openedIn names ≠ [] := by simp [openedIn]

theorem around_initial (names : List Name) :
    (((openedIn names).head?).map (·.bindings)).getD Bindings.initial = Bindings.initial := by
  cases names <;> rfl

theorem Name.enter (name : Name) (start : List Char) (around : Bindings) :
    enter start around name.characters [] = .ok around :=
  enter_simple start around name.simple

variable (fault : DocumentFault)

theorem nest_opening (names : List Name) (name : Name) (start tail : List Char)
    (rest : List Lexeme) :
    nest fault (openedIn names)
        ({ token := .opening name.characters [] false, start, rest := tail } :: rest) =
      nest fault (openedIn (name :: names)) rest := by
  rw [nest]
  simp only [around_initial, name.enter, opened_in_cons, Bool.false_eq_true, if_false]

theorem nest_empty (names : List Name) (name : Name) (start tail : List Char)
    (rest : List Lexeme) :
    nest fault (openedIn names)
        ({ token := .opening name.characters [] true, start, rest := tail } :: rest) =
      nest fault (openedIn names) rest := by
  rw [nest]
  simp [around_initial, name.enter, opened_in_ne_nil]

theorem nest_closing (innermost : Name) (outer : List Name) (name : Name) (start tail : List Char)
    (rest : List Lexeme) :
    nest fault (openedIn (innermost :: outer))
        ({ token := .closing name.characters, start, rest := tail } :: rest) =
      if innermost = name then nest fault (openedIn outer) rest
      else .error { kind := .mismatchedTag, start := start.drop 2 } := by
  rw [opened_in_cons, nest]
  simp [Name.characters_inj, opened_in_ne_nil]

theorem nest_wrapper (name : Name) (start : List Char) (pieces : List Piece)
    (rest : List Lexeme) :
    nest fault (openedIn [])
        ({ token := .closing name.characters, start, rest := written pieces ++ ending } :: rest) ≠
      .ok () := by
  have trailing := epilog_stray (strays_written pieces)
  obtain ⟨stray, found⟩ := Option.ne_none_iff_exists'.mp trailing
  rw [openedIn, List.map_nil, List.nil_append, nest]
  simp only [found, List.isEmpty_nil, if_true]
  split <;> simp

/-- The elements are followed to the end of the wrapper exactly if all open tags are closed. -/
theorem nest_written (opened : List Name) (pieces : List Piece) :
    nest fault (openedIn opened) (lexemes (written pieces ++ ending)).1 = .ok () ↔
      follow opened pieces = some [] := by
  induction pieces generalizing opened with
  | nil =>
      rw [written, List.flatMap_nil, List.nil_append, lexemes_ending, follow]
      cases opened with
      | nil => simp [openedIn, nest, epilog_end]
      | cons innermost outer =>
          rw [opened_in_cons, nest]
          by_cases same : innermost.characters = wrapper
          · simp [same, opened_in_ne_nil, nest]
          · simp [same]
  | cons piece rest induction =>
      rw [written_cons, List.append_assoc]
      cases piece with
      | text passage =>
          obtain ⟨read, tokens, found⟩ :=
            lexemes_escaped passage.allowed (ends_marks_written rest)
          rw [Piece.written, found, nest_characters fault _ tokens, follow]
          exact induction opened
      | opening name =>
          rw [lexemes_step (opening_next name _), nest_opening, follow]
          exact induction (name :: opened)
      | empty name =>
          rw [lexemes_step (empty_next name _), nest_empty, follow]
          exact induction opened
      | closing name =>
          rw [lexemes_step (closing_next name _)]
          cases opened with
          | nil => simpa [follow] using nest_wrapper fault name _ rest _
          | cons innermost outer =>
              rw [nest_closing, follow]
              split
              · exact induction outer
              · simp

end Run

section Documents

theorem wrapper_simple : IsSimpleName 'm' "ember".toList :=
  ⟨by decide, List.all_eq_true.mp (by decide)⟩

theorem read_eq (pieces : List Piece) :
    ∃ fault : DocumentFault, Documentation.read (written pieces) =
      (nest fault (openedIn []) (lexemes (written pieces ++ ending)).1).map fun _ =>
        pieces.flatMap Piece.tokens ++ [.closing wrapper] := by
  have document : Documentation.wrapped (written pieces) =
      '<' :: 'm' :: ("ember".toList ++ '>' :: (written pieces ++ ending)) := by
    unfold Documentation.wrapped ending
    simp only [List.append_assoc, List.cons_append]
    rfl
  have lexed := lexemes_step (opening_read wrapper_simple (written pieces ++ ending))
  have entered (fault : DocumentFault) (start tail : List Char) (rest : List Lexeme) :
      nest fault [] ({ token := .opening ('m' :: "ember".toList) [] false, start, rest := tail } ::
        rest) = nest fault (openedIn []) rest := by
    rw [nest]
    simp only [enter_simple _ _ wrapper_simple, Bool.false_eq_true, if_false]
    rfl
  refine ⟨(lexemes (written pieces ++ ending)).2.getD { kind := .noElement, start := [] }, ?_⟩
  rw [Documentation.read, document, tokens, lexed]
  simp only [entered, List.map_cons, lexemes_written]
  cases nest _ (openedIn []) (lexemes (written pieces ++ ending)).1 <;> rfl

theorem read_nested {pieces : List Piece} (nested : WellNested pieces) :
    Documentation.read (written pieces) =
      .ok (pieces.flatMap Piece.tokens ++ [.closing wrapper]) := by
  obtain ⟨fault, same⟩ := read_eq pieces
  rw [same, (nest_written fault [] pieces).mpr nested]
  rfl

theorem read_tangled {pieces : List Piece} (tangled : ¬ WellNested pieces) :
    ∃ fault, Documentation.read (written pieces) = .error fault := by
  obtain ⟨fault, same⟩ := read_eq pieces
  cases run : nest fault (openedIn []) (lexemes (written pieces ++ ending)).1 with
  | error trouble => exact ⟨trouble, by rw [same, run]; rfl⟩
  | ok _ => exact absurd ((nest_written fault [] pieces).mp run) tangled

end Documents

end Markup

end PropertyGen
