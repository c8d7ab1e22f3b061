import PropertyGen.Documentation.Summary
import PropertyGen.Generation.Render
import PropertyGen.Proofs.Runs

/-!
Text in XML content. What a reader gets as text are characters that a document may hold, and a
text of such characters is read back from its escaped form, between the tags that stand around it.
-/

namespace PropertyGen.Xml

section Allowed

/-- A token with nothing in it that a document may not hold. -/
def Token.Plain : Token → Prop
  | .text characters => ∀ character ∈ characters, isAllowed character = true
  | _ => True

theorem entity_cases {name : List Char} {character : Char} (found : entity? name = some character) :
    character ∈ ['<', '>', '&', '"', '\''] := by
  unfold entity? at found
  repeat' split at found
  all_goals cases found
  all_goals decide

theorem character_allowed {reference : Reference} {character : Char}
    (denoted : reference.character = .ok character) : isAllowed character = true := by
  cases reference with
  | number code =>
      simp only [Reference.character] at denoted
      split at denoted
      · next referable =>
          rw [← Except.ok.inj denoted]
          simp only [isReferable, Bool.and_eq_true] at referable
          exact referable.2
      · cases denoted
  | entity name =>
      have entities : ['<', '>', '&', '"', '\''].all isAllowed = true := by decide
      simp only [Reference.character] at denoted
      split at denoted
      · next found =>
          rw [← Except.ok.inj denoted]
          exact List.all_eq_true.mp entities _ (entity_cases found)
      · cases denoted

theorem character_data_allowed {text characters rest : List Char}
    (read : characterData text = .ok (characters, rest)) :
    ∀ character ∈ characters, isAllowed character = true := by
  fun_induction characterData text generalizing characters rest with
  | case1 => cases read
  | case2 rest =>
      simp only [Except.ok.injEq, Prod.mk.injEq] at read
      simp [← read.1]
  | case3 first after notEnd allowed induction =>
      obtain ⟨pair, inner, same⟩ := map_returns.mp read
      rw [← (Prod.mk.inj same).1]
      exact List.forall_mem_cons.mpr ⟨allowed, induction inner⟩
  | case4 => cases read

theorem as_token_eq {α : Type} {text rest : List Char} {token : α → Token} {part : Part α}
    {read : Token} (found : asToken text token part = .ok (read, rest)) :
    ∃ value, part = .ok (value, rest) ∧ token value = read := by
  cases part with
  | error halt => cases found
  | ok pair =>
      obtain ⟨value, suffix⟩ := pair
      simp only [asToken, Except.ok.injEq, Prod.mk.injEq] at found
      exact ⟨value, by rw [found.2], found.1⟩

theorem closing_tag_plain {text rest : List Char} {token : Token}
    (read : closingTag text = .ok (token, rest)) : token.Plain := by
  unfold closingTag at read
  repeat' split at read
  all_goals cases read
  exact True.intro

theorem opening_tag_plain {text rest : List Char} {token : Token}
    (read : openingTag text = .ok (token, rest)) : token.Plain := by
  unfold openingTag at read
  split at read
  · cases read
  · rename_i name after _
    obtain ⟨pair, inner, same⟩ := map_returns.mp read
    rw [← (Prod.mk.inj same).1]
    exact True.intro

theorem reference_token_plain {text rest : List Char} {part : Part Reference} {token : Token}
    (read : referenceToken text part = .ok (token, rest)) : token.Plain := by
  unfold referenceToken at read
  split at read
  · cases read
  · split at read
    · cases read
    · next denoted =>
        simp only [Except.ok.injEq, Prod.mk.injEq] at read
        rw [← read.1]
        simpa [Token.Plain] using character_allowed denoted

theorem instruction_token_plain {text rest : List Char} {part : Part (List Char)} {token : Token}
    (read : instructionToken text part = .ok (token, rest)) : token.Plain := by
  unfold instructionToken at read
  repeat' split at read
  all_goals cases read
  exact True.intro

theorem exclamation_token_plain {text start rest : List Char} {token : Token}
    (read : exclamationToken text start = .ok (token, rest)) : token.Plain := by
  unfold exclamationToken at read
  split at read
  · obtain ⟨value, -, rfl⟩ := as_token_eq read
    exact True.intro
  · cases read
  · unfold characterDataToken at read
    repeat' split at read
    all_goals cases read
    next data => exact character_data_allowed data
  · cases read

theorem next_token_plain {text rest : List Char} {token : Token}
    (read : nextToken text = .ok (token, rest)) : token.Plain := by
  unfold nextToken at read
  split at read
  · cases read
  · cases read
  · exact exclamation_token_plain read
  · exact instruction_token_plain read
  · obtain ⟨value, closed, rfl⟩ := as_token_eq read
    exact closing_tag_plain closed
  · obtain ⟨value, opened, rfl⟩ := as_token_eq read
    exact opening_tag_plain opened
  · exact reference_token_plain read
  · cases read
  · split at read
    · next allowed =>
        simp only [Except.ok.injEq, Prod.mk.injEq] at read
        rw [← read.1]
        simpa [Token.Plain] using allowed
    · cases read

theorem lexemes_plain (text : List Char) : ∀ lexeme ∈ (lexemes text).1, lexeme.token.Plain := by
  fun_induction lexemes text with
  | case1 => simp
  | case2 => simp
  | case3 first more token rest read lexemes fault same induction =>
      exact List.forall_mem_cons.mpr ⟨next_token_plain read, by simpa [same] using induction⟩

theorem tokens_plain {text : List Char} {read : List Token} (found : tokens text = .ok read) :
    ∀ token ∈ read, token.Plain := by
  unfold tokens at found
  obtain ⟨rest, nested, same⟩ := map_returns.mp found
  rw [← same]
  simpa using lexemes_plain text

end Allowed

section Escaped

open Render (escapeCharacter)

theorem escape_read (rest : List Char) :
    nextToken ('&' :: 'a' :: 'm' :: 'p' :: ';' :: rest) = .ok (.text ['&'], rest) ∧
      nextToken ('&' :: 'l' :: 't' :: ';' :: rest) = .ok (.text ['<'], rest) ∧
      nextToken ('&' :: 'g' :: 't' :: ';' :: rest) = .ok (.text ['>'], rest) :=
  ⟨rfl, rfl, rfl⟩

theorem plain_read {first : Char} {rest : List Char} (allowed : isAllowed first = true)
    (noTag : first ≠ '<') (noReference : first ≠ '&')
    (noMark : ∀ more, rest ≠ ']' :: '>' :: more) :
    nextToken (first :: rest) = .ok (.text [first], rest) := by
  unfold nextToken
  split
  case h_1 same => cases same
  case h_8 more same =>
    obtain ⟨-, behind⟩ := List.cons.inj same
    exact absurd behind (noMark more)
  case h_9 character more _ _ _ _ _ _ _ same =>
    obtain ⟨rfl, rfl⟩ := List.cons.inj same
    rw [if_pos allowed]
  all_goals
    rename_i same
    obtain ⟨begins, -⟩ := List.cons.inj same
    contradiction

theorem escape_cases (character : Char) :
    (character = '&' ∧ escapeCharacter character = ['&', 'a', 'm', 'p', ';']) ∨
      (character = '<' ∧ escapeCharacter character = ['&', 'l', 't', ';']) ∨
      (character = '>' ∧ escapeCharacter character = ['&', 'g', 't', ';']) ∨
      (character ≠ '&' ∧ character ≠ '<' ∧ character ≠ '>' ∧
        escapeCharacter character = [character]) := by
  unfold escapeCharacter
  split
  · exact .inl ⟨rfl, rfl⟩
  · exact .inr (.inl ⟨rfl, rfl⟩)
  · exact .inr (.inr (.inl ⟨rfl, rfl⟩))
  · next noAmp noLess noGreater => exact .inr (.inr (.inr ⟨noAmp, noLess, noGreater, rfl⟩))

abbrev escaped (text : List Char) : List Char := text.flatMap escapeCharacter

/-- A text with which no closing mark goes on that began before it. -/
structure EndsMarks (tail : List Char) : Prop where
  bracket : ∀ more, tail ≠ '>' :: more
  mark : ∀ more, tail ≠ ']' :: '>' :: more

theorem ends_marks_tag (rest : List Char) : EndsMarks ('<' :: rest) := ⟨by simp, by simp⟩

theorem ends_marks_escaped {tail : List Char} (ends : EndsMarks tail) (text : List Char) :
    EndsMarks (escaped text ++ tail) := by
  induction text with
  | nil => exact ends
  | cons first rest induction =>
      refine ⟨fun more same => ?_, fun more same => ?_⟩
      · rcases escape_cases first with ⟨-, shown⟩ | ⟨-, shown⟩ | ⟨-, shown⟩ | ⟨-, -, other, shown⟩
        all_goals simp_all [escaped]
      · rcases escape_cases first with ⟨-, shown⟩ | ⟨-, shown⟩ | ⟨-, shown⟩ | ⟨-, -, -, shown⟩
        case inr.inr.inr =>
          simp only [escaped, List.flatMap_cons, shown, List.cons_append, List.cons.injEq] at same
          exact induction.bracket more same.2
        all_goals simp [escaped, shown] at same

/-- The first character of an escaped text is read as itself. -/
theorem escaped_read {first : Char} (allowed : isAllowed first = true) (text : List Char)
    {tail : List Char} (ends : EndsMarks tail) :
    nextToken (escaped (first :: text) ++ tail) = .ok (.text [first], escaped text ++ tail) := by
  have parts : escaped (first :: text) ++ tail =
      escapeCharacter first ++ (escaped text ++ tail) := by simp [escaped]
  obtain ⟨amp, less, greater⟩ := escape_read (escaped text ++ tail)
  rw [parts]
  rcases escape_cases first with ⟨rfl, shown⟩ | ⟨rfl, shown⟩ | ⟨rfl, shown⟩ |
    ⟨noReference, noTag, -, shown⟩
  · rw [shown]
    exact amp
  · rw [shown]
    exact less
  · rw [shown]
    exact greater
  · rw [shown]
    exact plain_read allowed noTag noReference (ends_marks_escaped ends text).mark

theorem lexemes_step {text rest : List Char} {token : Token}
    (read : nextToken text = .ok (token, rest)) :
    lexemes text = ({ token, start := text, rest } :: (lexemes rest).1, (lexemes rest).2) := by
  cases text with
  | nil => cases read
  | cons first more =>
      rw [lexemes]
      split
      · next failed => rw [read] at failed; cases failed
      · next found =>
          rw [read] at found
          obtain ⟨rfl, rfl⟩ := Prod.mk.inj (Except.ok.inj found)
          rfl

def characterTokens (text : List Char) : List Token := text.map fun character => .text [character]

theorem lexemes_escaped {text : List Char}
    (allowed : ∀ character ∈ text, isAllowed character = true) {tail : List Char}
    (ends : EndsMarks tail) :
    ∃ read : List Lexeme, read.map (·.token) = characterTokens text ∧
      lexemes (escaped text ++ tail) = (read ++ (lexemes tail).1, (lexemes tail).2) := by
  induction text with
  | nil => exact ⟨[], rfl, rfl⟩
  | cons first rest induction =>
      obtain ⟨own, others⟩ := List.forall_mem_cons.mp allowed
      obtain ⟨read, tokens, behind⟩ := induction others
      have step := lexemes_step (escaped_read own rest ends)
      rw [behind] at step
      refine ⟨{ token := .text [first], start := _, rest := _ } :: read, ?_, step⟩
      rw [List.map_cons, tokens]
      rfl

theorem nest_characters (fault : DocumentFault) (opened : List Opened) {text : List Char}
    {read : List Lexeme} (tokens : read.map (·.token) = characterTokens text)
    (rest : List Lexeme) : nest fault opened (read ++ rest) = nest fault opened rest := by
  induction read generalizing text with
  | nil => rfl
  | cons lexeme read induction =>
      cases text with
      | nil => simp [characterTokens] at tokens
      | cons first text =>
          simp only [characterTokens, List.map_cons, List.cons.injEq] at tokens
          rw [List.cons_append, nest]
          simp only [tokens.1]
          exact induction tokens.2

end Escaped

section Elements

theorem tag_rest_end (rest : List Char) : tagRest ('>' :: rest) = .ok (([], false), rest) := by
  have skipped : skipSpace ('>' :: rest) = '>' :: rest := rfl
  rw [tagRest]
  split
  case h_2 same =>
    rw [skipped] at same
    rw [(List.cons.inj same).2]
  all_goals simp_all

theorem tag_rest_closed (rest : List Char) :
    tagRest ('/' :: '>' :: rest) = .ok (([], true), rest) := by
  have skipped : skipSpace ('/' :: '>' :: rest) = '/' :: '>' :: rest := rfl
  rw [tagRest]
  split
  case h_4 same =>
    rw [skipped] at same
    rw [(List.cons.inj (List.cons.inj same).2).2]
  all_goals simp_all

structure IsSimpleName (first : Char) (more : List Char) : Prop where
  begins : isNameStart first = true
  inside : ∀ character ∈ more, isNameCharacter character = true

theorem local_name_read {first : Char} {more : List Char} (simple : IsSimpleName first more)
    {stop : Char} (ends : isNameCharacter stop = false) (rest : List Char) :
    localName (first :: (more ++ stop :: rest)) = .ok (first :: more, stop :: rest) := by
  simp [localName, simple.begins, List.takeWhile_append_of_pos simple.inside,
    List.dropWhile_append_of_pos simple.inside, ends]

theorem tag_characters {more : List Char}
    (inside : ∀ character ∈ more, isNameCharacter character = true) :
    ∀ character ∈ more, isTagNameCharacter character = true := by
  intro character member
  simp [isTagNameCharacter, inside character member]

theorem tag_read {first : Char} {more : List Char} (simple : IsSimpleName first more)
    {stop : Char} (ends : isNameCharacter stop = false) (noPrefix : stop ≠ ':')
    {rest suffix : List Char} {attributes : List Attribute} {isClosed : Bool}
    (behind : tagRest (stop :: rest) = .ok ((attributes, isClosed), suffix)) :
    nextToken ('<' :: first :: (more ++ stop :: rest)) =
      .ok (.opening (first :: more) attributes isClosed, suffix) := by
  have named : qualifiedName (first :: (more ++ stop :: rest)) =
      .ok (first :: more, stop :: rest) := by
    simp [qualifiedName, local_name_read simple ends, noPrefix]
  have opened : openingTag (first :: (more ++ stop :: rest)) =
      .ok (.opening (first :: more) attributes isClosed, suffix) := by
    simp [openingTag, named, behind, Except.map]
  have begins := simple.begins
  rw [nextToken, opened]
  · rfl
  · intro same
    cases same
  all_goals
    intro other same
    cases same
    revert begins
    decide

theorem opening_read {first : Char} {more : List Char} (simple : IsSimpleName first more)
    (rest : List Char) :
    nextToken ('<' :: first :: (more ++ '>' :: rest)) =
      .ok (.opening (first :: more) [] false, rest) :=
  tag_read simple (by decide) (by decide) (tag_rest_end rest)

theorem empty_read {first : Char} {more : List Char} (simple : IsSimpleName first more)
    (rest : List Char) :
    nextToken ('<' :: first :: (more ++ '/' :: '>' :: rest)) =
      .ok (.opening (first :: more) [] true, rest) :=
  tag_read simple (by decide) (by decide) (tag_rest_closed rest)

theorem closing_read {first : Char} {more : List Char} (simple : IsSimpleName first more)
    (rest : List Char) :
    nextToken ('<' :: '/' :: first :: (more ++ '>' :: rest)) =
      .ok (.closing (first :: more), rest) := by
  have ends : isTagNameCharacter '>' = false := by decide
  have inside := tag_characters simple.inside
  have closed : closingTag (first :: (more ++ '>' :: rest)) =
      .ok (.closing (first :: more), rest) := by
    have space : isSpace '>' = false := by decide
    simp [closingTag, simple.begins, List.takeWhile_append_of_pos inside,
      List.dropWhile_append_of_pos inside, ends, skipSpace, space]
  show asToken _ id (closingTag (first :: (more ++ '>' :: rest))) = _
  rw [closed]
  rfl

theorem epilog_end : epilogFault? [] = none := by
  rw [epilogFault?]
  rfl

theorem simple_name_plain {first : Char} {more : List Char} (simple : IsSimpleName first more) :
    ':' ∉ first :: more := by
  intro inside
  have colon : isNameStart ':' = false ∧ isNameCharacter ':' = false := by decide
  rcases List.mem_cons.mp inside with same | later
  · simp [same ▸ simple.begins] at colon
  · simp [simple.inside ':' later] at colon

theorem enter_simple (start : List Char) (around : Bindings) {first : Char} {more : List Char}
    (simple : IsSimpleName first more) : enter start around (first :: more) [] = .ok around := by
  have plain : qualifier? (first :: more) = none := by
    simpa [qualifier?] using simple_name_plain simple
  simp [enter, bindAll, checkExpanded, expand, plain]

theorem tokens_nested {first : Char} {more : List Char} {inner : Char} {others : List Char}
    (outerSimple : IsSimpleName first more) (innerSimple : IsSimpleName inner others)
    {text : List Char} (allowed : ∀ character ∈ text, isAllowed character = true) :
    tokens ('<' :: first :: (more ++ '>' :: '<' :: inner :: (others ++ '>' :: (escaped text ++
        '<' :: '/' :: inner :: (others ++ '>' :: '<' :: '/' :: first :: (more ++ '>' :: [])))))) =
      .ok (.opening (first :: more) [] false :: .opening (inner :: others) [] false ::
        (characterTokens text ++ [.closing (inner :: others), .closing (first :: more)])) := by
  have outerClosed := lexemes_step (closing_read outerSimple [])
  have innerClosed := lexemes_step (closing_read innerSimple
    ('<' :: '/' :: first :: (more ++ '>' :: [])))
  obtain ⟨read, content, between⟩ := lexemes_escaped allowed
    (ends_marks_tag ('/' :: inner :: (others ++ '>' :: '<' :: '/' :: first :: (more ++ '>' :: []))))
  have innerOpened := lexemes_step (opening_read innerSimple (escaped text ++
    '<' :: '/' :: inner :: (others ++ '>' :: '<' :: '/' :: first :: (more ++ '>' :: []))))
  unfold tokens
  rw [lexemes_step (opening_read outerSimple _), innerOpened, between, innerClosed, outerClosed]
  have ended : lexemes [] = ([], none) := by rw [lexemes]
  simp only [ended]
  simp [nest, enter_simple _ _ outerSimple, enter_simple _ _ innerSimple,
    nest_characters _ _ content, epilog_end, content, Except.map]

end Elements

end PropertyGen.Xml
