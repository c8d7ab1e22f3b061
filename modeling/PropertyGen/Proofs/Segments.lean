import PropertyGen.Proofs.Brackets
import PropertyGen.Proofs.Parts
import PropertyGen.Proofs.Strangeness

/-!
Reading dotted names back. A name that is put together of pieces, in which no dot stands outside of
angle brackets, is cut into these pieces again, and each piece gives its identifier and the number
of its type arguments.
-/

namespace PropertyGen

namespace Text

theorem not_mem_joined {separator mark : Char} (apart : mark ≠ separator)
    {pieces : List (List Char)} (each : ∀ piece ∈ pieces, mark ∉ piece) :
    mark ∉ [separator].intercalate pieces := by
  induction pieces with
  | nil => exact List.not_mem_nil
  | cons piece more induction =>
      obtain ⟨own, others⟩ := List.forall_mem_cons.mp each
      by_cases last : more = []
      · rw [last, List.intercalate_singleton]
        exact own
      · rw [List.intercalate_cons_of_ne_nil last, List.mem_append, List.mem_append,
          List.mem_singleton, not_or, not_or]
        exact ⟨⟨own, apart⟩, induction others⟩

theorem drop_prefix_append (front rest : List Char) :
    dropPrefix? front (front ++ rest) = some rest := by
  induction front with
  | nil => rfl
  | cons character front induction => rw [List.cons_append, dropPrefix?, if_pos rfl, induction]

theorem drop_prefix_some {front text rest : List Char} :
    dropPrefix? front text = some rest ↔ text = front ++ rest := by
  constructor
  · intro dropped
    induction front generalizing text with
    | nil => exact Option.some.inj dropped
    | cons expected more induction =>
        cases text with
        | nil => cases dropped
        | cons character characters =>
            rw [dropPrefix?] at dropped
            by_cases same : expected = character
            · rw [if_pos same] at dropped
              rw [induction dropped, same, List.cons_append]
            · rw [if_neg same] at dropped
              cases dropped
  · intro text
    rw [text, drop_prefix_append]

end Text

namespace Names

/-- A text that is one piece of every dotted name it stands in: its brackets are closed, and no dot
stands outside of them. -/
structure Piece (text : List Char) : Prop where
  some : text ≠ []
  closed : text.foldl bracketDepth 0 = 0
  whole : dottedPieces 0 text = [text]

section Pieces

theorem dotted_pieces_ne_nil (depth : Int) (text : List Char) : dottedPieces depth text ≠ [] := by
  obtain ⟨piece, more, pieces, -⟩ := Text.dotted_pieces_inside text depth
  rw [pieces]
  exact List.cons_ne_nil _ _

/-- A dot outside of all brackets is where a name is cut. -/
theorem dotted_pieces_append {depth : Int} {front : List Char}
    (closed : front.foldl bracketDepth depth = 0) (back : List Char) :
    dottedPieces depth (front ++ '.' :: back) = dottedPieces depth front ++ dottedPieces 0 back := by
  induction front generalizing depth with
  | nil =>
      rw [show depth = 0 from closed]
      rfl
  | cons character rest induction =>
      rw [List.cons_append, dottedPieces, dottedPieces]
      rw [induction closed]
      by_cases here : character = '.' ∧ bracketDepth depth character = 0
      · rw [if_pos here, if_pos here, List.cons_append]
      · rw [if_neg here, if_neg here]
        cases pieces : dottedPieces (bracketDepth depth character) rest with
        | nil => exact absurd pieces (dotted_pieces_ne_nil _ _)
        | cons piece more => rfl

theorem segments_chars_append {front : List Char} (closed : front.foldl bracketDepth 0 = 0)
    (back : List Char) :
    segmentsChars (front ++ '.' :: back) = segmentsChars front ++ segmentsChars back := by
  unfold segmentsChars
  rw [dotted_pieces_append closed, List.filter_append, List.map_append]

theorem Piece.segments_chars {text : List Char} (piece : Piece text) :
    segmentsChars text = [segmentChars text] := by
  unfold segmentsChars
  rw [piece.whole, List.filter_cons_of_pos]
  · rfl
  · rw [Bool.not_eq_true', List.isEmpty_eq_false_iff]
    exact piece.some

/-- The pieces of a name are found again between its dots. -/
theorem segments_chars_joined {pieces : List (List Char)} (each : ∀ piece ∈ pieces, Piece piece) :
    segmentsChars (['.'].intercalate pieces) = pieces.map segmentChars := by
  induction pieces with
  | nil => rfl
  | cons first rest induction =>
      obtain ⟨own, others⟩ := List.forall_mem_cons.mp each
      by_cases last : rest = []
      · rw [last, List.intercalate_singleton, own.segments_chars]
        rfl
      · rw [List.intercalate_cons_of_ne_nil last, List.append_assoc, List.singleton_append,
          segments_chars_append own.closed, own.segments_chars, induction others]
        rfl

theorem segments_joined {pieces : List String} (each : ∀ piece ∈ pieces, Piece piece.toList) :
    segments (".".intercalate pieces) =
      pieces.map fun piece => String.ofList (segmentChars piece.toList) := by
  unfold segments
  rw [String.toList_intercalate, show ".".toList = ['.'] from rfl, segments_chars_joined,
    List.map_map, List.map_map]
  · rfl
  · intro characters member
    obtain ⟨piece, listed, rfl⟩ := List.mem_map.mp member
    exact each piece listed

end Pieces

def marks : List Char := ['.', '+', '`', '<', '>', '?', '@', ':']

/-- A plain identifier: something without any marks. -/
def Plain (name : String) : Prop := name ≠ "" ∧ ∀ mark ∈ marks, mark ∉ name.toList

-- the marks are gone through one by one, and not all characters there are
instance (name : String) : Decidable (Plain name) :=
  @instDecidableAnd _ _ _ (List.decidableBAll (fun mark => mark ∉ name.toList) marks)

section Brackets

theorem dotted_pieces_flat {depth : Int} {front rest : List Char} (noOpening : '<' ∉ front)
    (noClosing : '>' ∉ front) (inside : depth ≠ 0 ∨ '.' ∉ front)
    (whole : dottedPieces depth rest = [rest]) :
    dottedPieces depth (front ++ rest) = [front ++ rest] := by
  induction front with
  | nil => exact whole
  | cons character front induction =>
      rw [List.mem_cons, not_or] at noOpening noClosing
      rw [List.mem_cons, not_or] at inside
      rw [List.cons_append, dottedPieces,
        bracket_depth_other (Ne.symm noOpening.1) (Ne.symm noClosing.1),
        induction noOpening.2 noClosing.2 (inside.imp_right And.right), if_neg]
      · rfl
      · intro here
        rcases inside with deep | dotless
        · exact deep here.2
        · exact dotless.1 here.1.symm

theorem dotted_pieces_whole {depth : Int} {text : List Char}
    (whole : ∀ front back, text = front ++ '.' :: back → front.foldl bracketDepth depth ≠ 0) :
    dottedPieces depth text = [text] := by
  induction text generalizing depth with
  | nil => rfl
  | cons character rest induction =>
      have later : dottedPieces (bracketDepth depth character) rest = [rest] := by
        apply induction
        intro front back same
        exact whole (character :: front) back (congrArg (character :: ·) same)
      rw [dottedPieces, later, if_neg]
      · rfl
      · intro here
        have depthEq : bracketDepth depth character = depth := by
          rw [here.1]
          rfl
        have deep : depth ≠ 0 := whole [] rest (congrArg (· :: rest) here.1)
        exact deep (depthEq.symm.trans here.2)

theorem Bracketed.whole {text : List Char} (bracketed : Bracketed text) :
    dottedPieces 0 text = [text] := by
  apply dotted_pieces_whole
  intro front back same
  have opening := bracketed.opening
  rw [same] at opening
  apply bracketed.inside front
  · rw [List.mem_inits, same]
    exact List.prefix_append _ _
  · intro none
    rw [none] at opening
    cases opening
  · intro all
    have lengths := congrArg List.length same
    rw [all, List.length_append, List.length_cons] at lengths
    omega

theorem piece_of_brackets {front tail : List Char} (some : front ≠ [])
    (clean : ∀ mark ∈ ['.', '<', '>'], mark ∉ front) (isTail : tail = [] ∨ Bracketed tail) :
    Piece (front ++ tail) where
  some := List.append_ne_nil_of_left_ne_nil some _
  closed := by
    rw [List.foldl_append, depth_flat (clean '<' (by decide)) (clean '>' (by decide))]
    rcases isTail with rfl | bracketed
    · rfl
    · exact bracketed.closed
  whole := by
    apply dotted_pieces_flat (clean '<' (by decide)) (clean '>' (by decide))
      (.inr (clean '.' (by decide)))
    rcases isTail with rfl | bracketed
    · rfl
    · exact bracketed.whole

theorem dotted_pieces_nullable {depth : Int} {text : List Char}
    (whole : dottedPieces depth text = [text]) :
    dottedPieces depth (text ++ ['?']) = [text ++ ['?']] := by
  induction text generalizing depth with
  | nil => rfl
  | cons character rest induction =>
      obtain ⟨piece, more, pieces, -⟩ :=
        Text.dotted_pieces_inside rest (bracketDepth depth character)
      rw [dottedPieces, pieces] at whole
      rw [List.cons_append, dottedPieces]
      split at whole
      · cases whole
      · obtain ⟨same, rfl⟩ := List.cons_eq_cons.mp whole
        rw [(List.cons_eq_cons.mp same).2] at pieces
        rw [if_neg ‹_›, induction pieces]
        rfl

theorem Piece.nullable {text : List Char} (piece : Piece text) : Piece (text ++ ['?']) where
  some := List.append_ne_nil_of_left_ne_nil piece.some _
  closed := by
    rw [List.foldl_append, piece.closed]
    rfl
  whole := dotted_pieces_nullable piece.whole

theorem Plain.piece {name : String} (plain : Plain name) {tail : List Char}
    (isTail : tail = [] ∨ Bracketed tail) : Piece (name.toList ++ tail) := by
  apply piece_of_brackets _ _ isTail
  · exact fun empty => plain.1 (String.toList_inj.mp empty)
  · have among : ['.', '<', '>'] ⊆ marks := by decide
    exact fun mark listed => plain.2 mark (among listed)

theorem Plain.clean {name : String} (plain : Plain name) {mark : List Char}
    (isMark : mark = [] ∨ mark = ['@']) {other : Char} (listed : other ∈ marks)
    (notVerbatim : other ≠ '@') : other ∉ mark ++ name.toList := by
  intro member
  rcases List.mem_append.mp member with inMark | inName
  · rcases isMark with rfl | rfl
    · cases inMark
    · exact notVerbatim (List.mem_singleton.mp inMark)
  · exact plain.2 other listed inName

theorem piece_of_plain {name : String} (plain : Plain name) : Piece name.toList := by
  have piece := plain.piece (.inl rfl : ([] : List Char) = [] ∨ _)
  rwa [List.append_nil] at piece

end Brackets

section Counting

theorem unmarked_eq {text : List Char} (front : ∀ first ∈ text.head?, first ≠ '@')
    (back : ∀ last ∈ text.getLast?, last ≠ '?') : unmarked text = text := by
  have kept : text.reverse.dropWhile (· = '?') = text.reverse := by
    cases reversed : text.reverse with
    | nil => rfl
    | cons last more =>
        have isLast : last ∈ text.getLast? := by
          rw [← List.head?_reverse, reversed]
          rfl
        rw [List.dropWhile_cons, if_neg]
        exact fun mark => back last isLast (of_decide_eq_true mark)
  unfold unmarked
  rw [kept, List.reverse_reverse]
  cases text with
  | nil => rfl
  | cons first rest =>
      rw [List.dropWhile_cons, if_neg]
      exact fun mark => front first rfl (of_decide_eq_true mark)

theorem drop_while_stop {goes : Char → Bool} {stop : Char} (stops : goes stop = false)
    (front back : List Char) :
    (front ++ stop :: back).dropWhile goes = front.dropWhile goes ++ stop :: back := by
  induction front with
  | nil => rw [List.nil_append, List.dropWhile_cons, if_neg (ne_true_of_eq_false stops)]; rfl
  | cons first front induction =>
      rw [List.cons_append, List.dropWhile_cons, List.dropWhile_cons, induction]
      by_cases gone : goes first = true
      · rw [if_pos gone, if_pos gone]
      · rw [if_neg gone, if_neg gone, List.cons_append]

theorem unmarked_verbatim (text : List Char) : unmarked ('@' :: text) = unmarked text := by
  unfold unmarked
  rw [List.reverse_cons, drop_while_stop (by decide), List.reverse_append]
  rfl

theorem unmarked_nullable (text : List Char) : unmarked (text ++ ['?']) = unmarked text := by
  unfold unmarked
  rw [List.reverse_concat, List.dropWhile_cons, if_pos (by decide)]

theorem segment_chars_congr {piece other : List Char} (same : unmarked piece = unmarked other) :
    segmentChars piece = segmentChars other := by
  unfold segmentChars
  rw [same]

theorem Plain.unmarked {name : String} (plain : Plain name) {tail : List Char}
    (isTail : tail = [] ∨ Bracketed tail) :
    unmarked (name.toList ++ tail) = name.toList ++ tail := by
  apply unmarked_eq
  · intro first isFirst mark
    cases characters : name.toList with
    | nil => exact plain.1 (String.toList_inj.mp characters)
    | cons character rest =>
        rw [characters, List.cons_append, List.head?_cons] at isFirst
        apply plain.2 '@' (by decide)
        rw [characters, ← mark, ← Option.some.inj isFirst]
        exact List.mem_cons_self
  · intro last isLast mark
    rcases isTail with rfl | bracketed
    · rw [List.append_nil] at isLast
      exact plain.2 '?' (by decide) (mark ▸ List.mem_of_mem_getLast? isLast)
    · rw [List.getLast?_append, bracketed.closing] at isLast
      cases mark.symm.trans (Option.some.inj isLast).symm

theorem segment_chars_plain {name : String} (plain : Plain name) :
    segmentChars name.toList = name.toList := by
  have own := plain.unmarked (.inl rfl : ([] : List Char) = [] ∨ _)
  rw [List.append_nil] at own
  unfold segmentChars
  dsimp only
  rw [own, if_neg]
  rw [List.contains_iff_mem]
  exact plain.2 '<' (by decide)

theorem segment_chars_brackets {name : String} (plain : Plain name) {inner : List Char}
    (bracketed : Bracketed ('<' :: (inner ++ ['>']))) :
    segmentChars (name.toList ++ '<' :: (inner ++ ['>'])) =
      name.toList ++ '`' :: (toString (outerCommas 0 inner + 1)).toList := by
  have noOpening : '<' ∉ name.toList := plain.2 '<' (by decide)
  have behind : Text.afterFirst '<' (name.toList ++ '<' :: (inner ++ ['>'])) = inner ++ ['>'] := by
    unfold Text.afterFirst
    rw [List.dropWhile_append_of_pos]
    · rfl
    · exact fun character member => decide_eq_true fun same => noOpening (same ▸ member)
  unfold segmentChars
  dsimp only
  rw [plain.unmarked (.inr bracketed), if_pos, Text.before_first_mark,
    Text.before_first_clean noOpening, behind, List.dropLast_concat]
  rw [List.contains_iff_mem]
  exact List.mem_append_right _ List.mem_cons_self

/-- The name of a type as it is written, with its type arguments. -/
structure WrittenType where
  name : String
  arguments : List String
deriving DecidableEq, Repr

namespace WrittenType

def text (written : WrittenType) : String :=
  if written.arguments = [] then written.name
  else written.name ++ "<" ++ ",".intercalate written.arguments ++ ">"

def key (written : WrittenType) : String × Nat := (written.name, written.arguments.length)

def Simple (written : WrittenType) : Prop :=
  Plain written.name ∧ ∀ argument ∈ written.arguments, ∀ mark ∈ [',', '<', '>', ':'],
    mark ∉ argument.toList

instance (written : WrittenType) : Decidable written.Simple :=
  @instDecidableAnd _ _ _ (@List.decidableBAll _ _ (fun argument =>
    List.decidableBAll (fun mark => mark ∉ argument.toList) [',', '<', '>', ':']) written.arguments)

end WrittenType

end Counting

namespace WrittenType

variable {written : WrittenType}

theorem to_list_text (given : written.arguments ≠ []) :
    written.text.toList =
      written.name.toList ++
        '<' :: ([','].intercalate (written.arguments.map String.toList) ++ ['>']) := by
  unfold text
  rw [if_neg given]
  simp

theorem Simple.counted (simple : written.Simple) (given : written.arguments ≠ []) :
    Counted (written.arguments.length - 1)
      ([','].intercalate (written.arguments.map String.toList)) := by
  have clean : ∀ argument ∈ written.arguments.map String.toList, Counted 0 argument := by
    intro characters member
    obtain ⟨argument, listed, rfl⟩ := List.mem_map.mp member
    have own := simple.2 argument listed
    exact .of_clean ⟨own '<' (by decide), own '>' (by decide), own ',' (by decide)⟩
  cases arguments : written.arguments with
  | nil => exact absurd arguments given
  | cons first rest =>
      rw [arguments] at clean
      have counted := Counted.joined clean
      rwa [List.length_map] at counted

theorem Simple.no_colon (simple : written.Simple) : ':' ∉ written.text.toList := by
  have own := simple.1.2 ':' (by decide)
  by_cases given : written.arguments = []
  · unfold text
    rw [if_pos given]
    exact own
  · rw [to_list_text given]
    simp only [List.mem_append, List.mem_cons, List.not_mem_nil, or_false, not_or]
    refine ⟨own, by decide, Text.not_mem_joined (by decide) ?_, by decide⟩
    intro characters member
    obtain ⟨argument, isArgument, rfl⟩ := List.mem_map.mp member
    exact simple.2 argument isArgument ':' (by decide)

theorem Simple.piece (simple : written.Simple) : Piece written.text.toList := by
  by_cases given : written.arguments = []
  · unfold text
    rw [if_pos given]
    exact piece_of_plain simple.1
  · rw [to_list_text given]
    apply simple.1.piece
    exact .inr (simple.counted given).bracketed

/-- A written type gives the segment of the types with its name and its number of arguments. -/
theorem Simple.segment (simple : written.Simple) :
    segmentChars written.text.toList = (keySegment written.key).toList := by
  unfold keySegment key
  by_cases given : written.arguments = []
  · unfold text
    rw [if_pos given, given, if_pos List.length_nil]
    exact segment_chars_plain simple.1
  · have some := List.length_pos_iff.mpr given
    rw [if_neg some.ne', to_list_text given]
    apply (segment_chars_brackets simple.1 (simple.counted given).bracketed).trans
    rw [(simple.counted given).commas, Nat.sub_add_cancel some, String.toList_append,
      String.toList_append, List.append_assoc]
    rfl

end WrittenType

end Names

end PropertyGen
