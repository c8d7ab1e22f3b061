import PropertyGen.Proofs.Segments

/-!
Type names as trees. A name is printed with dots, angle brackets and commas, and cutting the printed
text gives the identifiers again, each with the number of its own type arguments.
-/

namespace PropertyGen.Names

/-- An identifier as it is written: perhaps with a verbatim mark, and without a mark or a comma
in its name. -/
structure Identifier where
  verbatim : Bool
  name : String
  plain : Plain name
  noComma : ',' ∉ name.toList

def nullableMark (nullable : Bool) : List Char := if nullable then ['?'] else []

namespace Identifier

variable (identifier : Identifier)

def mark : List Char := if identifier.verbatim then ['@'] else []

def chars : List Char := identifier.mark ++ identifier.name.toList

theorem mark_cases : identifier.mark = [] ∨ identifier.mark = ['@'] := by
  unfold mark
  cases identifier.verbatim
  · exact .inl rfl
  · exact .inr rfl

theorem chars_ne_nil : identifier.chars ≠ [] :=
  List.append_ne_nil_of_right_ne_nil _ fun none =>
    identifier.plain.1 (String.toList_eq_nil_iff.mp none)

theorem clean {other : Char} (listed : other ∈ marks) (notVerbatim : other ≠ '@') :
    other ∉ identifier.chars :=
  identifier.plain.clean identifier.mark_cases listed notVerbatim

theorem counted : Counted 0 identifier.chars := by
  apply Counted.of_clean
  refine ⟨identifier.clean (by decide) (by decide), identifier.clean (by decide) (by decide), ?_⟩
  intro member
  rcases List.mem_append.mp member with inMark | inName
  · rcases identifier.mark_cases with none | verbatim
    · exact absurd (none ▸ inMark) List.not_mem_nil
    · exact absurd (verbatim ▸ inMark) (by decide)
  · exact identifier.noComma inName

theorem piece {tail : List Char} (isTail : tail = [] ∨ Bracketed tail) (nullable : Bool) :
    Piece (identifier.chars ++ tail ++ nullableMark nullable) := by
  have own : Piece (identifier.chars ++ tail) := by
    apply piece_of_brackets identifier.chars_ne_nil _ isTail
    rw [List.forall_mem_cons, List.forall_mem_cons, List.forall_mem_singleton]
    exact ⟨identifier.clean (by decide) (by decide), identifier.clean (by decide) (by decide),
      identifier.clean (by decide) (by decide)⟩
  unfold nullableMark
  cases nullable
  · rw [if_neg Bool.false_ne_true, List.append_nil]
    exact own
  · exact own.nullable

theorem segment_chars_marked (tail : List Char) (nullable : Bool) :
    segmentChars (identifier.chars ++ tail ++ nullableMark nullable) =
      segmentChars (identifier.name.toList ++ tail) := by
  have behind : segmentChars (identifier.chars ++ tail ++ nullableMark nullable) =
      segmentChars (identifier.chars ++ tail) := by
    unfold nullableMark
    cases nullable
    · rw [if_neg Bool.false_ne_true, List.append_nil]
    · exact segment_chars_congr (unmarked_nullable _)
  rw [behind]
  unfold chars
  rcases identifier.mark_cases with none | verbatim
  · rw [none, List.nil_append]
  · rw [verbatim]
    exact segment_chars_congr (unmarked_verbatim _)

variable (nullable : Bool)

theorem segments_plain :
    segmentsChars (identifier.chars ++ nullableMark nullable) = [identifier.name.toList] := by
  have own := identifier.piece (.inl rfl : ([] : List Char) = [] ∨ _) nullable
  have marked := identifier.segment_chars_marked [] nullable
  rw [List.append_nil] at own marked
  rw [own.segments_chars, marked, List.append_nil, segment_chars_plain identifier.plain]

theorem segments_generic {commas : Nat} {inner : List Char} (counted : Counted commas inner) :
    segmentsChars (identifier.chars ++ '<' :: (inner ++ ['>']) ++ nullableMark nullable) =
      [(keySegment (identifier.name, commas + 1)).toList] := by
  have bracketed := counted.bracketed
  rw [(identifier.piece (.inr bracketed) nullable).segments_chars,
    identifier.segment_chars_marked,
    segment_chars_brackets identifier.plain bracketed, counted.commas]
  unfold keySegment
  rw [if_neg (Nat.succ_ne_zero commas), String.toList_append, String.toList_append,
    List.append_assoc]
  rfl

end Identifier

mutual

inductive TypeName where
  | single (segment : NameSegment)
  | dotted (segment : NameSegment) (rest : TypeName)

inductive NameSegment where
  | plain (identifier : Identifier)
  | generic (identifier : Identifier) (arguments : TypeArguments)

/-- Type names with commas between them. Each may be nullable, and a space may follow a comma. -/
inductive TypeArguments where
  | single (argument : TypeName) (nullable : Bool)
  | more (argument : TypeName) (nullable spaced : Bool) (rest : TypeArguments)

end

mutual

def TypeName.chars : TypeName → List Char
  | .single segment => segment.chars
  | .dotted segment rest => segment.chars ++ '.' :: rest.chars

def NameSegment.chars : NameSegment → List Char
  | .plain identifier => identifier.chars
  | .generic identifier arguments => identifier.chars ++ '<' :: (arguments.chars ++ ['>'])

def TypeArguments.chars : TypeArguments → List Char
  | .single argument nullable => argument.chars ++ nullableMark nullable
  | .more argument nullable spaced rest =>
      argument.chars ++ nullableMark nullable ++ ',' :: ((if spaced then [' '] else []) ++ rest.chars)

end

def TypeArguments.count : TypeArguments → Nat
  | .single _ _ => 1
  | .more _ _ _ rest => rest.count + 1

/-- What a segment says of a type: its identifier and the number of its type arguments. -/
def NameSegment.key : NameSegment → String × Nat
  | .plain identifier => (identifier.name, 0)
  | .generic identifier arguments => (identifier.name, arguments.count)

def TypeName.keys : TypeName → List (String × Nat)
  | .single segment => [segment.key]
  | .dotted segment rest => segment.key :: rest.keys

structure NullableName where
  name : TypeName
  nullable : Bool

def NullableName.text (written : NullableName) : String :=
  String.ofList (written.name.chars ++ nullableMark written.nullable)

theorem counted_nullable_mark (nullable : Bool) : Counted 0 (nullableMark nullable) := by
  cases nullable
  · exact .of_clean (by decide)
  · exact .of_clean (by decide)

theorem TypeArguments.count_pos (arguments : TypeArguments) : 0 < arguments.count := by
  cases arguments with
  | single => exact Nat.one_pos
  | more => exact Nat.succ_pos _

mutual

theorem TypeName.counted : (name : TypeName) → Counted 0 name.chars
  | .single segment => by
      rw [TypeName.chars]
      exact segment.counted
  | .dotted segment rest => by
      have dot : Counted 0 ['.'] := .of_clean (by decide)
      rw [TypeName.chars]
      exact segment.counted.append (dot.append rest.counted)

theorem NameSegment.counted : (segment : NameSegment) → Counted 0 segment.chars
  | .plain identifier => by
      rw [NameSegment.chars]
      exact identifier.counted
  | .generic identifier arguments => by
      rw [NameSegment.chars]
      exact identifier.counted.append (.wrapped arguments.counted.toBalanced)

theorem TypeArguments.counted :
    (arguments : TypeArguments) → Counted (arguments.count - 1) arguments.chars
  | .single argument nullable => by
      rw [TypeArguments.chars]
      exact argument.counted.append (counted_nullable_mark nullable)
  | .more argument nullable spaced rest => by
      have space : Counted 0 (if spaced then [' '] else []) := by
        cases spaced
        · exact .of_clean (by decide)
        · exact .of_clean (by decide)
      have own := argument.counted.append (counted_nullable_mark nullable)
      have whole := own.append (Counted.comma.append (space.append rest.counted))
      have total : 0 + 0 + (1 + (0 + (rest.count - 1))) = rest.count := by
        have some := rest.count_pos
        omega
      rw [TypeArguments.chars, TypeArguments.count, Nat.add_sub_cancel]
      rwa [total] at whole

end

theorem NameSegment.segments_chars (segment : NameSegment) (nullable : Bool) :
    segmentsChars (segment.chars ++ nullableMark nullable) = [(keySegment segment.key).toList] := by
  cases segment with
  | plain identifier =>
      rw [NameSegment.chars]
      exact identifier.segments_plain nullable
  | generic identifier arguments =>
      rw [NameSegment.chars, identifier.segments_generic nullable arguments.counted,
        Nat.sub_add_cancel arguments.count_pos]
      rfl

theorem TypeName.segments_chars (name : TypeName) (nullable : Bool) :
    segmentsChars (name.chars ++ nullableMark nullable) =
      name.keys.map fun key => (keySegment key).toList := by
  cases name with
  | single segment =>
      rw [TypeName.chars]
      exact segment.segments_chars nullable
  | dotted segment rest =>
      have own := segment.segments_chars false
      rw [show nullableMark false = [] from rfl, List.append_nil] at own
      rw [TypeName.chars, List.append_assoc, List.cons_append,
        segments_chars_append segment.counted.closed, own, rest.segments_chars nullable]
      rfl

theorem NullableName.segments_text (written : NullableName) :
    segments written.text = written.name.keys.map keySegment := by
  unfold segments text
  rw [String.toList_ofList, written.name.segments_chars, List.map_map]
  exact List.map_congr_left fun key _ => String.ofList_toList

/-- Cutting the text of a type name gives its identifiers, each with the number of its own type
arguments, and names with a dot between them are cut as each of them is. -/
theorem type_names_cut :
    (∀ written : NullableName, segments written.text = written.name.keys.map keySegment) ∧
      ∀ first second : NullableName,
        segments (first.text ++ "." ++ second.text) =
          segments first.text ++ segments second.text := by
  constructor
  · exact NullableName.segments_text
  · intro first second
    have closed :=
      (first.name.counted.append (counted_nullable_mark first.nullable)).closed
    unfold segments NullableName.text
    rw [String.toList_append, String.toList_append, String.toList_ofList, List.append_assoc,
      show ".".toList = ['.'] from rfl, List.singleton_append, segments_chars_append closed,
      List.map_append]

example : segments "Map<string, List<int?>>.@Entry<A.B>?" = ["Map`2", "Entry`1"] := by
  decide +kernel

end PropertyGen.Names
