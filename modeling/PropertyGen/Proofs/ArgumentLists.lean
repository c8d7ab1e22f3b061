import PropertyGen.Proofs.Closure
import PropertyGen.Proofs.Derivations
import PropertyGen.Proofs.Fragments
import PropertyGen.Proofs.FullNames
import PropertyGen.Proofs.TypeNames

/-!
What the type arguments of a name do to its binding. They are skipped by the commas and angle
brackets in them alone: the commas of an array and of a tuple are counted as if they were between
arguments, and a double colon in an argument is taken for the one behind an alias.
-/

namespace PropertyGen

namespace Names

mutual

/-- A type as it may be written as a type argument. -/
inductive TypeText where
  /-- A name, perhaps with an alias or the global mark before a double colon. -/
  | named (label? : Option Identifier) (name : QualifiedText)
  | nullable (element : TypeText)
  /-- An array; there is one comma less than it has dimensions. -/
  | array (element : TypeText) (commas : Nat)
  | tuple (elements : TupleText)

inductive QualifiedText where
  | single (segment : SegmentText)
  | dotted (segment : SegmentText) (rest : QualifiedText)

inductive SegmentText where
  | plain (identifier : Identifier)
  | generic (identifier : Identifier) (arguments : ArgumentTexts)

inductive ArgumentTexts where
  | single (argument : TypeText)
  | more (argument : TypeText) (rest : ArgumentTexts)

inductive TupleText where
  | pair (first : TypeText) (firstName? : Option Identifier) (second : TypeText)
      (secondName? : Option Identifier)
  | more (element : TypeText) (name? : Option Identifier) (rest : TupleText)

end

def labelChars : Option Identifier → List Char
  | none => []
  | some label => label.chars ++ [':', ':']

def elementName (name? : Option Identifier) : List Char := (name?.map Identifier.chars).getD []

mutual

def TypeText.chars : TypeText → List Char
  | .named label? name => labelChars label? ++ name.chars
  | .nullable element => element.chars ++ ['?']
  | .array element commas => element.chars ++ '[' :: (List.replicate commas ',' ++ [']'])
  | .tuple elements => '(' :: (elements.chars ++ [')'])

def QualifiedText.chars : QualifiedText → List Char
  | .single segment => segment.chars
  | .dotted segment rest => segment.chars ++ '.' :: rest.chars

def SegmentText.chars : SegmentText → List Char
  | .plain identifier => identifier.chars
  | .generic identifier arguments => identifier.chars ++ '<' :: (arguments.chars ++ ['>'])

def ArgumentTexts.chars : ArgumentTexts → List Char
  | .single argument => argument.chars
  | .more argument rest => argument.chars ++ ',' :: rest.chars

def TupleText.chars : TupleText → List Char
  | .pair first firstName? second secondName? =>
      first.chars ++ elementName firstName? ++ ',' :: (second.chars ++ elementName secondName?)
  | .more element name? rest => element.chars ++ elementName name? ++ ',' :: rest.chars

end

mutual

/-- The commas of a type that stand outside of all angle brackets. -/
def TypeText.commas : TypeText → Nat
  | .named _ _ => 0
  | .nullable element => element.commas
  | .array element commas => element.commas + commas
  | .tuple elements => elements.commas

def TupleText.commas : TupleText → Nat
  | .pair first _ second _ => first.commas + (1 + second.commas)
  | .more element _ rest => element.commas + (1 + rest.commas)

end

def ArgumentTexts.count : ArgumentTexts → Nat
  | .single _ => 1
  | .more _ rest => rest.count + 1

theorem ArgumentTexts.count_pos (arguments : ArgumentTexts) : 0 < arguments.count := by
  cases arguments with
  | single => exact Nat.one_pos
  | more => exact Nat.succ_pos _

def ArgumentTexts.commas : ArgumentTexts → Nat
  | .single argument => argument.commas
  | .more argument rest => argument.commas + rest.commas

def SegmentText.key : SegmentText → String × Nat
  | .plain identifier => (identifier.name, 0)
  | .generic identifier arguments => (identifier.name, arguments.count)

def SegmentText.commas : SegmentText → Nat
  | .plain _ => 0
  | .generic _ arguments => arguments.commas

def QualifiedText.keys : QualifiedText → List (String × Nat)
  | .single segment => [segment.key]
  | .dotted segment rest => segment.key :: rest.keys

def QualifiedText.commas : QualifiedText → List Nat
  | .single segment => [segment.commas]
  | .dotted segment rest => segment.commas :: rest.commas

/-- The name of a type where it is referred to. -/
structure Reference where
  label? : Option Identifier
  name : QualifiedText
  nullable : Bool

namespace Reference

variable (reference : Reference)

def body : List Char := reference.name.chars ++ nullableMark reference.nullable

def chars : List Char := labelChars reference.label? ++ reference.body

def aliased : Bool := reference.label?.any fun label => label.chars ≠ "global".toList

/-- There is a double colon in the arguments, and it is the first one of the name. -/
def hides : Bool := !reference.aliased && reference.name.chars.contains ':'

structure Alike (first second : Reference) : Prop where
  labels : second.label? = first.label?
  keys : second.name.keys = first.name.keys

/-- References whose arguments are skipped alike: a double colon is hidden in both of them or in
none, and in none there are as many commas in the arguments of each segment. -/
structure SkippedAlike (first second : Reference) : Prop where
  hidden : second.hides = first.hides
  counted : first.hides = false → second.name.commas = first.name.commas

end Reference

section Texts

theorem counted_name (name? : Option Identifier) : Counted 0 (elementName name?) := by
  cases name? with
  | none => exact .of_clean (by decide)
  | some name => exact name.counted

theorem no_colon_in_name (name? : Option Identifier) : ':' ∉ elementName name? := by
  cases name? with
  | none => exact List.not_mem_nil
  | some name => exact name.clean (by decide) (by decide)

theorem counted_commas (count : Nat) : Counted count (List.replicate count ',') := by
  induction count with
  | zero => exact .of_clean (by decide)
  | succ count induction =>
      rw [List.replicate_succ, Nat.add_comm]
      exact Counted.comma.append induction

theorem counted_label (label? : Option Identifier) : Counted 0 (labelChars label?) := by
  cases label? with
  | none => exact .of_clean (by decide)
  | some label => exact label.counted.append (.of_clean (by decide))

mutual

theorem TypeText.counted : (type : TypeText) → Counted type.commas type.chars
  | .named label? name => by
      rw [TypeText.chars, TypeText.commas]
      exact (counted_label label?).append name.counted
  | .nullable element => by
      have mark : Counted 0 ['?'] := .of_clean (by decide)
      rw [TypeText.chars, TypeText.commas]
      exact element.counted.append mark
  | .array element commas => by
      have opening : Counted 0 ['['] := .of_clean (by decide)
      have closing : Counted 0 [']'] := .of_clean (by decide)
      have whole := element.counted.append (opening.append ((counted_commas commas).append closing))
      rw [TypeText.chars, TypeText.commas]
      rwa [Nat.add_zero, Nat.zero_add] at whole
  | .tuple elements => by
      have opening : Counted 0 ['('] := .of_clean (by decide)
      have closing : Counted 0 [')'] := .of_clean (by decide)
      have whole := opening.append (elements.counted.append closing)
      rw [TypeText.chars, TypeText.commas]
      rwa [Nat.add_zero, Nat.zero_add] at whole

theorem QualifiedText.counted : (name : QualifiedText) → Counted 0 name.chars
  | .single segment => by
      rw [QualifiedText.chars]
      exact segment.counted
  | .dotted segment rest => by
      have dot : Counted 0 ['.'] := .of_clean (by decide)
      rw [QualifiedText.chars]
      exact segment.counted.append (dot.append rest.counted)

theorem SegmentText.counted : (segment : SegmentText) → Counted 0 segment.chars
  | .plain identifier => by
      rw [SegmentText.chars]
      exact identifier.counted
  | .generic identifier arguments => by
      rw [SegmentText.chars]
      exact identifier.counted.append (.wrapped arguments.counted.toBalanced)

theorem ArgumentTexts.counted : (arguments : ArgumentTexts) →
    Counted (arguments.commas + (arguments.count - 1)) arguments.chars
  | .single argument => by
      rw [ArgumentTexts.chars, ArgumentTexts.commas]
      exact argument.counted
  | .more argument rest => by
      have some := rest.count_pos
      have whole := argument.counted.append (Counted.comma.append rest.counted)
      rw [show argument.commas + (1 + (rest.commas + (rest.count - 1))) =
        argument.commas + rest.commas + (rest.count + 1 - 1) by omega] at whole
      rw [ArgumentTexts.chars, ArgumentTexts.commas]
      exact whole

theorem TupleText.counted : (elements : TupleText) → Counted elements.commas elements.chars
  | .pair first firstName? second secondName? => by
      have own := first.counted.append (counted_name firstName?)
      have other := second.counted.append (counted_name secondName?)
      rw [TupleText.chars, TupleText.commas]
      exact own.append (Counted.comma.append other)
  | .more element name? rest => by
      have own := element.counted.append (counted_name name?)
      rw [TupleText.chars, TupleText.commas]
      exact own.append (Counted.comma.append rest.counted)

end

/-- A text with a double colon, and with an angle bracket in front of all colons. -/
def HidesColons (text : List Char) : Prop :=
  ∃ front back, text = front ++ '<' :: back ∧ ':' ∉ front ∧ [':', ':'] <:+: back

theorem HidesColons.present {text : List Char} (hides : HidesColons text) :
    [':', ':'] <:+: text := by
  obtain ⟨front, back, rfl, -, present⟩ := hides
  exact present.trans ((List.suffix_cons _ _).trans (List.suffix_append _ _)).isInfix

theorem HidesColons.followed {text : List Char} (hides : HidesColons text) (more : List Char) :
    HidesColons (text ++ more) := by
  obtain ⟨front, back, rfl, clean, present⟩ := hides
  refine ⟨front, back ++ more, ?_, clean, present.trans (List.prefix_append _ _).isInfix⟩
  rw [List.append_assoc, List.cons_append]

theorem HidesColons.after {text : List Char} (hides : HidesColons text) {before : List Char}
    (none : ':' ∉ before) : HidesColons (before ++ text) := by
  obtain ⟨front, back, rfl, clean, present⟩ := hides
  refine ⟨before ++ front, back, (List.append_assoc _ _ _).symm, ?_, present⟩
  rw [List.mem_append, not_or]
  exact ⟨none, clean⟩

theorem present_front {front : List Char} (present : [':', ':'] <:+: front) (back : List Char) :
    [':', ':'] <:+: front ++ back :=
  present.trans (List.prefix_append _ _).isInfix

theorem present_back {back : List Char} (present : [':', ':'] <:+: back) (front : List Char) :
    [':', ':'] <:+: front ++ back :=
  present.trans (List.suffix_append _ _).isInfix

mutual

/-- Where there is a colon in a type, there are two. -/
theorem TypeText.colons : (type : TypeText) → ':' ∈ type.chars → [':', ':'] <:+: type.chars
  | .named (some label) name => by
      intro _
      rw [TypeText.chars, labelChars]
      exact ⟨label.chars, name.chars, rfl⟩
  | .named none name => by
      rw [TypeText.chars]
      exact fun inside => (name.colons inside).present
  | .nullable element => by
      rw [TypeText.chars, List.mem_append]
      rintro (inside | inMark)
      · exact present_front (element.colons inside) _
      · exact absurd inMark (by decide)
  | .array element commas => by
      rw [TypeText.chars, List.mem_append]
      rintro (inside | inBrackets)
      · exact present_front (element.colons inside) _
      · simp at inBrackets
  | .tuple elements => by
      rw [TypeText.chars, List.mem_cons, List.mem_append]
      rintro (isOpening | inside | isClosing)
      · exact absurd isOpening (by decide)
      · exact present_back (present_front (elements.colons inside) _) ['(']
      · exact absurd isClosing (by decide)

theorem QualifiedText.colons : (name : QualifiedText) → ':' ∈ name.chars → HidesColons name.chars
  | .single segment => by
      rw [QualifiedText.chars]
      exact segment.colons
  | .dotted segment rest => by
      rw [QualifiedText.chars]
      intro inside
      by_cases own : ':' ∈ segment.chars
      · exact (segment.colons own).followed _
      · have clean : ':' ∉ segment.chars ++ ['.'] := by
          rw [List.mem_append, not_or]
          exact ⟨own, by decide⟩
        rw [List.append_cons] at inside ⊢
        exact (rest.colons ((List.mem_append.mp inside).resolve_left clean)).after clean

theorem SegmentText.colons :
    (segment : SegmentText) → ':' ∈ segment.chars → HidesColons segment.chars
  | .plain identifier => by
      rw [SegmentText.chars]
      exact fun inside => absurd inside (identifier.clean (by decide) (by decide))
  | .generic identifier arguments => by
      rw [SegmentText.chars, List.mem_append, List.mem_cons, List.mem_append]
      rintro (inName | isOpening | inside | isClosing)
      · exact absurd inName (identifier.clean (by decide) (by decide))
      · exact absurd isOpening (by decide)
      · exact ⟨identifier.chars, arguments.chars ++ ['>'], rfl,
          identifier.clean (by decide) (by decide), present_front (arguments.colons inside) _⟩
      · exact absurd isClosing (by decide)

theorem ArgumentTexts.colons : (arguments : ArgumentTexts) → ':' ∈ arguments.chars →
    [':', ':'] <:+: arguments.chars
  | .single argument => by
      rw [ArgumentTexts.chars]
      exact argument.colons
  | .more argument rest => by
      rw [ArgumentTexts.chars, List.mem_append, List.mem_cons]
      rintro (inside | isComma | inside)
      · exact present_front (argument.colons inside) _
      · exact absurd isComma (by decide)
      · exact present_back (present_back (rest.colons inside) [',']) _

theorem TupleText.colons : (elements : TupleText) → ':' ∈ elements.chars →
    [':', ':'] <:+: elements.chars
  | .pair first firstName? second secondName? => by
      rw [TupleText.chars, List.mem_append, List.mem_append, List.mem_cons, List.mem_append]
      rintro ((inside | inName) | isComma | inside | inName)
      · exact present_front (present_front (first.colons inside) _) _
      · exact absurd inName (no_colon_in_name firstName?)
      · exact absurd isComma (by decide)
      · exact present_back (present_back (present_front (second.colons inside) _) [',']) _
      · exact absurd inName (no_colon_in_name secondName?)
  | .more element name? rest => by
      rw [TupleText.chars, List.mem_append, List.mem_append, List.mem_cons]
      rintro ((inside | inName) | isComma | inside)
      · exact present_front (present_front (element.colons inside) _) _
      · exact absurd inName (no_colon_in_name name?)
      · exact absurd isComma (by decide)
      · exact present_back (present_back (rest.colons inside) [',']) _

end

end Texts

section Cutting

theorem SegmentText.chars_ne_nil (segment : SegmentText) : segment.chars ≠ [] := by
  cases segment with
  | plain identifier =>
      rw [SegmentText.chars]
      exact identifier.chars_ne_nil
  | generic identifier arguments =>
      rw [SegmentText.chars]
      exact List.append_ne_nil_of_left_ne_nil identifier.chars_ne_nil _

theorem SegmentText.segments_chars (segment : SegmentText) (nullable : Bool) :
    segmentsChars (segment.chars ++ nullableMark nullable) =
      [(keySegment (segment.key.1, segment.key.2 + segment.commas)).toList] := by
  cases segment with
  | plain identifier =>
      rw [SegmentText.chars]
      exact identifier.segments_plain nullable
  | generic identifier arguments =>
      have total : arguments.commas + (arguments.count - 1) + 1 =
          arguments.count + arguments.commas := by
        have some := arguments.count_pos
        omega
      rw [SegmentText.chars, identifier.segments_generic nullable arguments.counted, total]
      rfl

def QualifiedText.counts (name : QualifiedText) : List (String × Nat) :=
  List.zipWith (fun key commas => (key.1, key.2 + commas)) name.keys name.commas

theorem QualifiedText.segments_chars (name : QualifiedText) (nullable : Bool) :
    segmentsChars (name.chars ++ nullableMark nullable) =
      name.counts.map fun key => (keySegment key).toList := by
  cases name with
  | single segment =>
      rw [QualifiedText.chars]
      exact segment.segments_chars nullable
  | dotted segment rest =>
      have own := segment.segments_chars false
      rw [show nullableMark false = [] from rfl, List.append_nil] at own
      rw [QualifiedText.chars, List.append_assoc, List.cons_append,
        segments_chars_append segment.counted.closed, own, rest.segments_chars nullable]
      rfl

theorem QualifiedText.counts_plain (name : QualifiedText) : ∀ key ∈ name.counts, Plain key.1 := by
  have own (segment : SegmentText) : Plain segment.key.1 := by
    cases segment with
    | plain identifier => exact identifier.plain
    | generic identifier arguments => exact identifier.plain
  cases name with
  | single segment => exact List.forall_mem_singleton.mpr (own segment)
  | dotted segment rest => exact List.forall_mem_cons.mpr ⟨own segment, rest.counts_plain⟩

theorem QualifiedText.length_commas (name : QualifiedText) :
    name.commas.length = name.keys.length := by
  cases name with
  | single segment => rfl
  | dotted segment rest =>
      rw [QualifiedText.commas, QualifiedText.keys, List.length_cons, List.length_cons,
        rest.length_commas]

end Cutting

namespace Reference

variable (reference : Reference)

def segments : List String := reference.name.counts.map keySegment

theorem segments_body : segmentsChars reference.body = reference.segments.map String.toList := by
  unfold body segments
  rw [reference.name.segments_chars, List.map_map]
  rfl

theorem body_colons (inside : ':' ∈ reference.name.chars) : HidesColons reference.body :=
  (reference.name.colons inside).followed _

theorem body_no_colon (none : ':' ∉ reference.name.chars) : ':' ∉ reference.body := by
  unfold body nullableMark
  rw [List.mem_append, not_or]
  refine ⟨none, ?_⟩
  cases reference.nullable
  · exact List.not_mem_nil
  · decide

end Reference

end Names

section Qualifiers

theorem split_qualifier_append {front : List Char} (clean : ':' ∉ front) (rest : List Char) :
    splitQualifier? (front ++ rest) =
      (splitQualifier? rest).map fun parts => (front ++ parts.1, parts.2) := by
  induction front with
  | nil => exact Option.map_id'.symm
  | cons character front induction =>
      rw [List.mem_cons, not_or] at clean
      rw [List.cons_append, splitQualifier?, induction clean.2, Option.map_map]
      · rfl
      · exact fun _ same _ => clean.1 same.symm

theorem split_qualifier_present {text : List Char} (present : [':', ':'] <:+: text) :
    ∃ parts, splitQualifier? text = some parts := by
  induction text using splitQualifier?.induct with
  | case1 rest => exact ⟨_, splitQualifier?.eq_1 rest⟩
  | case2 character rest other induction =>
      rcases List.infix_cons_iff.mp present with ⟨behind, here⟩ | later
      · obtain ⟨same, rfl⟩ := List.cons_eq_cons.mp here
        exact absurd rfl (other behind same.symm)
      · obtain ⟨parts, split⟩ := induction later
        rw [splitQualifier?.eq_2 _ _ other, split]
        exact ⟨_, rfl⟩
  | case3 => exact absurd present (by decide)

/-- The colons in the arguments of a name are taken for the ones behind an alias. -/
theorem split_qualifier_hidden {text : List Char} (hides : Names.HidesColons text) :
    ∃ label rest, splitQualifier? text = some (label, rest) ∧ '<' ∈ label := by
  obtain ⟨front, back, rfl, clean, present⟩ := hides
  obtain ⟨parts, split⟩ := split_qualifier_present present
  have cleanToo : ':' ∉ front ++ ['<'] := by
    rw [List.mem_append, not_or]
    exact ⟨clean, by decide⟩
  refine ⟨front ++ ['<'] ++ parts.1, parts.2, ?_, ?_⟩
  · rw [List.append_cons, split_qualifier_append cleanToo, split]
    rfl
  · exact List.mem_append_left _ (List.mem_append_right _ List.mem_cons_self)

theorem split_qualifier_label {label : List Char} (clean : ':' ∉ label) (rest : List Char) :
    splitQualifier? (label ++ ':' :: ':' :: rest) = some (label, rest) := by
  rw [split_qualifier_append clean, splitQualifier?.eq_1, Option.map_some, List.append_nil]

theorem no_global_mark {text : List Char}
    (other : ∀ rest, splitQualifier? text ≠ some ("global".toList, rest)) :
    Text.dropPrefix? globalMark.toList text = none := by
  cases dropped : Text.dropPrefix? globalMark.toList text with
  | none => rfl
  | some rest =>
      have whole := Text.drop_prefix_some.mp dropped
      rw [show globalMark.toList = "global".toList ++ [':', ':'] by decide, List.append_assoc] at whole
      refine absurd ?_ (other rest)
      rw [whole]
      exact split_qualifier_label (by decide) rest

def Scope.viaLabel? (scope : Scope) (label rest : List Char) : Option Request :=
  (scope.aliasTarget? (String.ofList label)).map fun target =>
    .absolute (Names.segments (target ++ "." ++ String.ofList rest))

variable {scope : Scope} {name : String}

theorem request_unmarked
    (unmarked : Text.dropPrefix? globalMark.toList (Text.compact name).toList = none) :
    scope.request? name =
      match splitQualifier? (Text.compact name).toList with
      | some (label, rest) => scope.viaLabel? label rest
      | none => some (.relative (Names.segments (Text.compact name))) := by
  unfold Scope.request? withoutGlobalMark hasGlobalMark
  dsimp only
  rw [unmarked]
  rfl

theorem request_marked {rest : List Char}
    (marked : Text.dropPrefix? globalMark.toList (Text.compact name).toList = some rest) :
    scope.request? name =
      match splitQualifier? rest with
      | some (label, rest) => scope.viaLabel? label rest
      | none => some (.absolute (Names.segments (String.ofList rest))) := by
  unfold Scope.request? withoutGlobalMark hasGlobalMark
  dsimp only
  rw [marked, Option.map_some, Option.getD_some, String.toList_ofList]
  rfl

end Qualifiers

/-- A scope as a tree without errors gives it: aliases are identifiers, and the targets of the
directives close their brackets. -/
structure Scope.Readable (scope : Scope) : Prop where
  labels : ∀ directive ∈ scope.levels.flatMap (·.usings), ∀ label ∈ directive.alias?,
    '<' ∉ label.toList
  targets : ∀ directive ∈ scope.levels.flatMap (·.usings),
    directive.target.toList.foldl Names.bracketDepth 0 = 0

namespace Names.Reference

variable (reference : Reference)

def Spells (name : String) : Prop := (Text.compact name).toList = reference.chars

def request? (scope : Scope) : Option Request :=
  match reference.label? with
  | none => some (.relative reference.segments)
  | some label =>
      if label.chars = "global".toList then some (.absolute reference.segments)
      else (scope.aliasTarget? (String.ofList label.chars)).map fun target =>
        .absolute (Names.segments target ++ reference.segments)

variable {reference} {name : String} {scope : Scope}

theorem aliased_iff : reference.aliased = true ↔
    ∃ label, reference.label? = some label ∧ label.chars ≠ "global".toList := by
  unfold aliased
  cases reference.label? with
  | none =>
      refine ⟨fun aliased => absurd aliased Bool.false_ne_true, ?_⟩
      rintro ⟨label, none, -⟩
      cases none
  | some label =>
      rw [Option.any_some, decide_eq_true_iff]
      refine ⟨fun other => ⟨label, rfl, other⟩, ?_⟩
      rintro ⟨same, labelled, other⟩
      rwa [Option.some.inj labelled]

theorem segments_text {text : String} (own : text.toList = reference.body) :
    Names.segments text = reference.segments := by
  unfold Names.segments
  rw [own, reference.segments_body, List.map_map]
  exact (List.map_congr_left fun segment _ => String.ofList_toList).trans (List.map_id _)

theorem request_body (notAliased : reference.aliased = false) (spells : reference.Spells name)
    (scope : Scope) :
    scope.request? name =
      match splitQualifier? reference.body with
      | some (label, rest) => scope.viaLabel? label rest
      | none =>
          some (if reference.label? = none then .relative reference.segments
            else .absolute reference.segments) := by
  have text : (Text.compact name).toList = labelChars reference.label? ++ reference.body := spells
  cases labelled : reference.label? with
  | none =>
      rw [labelled] at text
      have own : (Text.compact name).toList = reference.body := text
      have unmarked : Text.dropPrefix? globalMark.toList (Text.compact name).toList = none := by
        apply no_global_mark
        intro rest split
        rw [own] at split
        by_cases inside : ':' ∈ reference.name.chars
        · obtain ⟨label, _, hidden, opening⟩ := split_qualifier_hidden (reference.body_colons inside)
          rw [hidden] at split
          rw [(Prod.mk.inj (Option.some.inj split)).1] at opening
          exact absurd opening (by decide)
        · rw [split_qualifier_none (reference.body_no_colon inside)] at split
          cases split
      rw [request_unmarked unmarked, own, if_pos rfl, segments_text own]
  | some label =>
      unfold aliased at notAliased
      rw [labelled, Option.any_some, decide_eq_false_iff_not, not_not] at notAliased
      have marked : Text.dropPrefix? globalMark.toList (Text.compact name).toList =
          some reference.body := by
        rw [Text.drop_prefix_some, text, labelled, labelChars, notAliased]
        rfl
      rw [request_marked marked, if_neg (Option.some_ne_none label),
        segments_text String.toList_ofList]

theorem request_aliased {label : Identifier} (labelled : reference.label? = some label)
    (notGlobal : label.chars ≠ "global".toList) (spells : reference.Spells name) (scope : Scope) :
    scope.request? name = scope.viaLabel? label.chars reference.body := by
  have text : (Text.compact name).toList = label.chars ++ ':' :: ':' :: reference.body := by
    rw [show (Text.compact name).toList = reference.chars from spells]
    unfold chars labelChars
    rw [labelled, List.append_assoc]
    rfl
  have split := split_qualifier_label (label.clean (by decide) (by decide)) reference.body
  have unmarked : Text.dropPrefix? globalMark.toList (Text.compact name).toList = none := by
    apply no_global_mark
    intro rest given
    rw [text, split] at given
    exact notGlobal (Prod.mk.inj (Option.some.inj given)).1
  rw [request_unmarked unmarked, text, split]

theorem no_alias_target (readable : scope.Readable) {label : List Char} (opening : '<' ∈ label) :
    scope.aliasTarget? (String.ofList label) = none := by
  unfold Scope.aliasTarget?
  rw [Option.map_eq_none_iff, List.find?_eq_none]
  intro directive listed found
  have clean := readable.labels directive listed _ (of_decide_eq_true found)
  rw [String.toList_ofList] at clean
  exact clean opening

theorem request_hidden (readable : scope.Readable) (spells : reference.Spells name)
    (hidden : reference.hides = true) : scope.request? name = none := by
  unfold Reference.hides at hidden
  rw [Bool.and_eq_true, Bool.not_eq_true', List.contains_iff_mem] at hidden
  obtain ⟨notAliased, inside⟩ := hidden
  obtain ⟨label, rest, split, opening⟩ := split_qualifier_hidden (reference.body_colons inside)
  rw [request_body notAliased spells, split]
  unfold Scope.viaLabel?
  dsimp only
  rw [no_alias_target readable opening, Option.map_none]

/-- An alias that closes the brackets of its target is cut apart from the name behind it. -/
theorem via_label_eq (readable : scope.Readable) (label : List Char) :
    scope.viaLabel? label reference.body =
      (scope.aliasTarget? (String.ofList label)).map fun target =>
        .absolute (Names.segments target ++ reference.segments) := by
  unfold Scope.viaLabel?
  cases found : scope.aliasTarget? (String.ofList label) with
  | none => rfl
  | some target =>
      obtain ⟨directive, isFirst, rfl⟩ := Option.map_eq_some_iff.mp found
      have closed := readable.targets directive (List.mem_of_find?_eq_some isFirst)
      have own : Names.segments (String.ofList reference.body) = reference.segments :=
        segments_text String.toList_ofList
      rw [Option.map_some, Option.map_some, ← own]
      unfold Names.segments
      rw [String.toList_append, String.toList_append, List.append_assoc,
        show ".".toList = ['.'] from rfl, List.singleton_append, segments_chars_append closed,
        List.map_append]

theorem request_shown (readable : scope.Readable) (spells : reference.Spells name)
    (shown : reference.hides = false) : scope.request? name = reference.request? scope := by
  unfold request?
  cases isAliased : reference.aliased with
  | false =>
      unfold Reference.hides at shown
      rw [isAliased, Bool.not_false, Bool.true_and, ← Bool.not_eq_true, List.contains_iff_mem] at shown
      rw [request_body isAliased spells, split_qualifier_none (reference.body_no_colon shown)]
      cases labelled : reference.label? with
      | none => rfl
      | some label =>
          unfold aliased at isAliased
          rw [labelled, Option.any_some, decide_eq_false_iff_not, not_not] at isAliased
          dsimp only
          rw [if_neg (Option.some_ne_none label), if_pos isAliased]
  | true =>
      obtain ⟨label, labelled, notGlobal⟩ := aliased_iff.mp isAliased
      rw [request_aliased labelled notGlobal spells, via_label_eq readable, labelled]
      dsimp only
      rw [if_neg notGlobal]

end Names.Reference

end PropertyGen
