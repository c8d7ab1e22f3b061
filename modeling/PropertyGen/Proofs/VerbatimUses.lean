import PropertyGen.Proofs.SkippedArguments

/-!
The verbatim mark where a name is used. Names that differ in marks only bind alike, and so do all
names in scopes that differ in the marks of alias targets only.
-/

namespace PropertyGen

namespace Names

section Bare

def Identifier.bare (identifier : Identifier) : Identifier := { identifier with verbatim := false }

mutual

def TypeText.bare : TypeText → TypeText
  | .named label? name => .named (label?.map Identifier.bare) name.bare
  | .nullable element => .nullable element.bare
  | .array element commas => .array element.bare commas
  | .tuple elements => .tuple elements.bare

def QualifiedText.bare : QualifiedText → QualifiedText
  | .single segment => .single segment.bare
  | .dotted segment rest => .dotted segment.bare rest.bare

def SegmentText.bare : SegmentText → SegmentText
  | .plain identifier => .plain identifier.bare
  | .generic identifier arguments => .generic identifier.bare arguments.bare

def ArgumentTexts.bare : ArgumentTexts → ArgumentTexts
  | .single argument => .single argument.bare
  | .more argument rest => .more argument.bare rest.bare

def TupleText.bare : TupleText → TupleText
  | .pair first firstName? second secondName? =>
      .pair first.bare (firstName?.map Identifier.bare) second.bare
        (secondName?.map Identifier.bare)
  | .more element name? rest => .more element.bare (name?.map Identifier.bare) rest.bare

end

theorem Identifier.chars_bare (identifier : Identifier) :
    identifier.bare.chars = identifier.chars.filter (· ≠ '@') := by
  have clean : identifier.name.toList.filter (· ≠ '@') = identifier.name.toList :=
    List.filter_eq_self.mpr fun character member =>
      decide_eq_true fun same => identifier.plain.2 '@' (by decide) (same ▸ member)
  unfold chars
  rw [List.filter_append, clean]
  rcases identifier.mark_cases with none | verbatim
  · rw [none]
    rfl
  · rw [verbatim]
    rfl

theorem label_chars_bare (label? : Option Identifier) :
    labelChars (label?.map Identifier.bare) = (labelChars label?).filter (· ≠ '@') := by
  cases label? with
  | none => rfl
  | some label => simp [labelChars, Identifier.chars_bare]

theorem element_name_bare (name? : Option Identifier) :
    elementName (name?.map Identifier.bare) = (elementName name?).filter (· ≠ '@') := by
  cases name? with
  | none => rfl
  | some name => simpa [elementName] using name.chars_bare

mutual

theorem TypeText.chars_bare : (type : TypeText) →
    type.bare.chars = type.chars.filter (· ≠ '@')
  | .named label? name => by
      simp [TypeText.bare, TypeText.chars, label_chars_bare, name.chars_bare]
  | .nullable element => by simp [TypeText.bare, TypeText.chars, element.chars_bare]
  | .array element commas => by simp [TypeText.bare, TypeText.chars, element.chars_bare]
  | .tuple elements => by simp [TypeText.bare, TypeText.chars, elements.chars_bare]

theorem QualifiedText.chars_bare : (name : QualifiedText) →
    name.bare.chars = name.chars.filter (· ≠ '@')
  | .single segment => by simp [QualifiedText.bare, QualifiedText.chars, segment.chars_bare]
  | .dotted segment rest => by
      simp [QualifiedText.bare, QualifiedText.chars, segment.chars_bare, rest.chars_bare]

theorem SegmentText.chars_bare : (segment : SegmentText) →
    segment.bare.chars = segment.chars.filter (· ≠ '@')
  | .plain identifier => by
      simp [SegmentText.bare, SegmentText.chars, identifier.chars_bare]
  | .generic identifier arguments => by
      simp [SegmentText.bare, SegmentText.chars, identifier.chars_bare, arguments.chars_bare]

theorem ArgumentTexts.chars_bare : (arguments : ArgumentTexts) →
    arguments.bare.chars = arguments.chars.filter (· ≠ '@')
  | .single argument => by simp [ArgumentTexts.bare, ArgumentTexts.chars, argument.chars_bare]
  | .more argument rest => by
      simp [ArgumentTexts.bare, ArgumentTexts.chars, argument.chars_bare, rest.chars_bare]

theorem TupleText.chars_bare : (elements : TupleText) →
    elements.bare.chars = elements.chars.filter (· ≠ '@')
  | .pair first firstName? second secondName? => by
      simp [TupleText.bare, TupleText.chars, first.chars_bare, second.chars_bare,
        element_name_bare]
  | .more element name? rest => by
      simp [TupleText.bare, TupleText.chars, element.chars_bare, rest.chars_bare,
        element_name_bare]

end

mutual

theorem TypeText.commas_bare : (type : TypeText) → type.bare.commas = type.commas
  | .named _ _ => by simp [TypeText.bare, TypeText.commas]
  | .nullable element => by simp [TypeText.bare, TypeText.commas, element.commas_bare]
  | .array element commas => by simp [TypeText.bare, TypeText.commas, element.commas_bare]
  | .tuple elements => by simp [TypeText.bare, TypeText.commas, elements.commas_bare]

theorem TupleText.commas_bare : (elements : TupleText) → elements.bare.commas = elements.commas
  | .pair first _ second _ => by
      simp [TupleText.bare, TupleText.commas, first.commas_bare, second.commas_bare]
  | .more element _ rest => by
      simp [TupleText.bare, TupleText.commas, element.commas_bare, rest.commas_bare]

end

theorem ArgumentTexts.counts_bare (arguments : ArgumentTexts) :
    arguments.bare.count = arguments.count ∧ arguments.bare.commas = arguments.commas := by
  cases arguments with
  | single argument =>
      simp [ArgumentTexts.bare, ArgumentTexts.count, ArgumentTexts.commas, argument.commas_bare]
  | more argument rest =>
      simp [ArgumentTexts.bare, ArgumentTexts.count, ArgumentTexts.commas, argument.commas_bare,
        rest.counts_bare]

theorem SegmentText.counts_bare (segment : SegmentText) :
    segment.bare.key = segment.key ∧ segment.bare.commas = segment.commas := by
  cases segment with
  | plain identifier =>
      simp [SegmentText.bare, SegmentText.key, SegmentText.commas, Identifier.bare]
  | generic identifier arguments =>
      simp [SegmentText.bare, SegmentText.key, SegmentText.commas, Identifier.bare,
        arguments.counts_bare]

theorem QualifiedText.counts_bare (name : QualifiedText) :
    name.bare.keys = name.keys ∧ name.bare.commas = name.commas := by
  cases name with
  | single segment =>
      simp [QualifiedText.bare, QualifiedText.keys, QualifiedText.commas, segment.counts_bare]
  | dotted segment rest =>
      simp [QualifiedText.bare, QualifiedText.keys, QualifiedText.commas, segment.counts_bare,
        rest.counts_bare]

end Bare

section References

/-- References that differ in the marks of the names of namespaces and types only. -/
structure Reference.MarkedAlike (first second : Reference) : Prop where
  labels : second.label? = first.label?
  names : second.name.bare = first.name.bare

variable {first second : Reference}

theorem Reference.MarkedAlike.alike (marked : first.MarkedAlike second) : first.Alike second where
  labels := marked.labels
  keys := by rw [← second.name.counts_bare.1, marked.names, first.name.counts_bare.1]

theorem QualifiedText.colon_bare (name : QualifiedText) :
    name.bare.chars.contains ':' = name.chars.contains ':' := by
  rw [Bool.eq_iff_iff, List.contains_iff_mem, List.contains_iff_mem, name.chars_bare,
    List.mem_filter]
  exact and_iff_left (by decide)

theorem Reference.MarkedAlike.skipped (marked : first.MarkedAlike second) :
    first.SkippedAlike second where
  hidden := by
    unfold Reference.hides Reference.aliased
    rw [marked.labels, ← second.name.colon_bare, marked.names, first.name.colon_bare]
  counted := fun _ => by
    rw [← second.name.counts_bare.2, marked.names, first.name.counts_bare.2]

end References

end Names

theorem bind_alike_of_marks {first second : Names.Reference} (marked : first.MarkedAlike second)
    {name other : String} (spells : first.Spells name) (otherSpells : second.Spells other) :
    BindAlike name other :=
  bind_alike_of_requests
    (fun _ readable => marked.skipped.request marked.alike spells otherSpells readable)
    spells.some otherSpells.some

section Scopes

/-- Directives that differ in the marks of an alias target only. -/
structure Using.MarkedAlike (first second : Using) : Prop where
  labels : second.alias? = first.alias?
  targets : second.target = first.target ∨ first.alias? ≠ none ∧
    ∃ written other : Names.QualifiedText, first.target.toList = written.chars ∧
      second.target.toList = other.chars ∧ other.bare = written.bare

structure Level.MarkedAlike (first second : Level) : Prop where
  space : second.space = first.space
  usings : List.Forall₂ Using.MarkedAlike first.usings second.usings

structure Scope.MarkedAlike (first second : Scope) : Prop where
  enclosing : second.enclosing = first.enclosing
  levels : List.Forall₂ Level.MarkedAlike first.levels second.levels

namespace Using.MarkedAlike

variable {first second : Using}

theorem segments_chars (marked : first.MarkedAlike second) :
    Names.segmentsChars second.target.toList = Names.segmentsChars first.target.toList := by
  rcases marked.targets with same | ⟨-, written, other, own, its, bare⟩
  · rw [same]
  · have counts : other.counts = written.counts := by
      unfold Names.QualifiedText.counts
      rw [← other.counts_bare.1, ← other.counts_bare.2, bare, written.counts_bare.1,
        written.counts_bare.2]
    have cut := written.segments_chars false
    have otherCut := other.segments_chars false
    rw [show Names.nullableMark false = [] from rfl, List.append_nil] at cut otherCut
    rw [own, its, cut, otherCut, counts]

theorem segments (marked : first.MarkedAlike second) :
    Names.segments second.target = Names.segments first.target :=
  congrArg (List.map String.ofList) marked.segments_chars

theorem segments_append (marked : first.MarkedAlike second) (name : String) :
    Names.segments (second.target ++ "." ++ name) =
      Names.segments (first.target ++ "." ++ name) := by
  have cut := marked.segments_chars
  rcases marked.targets with same | ⟨-, written, other, own, its, -⟩
  · rw [same]
  · have closed : first.target.toList.foldl Names.bracketDepth 0 = 0 := by
      rw [own]
      exact written.counted.closed
    have otherClosed : second.target.toList.foldl Names.bracketDepth 0 = 0 := by
      rw [its]
      exact other.counted.closed
    unfold Names.segments
    simp only [String.toList_append, List.append_assoc, show ".".toList = ['.'] from rfl,
      List.singleton_append]
    rw [Names.segments_chars_append closed, Names.segments_chars_append otherClosed, cut]

end Using.MarkedAlike

variable {usings others : List Using} (marked : List.Forall₂ Using.MarkedAlike usings others)
include marked

theorem alias_request_marked (label : String) (name : String) :
    (others.find? fun directive => directive.alias? = some label).map
        (fun directive => Names.segments (directive.target ++ "." ++ name)) =
      (usings.find? fun directive => directive.alias? = some label).map
        (fun directive => Names.segments (directive.target ++ "." ++ name)) := by
  induction marked with
  | nil => rfl
  | @cons first second _ _ own _ induction =>
      rw [List.find?_cons, List.find?_cons, own.labels]
      cases decide (first.alias? = some label) with
      | true => exact congrArg some (own.segments_append name)
      | false => exact induction

theorem via_alias_marked (known : KnownNames) (head : String) (rest : List String) :
    known.viaAlias? others head rest = known.viaAlias? usings head rest := by
  unfold KnownNames.viaAlias?
  induction marked with
  | nil => rfl
  | cons own _ induction =>
      rw [List.findSome?_cons, List.findSome?_cons, own.labels, own.segments, induction]

theorem imported_marked (known : KnownNames) (head : String) :
    known.importedTypes others head = known.importedTypes usings head := by
  unfold KnownNames.importedTypes
  induction marked with
  | nil => rfl
  | @cons first second _ _ own _ induction =>
      rw [List.filter_cons, List.filter_cons, own.labels]
      cases labelled : first.alias? with
      | some label => exact induction
      | none =>
          have same := own.targets.resolve_right fun aliased => aliased.1 labelled
          simp only [Option.isNone_none, if_true, List.filterMap_cons, same, induction]

end Scopes

theorem at_levels_marked {levels others : List Level}
    (marked : List.Forall₂ Level.MarkedAlike levels others) (known : KnownNames) (head : String)
    (rest : List String) : known.atLevels head rest others = known.atLevels head rest levels := by
  induction marked with
  | nil => rfl
  | @cons level other _ _ own _ induction =>
      have same : known.atLevel other head rest = known.atLevel level head rest := by
        unfold KnownNames.atLevel
        rw [own.space, via_alias_marked own.usings, imported_marked own.usings]
      rw [KnownNames.atLevels, KnownNames.atLevels, same, induction]

section Resolved

variable {first second : Scope} (marked : first.MarkedAlike second)
include marked

theorem request_scopes_marked (name : String) : second.request? name = first.request? name := by
  have usings : List.Forall₂ Using.MarkedAlike (first.levels.flatMap (·.usings))
      (second.levels.flatMap (·.usings)) :=
    List.rel_flatMap marked.levels fun _ _ level => level.usings
  unfold Scope.request? Scope.aliasTarget?
  dsimp only
  split
  · next label rest split =>
      have same := congrArg (Option.map Request.absolute)
        (alias_request_marked usings (String.ofList label) (String.ofList rest))
      rw [Option.map_map, Option.map_map] at same
      rw [Option.map_map, Option.map_map]
      exact same
  · rfl

/-- Every name binds to the same in scopes that differ in the marks of alias targets only. -/
theorem resolve_marked (known : KnownNames) (use : NameUse) (name : String) :
    known.resolve? use name second = known.resolve? use name first := by
  have answers (request : Request) : known.answer second request = known.answer first request := by
    cases request with
    | absolute segments => rfl
    | relative segments =>
        cases segments with
        | nil => rfl
        | cons head rest =>
            unfold KnownNames.answer KnownNames.search
            dsimp only
            rw [marked.enclosing, at_levels_marked marked.levels]
  unfold KnownNames.resolve? KnownNames.requests
  rw [request_scopes_marked marked]
  simp only [answers]

end Resolved

end PropertyGen
