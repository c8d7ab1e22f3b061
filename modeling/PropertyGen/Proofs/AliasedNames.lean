import PropertyGen.Proofs.Meanings
import PropertyGen.Proofs.SkippedArguments

/-!
Aliases in front of a double colon and in front of a dot. Behind a double colon a name is read from
the target of the innermost alias. In front of a dot the alias is met on the way outwards, level by
level, where types, namespaces and imports of its name may come before it. If none of them does,
the two spellings bind to the same type.
-/

namespace PropertyGen

/-- What may name an alias: an identifier, without a verbatim mark, that does not stand for the
global namespace. -/
structure AliasLabel (label : String) : Prop where
  plain : Names.Plain label
  solid : Text.compact label = label
  notGlobal : label ≠ "global"

section Spellings

theorem split_qualifier_absent {text : List Char} (absent : ¬ [':', ':'] <:+: text) :
    splitQualifier? text = none := by
  induction text using splitQualifier?.induct with
  | case1 rest => exact absurd ⟨[], rest, rfl⟩ absent
  | case2 character rest other induction =>
      have later : ¬ [':', ':'] <:+: rest := fun inside =>
        absent (inside.trans (List.suffix_cons character rest).isInfix)
      rw [splitQualifier?.eq_2 _ _ other, induction later]
      rfl
  | case3 => rfl

theorem written_unmarked {name : String}
    (unmarked : Text.dropPrefix? globalMark.toList (Text.compact name).toList = none) :
    WrittenName.ofText name =
      match splitQualifier? (Text.compact name).toList with
      | some (label, rest) => .labelled (String.ofList label) (String.ofList rest)
      | none => .bare (.relative (Names.segments (Text.compact name))) := by
  unfold WrittenName.ofText withoutGlobalMark hasGlobalMark
  dsimp only
  rw [unmarked]
  rfl

namespace AliasLabel

variable {label rest : String}

theorem no_colon (isLabel : AliasLabel label) : ':' ∉ label.toList :=
  isLabel.plain.2 ':' (by decide)

theorem compact_joined (isLabel : AliasLabel label) {mark : String}
    (solid : Text.compact mark = mark) :
    (Text.compact (label ++ mark ++ rest)).toList =
      label.toList ++ (mark.toList ++ (Text.compact rest).toList) := by
  rw [to_list_compact, String.toList_append, String.toList_append, Text.compact_append,
    Text.compact_append, ← to_list_compact label, ← to_list_compact mark, ← to_list_compact rest,
    isLabel.solid, solid, List.append_assoc]

theorem written_labelled (isLabel : AliasLabel label) :
    WrittenName.ofText (label ++ "::" ++ rest) = .labelled label (Text.compact rest) := by
  have split : splitQualifier? (Text.compact (label ++ "::" ++ rest)).toList =
      some (label.toList, (Text.compact rest).toList) := by
    rw [isLabel.compact_joined (by decide +kernel)]
    exact split_qualifier_label isLabel.no_colon _
  rw [written_unmarked, split]
  · dsimp only
    rw [String.ofList_toList, String.ofList_toList]
  · apply no_global_mark
    intro behind marked
    rw [split] at marked
    exact isLabel.notGlobal (String.toList_inj.mp (Prod.mk.inj (Option.some.inj marked)).1)

theorem written_dotted (isLabel : AliasLabel label)
    (colonless : ¬ [':', ':'] <:+: (Text.compact rest).toList) :
    WrittenName.ofText (label ++ "." ++ rest) =
      .bare (.relative (label :: Names.segments (Text.compact rest))) := by
  have whole : (Text.compact (label ++ "." ++ rest)).toList =
      label.toList ++ '.' :: (Text.compact rest).toList :=
    isLabel.compact_joined (by decide +kernel)
  have cleanFront : ':' ∉ label.toList ++ ['.'] := by
    rw [List.mem_append, not_or]
    exact ⟨isLabel.no_colon, by decide⟩
  have split : splitQualifier? (Text.compact (label ++ "." ++ rest)).toList = none := by
    rw [whole, List.append_cons, split_qualifier_append cleanFront,
      split_qualifier_absent colonless]
    rfl
  have closed : label.toList.foldl Names.bracketDepth 0 = 0 :=
    Names.depth_flat (isLabel.plain.2 '<' (by decide)) (isLabel.plain.2 '>' (by decide)) 0
  have segments : Names.segments (Text.compact (label ++ "." ++ rest)) =
      label :: Names.segments (Text.compact rest) := by
    unfold Names.segments
    rw [whole, Names.segments_chars_append closed,
      (Names.piece_of_plain isLabel.plain).segments_chars,
      Names.segment_chars_plain isLabel.plain, List.singleton_append, List.map_cons,
      String.ofList_toList]
  rw [written_unmarked, split]
  · dsimp only
    rw [segments]
  · apply no_global_mark
    intro behind marked
    rw [split] at marked
    cases marked

end AliasLabel

end Spellings

def Level.Declares (level : Level) (label : String) : Prop :=
  ∃ directive ∈ level.usings, directive.alias? = some label

instance (level : Level) (label : String) : Decidable (level.Declares label) :=
  inferInstanceAs (Decidable (∃ directive ∈ level.usings, directive.alias? = some label))

def levelsTo (label : String) : List Level → List Level
  | [] => []
  | level :: outer => if level.Declares label then [level] else level :: levelsTo label outer

namespace KnownNames

variable (known : KnownNames)

/-- A name that stands for no type, no namespace and no imported type at a level. -/
structure Leaves (label : String) (level : Level) : Prop where
  type : Names.qualify level.space label ∉ known.types
  space : Names.qualify level.space label ∉ known.spaces
  imported : known.importedTypes level.usings label = []

/-- An alias that is met in a scope before anything else of its name. -/
structure MeansAlias (scope : Scope) (label : String) : Prop where
  nested : ∀ type ∈ scope.enclosing, Names.nest type label ∉ known.types
  levels : ∀ level ∈ levelsTo label scope.levels, known.Leaves label level
  targets : ∀ directive ∈ scope.levels.flatMap (·.usings), directive.alias? = some label →
    directive.target.toList.foldl Names.bracketDepth 0 = 0

instance (label : String) (level : Level) : Decidable (known.Leaves label level) :=
  decidable_of_iff (_ ∧ _ ∧ _)
    ⟨fun all => ⟨all.1, all.2.1, all.2.2⟩, fun all => ⟨all.type, all.space, all.imported⟩⟩

instance (scope : Scope) (label : String) : Decidable (known.MeansAlias scope label) :=
  decidable_of_iff (_ ∧ _ ∧ _)
    ⟨fun all => ⟨all.1, all.2.1, all.2.2⟩, fun all => ⟨all.nested, all.levels, all.targets⟩⟩

variable {known} {label : String} {rest : List String}

theorem Leaves.members {level : Level} (leaves : known.Leaves label level) :
    known.members level.space label rest = .undecided := by
  unfold KnownNames.members
  dsimp only
  rw [if_neg (mt List.contains_iff_mem.mp leaves.type),
    if_neg (mt List.contains_iff_mem.mp leaves.space)]

theorem Leaves.directives {level : Level} (leaves : known.Leaves label level)
    (without : ¬ level.Declares label) :
    known.directives level.usings label rest = .undecided := by
  refine directives_undecided.mpr ⟨?_, leaves.imported⟩
  apply List.findSome?_eq_none_iff.mpr
  intro directive member
  rw [if_neg fun named => without ⟨directive, member, named⟩]

/-- The first alias of a name decides if its target leads to a type. -/
theorem via_alias_first {usings : List Using} {directive : Using} {type : String}
    (first : (usings.find? fun directive => directive.alias? = some label) = some directive)
    (leads : known.absolute? (Names.segments directive.target ++ rest) = some type) :
    known.viaAlias? usings label rest = some type := by
  obtain ⟨named, front, back, rfl, others⟩ := List.find?_eq_some_iff_append.mp first
  apply List.findSome?_eq_some_iff.mpr
  refine ⟨front, directive, back, rfl, ?_, fun other member => ?_⟩
  · rw [if_pos (of_decide_eq_true named), leads]
  · rw [if_neg]
    intro same
    have unlike := others other member
    rw [same, decide_eq_true rfl] at unlike
    cases unlike

/-- On the way outwards nothing comes before the innermost alias. -/
theorem at_levels_alias {levels : List Level} {directive : Using} {type : String}
    (leaves : ∀ level ∈ levelsTo label levels, known.Leaves label level)
    (first : ((levels.flatMap (·.usings)).find? fun directive => directive.alias? = some label) =
      some directive)
    (leads : known.absolute? (Names.segments directive.target ++ rest) = some type) :
    known.atLevels label rest levels = .settled (some type) := by
  induction levels with
  | nil => cases first
  | cons level outer induction =>
      rw [levelsTo] at leaves
      rw [List.flatMap_cons, List.find?_append] at first
      by_cases here : level.Declares label
      · rw [if_pos here] at leaves
        have own : (level.usings.find? fun directive => directive.alias? = some label) =
            some directive := by
          obtain ⟨other, member, named⟩ := here
          have found : (level.usings.find? fun directive =>
              directive.alias? = some label).isSome :=
            List.find?_isSome.mpr ⟨other, member, decide_eq_true named⟩
          rwa [Option.or_of_isSome found] at first
        rw [at_levels_cons, (leaves level List.mem_cons_self).members,
          Outcome.undecided_followed_by, KnownNames.directives, via_alias_first own leads]
        rfl
      · rw [if_neg here] at leaves
        obtain ⟨inner, further⟩ := List.forall_mem_cons.mp leaves
        have none : (level.usings.find? fun directive => directive.alias? = some label) = none := by
          apply List.find?_eq_none.mpr
          exact fun other member named => here ⟨other, member, of_decide_eq_true named⟩
        rw [none, Option.none_or] at first
        rw [at_levels_cons, inner.members, inner.directives here, Outcome.undecided_followed_by,
          Outcome.undecided_followed_by, induction further first]

end KnownNames

/-- What an alias with a double colon binds to in a scope is what it binds to with a dot, if it is
met there before anything else of its name and no double colon stands further back. -/
theorem dotted_alias_agrees {known : KnownNames} {scope : Scope} {label rest type : String}
    (isLabel : AliasLabel label) (means : known.MeansAlias scope label)
    (colonless : ¬ [':', ':'] <:+: (Text.compact rest).toList)
    (bound : known.resolve? .type (label ++ "::" ++ rest) scope = some type) :
    known.resolve? .type (label ++ "." ++ rest) scope = some type := by
  rw [KnownNames.resolve_eq_meaning, isLabel.written_labelled] at bound
  obtain ⟨request, asked, answered⟩ := Option.bind_eq_some_iff.mp bound
  obtain ⟨target, aliased, rfl⟩ := Option.map_eq_some_iff.mp asked
  obtain ⟨directive, first, rfl⟩ := Option.map_eq_some_iff.mp aliased
  -- behind the target the segments are those behind the dot
  have leads : known.absolute?
      (Names.segments directive.target ++ Names.segments (Text.compact rest)) = some type := by
    have closed := means.targets directive (List.mem_of_find?_eq_some first)
      (of_decide_eq_true (List.find?_eq_some_iff_append.mp first).1)
    have segments : Names.segments (directive.target ++ "." ++ Text.compact rest) =
        Names.segments directive.target ++ Names.segments (Text.compact rest) := by
      unfold Names.segments
      rw [String.toList_append, String.toList_append, List.append_assoc,
        show ".".toList = ['.'] from rfl, List.singleton_append,
        Names.segments_chars_append closed, List.map_append]
    rw [← segments]
    exact answered
  have outside : (scope.enclosing.find? fun type =>
      known.types.contains (Names.nest type label)) = none := by
    apply List.find?_eq_none.mpr
    exact fun type member => mt List.contains_iff_mem.mp (means.nested type member)
  rw [KnownNames.resolve_eq_meaning, isLabel.written_dotted colonless]
  show (known.search scope (label :: Names.segments (Text.compact rest))).type? = some type
  rw [KnownNames.search_outside outside, KnownNames.at_levels_alias means.levels first leads]
  rfl

section Samples

open Marker (branch token leaf fieldLeaf fieldBranch)

def aliasOf (start length : Nat) (target : Node) : Node :=
  branch "using_directive" start (target.stop + 1) [
    token "using" start (start + 5),
    fieldLeaf "identifier" "name" (start + 6) (start + 6 + length),
    token "=" (start + 7 + length) (start + 8 + length),
    target,
    token ";" target.stop (target.stop + 1)]

def genericClassWith (start length stop : Nat) (members : List Node) : Node :=
  branch "class_declaration" start stop [
    token "class" start (start + 5),
    fieldLeaf "identifier" "name" (start + 6) (start + 6 + length),
    fieldBranch "type_parameter_list" "type_parameters" (start + 6 + length) (start + 9 + length) [
      token "<" (start + 6 + length) (start + 7 + length),
      branch "type_parameter" (start + 7 + length) (start + 8 + length) [
        fieldLeaf "identifier" "name" (start + 7 + length) (start + 8 + length)],
      token ">" (start + 8 + length) (start + 9 + length)],
    fieldBranch "declaration_list" "body" (start + 10 + length) stop
      (token "\x7b" (start + 10 + length) (start + 11 + length) ::
        members ++ [token "\x7d" (stop - 1) stop])]

def threeAliases : Source :=
  { path := "F0.cs"
    bytes := Text.Utf8.encode ("using global = X; using @B = X; using A = X.Box<Foo>; "
      ++ "namespace X \x7b class Foo \x7b \x7d class Box<T> \x7b class Item<U> \x7b \x7d \x7d \x7d "
      ++ "class Foo \x7b \x7d class T \x7b Foo f; \x7d")
    root :=
      branch "compilation_unit" 0 151 [
        aliasOf 0 6 (leaf "identifier" 15 16),
        aliasOf 18 2 (leaf "identifier" 29 30),
        aliasOf 32 1 (branch "qualified_name" 42 52 [
          fieldLeaf "identifier" "qualifier" 42 43,
          token "." 43 44,
          fieldBranch "generic_name" "name" 44 52 [
            leaf "identifier" 44 47,
            branch "type_argument_list" 47 52 [
              token "<" 47 48,
              leaf "identifier" 48 51,
              token ">" 51 52]]]),
        blockWith 54 1 118 [
          emptyClass 68,
          genericClassWith 82 3 116 [genericClassWith 97 4 114 []]],
        emptyClass 119,
        classWith 133 1 151 [
          branch "field_declaration" 143 149 [
            branch "variable_declaration" 143 148 [
              fieldLeaf "identifier" "type" 143 146,
              branch "variable_declarator" 147 148 [
                fieldLeaf "identifier" "name" 147 148]],
            token ";" 148 149]]] }

/-- All aliases are met at a field, and a name is resolved there in both spellings. -/
def AliasesMet (program : Program) (site : Site) : Prop :=
  site.node.kind = "field_declaration" ∧
    (∀ label ∈ ["global", "@B", "A"],
      program.known.MeansAlias (program.scope threeAliases site) label) ∧
    (["A::Item<Foo>", "global::Foo", "@B::Foo", "A::Item<global::Foo>"].map fun name =>
      program.known.resolve? .type name (program.scope threeAliases site)) =
        [some "X.Box`1+Item`1", some "Foo", some "X.Foo", some "X.Box`1+Item`1"] ∧
    (["global.Foo", "@B.Foo", "A.Item<global::Foo>"].map fun name =>
      program.known.resolve? .type name (program.scope threeAliases site)) =
        [some "X.Foo", none, none]

instance (program : Program) (site : Site) : Decidable (AliasesMet program site) :=
  inferInstanceAs (Decidable (_ ∧ _ ∧ _ ∧ _))

theorem aliases_met :
    ∃ program site, Program.build [threeAliases] [] = .ok program ∧
      site ∈ threeAliases.sites ∧ AliasesMet program site := by
  have found : ((Program.build [threeAliases] []).toOption.any fun program =>
      threeAliases.sites.any fun site => AliasesMet program site) = true := by decide +kernel
  obtain ⟨program, built, found⟩ := except_any_returns found
  obtain ⟨site, inside, given⟩ := List.any_eq_true.mp found
  exact ⟨program, site, built, inside, of_decide_eq_true given⟩

theorem dotted_alias_agrees_generic :
    ∃ program site, Program.build [threeAliases] [] = .ok program ∧ site ∈ threeAliases.sites ∧
      AliasLabel "A" ∧
      program.known.MeansAlias (program.scope threeAliases site) "A" ∧
      ¬ [':', ':'] <:+: (Text.compact "Item<Foo>").toList ∧
      program.known.resolve? .type "A::Item<Foo>" (program.scope threeAliases site) =
        some "X.Box`1+Item`1" ∧
      program.known.resolve? .type "A.Item<Foo>" (program.scope threeAliases site) =
        some "X.Box`1+Item`1" := by
  obtain ⟨program, site, built, inside, -, means, bound, -⟩ := aliases_met
  have isLabel : AliasLabel "A" := ⟨by decide, by decide +kernel, by decide⟩
  have own := means "A" (by simp)
  have colonless : ¬ [':', ':'] <:+: (Text.compact "Item<Foo>").toList := by decide +kernel
  have colons : program.known.resolve? .type ("A" ++ "::" ++ "Item<Foo>")
      (program.scope threeAliases site) = some "X.Box`1+Item`1" := (List.cons_eq_cons.mp bound).1
  have dots := dotted_alias_agrees isLabel own colonless colons
  exact ⟨program, site, built, inside, isLabel, own, colonless, colons, dots⟩

/-- An alias that is named like the global namespace is passed over in front of a double colon. With
a verbatim mark it is passed over in front of a dot, and a double colon further back is taken for
the one behind the alias. -/
theorem dotted_alias_differs :
    (∃ program site, Program.build [threeAliases] [] = .ok program ∧ site ∈ threeAliases.sites ∧
      AliasesMet program site) ∧
    ¬ ∀ (known : KnownNames) (scope : Scope) (label rest type : String),
      known.MeansAlias scope label →
      rest.toList.foldl Names.bracketDepth 0 = 0 →
      known.resolve? .type (label ++ "::" ++ rest) scope = some type →
        known.resolve? .type (label ++ "." ++ rest) scope = some type := by
  refine ⟨aliases_met, fun always => ?_⟩
  obtain ⟨program, site, -, -, -, means, colons, dots⟩ := aliases_met
  have bound := (List.cons_eq_cons.mp (List.cons_eq_cons.mp colons).2).1
  have same := always program.known _ "global" "Foo" "Foo" (means "global" (by simp)) (by decide)
    bound
  have other := (List.cons_eq_cons.mp dots).1
  exact absurd (Option.some.inj (same.symm.trans other)) (by decide)

end Samples

end PropertyGen
