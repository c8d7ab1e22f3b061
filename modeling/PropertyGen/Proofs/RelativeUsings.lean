import PropertyGen.Proofs.Closure
import PropertyGen.Proofs.Fragments
import PropertyGen.Proofs.Meanings
import PropertyGen.Proofs.Parts

/-!
Imports in namespace blocks. The target of an import is read from the global namespace, wherever
the import is written: an import of a namespace that is named relative to its block offers no type
of that namespace.
-/

namespace PropertyGen

namespace Names

theorem length_qualify (space name : String) :
    (qualify space name).length =
      if space = "" then name.length else space.length + 1 + name.length := by
  unfold qualify
  by_cases isGlobal : space = ""
  · rw [if_pos isGlobal, if_pos isGlobal]
  · rw [if_neg isGlobal, if_neg isGlobal, String.length_append, String.length_append]
    rfl

theorem length_lt_qualify (outer : String) {name : String} (named : name ≠ "") :
    outer.length < (qualify outer name).length := by
  have positive : 0 < name.length := by
    rw [Nat.pos_iff_ne_zero, Ne, String.length_eq_zero_iff]
    exact named
  rw [length_qualify]
  by_cases isGlobal : outer = ""
  · rw [if_pos isGlobal, isGlobal]
    exact positive
  · rw [if_neg isGlobal]
    omega

theorem qualify_in_named {outer name : String} (named : outer ≠ "") : qualify outer name ≠ "" := by
  rw [← String.length_eq_zero_iff.ne, length_qualify, if_neg named]
  omega

/-- What is within a named namespace differs from its namesake within the global one. -/
theorem qualify_in_deeper {outer space name : String} (named : outer ≠ "") :
    qualify (qualify outer space) name ≠ qualify space name := by
  intro same
  have lengths := congrArg String.length same
  rw [length_qualify, if_neg (qualify_in_named named), length_qualify, if_neg named,
    length_qualify] at lengths
  split at lengths <;> omega

theorem around_qualify {outer name whole : String} (named : outer ≠ "")
    (around : Around (qualify outer name) whole) : Around outer whole := by
  have inner : (qualify outer name).toList = outer.toList ++ '.' :: name.toList := by
    rw [to_list_qualify, if_neg named]
  rcases around with ⟨whole_named, same | ⟨rest, before⟩⟩
  · exact ⟨whole_named, .inr ⟨name.toList, by rw [← same, inner]⟩⟩
  · refine ⟨whole_named, .inr ⟨name.toList ++ '.' :: rest, ?_⟩⟩
    rw [before, inner, List.append_assoc, List.cons_append]

end Names

namespace Surroundings

def fullBlocks (outer : String) : List (String × List Using) → List (String × List Using)
  | [] => []
  | block :: inner =>
      (Names.qualify outer block.1, block.2) :: fullBlocks (Names.qualify outer block.1) inner

theorem declared_spaces_eq (surroundings : Surroundings) :
    surroundings.declaredSpaces = fullBlocks "" surroundings.spaces.reverse := by
  have fold (blocks : List (String × List Using)) (state : String × List (String × List Using)) :
      (blocks.foldl (fun state block => (Names.qualify state.1 block.1,
          state.2 ++ [(Names.qualify state.1 block.1, block.2)])) state).2 =
        state.2 ++ fullBlocks state.1 blocks := by
    induction blocks generalizing state with
    | nil => exact (List.append_nil _).symm
    | cons block inner induction =>
        rw [List.foldl_cons, induction, fullBlocks, List.append_assoc, List.singleton_append]
  exact (fold surroundings.spaces.reverse ("", [])).trans (List.nil_append _)

section Blocks

variable {blocks : List (String × List Using)}

theorem full_blocks_longer (named : ∀ block ∈ blocks, block.1 ≠ "") (outer : String) :
    ∀ block ∈ fullBlocks outer blocks, outer.length < block.1.length := by
  induction blocks generalizing outer with
  | nil =>
      intro block member
      cases member
  | cons first inner induction =>
      obtain ⟨own, others⟩ := List.forall_mem_cons.mp named
      have longer := Names.length_lt_qualify outer own
      intro block member
      rcases List.mem_cons.mp member with same | deeper
      · rw [same]
        exact longer
      · exact longer.trans (induction others _ block deeper)

theorem full_blocks_nodup (named : ∀ block ∈ blocks, block.1 ≠ "") (outer : String) :
    ((fullBlocks outer blocks).map (·.1)).Nodup := by
  induction blocks generalizing outer with
  | nil => exact List.nodup_nil
  | cons first inner induction =>
      obtain ⟨-, others⟩ := List.forall_mem_cons.mp named
      refine List.nodup_cons.mpr ⟨fun again => ?_, induction others _⟩
      obtain ⟨block, deeper, same⟩ := List.mem_map.mp again
      have longer := full_blocks_longer others _ block deeper
      rw [same] at longer
      exact lt_irrefl _ longer

theorem around_fold {outer : String} (named : outer ≠ "") :
    Names.Around outer
      (blocks.foldl (fun outer block => Names.qualify outer block.1) outer) := by
  induction blocks generalizing outer with
  | nil => exact ⟨named, .inl rfl⟩
  | cons block inner induction =>
      apply Names.around_qualify named
      apply induction
      exact Names.qualify_in_named named

theorem full_blocks_around (named : ∀ block ∈ blocks, block.1 ≠ "") (outer : String) :
    ∀ block ∈ fullBlocks outer blocks, Names.Around block.1
      (blocks.foldl (fun outer block => Names.qualify outer block.1) outer) := by
  induction blocks generalizing outer with
  | nil =>
      intro block member
      cases member
  | cons first inner induction =>
      obtain ⟨own, others⟩ := List.forall_mem_cons.mp named
      intro block member
      rcases List.mem_cons.mp member with same | deeper
      · rw [same]
        exact around_fold (Names.qualify_ne_empty own)
      · exact induction others _ block deeper

end Blocks

section Level

variable {surroundings : Surroundings} {space : String} {usings : List Using}

/-- The directives of a block are those of the level of its namespace. -/
theorem directives_at_block (named : ∀ block ∈ surroundings.spaces, block.1 ≠ "")
    (block : (space, usings) ∈ surroundings.declaredSpaces) :
    surroundings.directivesAt space = usings.filter fun directive => !directive.isGlobal := by
  have each : ∀ block ∈ surroundings.spaces.reverse, block.1 ≠ "" :=
    fun block member => named block (List.mem_reverse.mp member)
  have distinct := full_blocks_nodup each ""
  rw [← declared_spaces_eq] at distinct
  unfold directivesAt usingsOf
  cases found : surroundings.declaredSpaces.reverse.find? fun block => block.1 = space with
  | none =>
      have absent := List.find?_eq_none.mp found _ (List.mem_reverse.mpr block)
      exact absurd (decide_eq_true rfl) absent
  | some other =>
      have sameName := List.find?_some found
      rw [decide_eq_true_eq] at sameName
      have member := List.mem_reverse.mp (List.mem_of_find?_eq_some found)
      rw [List.inj_on_of_nodup_map distinct member block sameName]
      rfl

theorem level_of_block (named : ∀ block ∈ surroundings.spaces, block.1 ≠ "")
    (block : (space, usings) ∈ surroundings.declaredSpaces) (globals : List Using) :
    ∃ outer, ((surroundings.scope globals).levels.dropWhile fun level => level.space ≠ space) =
      { space, usings := usings.filter fun directive => !directive.isGlobal } :: outer := by
  have each : ∀ block ∈ surroundings.spaces.reverse, block.1 ≠ "" :=
    fun block member => named block (List.mem_reverse.mp member)
  have around : space ∈ Names.spacesAround surroundings.space := by
    rw [declared_spaces_eq] at block
    exact Names.mem_spaces_around.mpr (full_blocks_around each "" _ block)
  have spaceNamed : space ≠ "" := by
    rw [declared_spaces_eq] at block
    intro isGlobal
    have longer := full_blocks_longer each "" _ block
    rw [isGlobal] at longer
    exact lt_irrefl _ longer
  have directives := directives_at_block named block
  have listed : ∃ level ∈ (surroundings.scope globals).levels, level.space = space := by
    rw [levels_eq]
    refine ⟨_, List.mem_append_left _ (List.mem_map_of_mem (List.mem_reverse.mpr around)), rfl⟩
  cases dropped : (surroundings.scope globals).levels.dropWhile
      fun level => level.space ≠ space with
  | nil =>
      obtain ⟨level, member, same⟩ := listed
      have apart := List.dropWhile_eq_nil_iff.mp dropped level member
      exact absurd same (of_decide_eq_true apart)
  | cons level outer =>
      have same : level.space = space := by
        have stopped := List.head?_dropWhile_not (fun level : Level => decide (level.space ≠ space))
          (surroundings.scope globals).levels
        rw [dropped] at stopped
        simpa using stopped
      have member : level ∈ (surroundings.scope globals).levels := by
        apply (List.dropWhile_sublist fun level : Level => decide (level.space ≠ space)).subset
        rw [dropped]
        exact List.mem_cons_self
      refine ⟨outer, ?_⟩
      rw [levels_eq] at member
      rcases List.mem_append.mp member with inner | outermost
      · obtain ⟨other, -, rfl⟩ := List.mem_map.mp inner
        rw [show other = space from same, directives]
      · rw [List.mem_singleton.mp outermost] at same
        exact absurd same.symm spaceNamed

end Level

end Surroundings

namespace KnownNames

variable (known : KnownNames)

/-- The longest dotted beginning of a namespace, or the empty one, behind which a name is that of a
namespace. -/
structure Nearest (space target near : String) : Prop where
  around : near ∈ "" :: Names.spacesAround space
  isSpace : known.spaces.contains (Names.qualify near target) = true
  longest : ∀ outer ∈ Names.spacesAround space, near.length < outer.length →
    known.spaces.contains (Names.qualify outer target) = false

instance (space target near : String) : Decidable (known.Nearest space target near) :=
  decidable_of_iff (_ ∧ _ ∧ _)
    ⟨fun ⟨around, isSpace, longest⟩ => ⟨around, isSpace, longest⟩,
    fun nearest => ⟨nearest.around, nearest.isSpace, nearest.longest⟩⟩

/-- No namespace around a place has a namespace of this name in it. -/
def OnlyGlobal (space target : String) : Prop :=
  ∀ outer ∈ Names.spacesAround space, outer ≠ "" →
    known.spaces.contains (Names.qualify outer target) = false

theorem Nearest.is_global_iff {known : KnownNames} {space target near : String}
    (nearest : known.Nearest space target near) : near = "" ↔ known.OnlyGlobal space target := by
  constructor
  · intro isGlobal outer around named
    apply nearest.longest outer around
    rw [isGlobal]
    exact Nat.pos_of_ne_zero fun none => named (String.length_eq_zero_iff.mp none)
  · intro only
    by_contra named
    rcases List.mem_cons.mp nearest.around with isGlobal | around
    · exact named isGlobal
    · exact absurd nearest.isSpace (Bool.eq_false_iff.mp (only near around named))

/-- The search for a simple name gets to the imports of a block and past the first of them. -/
structure Reaches (scope : Scope) (space : String) (usings before : List Using) (head : String) :
    Prop where
  enclosing : ∀ type ∈ scope.enclosing, known.types.contains (Names.nest type head) = false
  inner : known.atLevels head [] (scope.levels.takeWhile fun level => level.space ≠ space) =
    .undecided
  members : known.members space head [] = .undecided
  aliases : known.viaAlias? usings head [] = none
  imports : known.importedTypes before head = []

instance (scope : Scope) (space : String) (usings before : List Using) (head : String) :
    Decidable (known.Reaches scope space usings before head) :=
  decidable_of_iff (_ ∧ _ ∧ _ ∧ _ ∧ _)
    ⟨fun ⟨enclosing, inner, members, aliases, imports⟩ =>
      ⟨enclosing, inner, members, aliases, imports⟩,
    fun reached =>
      ⟨reached.enclosing, reached.inner, reached.members, reached.aliases, reached.imports⟩⟩

/-- What the search answers behind an import of a block: the imports after it and then the levels
around the block. -/
def behind (scope : Scope) (space : String) (after : List Using) (head : String) : Outcome :=
  (known.directives after head []).followedBy
    (known.atLevels head [] (scope.levels.dropWhile fun level => level.space ≠ space).tail)

section Search

variable {known} {head : String} {directive : Using} {before after : List Using}

theorem directives_at_import (plain : directive.alias? = none)
    (aliases : known.viaAlias? (before ++ directive :: after) head [] = none)
    (imports : known.importedTypes before head = []) :
    known.directives (before ++ directive :: after) head [] =
      if known.types.contains (Names.qualify directive.target head) then
        .imported (Names.qualify directive.target head :: known.importedTypes after head)
          (some (Names.qualify directive.target head))
      else known.directives after head [] := by
  have later : known.viaAlias? after head [] = none := by
    unfold viaAlias? at aliases ⊢
    rw [List.findSome?_eq_none_iff] at aliases ⊢
    exact fun other member =>
      aliases other (List.mem_append_right _ (List.mem_cons_of_mem _ member))
  have offered : known.importedTypes (before ++ directive :: after) head =
      (if known.types.contains (Names.qualify directive.target head) then
        [Names.qualify directive.target head] else []) ++ known.importedTypes after head := by
    have isPlain : directive.alias?.isNone = true := by rw [plain]; rfl
    unfold importedTypes at imports ⊢
    rw [List.filter_append, List.filterMap_append, imports, List.nil_append, List.filter_cons,
      if_pos isPlain, List.filterMap_cons]
    dsimp only
    by_cases offers : known.types.contains (Names.qualify directive.target head) = true
    · rw [if_pos offers, if_pos offers, List.singleton_append]
    · rw [if_neg offers, if_neg offers, List.nil_append]
  unfold directives
  rw [aliases, later, offered]
  by_cases offers : known.types.contains (Names.qualify directive.target head) = true
  · rw [if_pos offers, if_pos offers]
    rfl
  · rw [if_neg offers, if_neg offers, List.nil_append]

/-- An import offers what its target names in the global namespace. -/
theorem search_at_import {scope : Scope} {space : String} {outer : List Level}
    (level : (scope.levels.dropWhile fun level => level.space ≠ space) =
      { space, usings := before ++ directive :: after } :: outer)
    (plain : directive.alias? = none)
    (reached : known.Reaches scope space (before ++ directive :: after) before head) :
    (known.search scope [head]).type? =
      if known.types.contains (Names.qualify directive.target head) then
        some (Names.qualify directive.target head)
      else (known.behind scope space after head).type? := by
  have outside : (scope.enclosing.find? fun type => known.types.contains (Names.nest type head)) =
      none :=
    List.find?_eq_none.mpr fun type member =>
      Bool.eq_false_iff.mp (reached.enclosing type member)
  have levels : known.atLevels head [] scope.levels =
      (known.directives (before ++ directive :: after) head []).followedBy
        (known.atLevels head [] outer) := by
    rw [← List.takeWhile_append_dropWhile (p := fun level : Level => decide (level.space ≠ space))
      (l := scope.levels), at_levels_append, reached.inner, level, at_levels_cons, reached.members]
    rfl
  rw [search, outside]
  show (known.atLevels head [] scope.levels).type? = _
  rw [levels, directives_at_import plain reached.aliases reached.imports]
  unfold behind
  rw [level, List.tail_cons]
  by_cases offers : known.types.contains (Names.qualify directive.target head) = true
  · rw [if_pos offers, if_pos offers]
    rfl
  · rw [if_neg offers, if_neg offers]

end Search

end KnownNames

theorem Program.resolves_iff {program : Program} (arisen : program.Arises) {use : NameUse}
    {name : String} {source : Source} {site : Site} {type : String} (named : type ≠ "") :
    (program.resolveType? use name source site).map (·.metadataName) = some type ↔
      program.known.resolve? use name (program.scope source site) = some type := by
  constructor
  · intro given
    obtain ⟨symbol, yielded, rfl⟩ := Option.map_eq_some_iff.mp given
    obtain ⟨found, bound, isSymbol⟩ := Option.bind_eq_some_iff.mp yielded
    rw [type_name isSymbol]
    exact (Option.filter_eq_some_iff.mp bound).1
  · intro bound
    have known := List.contains_iff_mem.mp (KnownNames.resolve_known bound)
    obtain ⟨symbol, isSymbol⟩ := (known_iff_symbol arisen.built type).mp known
    rw [resolve_type_of_name bound named, isSymbol, Option.map_some, type_name isSymbol]

/-- A simple name is looked up inside of a block, and the search gets to an import of the block. -/
structure ImportReached (program : Program) (source : Source) (site : Site) (space : String)
    (before : List Using) (directive : Using) (after : List Using) (name head : String) : Prop where
  inside : site ∈ source.sites
  block : ∃ usings, (space, usings) ∈ (Surroundings.ofSite source site).declaredSpaces ∧
    (usings.filter fun directive => !directive.isGlobal) = before ++ directive :: after
  plain : directive.alias? = none
  headNamed : head ≠ ""
  simple : WrittenName.ofText name = .bare (.relative [head])
  reached : program.known.Reaches (program.scope source site) space (before ++ directive :: after)
    before head

section Import

variable {program : Program} {source : Source} {site : Site} {space : String}
  {before after : List Using} {directive : Using} {name head near : String}

theorem resolve_at_import
    (named : ∀ space ∈ source.sites, space.node.isSpaceDeclaration = true →
      source.declaredName space.node ≠ "")
    (given : ImportReached program source site space before directive after name head) :
    program.known.resolve? .type name (program.scope source site) =
      if program.known.types.contains (Names.qualify directive.target head) then
        some (Names.qualify directive.target head)
      else (program.known.behind (program.scope source site) space after head).type? := by
  have blocks : ∀ block ∈ (Surroundings.ofSite source site).spaces, block.1 ≠ "" := by
    intro block listed
    obtain ⟨declaration, declared, isSpace, same⟩ :=
      Source.space_declared given.inside block listed
    rw [← same]
    exact named declaration declared isSpace
  obtain ⟨usings, block, order⟩ := given.block
  obtain ⟨outer, level⟩ := Surroundings.level_of_block blocks block program.globals
  rw [order] at level
  rw [KnownNames.resolve_type_eq, request_eq, given.simple]
  exact KnownNames.search_at_import level given.plain given.reached

/-- What a simple name resolves to where its search gets to an import of a block: the import offers
the types of the namespace that its target names in the global namespace. If seen from the block
the target names a nearer one, then a type of that namespace is found only if what is searched
later yields it. -/
theorem relative_import_iff (arisen : program.Arises)
    (named : ∀ space ∈ source.sites, space.node.isSpaceDeclaration = true →
      source.declaredName space.node ≠ "")
    (given : ImportReached program source site space before directive after name head)
    (nearest : program.known.Nearest space directive.target near)
    (known : program.known.types.contains
      (Names.qualify (Names.qualify near directive.target) head) = true) :
    program.known.resolve? .type name (program.scope source site) =
      (if program.known.types.contains (Names.qualify directive.target head) then
        some (Names.qualify directive.target head)
      else (program.known.behind (program.scope source site) space after head).type?) ∧
    ((program.resolveType? .type name source site).map (·.metadataName) =
        some (Names.qualify (Names.qualify near directive.target) head) ↔
      program.known.OnlyGlobal space directive.target ∨
        (program.known.types.contains (Names.qualify directive.target head) = false ∧
          (program.known.behind (program.scope source site) space after head).type? =
            some (Names.qualify (Names.qualify near directive.target) head))) := by
  have answer := resolve_at_import named given
  refine ⟨answer, ?_⟩
  rw [Program.resolves_iff arisen (Names.qualify_ne_empty given.headNamed), answer,
    ← nearest.is_global_iff]
  by_cases isGlobal : near = ""
  · rw [isGlobal] at known ⊢
    exact iff_of_true (if_pos known) (.inl rfl)
  · have deeper := @Names.qualify_in_deeper near directive.target head isGlobal
    rw [or_iff_right isGlobal]
    by_cases offers : program.known.types.contains (Names.qualify directive.target head) = true
    · rw [if_pos offers]
      exact iff_of_false (fun same => deeper (Option.some.inj same).symm) fun later =>
        absurd offers (Bool.eq_false_iff.mp later.1)
    · rw [if_neg offers]
      exact (and_iff_right (Bool.eq_false_iff.mpr offers)).symm

end Import

section Samples

open Marker (branch token leaf fieldLeaf fieldBranch)

def importInBlock (full : Bool) : Source :=
  { path := "F0.cs"
    bytes := Text.Utf8.encode ("namespace A \x7b using " ++ (if full then "A.B" else "  B")
      ++ "; class T \x7b Foo f; \x7d \x7d namespace A.B \x7b class Foo \x7b \x7d \x7d")
    root :=
      branch "compilation_unit" 0 77 [
        blockWith 0 1 45 [
          branch "using_directive" 14 24 [
            token "using" 14 19,
            if full then
              branch "qualified_name" 20 23 [
                fieldLeaf "identifier" "qualifier" 20 21,
                token "." 21 22,
                fieldLeaf "identifier" "name" 22 23]
            else leaf "identifier" 22 23,
            token ";" 23 24],
          classWith 25 1 43 [
            branch "field_declaration" 35 41 [
              branch "variable_declaration" 35 40 [
                fieldLeaf "identifier" "type" 35 38,
                branch "variable_declarator" 39 40 [
                  fieldLeaf "identifier" "name" 39 40]],
              token ";" 40 41]]],
        branch "namespace_declaration" 46 77 [
          token "namespace" 46 55,
          dottedName 56,
          fieldBranch "declaration_list" "body" 60 77 [
            token "\x7b" 60 61,
            emptyClass 62,
            token "\x7d" 76 77]]] }

def importedInBlock (full : Bool) : Using :=
  { target := if full then "A.B" else "B"
    alias? := none
    isGlobal := false
    isStatic := false
    text := if full then "using A.B;" else "using B;" }

def ImportDecides (full : Bool) (program : Program) (site : Site) : Prop :=
  site.node.kind = "field_declaration" ∧
    ("A", [importedInBlock full]) ∈
      (Surroundings.ofSite (importInBlock full) site).declaredSpaces ∧
    program.known.Reaches (program.scope (importInBlock full) site) "A" [importedInBlock full] []
      "Foo" ∧
    program.known.Nearest "A" (importedInBlock full).target (if full then "" else "A") ∧
    program.known.types.contains "A.B.Foo" = true ∧
    program.known.types.contains (Names.qualify (importedInBlock full).target "Foo") = full ∧
    (program.known.behind (program.scope (importInBlock full) site) "A" [] "Foo").type? = none

instance (full : Bool) (program : Program) (site : Site) :
    Decidable (ImportDecides full program site) :=
  inferInstanceAs (Decidable (_ ∧ _ ∧ _ ∧ _ ∧ _ ∧ _ ∧ _))

theorem import_decides (full : Bool) :
    ∃ program site, Program.build [importInBlock full] [] = .ok program ∧
      ImportReached program (importInBlock full) site "A" [] (importedInBlock full) [] "Foo"
        "Foo" ∧
      ImportDecides full program site := by
  have found : ((Program.build [importInBlock full] []).toOption.any fun program =>
      (importInBlock full).sites.any fun site => ImportDecides full program site) = true := by
    cases full <;> decide +kernel
  obtain ⟨program, built, found⟩ := except_any_returns found
  obtain ⟨site, inside, given⟩ := List.any_eq_true.mp found
  have decides := of_decide_eq_true given
  have ⟨_, block, reached, _⟩ := decides
  exact ⟨program, site, built, ⟨inside, ⟨_, block, rfl⟩, rfl, by decide, by decide, reached⟩,
    decides⟩

theorem import_in_block_named (full : Bool) :
    ∀ space ∈ (importInBlock full).sites, space.node.isSpaceDeclaration = true →
      (importInBlock full).declaredName space.node ≠ "" := by
  cases full <;> decide +kernel

theorem relative_import_iff_full :
    ∃ program site, Program.build [importInBlock true] [] = .ok program ∧
      ImportReached program (importInBlock true) site "A" [] (importedInBlock true) [] "Foo"
        "Foo" ∧
      ImportDecides true program site ∧
      (program.resolveType? .type "Foo" (importInBlock true) site).map (·.metadataName) =
        some "A.B.Foo" := by
  obtain ⟨program, site, built, given, decides⟩ := import_decides true
  refine ⟨program, site, built, given, decides, ?_⟩
  obtain ⟨-, -, -, nearest, known, -⟩ := decides
  have resolves := relative_import_iff (.created (Program.create_returns.mpr built))
    (import_in_block_named true) given nearest known
  exact resolves.2.mpr (.inl (nearest.is_global_iff.mp rfl))

/-- An import of a namespace that is named relative to its block offers nothing. -/
theorem relative_import_unresolved :
    (∃ program site, Program.build [importInBlock false] [] = .ok program ∧
      ImportReached program (importInBlock false) site "A" [] (importedInBlock false) [] "Foo"
        "Foo" ∧
      ImportDecides false program site ∧
      program.resolveType? .type "Foo" (importInBlock false) site = none) ∧
    ¬ ∀ (program : Program) (source : Source) (site : Site) (space : String)
      (before : List Using) (directive : Using) (after : List Using) (name head near : String),
        program.Arises →
        (∀ space ∈ source.sites, space.node.isSpaceDeclaration = true →
          source.declaredName space.node ≠ "") →
        ImportReached program source site space before directive after name head →
        program.known.Nearest space directive.target near →
        program.known.types.contains
          (Names.qualify (Names.qualify near directive.target) head) = true →
          (program.resolveType? .type name source site).map (·.metadataName) =
            some (Names.qualify (Names.qualify near directive.target) head) := by
  obtain ⟨program, site, built, given, decides⟩ := import_decides false
  have ⟨_, _, _, nearest, known, absent, later⟩ := decides
  have unresolved : program.resolveType? .type "Foo" (importInBlock false) site = none := by
    unfold Program.resolveType? Program.resolveName?
    rw [resolve_at_import (import_in_block_named false) given, absent,
      if_neg Bool.false_ne_true, later]
    rfl
  refine ⟨⟨program, site, built, given, decides, unresolved⟩, fun always => ?_⟩
  have wrong := always program _ site _ _ _ _ _ _ "A"
    (.created (Program.create_returns.mpr built)) (import_in_block_named false) given nearest known
  rw [unresolved] at wrong
  cases wrong

end Samples

end PropertyGen
