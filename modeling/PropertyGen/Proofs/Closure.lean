import PropertyGen.Proofs.Interference
import PropertyGen.Proofs.Parts

/-!
Lookup stays within the types of a program. The names it knows are those that have a symbol, it
knows every namespace around them, and each of its answers is one of these names. This holds of a
program whichever way it has come to be, since adding to a program builds another one.
-/

namespace PropertyGen

namespace Names

/-- A dotted beginning of a name: the whole of it, or what stands before one of its dots. -/
def Around (outer whole : String) : Prop :=
  whole ≠ "" ∧ (outer = whole ∨ ∃ rest, whole.toList = outer.toList ++ '.' :: rest)

theorem mem_dotted_prefixes {segments : List String} {outer : String} :
    outer ∈ dottedPrefixes segments ↔
      ∃ front back, segments = front ++ back ∧ front ≠ [] ∧ outer = ".".intercalate front := by
  unfold dottedPrefixes
  simp only [List.mem_map, List.mem_range]
  constructor
  · intro given
    obtain ⟨index, below, same⟩ := given
    refine ⟨segments.take (index + 1), segments.drop (index + 1),
      (List.take_append_drop _ _).symm, ?_, same.symm⟩
    apply List.ne_nil_of_length_pos
    rw [List.length_take]
    omega
  · intro given
    obtain ⟨front, back, whole, some, same⟩ := given
    have positive := List.length_pos_iff.mpr some
    refine ⟨front.length - 1, ?_, ?_⟩
    · rw [whole, List.length_append]
      omega
    · rw [Nat.sub_add_cancel positive, whole, List.take_left, same]

theorem mem_spaces_around {outer space : String} :
    outer ∈ spacesAround space ↔ Around outer space := by
  unfold spacesAround
  rw [mem_dotted_prefixes]
  constructor
  · intro given
    obtain ⟨front, back, whole, some, same⟩ := given
    have named : space ≠ "" := by
      intro isGlobal
      rw [isGlobal] at whole
      exact some (List.append_eq_nil_iff.mp whole.symm).1
    have joined := intercalate_space_segments named
    rw [whole] at joined
    refine ⟨named, ?_⟩
    by_cases last : back = []
    · rw [last, List.append_nil] at joined
      exact .inl (same.trans joined)
    · rw [String.intercalate_append_of_ne_nil some last, ← same] at joined
      refine .inr ⟨(".".intercalate back).toList, ?_⟩
      rw [← joined, String.toList_append, String.toList_append, List.append_assoc]
      rfl
  · intro given
    obtain ⟨named, isWhole | ⟨rest, before⟩⟩ := given
    · refine ⟨spaceSegments space, [], (List.append_nil _).symm, space_segments_ne_nil named, ?_⟩
      rw [isWhole, intercalate_space_segments named]
    · refine ⟨(Text.piecesAt '.' outer.toList).map String.ofList,
        (Text.piecesAt '.' rest).map String.ofList, ?_, ?_, (intercalate_pieces outer).symm⟩
      · rw [spaceSegments, if_neg named, before, Text.pieces_at_append, List.map_append]
      · exact fun none => Text.pieces_at_ne_nil '.' _ (List.map_eq_nil_iff.mp none)

end Names

/-- Lookup is closed over a table with some keys. -/
structure KnownNames.ClosedOver (known : KnownNames) (isKey : String → Prop) : Prop where
  /-- The known names are the keys. -/
  names : ∀ name, name ∈ known.types ↔ isKey name
  /-- The namespaces around every key are known. -/
  spaces : ∀ name, isKey name → ∀ outer, Names.Around outer (Names.spaceOf name) →
    outer ∈ known.spaces
  /-- A name binds to a key or to nothing. -/
  answers : ∀ use name scope, known.resolve? use name scope = none ∨
    ∃ type, known.resolve? use name scope = some type ∧ isKey type
  /-- A namespace that is no type is never what a name binds to. -/
  apart : ∀ space ∈ known.spaces, ¬ isKey space →
    ∀ use name scope, known.resolve? use name scope ≠ some space

namespace Program

/-- The programs that come to be when a program is created and then added to. -/
inductive Arises : Program → Prop
  | created {sources : List Source} {references : References} {program : Program}
      (returned : (create sources references).outcome = .ok program) : Arises program
  | withSources {program larger : Program} (sources : List Source) (arisen : Arises program)
      (returned : (program.addSources sources).outcome = .ok larger) : Arises larger
  | withReferences {program larger : Program} (references : References) (arisen : Arises program)
      (returned : (program.addReferences references).outcome = .ok larger) : Arises larger

structure ClosedUnderLookup (program : Program) : Prop where
  /-- The table of kinds, in which the base types are looked up while the program is built. -/
  building : program.known.ClosedOver fun name =>
    ∃ kind, kindOf? (declarationsOf program.sources) program.references name = some kind
  /-- The symbol table. -/
  built : program.known.ClosedOver fun name => ∃ symbol, program.type? name = some symbol
  /-- A type that a name binds to has a symbol, and the name yields it. -/
  symbols : ∀ use name source site type,
    program.known.resolve? use name (program.scope source site) = some type → type ≠ "" →
      ∃ symbol, program.resolveType? use name source site = some symbol ∧
        program.type? type = some symbol ∧ symbol.metadataName = type

theorem Arises.built {program : Program} (arisen : program.Arises) :
    build program.sources program.references = .ok program := by
  have own {sources : List Source} {references : References} {program : Program}
      (returned : (create sources references).outcome = .ok program) :
      build program.sources program.references = .ok program := by
    have built := create_returns.mp returned
    obtain ⟨sourcesEq, referencesEq, -⟩ := build_eq built
    rw [sourcesEq, referencesEq]
    exact built
  cases arisen with
  | created returned => exact own returned
  | withSources sources _ returned => exact own returned
  | withReferences references _ returned => exact own returned

theorem resolve_type_of_name {program : Program} {use : NameUse} {name : String} {source : Source}
    {site : Site} {type : String}
    (found : program.known.resolve? use name (program.scope source site) = some type)
    (named : type ≠ "") : program.resolveType? use name source site = program.type? type := by
  unfold resolveType? resolveName?
  rw [found, Option.filter_some, if_pos (decide_eq_true named)]
  rfl

section Built

variable {sources : List Source} {references : References} {program : Program}
  (built : build sources references = .ok program)
include built

theorem known_iff_symbol (name : String) :
    name ∈ program.known.types ↔ ∃ symbol, program.type? name = some symbol := by
  obtain ⟨-, -, globals, -⟩ := build_eq built
  rw [type_known built, mem_known_types built, globals, ← declared_iff_parts]

theorem known_iff_kind (name : String) :
    name ∈ program.known.types ↔
      ∃ kind, kindOf? (declarationsOf sources) references name = some kind := by
  obtain ⟨-, -, globals, -⟩ := build_eq built
  rw [known_iff_symbol built, kind_eq, ← globals, kind_of_type built]
  simp only [Option.map_eq_some_iff]
  constructor
  · intro given
    obtain ⟨symbol, found⟩ := given
    exact ⟨symbol.kind, symbol, found, rfl⟩
  · intro given
    obtain ⟨kind, symbol, found, -⟩ := given
    exact ⟨symbol, found⟩

/-- Lookup is closed over every table that has the known names as its keys. -/
theorem closed_over {isKey : String → Prop} (names : ∀ name, name ∈ program.known.types ↔ isKey name) :
    program.known.ClosedOver isKey := by
  have known {use : NameUse} {name type : String} {scope : Scope}
      (found : program.known.resolve? use name scope = some type) : isKey type :=
    (names type).mp (List.contains_iff_mem.mp (KnownNames.resolve_known found))
  constructor
  case names => exact names
  case spaces =>
    intro name isKnown outer around
    refine (mem_known_spaces built outer).mpr (.inr ⟨name, (names name).mpr isKnown, ?_⟩)
    exact Names.mem_spaces_around.mpr around
  case answers =>
    intro use name scope
    cases found : program.known.resolve? use name scope with
    | none => exact .inl rfl
    | some type => exact .inr ⟨type, rfl, known found⟩
  case apart => exact fun space _ noType use name scope found => noType (known found)

end Built

end Program

/-- Lookup is closed over the types of a program: it knows the names in the table and all
namespaces around them, and it answers with keys of the table only. -/
theorem lookup_closed {program : Program} (arisen : program.Arises) : program.ClosedUnderLookup := by
  have built := arisen.built
  have symbols := Program.known_iff_symbol built
  constructor
  case building => exact Program.closed_over built (Program.known_iff_kind built)
  case built => exact Program.closed_over built symbols
  case symbols =>
    intro use name source site type found named
    have known := List.contains_iff_mem.mp (KnownNames.resolve_known found)
    obtain ⟨symbol, isSymbol⟩ := (symbols type).mp known
    refine ⟨symbol, ?_, isSymbol, Program.type_name isSymbol⟩
    rw [Program.resolve_type_of_name found named, isSymbol]

/-- After references are added, their names are looked up as those of declared types are. -/
theorem lookup_closed_after_additions :
    ∃ program larger, (Program.create spread [("I", "interface")]).outcome = .ok program ∧
      (program.addReferences [("E.F", "class"), ("E.F+G", "enum")]).outcome = .ok larger ∧
      larger.ClosedUnderLookup ∧
      (larger.known.resolve? .type "E.F.G" ⟨[], [⟨"", []⟩]⟩ = some "E.F+G" ∧
        larger.known.resolve? .type "A.B.C.D<I>" ⟨[], [⟨"", []⟩]⟩ = some "A.B.C+D`1" ∧
        larger.known.resolve? .attribute "A.B" ⟨[], [⟨"", []⟩]⟩ = none) := by
  have initialized : ∀ source ∈ spread, Initialized source := by decide +kernel
  obtain ⟨program, built⟩ :=
    (Program.build_returns spread [("I", "interface")]).mpr initialized
  obtain ⟨sources, references, -⟩ := Program.build_eq built
  obtain ⟨larger, largerBuilt⟩ := (Program.build_returns spread
    ((Table.merge [("I", "interface")] [("E.F", "class"), ("E.F+G", "enum")]))).mpr initialized
  have created := Program.create_returns.mpr built
  have added : (program.addReferences [("E.F", "class"), ("E.F+G", "enum")]).outcome =
      .ok larger := by
    unfold Program.addReferences
    rw [sources, references]
    exact Program.create_returns.mpr largerBuilt
  refine ⟨program, larger, created, added,
    lookup_closed (.withReferences _ (.created created) added), ?_⟩
  rw [(Program.build_eq largerBuilt).2.2.2.1]
  decide +kernel

end PropertyGen
