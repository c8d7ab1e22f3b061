import Mathlib.Data.List.Nodup
import PropertyGen.Proofs.Enclosures

/-!
Types and their parts. A metadata name tells the namespace of a type and the chain of types down to
it, so the parts of a type are the declarations with one path, and its symbol is made of all of
them, in the order in which the sources have them.
-/

namespace PropertyGen

namespace Text

theorem pieces_at_append (separator : Char) (front back : List Char) :
    piecesAt separator (front ++ separator :: back) =
      piecesAt separator front ++ piecesAt separator back := by
  induction front with
  | nil => simp [piecesAt]
  | cons character rest induction =>
      rw [List.cons_append, piecesAt, piecesAt, induction]
      by_cases here : character = separator
      · rw [if_pos here, if_pos here, List.cons_append]
      · rw [if_neg here, if_neg here]
        cases pieces : piecesAt separator rest with
        | nil => exact absurd pieces (pieces_at_ne_nil separator rest)
        | cons piece more => simp [attach]

end Text

namespace Names

theorem space_segments_qualify {space name : String} (named : name ≠ "") :
    spaceSegments (qualify space name) = spaceSegments space ++ spaceSegments name := by
  unfold spaceSegments
  rw [if_neg (qualify_ne_empty named), if_neg named, to_list_qualify]
  by_cases isGlobal : space = ""
  · rw [if_pos isGlobal, if_pos isGlobal, List.nil_append]
  · rw [if_neg isGlobal, if_neg isGlobal, Text.pieces_at_append, List.map_append]

theorem space_segments_inj {space other : String} (same : spaceSegments space = spaceSegments other) :
    space = other := by
  by_cases isGlobal : space = ""
  · by_contra apart
    have named : other ≠ "" := fun empty => apart (isGlobal.trans empty.symm)
    apply space_segments_ne_nil named
    rw [← same, isGlobal]
    rfl
  · by_cases otherGlobal : other = ""
    · have segments := space_segments_ne_nil isGlobal
      rw [same, otherGlobal] at segments
      exact absurd rfl segments
    · rw [← intercalate_space_segments isGlobal, same, intercalate_space_segments otherGlobal]

theorem qualify_inj {space name other another : String} (simple : '.' ∉ name.toList)
    (alsoSimple : '.' ∉ another.toList) :
    qualify space name = qualify other another ↔ space = other ∧ name = another := by
  constructor
  · intro same
    have spaces := qualify_space simple alsoSimple same
    have characters := congrArg String.toList same
    rw [to_list_qualify, to_list_qualify, spaces] at characters
    refine ⟨spaces, String.toList_inj.mp ?_⟩
    by_cases isGlobal : other = ""
    · simpa [isGlobal] using characters
    · simpa [isGlobal] using characters
  · intro both
    rw [both.1, both.2]

theorem ticked_inj {name another : String} {count other : Nat} (plain : '`' ∉ name.toList)
    (same : name ++ "`" ++ toString count = another ++ "`" ++ toString other) :
    name = another ∧ count = other := by
  have noTick : '`' ∉ Nat.toDigits 10 count := fun member =>
    absurd (Nat.isDigit_of_mem_toDigits (by decide) (by decide) member) (by decide)
  have characters := congrArg String.toList same
  simp only [String.toList_append, List.append_assoc, to_list_count] at characters
  have parts := (List.append_cons_inj_of_notMem plain noTick).mp characters
  have digits : Nat.toDigits 10 count = Nat.toDigits 10 other := parts.2.2
  have counts := congrArg (Nat.ofDigitChars 10 · 0) digits
  simp only [Nat.ofDigitChars_ten_toDigits] at counts
  exact ⟨String.toList_inj.mp parts.1, counts⟩

def keySegment (key : String × Nat) : String :=
  if key.2 = 0 then key.1 else key.1 ++ "`" ++ toString key.2

theorem key_segment_clean {key : String × Nat} {mark : Char} (noDigit : mark.isDigit = false)
    (noTick : mark ≠ '`') (own : mark ∉ key.1.toList) : mark ∉ (keySegment key).toList := by
  unfold keySegment
  split
  · exact own
  · rw [String.toList_append, String.toList_append, List.mem_append, List.mem_append]
    rintro ((inside | tick) | digit)
    · exact own inside
    · exact noTick (List.mem_singleton.mp tick)
    · exact digits_clean noDigit _ digit

theorem key_segment_inj {key other : String × Nat} (plain : '`' ∉ key.1.toList)
    (alsoPlain : '`' ∉ other.1.toList) : keySegment key = keySegment other ↔ key = other := by
  have ticked (name : String) (count : Nat) : '`' ∈ (name ++ "`" ++ toString count).toList := by
    simp
  unfold keySegment
  rw [Prod.ext_iff]
  by_cases none : key.2 = 0
  · by_cases otherNone : other.2 = 0
    · rw [if_pos none, if_pos otherNone, none, otherNone, eq_self, and_true]
    · rw [if_pos none, if_neg otherNone, none]
      refine ⟨fun same => ?_, fun both => absurd both.2.symm otherNone⟩
      rw [same] at plain
      exact absurd (ticked _ _) plain
  · by_cases otherNone : other.2 = 0
    · rw [if_neg none, if_pos otherNone, otherNone]
      refine ⟨fun same => ?_, fun both => absurd both.2 none⟩
      rw [← same] at alsoPlain
      exact absurd (ticked _ _) alsoPlain
    · rw [if_neg none, if_neg otherNone]
      refine ⟨ticked_inj plain, fun both => ?_⟩
      rw [both.1, both.2]

theorem nesting_nest_eq {outer name : String} (plain : '+' ∉ name.toList) :
    nesting (nest outer name) = nesting outer + 1 := by
  unfold nesting
  rw [to_list_nest, List.count_append, List.count_cons_self, List.count_eq_zero.mpr plain]

end Names

def Node.typeParameterCount (node : Node) : Nat :=
  match node.childOr? "type_parameters" ["type_parameter_list"] with
  | none => 0
  | some parameters =>
      (parameters.namedChildren.filter fun child => child.kind = "type_parameter").length

/-- Names are written without the marks of metadata names, and everything has a name. -/
structure Source.Unmarked (source : Source) : Prop where
  nested : ∀ site ∈ source.sites, site.node.Nested
  types : ∀ site ∈ source.sites, site.node.isTypeDeclaration = true →
    Names.Simple (source.declaredName site.node) ∧ '`' ∉ (source.declaredName site.node).toList
  spaces : ∀ site ∈ source.sites, site.node.isSpaceDeclaration = true →
    source.declaredName site.node ≠ "" ∧ '+' ∉ (source.declaredName site.node).toList
  outermost : ∀ site ∈ source.sites, site.node.isSpaceDeclaration = true →
    ∀ ancestor ∈ site.ancestors, ancestor.isTypeDeclaration = false

instance (source : Source) : Decidable source.Unmarked :=
  decidable_of_iff
    ((∀ site ∈ source.sites, site.node.Nested) ∧
      (∀ site ∈ source.sites, site.node.isTypeDeclaration = true →
        Names.Simple (source.declaredName site.node) ∧
          '`' ∉ (source.declaredName site.node).toList) ∧
      (∀ site ∈ source.sites, site.node.isSpaceDeclaration = true →
        source.declaredName site.node ≠ "" ∧ '+' ∉ (source.declaredName site.node).toList) ∧
      ∀ site ∈ source.sites, site.node.isSpaceDeclaration = true →
        ∀ ancestor ∈ site.ancestors, ancestor.isTypeDeclaration = false)
    ⟨fun all => ⟨all.1, all.2.1, all.2.2.1, all.2.2.2⟩,
      fun all => ⟨all.nested, all.types, all.spaces, all.outermost⟩⟩

namespace Source

variable {source : Source}

theorem Unmarked.ordered (unmarked : source.Unmarked) : source.Ordered :=
  ⟨unmarked.nested, fun site inside isType => (unmarked.types site inside isType).1.1,
    unmarked.outermost⟩

theorem Unmarked.plain (unmarked : source.Unmarked) : source.PlainTypes := fun site inside isType =>
  (unmarked.types site inside isType).1.2

theorem Unmarked.cover (unmarked : source.Unmarked) : source.FileSpacesCover := by
  intro site inside isFile
  refine covering_of_named unmarked.ordered inside (unmarked.spaces site inside ?_).1
  unfold Node.isSpaceDeclaration
  rw [isFile]
  rfl

/-- What tells a type from others in the same surroundings. -/
def typeKey (source : Source) (site : Site) : String × Nat :=
  (source.declaredName site.node, site.node.typeParameterCount)

theorem type_segment_key (source : Source) (site : Site) :
    source.typeSegment site.node = Names.keySegment (source.typeKey site) := by
  unfold typeSegment typeKey Node.typeParameterCount
  cases site.node.childOr? "type_parameters" ["type_parameter_list"] with
  | none => rfl
  | some parameters => rfl

theorem type_segment_inj {other : Source} {site place : Site}
    (plain : '`' ∉ (source.declaredName site.node).toList)
    (alsoPlain : '`' ∉ (other.declaredName place.node).toList) :
    source.typeSegment site.node = other.typeSegment place.node ↔
      source.typeKey site = other.typeKey place := by
  rw [type_segment_key, type_segment_key]
  exact Names.key_segment_inj plain alsoPlain

theorem declared_type_of_no_type (ordered : source.Ordered) {site : Site}
    (inside : site ∈ source.sites) (around : site.typesAround = []) :
    source.declaredType site =
      Names.qualify (Surroundings.ofSite source site).space (source.typeSegment site.node) := by
  have name := (declaration_names ordered inside []).2
  rw [enclosing_of_no_type around] at name
  exact name

theorem Unmarked.segment (unmarked : source.Unmarked) {site : Site} (inside : site ∈ source.sites)
    (isType : site.node.isTypeDeclaration = true) :
    '.' ∉ (source.typeSegment site.node).toList ∧ '+' ∉ (source.typeSegment site.node).toList :=
  ⟨type_segment_clean (by decide) (by decide) (unmarked.plain site inside isType).1,
    type_segment_clean (by decide) (by decide) (unmarked.plain site inside isType).2⟩

theorem Unmarked.within (unmarked : source.Unmarked) {site : Site} (inside : site ∈ source.sites)
    (isType : site.node.isTypeDeclaration = true) : source.Within site.node site.node.start :=
  within_start (covering_of_named unmarked.ordered inside (unmarked.types site inside isType).1.1)

theorem declared_type_of_type (unmarked : source.Unmarked) {site outer : Site} {more : List Site}
    (inside : site ∈ source.sites) (isType : site.node.isTypeDeclaration = true)
    (around : site.typesAround = outer :: more) :
    source.declaredType site =
        Names.nest (source.declaredType outer) (source.typeSegment site.node) ∧
      (Surroundings.ofSite source site).space = (Surroundings.ofSite source outer).space :=
  ⟨containing_of_around unmarked.ordered inside (unmarked.within inside isType) around,
    (enclosing_cons unmarked.ordered inside (unmarked.within inside isType) around []).2⟩

theorem keys_of_type (source : Source) {site : Site} (isType : site.node.isTypeDeclaration = true) :
    site.typesFrom.map source.typeKey =
      source.typeKey site :: site.typesAround.map source.typeKey := by
  rw [Site.types_from_eq, if_pos isType, List.map_cons]

/-- The metadata names of two types are the same iff their namespaces are and the types around them
have the same names and numbers of type parameters, one by one. -/
theorem declared_type_inj {other : Source} (unmarked : source.Unmarked)
    (alsoUnmarked : other.Unmarked) {site place : Site} (inside : site ∈ source.sites)
    (isType : site.node.isTypeDeclaration = true) (placeInside : place ∈ other.sites)
    (placeIsType : place.node.isTypeDeclaration = true) :
    source.declaredType site = other.declaredType place ↔
      (Surroundings.ofSite source site).space = (Surroundings.ofSite other place).space ∧
        site.typesFrom.map source.typeKey = place.typesFrom.map other.typeKey := by
  generalize around : site.typesAround = outers
  induction outers generalizing site place with
  | nil =>
      have clean := unmarked.segment inside isType
      have otherClean := alsoUnmarked.segment placeInside placeIsType
      have keys : _ ↔ source.typeKey site = other.typeKey place :=
        type_segment_inj (unmarked.types site inside isType).2
          (alsoUnmarked.types place placeInside placeIsType).2
      rw [declared_type_of_no_type unmarked.ordered inside around, keys_of_type source isType,
        keys_of_type other placeIsType, around]
      cases placeAround : place.typesAround with
      | nil =>
          rw [declared_type_of_no_type alsoUnmarked.ordered placeInside placeAround,
            Names.qualify_inj clean.1 otherClean.1, keys]
          simp
      | cons outer more =>
          rw [(declared_type_of_type alsoUnmarked placeInside placeIsType placeAround).1]
          have apart := Names.nest_ne_qualify (other.declaredType outer)
            (Surroundings.ofSite source site).space otherClean.1 clean.2
          simp [Ne.symm apart]
  | cons outer more induction =>
      have clean := unmarked.segment inside isType
      have otherClean := alsoUnmarked.segment placeInside placeIsType
      have keys : _ ↔ source.typeKey site = other.typeKey place :=
        type_segment_inj (unmarked.types site inside isType).2
          (alsoUnmarked.types place placeInside placeIsType).2
      obtain ⟨outerInside, outerIsType, rest, -⟩ :=
        outer_of_types_around unmarked.ordered inside (unmarked.within inside isType) around
      obtain ⟨name, space⟩ := declared_type_of_type unmarked inside isType around
      rw [name, space, keys_of_type source isType, keys_of_type other placeIsType, around]
      cases placeAround : place.typesAround with
      | nil =>
          rw [declared_type_of_no_type alsoUnmarked.ordered placeInside placeAround]
          have apart := Names.nest_ne_qualify (source.declaredType outer)
            (Surroundings.ofSite other place).space clean.1 otherClean.2
          simp [apart]
      | cons placeOuter placeMore =>
          obtain ⟨placeOuterInside, placeOuterIsType, placeRest, -⟩ :=
            outer_of_types_around alsoUnmarked.ordered placeInside
              (alsoUnmarked.within placeInside placeIsType) placeAround
          obtain ⟨placeName, placeSpace⟩ :=
            declared_type_of_type alsoUnmarked placeInside placeIsType placeAround
          have outers :=
            induction outerInside outerIsType placeOuterInside placeOuterIsType rest
          rw [keys_of_type source outerIsType, keys_of_type other placeOuterIsType, rest,
            placeRest] at outers
          rw [placeName, placeSpace, Names.nest_inj clean.2 otherClean.2, outers, keys,
            List.map_cons, List.map_cons]
          constructor
          · intro same
            exact ⟨same.1.1, List.cons_eq_cons.mpr ⟨same.2, same.1.2⟩⟩
          · intro same
            obtain ⟨last, others⟩ := List.cons_eq_cons.mp same.2
            exact ⟨⟨same.1, others⟩, last⟩

theorem nesting_of_declared (unmarked : source.Unmarked) {site : Site}
    (inside : site ∈ source.sites) (isType : site.node.isTypeDeclaration = true) :
    Names.nesting (source.declaredType site) = site.typesAround.length := by
  generalize around : site.typesAround = outers
  induction outers generalizing site with
  | nil =>
      rw [declared_type_of_no_type unmarked.ordered inside around]
      apply List.count_eq_zero.mpr
      apply Names.plus_not_mem_qualify _ (unmarked.segment inside isType).2
      exact space_plusless (fun space isInside isSpace => (unmarked.spaces space isInside isSpace).2)
        inside
  | cons outer more induction =>
      obtain ⟨outerInside, outerIsType, rest, -⟩ :=
        outer_of_types_around unmarked.ordered inside (unmarked.within inside isType) around
      rw [(declared_type_of_type unmarked inside isType around).1,
        Names.nesting_nest_eq (unmarked.segment inside isType).2,
        induction outerInside outerIsType rest, List.length_cons]

def spacePath (source : Source) (site : Site) : List String :=
  (Surroundings.ofSite source site).spaces.reverse.flatMap fun block => Names.spaceSegments block.1

/-- The blocks around a site make up its namespace, however they divide it. -/
theorem space_path_eq (unmarked : source.Unmarked) {site : Site} (inside : site ∈ source.sites) :
    source.spacePath site = Names.spaceSegments (Surroundings.ofSite source site).space := by
  have joined (blocks : List (String × List Using)) (outer : String)
      (named : ∀ block ∈ blocks, block.1 ≠ "") :
      Names.spaceSegments (blocks.foldl (fun outer block => Names.qualify outer block.1) outer) =
        Names.spaceSegments outer ++ blocks.flatMap fun block => Names.spaceSegments block.1 := by
    induction blocks generalizing outer with
    | nil => simp
    | cons block rest induction =>
        obtain ⟨own, others⟩ := List.forall_mem_cons.mp named
        rw [List.foldl_cons, induction _ others, Names.space_segments_qualify own,
          List.flatMap_cons, List.append_assoc]
  unfold spacePath Surroundings.space
  rw [joined]
  · rfl
  · intro block member
    obtain ⟨space, spaceInside, isSpace, name⟩ :=
      space_declared inside block (List.mem_reverse.mp member)
    rw [← name]
    exact (unmarked.spaces space spaceInside isSpace).1

end Source

structure Part where
  source : Source
  site : Site

namespace Part

def type (part : Part) : String := part.source.declaredType part.site

/-- The segments of the namespace, and the names and numbers of type parameters from the outermost
type to the declared one. -/
def path (part : Part) : List String × List (String × Nat) :=
  (part.source.spacePath part.site, (part.site.typesFrom.map part.source.typeKey).reverse)

def depth (part : Part) : Nat := part.site.typesAround.length

def declaration (globals : List Using) (part : Part) : TypeDeclaration :=
  TypeDeclaration.ofSite part.source globals part.site

end Part

def declaredParts (sources : List Source) : List Part :=
  sources.flatMap fun source =>
    (source.sites.filter (·.node.isTypeDeclaration)).map fun site => { source, site }

theorem find_idx_congr {α : Type} {test other : α → Bool} {elements : List α}
    (same : ∀ element ∈ elements, test element = other element) :
    elements.findIdx test = elements.findIdx other := by
  induction elements with
  | nil => rfl
  | cons element rest induction =>
      obtain ⟨own, others⟩ := List.forall_mem_cons.mp same
      rw [List.findIdx_cons, List.findIdx_cons, own, induction others]

section Parts

variable {sources : List Source}

theorem mem_declared_parts {part : Part} :
    part ∈ declaredParts sources ↔
      part.source ∈ sources ∧ part.site ∈ part.source.sites ∧
        part.site.node.isTypeDeclaration = true := by
  unfold declaredParts
  simp only [List.mem_flatMap, List.mem_map, List.mem_filter]
  constructor
  · intro given
    rcases given with ⟨source, listed, site, own, rfl⟩
    exact ⟨listed, own⟩
  · intro given
    exact ⟨part.source, given.1, part.site, given.2, rfl⟩

/-- Two declarations are parts of one type iff they have one path. -/
theorem part_type_inj (unmarked : ∀ source ∈ sources, source.Unmarked) {first second : Part}
    (firstListed : first ∈ declaredParts sources) (secondListed : second ∈ declaredParts sources) :
    first.type = second.type ↔ first.path = second.path := by
  obtain ⟨firstSource, firstInside, firstIsType⟩ := mem_declared_parts.mp firstListed
  obtain ⟨secondSource, secondInside, secondIsType⟩ := mem_declared_parts.mp secondListed
  have own := unmarked first.source firstSource
  have other := unmarked second.source secondSource
  unfold Part.type Part.path
  rw [Source.declared_type_inj own other firstInside firstIsType secondInside secondIsType,
    Prod.mk.injEq, List.reverse_inj, Source.space_path_eq own firstInside,
    Source.space_path_eq other secondInside]
  exact and_congr_left fun _ => ⟨congrArg Names.spaceSegments, Names.space_segments_inj⟩

theorem parts_in_eq (globals : List Using) (sources : List Source) (name : String) :
    partsIn globals sources name =
      ((declaredParts sources).filter (·.type = name)).map (Part.declaration globals) := by
  unfold partsIn declaredParts TypeDeclaration.all
  rw [List.filter_flatMap, List.map_flatMap]
  congr 1
  funext source
  rw [List.filter_map, List.filter_map, List.map_map]
  have tests : ((fun declaration : TypeDeclaration => decide (declaration.metadataName = name)) ∘
        TypeDeclaration.ofSite source globals) =
      ((fun part : Part => decide (part.type = name)) ∘ fun site => { source, site }) := by
    funext site
    apply decide_eq_decide.mpr
    rw [TypeDeclaration.name_of_site source globals []]
    rfl
  rw [tests]
  rfl

/-- Types are declared outer ones first, and then in the order of their first parts. -/
theorem declared_names_pairwise (sources : List Source) :
    (distinct ((declarationsOf sources).map (·.metadataName))).Pairwise fun first second =>
      Names.nesting first < Names.nesting second ∨
        Names.nesting first = Names.nesting second ∧
          ((declaredParts sources).map Part.type).idxOf first <
            ((declaredParts sources).map Part.type).idxOf second := by
  have names : (sources.flatMap fun source =>
        TypeDeclaration.all source (globalUsings sources)).map (·.metadataName) =
      (declaredParts sources).map Part.type := by
    unfold declaredParts TypeDeclaration.all
    rw [List.map_flatMap, List.map_flatMap]
    congr 1
    funext source
    rw [List.map_map, List.map_map]
    apply List.map_congr_left
    intro site _
    exact TypeDeclaration.name_of_site source (globalUsings sources) [] site
  unfold declarationsOf byNesting
  dsimp only
  generalize List.foldl max 0 _ + 1 = count
  have levels : ((List.range count).flatMap fun level =>
        (sources.flatMap fun source => TypeDeclaration.all source (globalUsings sources)).filter
          fun declaration => Names.nesting declaration.metadataName = level).map (·.metadataName) =
      (List.range count).flatMap fun level =>
        ((declaredParts sources).map Part.type).filter fun name => Names.nesting name = level := by
    rw [List.map_flatMap, ← names]
    congr 1
    funext level
    rw [List.filter_map]
    rfl
  have atLevel {level : Nat} {name : String} (member : name ∈
      (distinct ((declaredParts sources).map Part.type)).filter fun name =>
        Names.nesting name = level) : Names.nesting name = level :=
    of_decide_eq_true (List.mem_filter.mp member).2
  rw [levels, distinct_levels]
  refine List.pairwise_flatMap.mpr ⟨fun level _ => ?same, ?other⟩
  case same =>
    apply ((distinct_pairwise _).filter _).imp_of_mem
    intro first second firstMember secondMember before
    exact .inr ⟨(atLevel firstMember).trans (atLevel secondMember).symm, before⟩
  case other =>
    apply List.pairwise_lt_range.imp
    intro lower upper less first firstMember second secondMember
    rw [atLevel firstMember, atLevel secondMember]
    exact .inl less

end Parts

/-- A symbol is made of all parts of a type, in their order. -/
structure TypeSymbol.Merges (symbol : TypeSymbol) (program : Program)
    (parts : List TypeDeclaration) : Prop where
  internal : symbol.isExternal = false
  first : ∃ first ∈ parts.head?, symbol.Begins program.known first
  locations : symbol.locations = parts.map (·.location)
  interfaces : symbol.interfaces = distinct ((parts.flatMap fun part =>
    part.bases.filterMap fun base => program.known.resolve? .type base part.scope).filter
      fun name => (program.type? name).map (·.kind) = some "interface")

namespace Program

def parts (program : Program) : List Part := declaredParts program.sources

def partsLike (program : Program) (part : Part) : List TypeDeclaration :=
  (program.parts.filter (·.path = part.path)).map (Part.declaration program.globals)

def declaredTypes (program : Program) : List TypeSymbol :=
  program.types.filter fun symbol => !symbol.isExternal

/-- The parts of one type are nested less deep than those of another one, or as deep and the first
of them stands before the others. -/
def Precedes (program : Program) (first second : TypeSymbol) : Prop :=
  ∀ part ∈ program.parts, ∀ other ∈ program.parts,
    program.type? part.type = some first → program.type? other.type = some second →
    part.depth < other.depth ∨ part.depth = other.depth ∧
      program.parts.findIdx (·.path = part.path) < program.parts.findIdx (·.path = other.path)

/-- The types of a program are its references, if they are not declared, and the declared types,
each of which is made of all its parts. -/
structure MergesParts (program : Program) : Prop where
  visits : ∀ source ∈ program.sources, source.sites.Nodup
  classes : ∀ first ∈ program.parts, ∀ second ∈ program.parts,
    program.type? first.type = program.type? second.type ↔ first.path = second.path
  table : program.types =
    (program.references.filter fun entry => entry.1 ∉ program.parts.map Part.type).map
      (fun entry => TypeSymbol.external entry.1 entry.2) ++ program.declaredTypes
  names : (program.types.map (·.metadataName)).Nodup
  merged : ∀ part ∈ program.parts, ∃ symbol ∈ program.declaredTypes,
    program.type? part.type = some symbol ∧ symbol.Merges program (program.partsLike part)
  declared : ∀ symbol ∈ program.declaredTypes, ∃ part ∈ program.parts,
    program.type? part.type = some symbol
  order : program.declaredTypes.Pairwise program.Precedes

variable {sources : List Source} {references : References} {program : Program}

/-- The symbol of a type with parts is made of them. -/
theorem symbol_merges (built : build sources references = .ok program) {name : String}
    (declared : partsIn program.globals sources name ≠ []) :
    ∃ symbol, program.type? name = some symbol ∧
      symbol.Merges program (partsIn program.globals sources name) := by
  obtain ⟨first, more, parts⟩ := List.exists_cons_of_ne_nil declared
  obtain ⟨symbol, found, begins⟩ := symbol_begins built parts
  have kinds := kind_of_type built
  refine ⟨symbol, found, ?_⟩
  have made := (type_eq built name).symm.trans found
  unfold symbolFrom? at made
  rw [parts] at made ⊢
  simp only [kinds] at made
  obtain rfl := Option.some.inj made
  exact ⟨rfl, ⟨first, rfl, begins⟩, rfl, rfl⟩

theorem types_nodup (built : build sources references = .ok program)
    (keys : references.keys.Nodup) : (program.types.map (·.metadataName)).Nodup := by
  rw [(build_eq built).2.2.2.2, type_table_names]
  refine List.nodup_append.mpr ⟨keys.filter _, distinct_nodup _, ?_⟩
  intro name external other declared same
  rw [same] at external
  have undeclared := (List.mem_filter.mp external).2
  rw [List.contains_iff_mem.mpr declared] at undeclared
  cases undeclared

theorem type_of_mem (names : (program.types.map (·.metadataName)).Nodup) {symbol : TypeSymbol}
    (member : symbol ∈ program.types) : program.type? symbol.metadataName = some symbol := by
  unfold type?
  cases found : program.types.find? fun other => other.metadataName = symbol.metadataName with
  | none =>
      have other := List.find?_eq_none.mp found symbol member
      exact absurd (decide_eq_true rfl) other
  | some other =>
      have name := type_name found
      rw [List.inj_on_of_nodup_map names (List.mem_of_find?_eq_some found) member name]

theorem types_split (built : build sources references = .ok program)
    (keys : references.keys.Nodup) :
    program.types = externals (declarationsOf sources) references ++ program.declaredTypes ∧
      program.declaredTypes.map (·.metadataName) =
        distinct ((declarationsOf sources).map (·.metadataName)) := by
  obtain ⟨added, whole, names⟩ :=
    type_table_split (declarationsOf sources) references
      (knownNames (declarationsOf sources) references)
  rw [← (build_eq built).2.2.2.2] at whole
  have internal : ∀ symbol ∈ added, (!symbol.isExternal) = true := by
    intro symbol member
    have declared : symbol.metadataName ∈ (declarationsOf sources).map (·.metadataName) := by
      rw [← mem_distinct, ← names]
      exact List.mem_map_of_mem member
    rw [declared_iff_parts, ← (build_eq built).2.2.1] at declared
    obtain ⟨other, found, merges⟩ := symbol_merges built declared
    have listed : symbol ∈ program.types := whole ▸ List.mem_append_right _ member
    have own := type_of_mem (types_nodup built keys) listed
    rw [Option.some.inj (own.symm.trans found), merges.internal]
    rfl
  have external : ∀ symbol ∈ externals (declarationsOf sources) references,
      ¬ (!symbol.isExternal) = true := by
    intro symbol member
    obtain ⟨entry, -, rfl⟩ := List.mem_map.mp member
    exact Bool.false_ne_true
  have declared : program.declaredTypes = added := by
    unfold declaredTypes
    rw [whole, List.filter_append, List.filter_eq_nil_iff.mpr external,
      List.filter_eq_self.mpr internal, List.nil_append]
  rw [declared]
  exact ⟨whole, names⟩

theorem mem_declared_names {name : String} :
    name ∈ (declarationsOf sources).map (·.metadataName) ↔
      name ∈ (declaredParts sources).map Part.type := by
  rw [declared_iff_parts, parts_in_eq, ne_eq, List.map_eq_nil_iff, List.filter_eq_nil_iff]
  simp

theorem parts_like_eq (built : build sources references = .ok program)
    (unmarked : ∀ source ∈ sources, source.Unmarked) {part : Part} (listed : part ∈ program.parts) :
    program.partsLike part = partsIn program.globals sources part.type := by
  unfold partsLike parts at *
  rw [(build_eq built).1] at *
  rw [parts_in_eq]
  congr 1
  apply List.filter_congr
  intro other member
  rw [decide_eq_decide.mpr (part_type_inj unmarked member listed)]

theorem precedes (built : build sources references = .ok program)
    (unmarked : ∀ source ∈ sources, source.Unmarked) {first second : TypeSymbol}
    (before : Names.nesting first.metadataName < Names.nesting second.metadataName ∨
      Names.nesting first.metadataName = Names.nesting second.metadataName ∧
        ((declaredParts sources).map Part.type).idxOf first.metadataName <
          ((declaredParts sources).map Part.type).idxOf second.metadataName) :
    program.Precedes first second := by
  have depths {part : Part} (listed : part ∈ declaredParts sources) :
      Names.nesting part.type = part.depth := by
    obtain ⟨sourceListed, inside, isType⟩ := mem_declared_parts.mp listed
    exact Source.nesting_of_declared (unmarked part.source sourceListed) inside isType
  have places {part : Part} (listed : part ∈ declaredParts sources) :
      ((declaredParts sources).map Part.type).idxOf part.type =
        (declaredParts sources).findIdx (·.path = part.path) := by
    unfold List.idxOf
    rw [List.findIdx_map]
    apply find_idx_congr
    intro other member
    exact decide_eq_decide.mpr (part_type_inj unmarked member listed)
  intro part listed other otherListed partFound otherFound
  unfold parts at *
  rw [(build_eq built).1] at *
  rw [type_name partFound, type_name otherFound, depths listed, depths otherListed, places listed,
    places otherListed] at before
  exact before

end Program

/-- A program can be built unless a constant is left open. Its symbols are those of its references
and of its declared types, and each of the latter is made of the declarations with one path. -/
theorem parts_merge {sources : List Source} {references : References}
    (unmarked : ∀ source ∈ sources, source.Unmarked) (keys : references.keys.Nodup) :
    ((∃ program, Program.build sources references = .ok program) ↔
        ∀ source ∈ sources, Initialized source) ∧
      ∀ program, Program.build sources references = .ok program → program.MergesParts := by
  refine ⟨Program.build_returns sources references, fun program built => ?_⟩
  obtain ⟨ownSources, ownReferences, -⟩ := Program.build_eq built
  have names := Program.types_nodup built keys
  obtain ⟨table, declaredNames⟩ := Program.types_split built keys
  have parts : program.parts = declaredParts sources := congrArg declaredParts ownSources
  have declared {part : Part} (listed : part ∈ program.parts) :
      ∃ symbol, program.type? part.type = some symbol ∧
        symbol.Merges program (program.partsLike part) := by
    rw [Program.parts_like_eq built unmarked listed]
    apply Program.symbol_merges built
    rw [(Program.build_eq built).2.2.1, ← declared_iff_parts, Program.mem_declared_names, ← parts]
    exact List.mem_map_of_mem listed
  constructor
  case visits => exact fun source _ => Site.walk_nodup _
  case classes =>
    intro first firstListed second secondListed
    obtain ⟨symbol, found, -⟩ := declared firstListed
    obtain ⟨other, otherFound, -⟩ := declared secondListed
    rw [← part_type_inj unmarked (parts ▸ firstListed) (parts ▸ secondListed)]
    refine ⟨fun same => ?_, congrArg program.type?⟩
    rw [found] at same
    exact (Program.type_name found).symm.trans (Program.type_name same.symm)
  case table =>
    rw [ownReferences]
    refine table.trans (congrArg (· ++ program.declaredTypes) ?_)
    unfold externals
    congr 1
    apply List.filter_congr
    intro entry _
    rw [parts, Bool.eq_iff_iff, decide_eq_true_eq, Bool.not_eq_true', ← Bool.not_eq_true,
      List.contains_iff_mem, mem_distinct, Program.mem_declared_names]
  case names => exact names
  case merged =>
    intro part listed
    obtain ⟨symbol, found, merges⟩ := declared listed
    refine ⟨symbol, List.mem_filter.mpr ⟨List.mem_of_find?_eq_some found, ?_⟩, found, merges⟩
    rw [merges.internal]
    rfl
  case declared =>
    intro symbol member
    have own := List.mem_map_of_mem (f := TypeSymbol.metadataName) member
    rw [declaredNames, mem_distinct, Program.mem_declared_names, ← parts] at own
    obtain ⟨part, listed, name⟩ := List.mem_map.mp own
    refine ⟨part, listed, ?_⟩
    rw [name]
    exact Program.type_of_mem names (List.mem_filter.mp member).1
  case order =>
    have ordered := declared_names_pairwise sources
    rw [← declaredNames, List.pairwise_map] at ordered
    exact ordered.imp (Program.precedes built unmarked)

section Samples

open Marker (branch token leaf fieldLeaf fieldBranch)

def blockWith (start length stop : Nat) (members : List Node) : Node :=
  branch "namespace_declaration" start stop [
    token "namespace" start (start + 9),
    fieldLeaf "identifier" "name" (start + 10) (start + 10 + length),
    fieldBranch "declaration_list" "body" (start + 11 + length) stop
      (token "\x7b" (start + 11 + length) (start + 12 + length) ::
        members ++ [token "\x7d" (stop - 1) stop])]

def dottedName (start : Nat) : Node :=
  fieldBranch "qualified_name" "name" start (start + 3) [
    fieldLeaf "identifier" "qualifier" start (start + 1),
    token "." (start + 1) (start + 2),
    fieldLeaf "identifier" "name" (start + 2) (start + 3)]

/-- One class in three files, which write its namespace in different ways. -/
def spread : List Source :=
  [{ path := "F0.cs"
     bytes := Text.Utf8.encode
      "namespace A \x7b namespace B \x7b class C \x7b \x7d \x7d \x7d"
     root :=
      branch "compilation_unit" 0 43 [blockWith 0 1 43 [blockWith 14 1 41 [classWith 28 1 39 []]]] },
   { path := "F1.cs"
     bytes := Text.Utf8.encode
      "namespace A.B \x7b class C \x7b struct D<T> \x7b \x7d \x7d \x7d"
     root :=
      branch "compilation_unit" 0 45 [
        branch "namespace_declaration" 0 45 [
          token "namespace" 0 9,
          dottedName 10,
          fieldBranch "declaration_list" "body" 14 45 [
            token "\x7b" 14 15,
            classWith 16 1 43 [
              branch "struct_declaration" 26 41 [
                token "struct" 26 32,
                fieldLeaf "identifier" "name" 33 34,
                fieldBranch "type_parameter_list" "type_parameters" 34 37 [
                  token "<" 34 35,
                  branch "type_parameter" 35 36 [
                    fieldLeaf "identifier" "name" 35 36],
                  token ">" 36 37],
                fieldBranch "declaration_list" "body" 38 41 [
                  token "\x7b" 38 39,
                  token "\x7d" 40 41]]],
            token "\x7d" 44 45]]] },
   { path := "F2.cs"
     bytes := Text.Utf8.encode "namespace A.B; struct C : I \x7b \x7d"
     root :=
      branch "compilation_unit" 0 31 [
        branch "file_scoped_namespace_declaration" 0 14 [
          token "namespace" 0 9,
          dottedName 10,
          token ";" 13 14],
        branch "struct_declaration" 15 31 [
          token "struct" 15 21,
          fieldLeaf "identifier" "name" 22 23,
          branch "base_list" 24 27 [
            token ":" 24 25,
            leaf "identifier" 26 27],
          fieldBranch "declaration_list" "body" 28 31 [
            token "\x7b" 28 29,
            token "\x7d" 30 31]]] }]

/-- The three parts make one symbol, which is a class as the first one is and has the interface of
the last one. -/
theorem parts_merge_across_spaces :
    ∃ program, Program.build spread [("I", "interface")] = .ok program ∧ program.MergesParts ∧
      program.types.map (·.metadataName) = ["I", "A.B.C", "A.B.C+D`1"] ∧
      (program.type? "A.B.C").map (fun symbol => (symbol.locations, symbol.interfaces)) =
        some ([⟨"F0.cs", 0, 28⟩, ⟨"F1.cs", 0, 16⟩, ⟨"F2.cs", 0, 15⟩], ["I"]) ∧
      (program.type? "A.B.C").map (fun symbol => (symbol.kind, symbol.name, symbol.typeParameters)) =
        some ("class", "C", "") ∧
      (program.type? "A.B.C+D`1").map
          (fun symbol => (symbol.kind, symbol.name, symbol.typeParameters)) =
        some ("struct", "D", "<T>") := by
  have merge : ((∃ program, Program.build spread [("I", "interface")] = .ok program) ↔ _) ∧ _ :=
    parts_merge (by decide +kernel) (by decide +kernel)
  obtain ⟨program, built⟩ := merge.1.mpr (by decide +kernel)
  refine ⟨program, built, merge.2 program built, ?_⟩
  unfold Program.type?
  rw [(Program.build_eq built).2.2.2.2]
  decide +kernel

end Samples

end PropertyGen
