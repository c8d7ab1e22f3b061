import PropertyGen.Proofs.Closure
import PropertyGen.Proofs.Segments

/-!
Full names. The name that says a type from the global namespace on, with type arguments of any kind
and blanks anywhere, binds to that type wherever it is written, unless a type stands in for one of
the namespaces on the way.
-/

namespace PropertyGen

namespace Names

/-- The full name of a type as it is written, from the outermost namespace to the type itself. -/
structure FullName where
  spaces : List String
  types : List WrittenType
deriving DecidableEq, Repr

namespace FullName

def text (written : FullName) : String :=
  globalMark ++ ".".intercalate (written.spaces ++ written.types.map WrittenType.text)

def path (written : FullName) : List String × List (String × Nat) :=
  (written.spaces, written.types.map WrittenType.key)

/-- A name that is the full name but for blanks, with simple type arguments. -/
structure Spells (written : FullName) (name : String) : Prop where
  simple : ∀ type ∈ written.types, type.Simple
  text : Text.compact name = written.text

end FullName

end Names

/-- All types and namespaces of a source have plain identifiers as their names. -/
structure Source.Identified (source : Source) : Prop extends source.Unmarked where
  typeNames : ∀ site ∈ source.sites, site.node.isTypeDeclaration = true →
    Names.Plain (source.declaredName site.node)
  spaceNames : ∀ site ∈ source.sites, site.node.isSpaceDeclaration = true →
    ∀ segment ∈ Names.spaceSegments (source.declaredName site.node), Names.Plain segment

instance (source : Source) : Decidable source.Identified :=
  decidable_of_iff
    (source.Unmarked ∧
      (∀ site ∈ source.sites, site.node.isTypeDeclaration = true →
        Names.Plain (source.declaredName site.node)) ∧
      ∀ site ∈ source.sites, site.node.isSpaceDeclaration = true →
        ∀ segment ∈ Names.spaceSegments (source.declaredName site.node), Names.Plain segment)
    ⟨fun all => ⟨all.1, all.2.1, all.2.2⟩, fun all => ⟨all.toUnmarked, all.typeNames, all.spaceNames⟩⟩

/-- A type is found under its full name, from every node of every source. -/
structure Program.FoundEverywhere (program : Program) (part : Part) : Prop where
  declared : ∃ symbol, program.type? part.type = some symbol
  /-- As a type. -/
  asType : ∀ written name, Names.FullName.Spells written name → written.path = part.path →
    ∀ source site, program.resolveType? .type name source site = program.type? part.type
  /-- As an attribute, unless there is a type that is named like it with the suffix. -/
  asAttribute : program.type? (part.type ++ attributeSuffix) = none →
    ∀ written name, Names.FullName.Spells written name → written.path = part.path →
      ∀ source site, program.resolveType? .attribute name source site = program.type? part.type
  /-- As an attribute whose name is written without the suffix. -/
  shortened : ∀ spaces outer short name,
    Names.FullName.Spells ⟨spaces, outer ++ [⟨short, []⟩]⟩ name →
      part.path = (spaces, outer.map Names.WrittenType.key ++ [(short ++ attributeSuffix, 0)]) →
        ∀ source site, program.resolveType? .attribute name source site = program.type? part.type

theorem split_qualifier_none {text : List Char} (clean : ':' ∉ text) :
    splitQualifier? text = none := by
  induction text with
  | nil => rfl
  | cons character rest induction =>
      rw [List.mem_cons, not_or] at clean
      rw [splitQualifier?, induction clean.2]
      · rfl
      · exact fun _ same _ => clean.1 same.symm

namespace Names

def pathSegments (path : List String × List (String × Nat)) : List String :=
  path.1 ++ path.2.map keySegment

namespace FullName

variable {written : FullName} {name : String}

theorem Spells.request (spells : written.Spells name)
    (plain : ∀ space ∈ written.spaces, Plain space) (scope : Scope) :
    scope.request? name = some (.absolute (pathSegments written.path)) := by
  generalize whole : written.spaces ++ written.types.map WrittenType.text = pieces
  have each : ∀ piece ∈ pieces, Piece piece.toList ∧ ':' ∉ piece.toList := by
    intro piece member
    rw [← whole] at member
    rcases List.mem_append.mp member with isSpace | isType
    · exact ⟨piece_of_plain (plain piece isSpace), (plain piece isSpace).2 ':' (by decide)⟩
    · obtain ⟨type, listed, rfl⟩ := List.mem_map.mp isType
      exact ⟨(spells.simple type listed).piece, (spells.simple type listed).no_colon⟩
  have segmentsEq : segments (".".intercalate pieces) = pathSegments written.path := by
    rw [segments_joined fun piece member => (each piece member).1, ← whole, List.map_append,
      List.map_map]
    unfold pathSegments path
    congr 1
    · refine (List.map_congr_left fun space listed => ?_).trans (List.map_id _)
      rw [segment_chars_plain (plain space listed), String.ofList_toList, id]
    · rw [List.map_map]
      apply List.map_congr_left
      intro type listed
      show String.ofList (segmentChars type.text.toList) = keySegment type.key
      rw [(spells.simple type listed).segment, String.ofList_toList]
  have clean : ':' ∉ (".".intercalate pieces).toList := by
    rw [String.toList_intercalate]
    apply Text.not_mem_joined (by decide)
    intro characters member
    obtain ⟨piece, listed, rfl⟩ := List.mem_map.mp member
    exact (each piece listed).2
  have rest : Text.dropPrefix? globalMark.toList (Text.compact name).toList =
      some (".".intercalate pieces).toList := by
    rw [spells.text, FullName.text, whole, String.toList_append, Text.drop_prefix_append]
  unfold Scope.request? withoutGlobalMark hasGlobalMark
  simp only [rest, Option.map_some, Option.getD_some, String.ofList_toList,
    split_qualifier_none clean, Option.isSome_some, if_true, segmentsEq]

end FullName

end Names

namespace Names

theorem qualify_joined {front : List String} (named : ∀ segment ∈ front, segment ≠ "")
    (segment : String) :
    qualify (".".intercalate front) segment = ".".intercalate (front ++ [segment]) := by
  cases front with
  | nil =>
      rw [List.nil_append, String.intercalate_singleton]
      rfl
  | cons first rest =>
      have some := List.cons_ne_nil first rest
      have notGlobal : ".".intercalate (first :: rest) ≠ "" := by
        intro empty
        have characters := congrArg String.toList empty
        cases rest with
        | nil =>
            rw [String.intercalate_singleton] at empty
            exact named first List.mem_cons_self empty
        | cons second rest =>
            rw [String.intercalate_cons_cons, String.toList_append, String.toList_append] at characters
            exact absurd (List.append_eq_nil_iff.mp (List.append_eq_nil_iff.mp characters).1).2
              (by decide)
      unfold qualify
      rw [if_neg notGlobal, String.intercalate_append_of_ne_nil some (List.cons_ne_nil _ _),
        String.intercalate_singleton]

end Names

namespace KnownNames

theorem in_space_append {known : KnownNames} {front back : List String}
    (named : ∀ segment ∈ front ++ back, segment ≠ "")
    (spaces : ∀ outer, outer ≠ [] → outer <+: front ++ back →
      known.types.contains (".".intercalate outer) = false ∧
        known.spaces.contains (".".intercalate outer) = true) (rest : List String) :
    known.inSpace? (".".intercalate front) (back ++ rest) =
      known.inSpace? (".".intercalate (front ++ back)) rest := by
  induction back generalizing front with
  | nil => rw [List.append_nil, List.nil_append]
  | cons segment back induction =>
      have split : front ++ segment :: back = (front ++ [segment]) ++ back := by
        rw [List.append_assoc, List.singleton_append]
      rw [split] at named spaces
      have own : ∀ segment ∈ front, segment ≠ "" := fun segment member =>
        named segment (List.mem_append_left _ (List.mem_append_left _ member))
      obtain ⟨notType, isSpace⟩ := spaces (front ++ [segment])
        (List.append_ne_nil_of_right_ne_nil _ (List.cons_ne_nil _ _)) (List.prefix_append _ _)
      rw [List.cons_append, inSpace?]
      rw [Names.qualify_joined own, notType, isSpace, if_neg Bool.false_ne_true, if_pos rfl,
        induction named spaces, split]

end KnownNames

namespace Source

variable {source : Source}

def nameBeside (source : Source) (site : Site) (segment : String) : String :=
  match site.typesAround with
  | [] => Names.qualify (Surroundings.ofSite source site).space segment
  | outer :: _ => Names.nest (source.declaredType outer) segment

theorem name_beside_append (source : Source) (site : Site) (segment suffix : String) :
    source.nameBeside site (segment ++ suffix) = source.nameBeside site segment ++ suffix := by
  unfold nameBeside
  cases site.typesAround with
  | nil =>
      unfold Names.qualify
      by_cases isGlobal : (Surroundings.ofSite source site).space = ""
      · rw [if_pos isGlobal, if_pos isGlobal]
      · rw [if_neg isGlobal, if_neg isGlobal]
        exact (String.append_assoc).symm
  | cons outer more => exact (String.append_assoc).symm

theorem name_beside_ne_empty (source : Source) (site : Site) {segment : String}
    (named : segment ≠ "") : source.nameBeside site segment ≠ "" := by
  unfold nameBeside
  cases site.typesAround with
  | nil => exact Names.qualify_ne_empty named
  | cons outer more => exact Names.nest_ne_empty _ _

theorem name_beside_self (unmarked : source.Unmarked) {site : Site} (inside : site ∈ source.sites)
    (isType : site.node.isTypeDeclaration = true) :
    source.nameBeside site (source.typeSegment site.node) = source.declaredType site := by
  unfold nameBeside
  cases around : site.typesAround with
  | nil => exact (declared_type_of_no_type unmarked.ordered inside around).symm
  | cons outer more => exact (declared_type_of_type unmarked inside isType around).1.symm

theorem joined_space_path (unmarked : source.Unmarked) {site : Site}
    (inside : site ∈ source.sites) :
    ".".intercalate (source.spacePath site) = (Surroundings.ofSite source site).space := by
  rw [space_path_eq unmarked inside]
  by_cases isGlobal : (Surroundings.ofSite source site).space = ""
  · rw [isGlobal]
    rfl
  · exact Names.intercalate_space_segments isGlobal

theorem Identified.space_path (identified : source.Identified) {site : Site}
    (inside : site ∈ source.sites) : ∀ segment ∈ source.spacePath site, Names.Plain segment := by
  intro segment member
  obtain ⟨block, listed, own⟩ := List.mem_flatMap.mp member
  obtain ⟨space, spaceInside, isSpace, name⟩ := space_declared inside block (List.mem_reverse.mp listed)
  rw [← name] at own
  exact identified.spaceNames space spaceInside isSpace segment own

end Source

namespace Program

variable {sources : List Source} {references : References} {program : Program}
  (built : build sources references = .ok program)
include built

theorem declared_known {source : Source} (listed : source ∈ sources) {site : Site}
    (inside : site ∈ source.sites) (isType : site.node.isTypeDeclaration = true) :
    program.known.types.contains (source.declaredType site) = true := by
  rw [List.contains_iff_mem, known_iff_symbol built, type_known built]
  exact .inl (site_declared listed inside isType)

/-- From the namespace of a declared type the segments of the types around it lead to it. -/
theorem in_space_reaches {source : Source} (listed : source ∈ sources) (unmarked : source.Unmarked)
    {site : Site} (inside : site ∈ source.sites) (isType : site.node.isTypeDeclaration = true)
    (rest : List String) :
    program.known.inSpace? (Surroundings.ofSite source site).space
        ((site.typesFrom.map fun site => source.typeSegment site.node).reverse ++ rest) =
      program.known.inType? (source.declaredType site) rest := by
  generalize around : site.typesAround = outers
  induction outers generalizing site rest with
  | nil =>
      have known := declared_known built listed inside isType
      have name := Source.declared_type_of_no_type unmarked.ordered inside around
      rw [Site.types_from_eq, if_pos isType, around, List.map_singleton, List.reverse_singleton,
        List.singleton_append, KnownNames.inSpace?, ← name, if_pos known]
  | cons outer more induction =>
      have known := declared_known built listed inside isType
      obtain ⟨outerInside, outerIsType, outwards, -⟩ :=
        Source.outer_of_types_around unmarked.ordered inside (unmarked.within inside isType) around
      obtain ⟨name, space⟩ := Source.declared_type_of_type unmarked inside isType around
      have reaches := induction outerInside outerIsType (source.typeSegment site.node :: rest) outwards
      rw [Site.types_from_eq, if_pos outerIsType, outwards] at reaches
      rw [Site.types_from_eq, if_pos isType, around, List.map_cons, List.reverse_cons,
        List.append_assoc, List.singleton_append, space, reaches, KnownNames.inType?, ← name,
        if_pos known]

theorem in_space_beside {source : Source} (listed : source ∈ sources) (unmarked : source.Unmarked)
    {site : Site} (inside : site ∈ source.sites) (isType : site.node.isTypeDeclaration = true)
    (segment : String) :
    program.known.inSpace? (Surroundings.ofSite source site).space
        ((site.typesAround.map fun site => source.typeSegment site.node).reverse ++ [segment]) =
      if program.known.types.contains (source.nameBeside site segment) = true then
        some (source.nameBeside site segment)
      else none := by
  unfold Source.nameBeside
  cases around : site.typesAround with
  | nil =>
      rw [List.map_nil, List.reverse_nil, List.nil_append, KnownNames.inSpace?]
      simp only [KnownNames.inType?, KnownNames.inSpace?, ite_self]
  | cons outer more =>
      obtain ⟨outerInside, outerIsType, outwards, -⟩ :=
        Source.outer_of_types_around unmarked.ordered inside (unmarked.within inside isType) around
      obtain ⟨-, space⟩ := Source.declared_type_of_type unmarked inside isType around
      have reaches := in_space_reaches built listed unmarked outerInside outerIsType [segment]
      rw [Site.types_from_eq, if_pos outerIsType, outwards] at reaches
      rw [space, reaches, KnownNames.inType?]
      rfl

/-- The same from the global namespace on, if no type is named like a namespace on the way. -/
theorem absolute_reaches {source : Source} (listed : source ∈ sources)
    (unmarked : source.Unmarked) {site : Site} (inside : site ∈ source.sites)
    (isType : site.node.isTypeDeclaration = true)
    (named : ∀ space ∈ source.spacePath site, space ≠ "")
    (free : ∀ outer, outer ≠ [] → outer <+: source.spacePath site →
      program.type? (".".intercalate outer) = none) (segment : String) :
    program.known.absolute? (source.spacePath site ++
        ((site.typesAround.map fun site => source.typeSegment site.node).reverse ++ [segment])) =
      if program.known.types.contains (source.nameBeside site segment) = true then
        some (source.nameBeside site segment)
      else none := by
  have path := Source.space_path_eq unmarked inside
  have spaces : ∀ outer, outer ≠ [] → outer <+: [] ++ source.spacePath site →
      program.known.types.contains (".".intercalate outer) = false ∧
        program.known.spaces.contains (".".intercalate outer) = true := by
    intro outer some front
    constructor
    · rw [← Bool.not_eq_true, List.contains_iff_mem, known_iff_symbol built, free outer some front]
      exact fun found => nomatch found
    · obtain ⟨back, whole⟩ := front
      rw [List.contains_iff_mem, mem_known_spaces built]
      refine .inl ⟨source, listed, site, inside, isType, ?_⟩
      unfold Names.spacesAround
      rw [← path]
      exact Names.mem_dotted_prefixes.mpr ⟨outer, back, whole.symm, some, rfl⟩
  unfold KnownNames.absolute?
  rw [← in_space_beside built listed unmarked inside isType segment,
    ← Source.joined_space_path unmarked inside]
  exact KnownNames.in_space_append named spaces _

theorem absolute_beside {source : Source} (listed : source ∈ sources)
    (identified : source.Identified) {site : Site} (inside : site ∈ source.sites)
    (isType : site.node.isTypeDeclaration = true)
    (free : ∀ outer, outer ≠ [] → outer <+: source.spacePath site →
      program.type? (".".intercalate outer) = none) (segment : String) :
    program.known.absolute? (source.spacePath site ++
        ((site.typesAround.map fun site => source.typeSegment site.node).reverse ++ [segment])) =
      if program.known.types.contains (source.nameBeside site segment) = true then
        some (source.nameBeside site segment)
      else none :=
  absolute_reaches built listed identified.toUnmarked inside isType
    (fun segment member => (identified.space_path inside segment member).1) free segment

end Program

namespace KnownNames

variable {known : KnownNames} {name : String} {scope : Scope} {front : List String} {last : String}

theorem resolve_absolute
    (request : scope.request? name = some (.absolute (front ++ [last]))) :
    known.resolve? .type name scope = known.absolute? (front ++ [last]) := by
  have variants : NameUse.type.variants (.absolute (front ++ [last])) =
      [.absolute (front ++ [last])] := if_neg (by simp [Request.segments])
  unfold resolve? requests
  rw [request]
  show (NameUse.type.variants _).findSome? _ = _
  rw [variants, List.findSome?_singleton]
  rfl

theorem resolve_absolute_attribute
    (request : scope.request? name = some (.absolute (front ++ [last]))) :
    known.resolve? .attribute name scope =
      (known.absolute? (front ++ [last ++ attributeSuffix])).or
        (known.absolute? (front ++ [last])) := by
  have change : (Request.absolute (front ++ [last])).mapSegments suffixed =
      .absolute (front ++ [last ++ attributeSuffix]) := by
    unfold Request.mapSegments suffixed
    simp
  have variants : NameUse.attribute.variants (.absolute (front ++ [last])) =
      [.absolute (front ++ [last ++ attributeSuffix]), .absolute (front ++ [last])] := by
    rw [← change]
    exact if_neg (by simp [Request.segments])
  unfold resolve? requests
  rw [request]
  show (NameUse.attribute.variants _).findSome? _ = _
  rw [variants, List.findSome?_cons, List.findSome?_singleton]
  simp only [answer, Outcome.type?]
  cases known.absolute? (front ++ [last ++ attributeSuffix]) with
  | none => rfl
  | some type => rfl

end KnownNames

theorem Part.path_segments {part : Part} (isType : part.site.node.isTypeDeclaration = true) :
    Names.pathSegments part.path =
      part.source.spacePath part.site ++
        ((part.site.typesAround.map fun site => part.source.typeSegment site.node).reverse ++
          [part.source.typeSegment part.site.node]) := by
  have segments : Names.keySegment ∘ part.source.typeKey =
      fun site => part.source.typeSegment site.node :=
    funext fun site => (part.source.type_segment_key site).symm
  show part.source.spacePath part.site ++
    (part.site.typesFrom.map part.source.typeKey).reverse.map Names.keySegment = _
  rw [List.map_reverse, List.map_map, segments, Site.types_from_eq, if_pos isType, List.map_cons,
    List.reverse_cons]

/-- A type whose name is written without its suffix: its last segment has the suffix, and the ones
before it are the segments of the types around it. -/
theorem Part.shortened_segments {part : Part} (isType : part.site.node.isTypeDeclaration = true)
    {spaces : List String} {outer : List Names.WrittenType} {short : String}
    (same : part.path =
      (spaces, outer.map Names.WrittenType.key ++ [(short ++ attributeSuffix, 0)])) :
    part.source.typeSegment part.site.node = short ++ attributeSuffix ∧
      Names.pathSegments (Names.FullName.path ⟨spaces, outer ++ [⟨short, []⟩]⟩) =
        part.source.spacePath part.site ++
          (part.site.typesAround.map fun site => part.source.typeSegment site.node).reverse ++
            [short] := by
  have spacesEq : part.source.spacePath part.site = spaces := congrArg Prod.fst same
  have typesEq : (part.site.typesFrom.map part.source.typeKey).reverse =
      outer.map Names.WrittenType.key ++ [(short ++ attributeSuffix, 0)] := congrArg Prod.snd same
  rw [Site.types_from_eq, if_pos isType, List.map_cons, List.reverse_cons] at typesEq
  obtain ⟨outwards, last⟩ := List.append_inj' typesEq rfl
  have ownKey := (List.cons_eq_cons.mp last).1
  have outerSegments : (outer.map Names.WrittenType.key).map Names.keySegment =
      (part.site.typesAround.map fun site => part.source.typeSegment site.node).reverse := by
    rw [← outwards, List.map_reverse, List.map_map]
    congr 1
    apply List.map_congr_left
    intro site _
    exact (part.source.type_segment_key site).symm
  constructor
  · rw [Source.type_segment_key, ownKey]
    rfl
  · unfold Names.pathSegments Names.FullName.path
    rw [List.map_append, List.map_append, outerSegments, spacesEq, List.append_assoc]
    rfl

/-- A declared type is found under its full name from everywhere, and as an attribute also under
the name without the suffix, if no type is named like a namespace on the way to it. -/
theorem full_name_found {sources : List Source} {references : References} {program : Program}
    (built : Program.build sources references = .ok program)
    (identified : ∀ source ∈ sources, source.Identified) {part : Part}
    (listed : part ∈ declaredParts sources)
    (free : ∀ outer, outer ≠ [] → outer <+: part.path.1 →
      program.type? (".".intercalate outer) = none) : program.FoundEverywhere part := by
  obtain ⟨source, inside, isType⟩ := mem_declared_parts.mp listed
  have own := identified part.source source
  have beside := Program.absolute_beside built source own inside isType free
  have self := Source.name_beside_self own.toUnmarked inside isType
  have known := Program.declared_known built source inside isType
  have named : part.type ≠ "" := by
    show part.source.declaredType part.site ≠ ""
    rw [← self]
    apply Source.name_beside_ne_empty
    exact Source.type_segment_ne_empty (own.typeNames part.site inside isType).1
  have found : program.known.absolute? (part.source.spacePath part.site ++
      ((part.site.typesAround.map fun site => part.source.typeSegment site.node).reverse ++
        [part.source.typeSegment part.site.node])) = some part.type := by
    rw [beside, self, if_pos known]
    rfl
  have request {written : Names.FullName} {name : String} (spells : written.Spells name)
      (same : written.path = part.path) (scope : Scope) :
      scope.request? name = some (.absolute (Names.pathSegments part.path)) := by
    rw [← same]
    apply spells.request
    rw [show written.spaces = part.source.spacePath part.site from congrArg Prod.fst same]
    exact own.space_path inside
  constructor
  case declared =>
    exact (Program.known_iff_symbol built part.type).mp (List.contains_iff_mem.mp known)
  case asType =>
    intro written name spells same source site
    have absolute := request spells same (program.scope source site)
    rw [Part.path_segments isType, ← List.append_assoc] at absolute
    apply Program.resolve_type_of_name _ named
    rw [KnownNames.resolve_absolute absolute, List.append_assoc, found]
  case asAttribute =>
    intro noOther written name spells same source site
    have absolute := request spells same (program.scope source site)
    rw [Part.path_segments isType, ← List.append_assoc] at absolute
    have other : ¬ program.known.types.contains (part.type ++ attributeSuffix) = true := by
      rw [List.contains_iff_mem, Program.known_iff_symbol built, noOther]
      exact fun given => nomatch given
    apply Program.resolve_type_of_name _ named
    rw [KnownNames.resolve_absolute_attribute absolute, List.append_assoc, List.append_assoc,
      found, beside, Source.name_beside_append, self]
    exact congrArg (Option.or · (some part.type)) (if_neg other)
  case shortened =>
    intro spaces outer short name spells same source site
    have spacesEq : part.source.spacePath part.site = spaces := congrArg Prod.fst same
    obtain ⟨segment, path⟩ := Part.shortened_segments isType same
    have absolute := spells.request (spacesEq ▸ own.space_path inside) (program.scope source site)
    rw [path] at absolute
    rw [segment] at found
    apply Program.resolve_type_of_name _ named
    rw [KnownNames.resolve_absolute_attribute absolute, List.append_assoc, found]
    rfl

/-- A class in a generic one is found with blanks all over its full name. -/
theorem full_name_found_generic :
    ∃ program, Program.build [nestedInGeneric] [] = .ok program ∧
      ∃ part ∈ declaredParts [nestedInGeneric], part.path = (["N"], [("A", 1), ("B", 0)]) ∧
        program.FoundEverywhere part ∧
          ∃ symbol, program.type? part.type = some symbol ∧ ∀ source site,
            program.resolveType? .type "global :: N . A < int > . B" source site = some symbol := by
  have unfaulted : ∀ source ∈ [nestedInGeneric], Initialized source := by decide +kernel
  obtain ⟨program, built⟩ := (Program.build_returns [nestedInGeneric] []).mpr unfaulted
  obtain ⟨part, listed, path⟩ : ∃ part ∈ declaredParts [nestedInGeneric],
      part.path = (["N"], [("A", 1), ("B", 0)]) := by decide +kernel
  have identified : ∀ source ∈ [nestedInGeneric], source.Identified := by decide +kernel
  have notType : program.type? "N" = none := by
    unfold Program.type?
    rw [(Program.build_eq built).2.2.2.2]
    decide +kernel
  have found := full_name_found built identified listed (by
    intro outer some front
    rw [path, List.prefix_cons_iff] at front
    rcases front with none | ⟨rest, rfl, front⟩
    · exact absurd none some
    · rw [List.prefix_nil.mp front, String.intercalate_singleton]
      exact notType)
  have spells : Names.FullName.Spells ⟨["N"], [⟨"A", ["int"]⟩, ⟨"B", []⟩]⟩
      "global :: N . A < int > . B" := ⟨by decide, by decide +kernel⟩
  obtain ⟨symbol, isSymbol⟩ := found.declared
  refine ⟨program, built, part, listed, path, found, symbol, isSymbol, fun source site => ?_⟩
  rw [← isSymbol]
  exact found.asType _ _ spells path.symm source site

end PropertyGen
