import PropertyGen.Proofs.FileScopedTrees
import PropertyGen.Proofs.Fragments

/-!
What a unit with a file-scoped namespace means in its two tree shapes. The directives behind the
declaration are asked in the namespace if it contains them, and in the unit if it does not, where
they come behind the members of all namespaces further out.
-/

namespace PropertyGen

/-- Two scopes of one place. Some directives stand in its namespace in the first one, and in the
second one in the unit, behind the directives there. -/
structure Scope.Shifted (shifted : List Using) (inner outer : Scope) : Prop where
  enclosing : outer.enclosing = inner.enclosing
  levels : ∃ space between front back,
    inner.levels = { space, usings := shifted } :: bareLevels between (front ++ back) ∧
      outer.levels = { space, usings := [] } :: bareLevels between (front ++ (shifted ++ back))

structure Scope.Extended (further : List Using) (inner outer : Scope) : Prop where
  enclosing : outer.enclosing = inner.enclosing
  levels : ∃ front back, inner.levels = [{ space := "", usings := front ++ back }] ∧
    outer.levels = [{ space := "", usings := front ++ (further ++ back) }]

theorem Scope.Shifted.visible {usings : List Using} {inner outer : Scope}
    (shifted : Scope.Shifted usings inner outer) :
    ∃ front back, inner.levels.flatMap (·.usings) = usings ++ (front ++ back) ∧
      outer.levels.flatMap (·.usings) = front ++ (usings ++ back) := by
  obtain ⟨-, space, between, front, back, innerLevels, outerLevels⟩ := shifted
  refine ⟨front, back, ?_, ?_⟩
  · rw [innerLevels, List.flatMap_cons, bare_levels_usings]
  · rw [outerLevels, List.flatMap_cons, bare_levels_usings, List.nil_append]

theorem Scope.Extended.visible {usings : List Using} {inner outer : Scope}
    (extended : Scope.Extended usings inner outer) :
    ∃ front back, inner.levels.flatMap (·.usings) = front ++ back ∧
      outer.levels.flatMap (·.usings) = front ++ (usings ++ back) := by
  obtain ⟨-, front, back, innerLevels, outerLevels⟩ := extended
  refine ⟨front, back, ?_, ?_⟩
  · rw [innerLevels, List.flatMap_singleton]
  · rw [outerLevels, List.flatMap_singleton]

namespace KnownNames

variable (known : KnownNames)

/-- In a scope a relative name gets past the enclosing types and the members of the innermost
namespace, and some directives do not leave it open. -/
def DecidedBy (scope : Scope) (usings : List Using) (head : String) (rest : List String) : Prop :=
  (scope.enclosing.find? fun type => known.types.contains (Names.nest type head)) = none ∧
    known.members scope.space head rest = .undecided ∧
    known.directives usings head rest ≠ .undecided

instance (scope : Scope) (usings : List Using) (head : String) (rest : List String) :
    Decidable (known.DecidedBy scope usings head rest) :=
  inferInstanceAs (Decidable (_ ∧ _ ∧ _))

def settledBy? (scope : Scope) (usings : List Using) : Request → Option (Option String)
  | .relative (head :: rest) =>
      if known.DecidedBy scope usings head rest then
        some (known.directives usings head rest).type?
      else none
  | _ => none

def found? (scope : Scope) (use : NameUse) (request : Request) : Option String :=
  (use.variants request).findSome? fun variant => (known.answer scope variant).type?

/-- What a name binds to where some directives have a say in it: they bind its label, or they
settle one of the variants of its request. -/
def boundBy? (scope : Scope) (usings : List Using) (use : NameUse) :
    WrittenName → Option (Option String)
  | .labelled label rest =>
      (usings.find? fun directive => directive.alias? = some label).map fun directive =>
        known.found? scope use (.absolute (Names.segments (directive.target ++ "." ++ rest)))
  | .bare request =>
      if (use.variants request).any fun variant => (known.settledBy? scope usings variant).isSome
      then
        some ((use.variants request).findSome? fun variant =>
          (known.settledBy? scope usings variant).getD (known.answer scope variant).type?)
      else none

variable {known} {inner outer : Scope} {usings : List Using} {head : String} {rest : List String}

theorem at_levels_bare {spaces : List String} {first second : List Using}
    (same : known.directives first head rest = known.directives second head rest) :
    known.atLevels head rest (bareLevels spaces first) =
      known.atLevels head rest (bareLevels spaces second) := by
  unfold bareLevels
  rw [at_levels_append, at_levels_append, at_levels_cons, at_levels_cons, same]

/-- Directives that stand in the namespace answer before those that stand in the unit. -/
theorem search_shifted (shifted : Scope.Shifted usings inner outer) :
    (known.search inner (head :: rest)).type? =
      if known.DecidedBy outer usings head rest then (known.directives usings head rest).type?
      else (known.search outer (head :: rest)).type? := by
  obtain ⟨enclosing, space, between, front, back, innerLevels, outerLevels⟩ := shifted
  have own : outer.space = space := by
    unfold Scope.space
    rw [outerLevels]
  cases found : outer.enclosing.find? fun type => known.types.contains (Names.nest type head) with
  | some type =>
      have inInner := found
      rw [enclosing] at inInner
      have settled : ¬ known.DecidedBy outer usings head rest := fun decided => by
        rw [decided.1] at found
        cases found
      rw [if_neg settled, search_enclosed found, search_enclosed inInner]
  | none =>
      have inInner := found
      rw [enclosing] at inInner
      rw [search_outside found, search_outside inInner, innerLevels, outerLevels,
        at_levels_cons, at_levels_cons, directives_nil, Outcome.undecided_followed_by]
      by_cases members : known.members space head rest = .undecided
      · rw [members, Outcome.undecided_followed_by, Outcome.undecided_followed_by]
        by_cases silent : known.directives usings head rest = .undecided
        · rw [if_neg fun decided => decided.2.2 silent, silent, Outcome.undecided_followed_by,
            at_levels_bare (directives_between front silent)]
        · rw [if_pos ⟨found, own.symm ▸ members, silent⟩, Outcome.followed_by_decided silent]
      · rw [if_neg fun decided => members (own ▸ decided.2.1),
          Outcome.followed_by_decided members, Outcome.followed_by_decided members]

theorem answer_shifted (shifted : Scope.Shifted usings inner outer) (request : Request) :
    (known.answer inner request).type? =
      (known.settledBy? outer usings request).getD (known.answer outer request).type? := by
  cases request with
  | absolute segments => rfl
  | relative segments =>
      cases segments with
      | nil => rfl
      | cons head rest =>
          have settled : known.settledBy? outer usings (.relative (head :: rest)) =
              if known.DecidedBy outer usings head rest then
                some (known.directives usings head rest).type?
              else none := rfl
          have own : (known.search inner (head :: rest)).type? = _ := search_shifted shifted
          rw [settled]
          by_cases decided : known.DecidedBy outer usings head rest
          · rw [if_pos decided] at own ⊢
            exact own
          · rw [if_neg decided] at own ⊢
            exact own

theorem search_extended (extended : Scope.Extended usings inner outer)
    (undecided : ¬ known.DecidedBy outer usings head rest) :
    known.search inner (head :: rest) = known.search outer (head :: rest) := by
  obtain ⟨enclosing, front, back, innerLevels, outerLevels⟩ := extended
  have own : outer.space = "" := by
    unfold Scope.space
    rw [outerLevels]
  cases found : outer.enclosing.find? fun type => known.types.contains (Names.nest type head) with
  | some type =>
      have inInner := found
      rw [enclosing] at inInner
      rw [search_enclosed found, search_enclosed inInner]
  | none =>
      have inInner := found
      rw [enclosing] at inInner
      rw [search_outside found, search_outside inInner, innerLevels, outerLevels,
        at_levels_cons, at_levels_cons]
      by_cases members : known.members "" head rest = .undecided
      · have silent : known.directives usings head rest = .undecided := by
          by_contra decides
          exact undecided ⟨found, own.symm ▸ members, decides⟩
        rw [directives_between front silent]
      · rw [Outcome.followed_by_decided members, Outcome.followed_by_decided members]

theorem answer_extended (extended : Scope.Extended usings inner outer) {request : Request}
    (unsettled : known.settledBy? outer usings request = none) :
    known.answer inner request = known.answer outer request := by
  cases request with
  | absolute segments => rfl
  | relative segments =>
      cases segments with
      | nil => rfl
      | cons head rest =>
          apply search_extended extended
          intro decided
          have settled : known.settledBy? outer usings (.relative (head :: rest)) = some _ :=
            if_pos decided
          rw [unsettled] at settled
          cases settled

variable {use : NameUse} {name : String}

theorem resolve_eq_found (scope : Scope) :
    known.resolve? use name scope =
      ((WrittenName.ofText name).request? scope).bind (known.found? scope use) := by
  unfold resolve? requests
  rw [request_eq]
  cases (WrittenName.ofText name).request? scope <;> rfl

theorem found_absolute (segments : List String) :
    known.found? inner use (.absolute segments) = known.found? outer use (.absolute segments) := by
  unfold found? NameUse.variants
  by_cases none : (Request.absolute segments).segments.isEmpty = true
  · rw [if_pos none]
    rfl
  · rw [if_neg none]
    cases use <;> rfl

theorem found_of_label (directive? : Option Using) (rest : String) :
    (directive?.map fun directive =>
        Request.absolute (Names.segments (directive.target ++ "." ++ rest))).bind
        (known.found? inner use) =
      (directive?.map fun directive =>
        Request.absolute (Names.segments (directive.target ++ "." ++ rest))).bind
        (known.found? outer use) := by
  cases directive? with
  | none => rfl
  | some directive => exact found_absolute _

theorem bound_labelled (label rest : String) :
    known.boundBy? outer usings use (.labelled label rest) =
      (usings.find? fun directive => directive.alias? = some label).map fun directive =>
        known.found? outer use (.absolute (Names.segments (directive.target ++ "." ++ rest))) := rfl

theorem found_unsettled {scope : Scope} {request : Request}
    (unsettled : ¬ ((use.variants request).any fun variant =>
      (known.settledBy? scope usings variant).isSome) = true) {answer : Request → Option String}
    (each : ∀ variant, known.settledBy? scope usings variant = none →
      answer variant = (known.answer scope variant).type?) :
    (use.variants request).findSome? answer = known.found? scope use request := by
  have silent : ∀ variant ∈ use.variants request, known.settledBy? scope usings variant = none := by
    intro variant listed
    by_contra settled
    exact unsettled (List.any_eq_true.mpr ⟨variant, listed, Option.isSome_iff_ne_none.mpr settled⟩)
  unfold found?
  clear unsettled
  generalize use.variants request = variants at silent ⊢
  induction variants with
  | nil => rfl
  | cons variant variants induction =>
      obtain ⟨own, others⟩ := List.forall_mem_cons.mp silent
      rw [List.findSome?_cons, List.findSome?_cons, each variant own, induction others]

/-- A name binds to what the directives that stand in the namespace bind it to, or else to what it
binds to where they stand in the unit. -/
theorem resolve_shifted (shifted : Scope.Shifted usings inner outer) :
    known.resolve? use name inner =
      (known.boundBy? outer usings use (.ofText name)).getD (known.resolve? use name outer) := by
  rw [resolve_eq_found, resolve_eq_found]
  cases WrittenName.ofText name with
  | labelled label rest =>
      obtain ⟨front, back, innerUsings, outerUsings⟩ := shifted.visible
      rw [request_labelled innerUsings, request_labelled outerUsings, bound_labelled,
        List.find?_append, List.find?_append, List.find?_append, List.find?_append]
      cases usings.find? fun directive => directive.alias? = some label with
      | some directive => exact found_absolute _
      | none =>
          rw [Option.none_or, Option.none_or]
          exact found_of_label _ rest
  | bare request =>
      have own : known.found? inner use request = (use.variants request).findSome? fun variant =>
          (known.settledBy? outer usings variant).getD (known.answer outer variant).type? :=
        congrArg (List.findSome? · (use.variants request)) (funext (answer_shifted shifted))
      show known.found? inner use request =
        (known.boundBy? outer usings use (.bare request)).getD (known.found? outer use request)
      rw [own, boundBy?]
      by_cases settled : ((use.variants request).any fun variant =>
          (known.settledBy? outer usings variant).isSome) = true
      · rw [if_pos settled]
        rfl
      · rw [if_neg settled]
        exact found_unsettled settled fun variant none => by rw [none, Option.getD_none]

theorem resolve_extended (extended : Scope.Extended usings inner outer)
    (unbound : known.boundBy? outer usings use (.ofText name) = none) :
    known.resolve? use name inner = known.resolve? use name outer := by
  rw [resolve_eq_found, resolve_eq_found]
  revert unbound
  cases WrittenName.ofText name with
  | labelled label rest =>
      intro unbound
      obtain ⟨front, back, innerUsings, outerUsings⟩ := extended.visible
      rw [bound_labelled, Option.map_eq_none_iff] at unbound
      rw [request_labelled innerUsings, request_labelled outerUsings, List.find?_append,
        List.find?_append, List.find?_append, unbound, Option.none_or]
      exact found_of_label _ rest
  | bare request =>
      intro unbound
      have unsettled : ¬ ((use.variants request).any fun variant =>
          (known.settledBy? outer usings variant).isSome) = true := by
        intro settled
        rw [boundBy?, if_pos settled] at unbound
        cases unbound
      exact found_unsettled unsettled fun variant none => by rw [answer_extended extended none]

end KnownNames

namespace FileScoped

variable {file : FileScoped}

/-- The scopes of two counterparts. They are one at the roots; in front of the members the second
one has further directives; in the namespace these stand in the unit and not in the namespace. -/
inductive ScopesAlike (file : FileScoped) (site : Site) (inner outer : Scope) : Prop
  | root (path : site.path = []) (same : outer = inner)
  | front (path : site.path ≠ []) (containers : site.containers = [])
      (extended : Scope.Extended file.behind inner outer)
  | inside (containers : site.containers = [file.container])
      (shifted : Scope.Shifted file.behind inner outer)

section Counterparts

variable (regular : file.Regular)
include regular

theorem Regular.scopes_alike {site other : Site} (pair : file.Counterpart site other)
    (globals : List Using) :
    file.ScopesAlike site (file.contained.scope globals site)
      (file.beside.scope globals other) := by
  have own : file.behind.filter (fun directive => !directive.isGlobal) = file.behind := by
    apply List.filter_eq_self.mpr
    intro directive listed
    rw [regular.isLocal directive listed]
    rfl
  rcases regular.surroundings pair with ⟨path, otherPath⟩ |
    ⟨path, containers, types, surroundings, others⟩ | ⟨containers, types, surroundings, others⟩
  · refine .root path ?_
    unfold Source.scope Surroundings.ofSite Site.ancestors
    rw [path, otherPath]
    rfl
  · refine .front path containers ?_
    unfold Source.scope
    rw [surroundings, others]
    refine ⟨rfl, file.before.filter fun directive => !directive.isGlobal, globals, rfl, ?_⟩
    show [({ space := "", usings := _ } : Level)] = _
    rw [List.filter_append, own, List.append_assoc]
  · refine .inside containers ?_
    unfold Source.scope
    rw [surroundings, others]
    have space (usings unitUsings : List Using) : Surroundings.space
        { types, spaces := [(file.beside.declaredName file.declaration, usings)], unitUsings } =
          file.beside.declaredName file.declaration :=
      Surroundings.space_of_single rfl
    refine ⟨?_, file.beside.declaredName file.declaration,
      (Names.spacesAround (file.beside.declaredName file.declaration)).dropLast.reverse,
      file.before.filter fun directive => !directive.isGlobal, globals, ?_, ?_⟩
    · show (Surroundings.nestedNames _ types.reverse).reverse =
        (Surroundings.nestedNames _ types.reverse).reverse
      rw [space, space]
    · rw [Surroundings.levels_of_single rfl regular.title, own]
      rfl
    · rw [Surroundings.levels_of_single rfl regular.title]
      unfold Surroundings.unitDirectives
      rw [List.filter_append, own, List.append_assoc]
      rfl

end Counterparts

theorem ScopesAlike.enclosing {site : Site} {inner outer : Scope}
    (alike : file.ScopesAlike site inner outer) : outer.enclosing = inner.enclosing := by
  cases alike with
  | root path same => rw [same]
  | front path containers extended => exact extended.enclosing
  | inside containers shifted => exact shifted.enclosing

theorem ScopesAlike.spaces {site : Site} {inner outer : Scope}
    (alike : file.ScopesAlike site inner outer) :
    outer.levels.map (·.space) = inner.levels.map (·.space) := by
  cases alike with
  | root path same => rw [same]
  | front path containers extended =>
      obtain ⟨-, front, back, innerLevels, outerLevels⟩ := extended
      rw [innerLevels, outerLevels]
      rfl
  | inside containers shifted =>
      obtain ⟨-, space, between, front, back, innerLevels, outerLevels⟩ := shifted
      rw [innerLevels, outerLevels]
      unfold bareLevels
      rw [List.map_cons, List.map_cons, List.map_append, List.map_append]
      rfl

theorem ScopesAlike.visible {site : Site} {inner outer : Scope}
    (alike : file.ScopesAlike site inner outer) :
    (outer.levels.flatMap (·.usings)).Perm (inner.levels.flatMap (·.usings) ++
      if site.path ≠ [] ∧ site.containers = [] then file.behind else []) := by
  cases alike with
  | root path same =>
      rw [same, if_neg fun front => front.1 path, List.append_nil]
  | front path containers extended =>
      obtain ⟨front, back, innerUsings, outerUsings⟩ := extended.visible
      rw [if_pos ⟨path, containers⟩, innerUsings, outerUsings, List.append_assoc]
      exact List.perm_append_comm.append_left front
  | inside containers shifted =>
      obtain ⟨front, back, innerUsings, outerUsings⟩ := shifted.visible
      have contained : site.containers ≠ [] := by
        rw [containers]
        exact List.cons_ne_nil _ _
      rw [if_neg fun front => contained front.2, innerUsings, outerUsings, List.append_nil,
        ← List.append_assoc, ← List.append_assoc]
      exact List.perm_append_comm.append_right back

section Program

variable (regular : file.Regular)
include regular

/-- Counterparts are one node, or they are the roots or the two shapes of the declaration. -/
theorem Regular.counterpart_node {site other : Site} (pair : file.Counterpart site other) :
    other.node = site.node ∨ (other.node.kind = site.node.kind ∧
      site.node.kind ∈ ["compilation_unit", "file_scoped_namespace_declaration"]) := by
  cases pair with
  | root =>
      refine .inr ⟨rfl, ?_⟩
      show file.unit.kind ∈ _
      rw [regular.isUnit]
      exact List.mem_cons_self
  | declaration node otherNode _ _ =>
      rw [node, otherNode]
      refine .inr ⟨rfl, ?_⟩
      show file.declaration.kind ∈ _
      rw [regular.isSpace]
      exact List.mem_cons_of_mem _ List.mem_cons_self
  | front same _ _ _ _ => exact .inl same
  | header same _ _ _ => exact .inl same
  | member same _ _ _ _ => exact .inl same

theorem Regular.counterpart_test {site other : Site} (pair : file.Counterpart site other)
    {test : Node → Bool} (fails : ∀ node : Node,
      node.kind ∈ ["compilation_unit", "file_scoped_namespace_declaration"] →
        test node = false) :
    test other.node = test site.node ∧ (test site.node = true → other.node = site.node) := by
  rcases regular.counterpart_node pair with same | ⟨kind, outer⟩
  · exact ⟨congrArg test same, fun _ => same⟩
  · have fails_own := fails site.node outer
    rw [fails_own]
    rw [← kind] at outer
    exact ⟨fails other.node outer, fun holds => by cases holds⟩

end Program

end FileScoped

def TypeDeclaration.SamePlace (first second : TypeDeclaration) : Prop :=
  second.metadataName = first.metadataName ∧ second.scope.space = first.scope.space

theorem Scope.space_eq_head (scope : Scope) :
    scope.space = ((scope.levels.map (·.space)).head?).getD "" := by
  unfold Scope.space
  cases scope.levels <;> rfl

section Related

variable {α β : Type} {relation : α → β → Prop} {first : List α} {second : List β}
  (related : List.Forall₂ relation first second)
include related

theorem forall_iff_of_related {holds : α → Prop} {alsoHolds : β → Prop}
    (each : ∀ element other, relation element other → (holds element ↔ alsoHolds other)) :
    (∀ element ∈ first, holds element) ↔ ∀ other ∈ second, alsoHolds other := by
  induction related with
  | nil => simp
  | cons own others induction =>
      rw [List.forall_mem_cons, List.forall_mem_cons, each _ _ own, induction]

theorem map_eq_of_related {γ : Type} {give : α → γ} {alsoGive : β → γ}
    (each : ∀ element other, relation element other → alsoGive other = give element) :
    second.map alsoGive = first.map give := by
  induction related with
  | nil => rfl
  | cons own others induction => rw [List.map_cons, List.map_cons, each _ _ own, induction]

theorem picked_of_related {γ δ : Type} {picked : γ → δ → Prop} {test : α → Bool}
    {alsoTest : β → Bool} {give : α → γ} {alsoGive : β → δ}
    (tests : ∀ element other, relation element other → alsoTest other = test element)
    (each : ∀ element other, relation element other → test element = true →
      picked (give element) (alsoGive other)) :
    List.Forall₂ picked ((first.filter test).map give) ((second.filter alsoTest).map alsoGive) := by
  induction related with
  | nil => exact .nil
  | @cons element other _ _ own others induction =>
      have same := tests element other own
      cases kept : test element with
      | true =>
          rw [List.filter_cons_of_pos kept, List.filter_cons_of_pos (same.trans kept)]
          exact .cons (each element other own kept) induction
      | false =>
          rw [List.filter_cons_of_neg (by rw [kept]; exact Bool.false_ne_true),
            List.filter_cons_of_neg (by rw [same, kept]; exact Bool.false_ne_true)]
          exact induction

end Related

theorem by_nesting_related {first second : List TypeDeclaration}
    (related : List.Forall₂ TypeDeclaration.SamePlace first second) :
    List.Forall₂ TypeDeclaration.SamePlace (byNesting first) (byNesting second) := by
  have depths : second.map (fun declaration => Names.nesting declaration.metadataName) =
      first.map fun declaration => Names.nesting declaration.metadataName :=
    map_eq_of_related related fun _ _ place => congrArg Names.nesting place.1
  unfold byNesting
  dsimp only
  rw [depths]
  apply List.rel_flatMap (List.forall₂_same.mpr fun level _ => (rfl : level = level))
  rintro level _ rfl
  apply List.rel_filter _ related
  intro declaration other place
  show decide (Names.nesting declaration.metadataName = level) = true ↔
    decide (Names.nesting other.metadataName = level) = true
  rw [place.1]

namespace Site

theorem declarators_placed (path : List Step) (site : Site) :
    (site.placed path).declarators = site.declarators.map (placed path) := by
  have named (inner : Site) :
      (inner.placed path).namedChildren = inner.namedChildren.map (placed path) := by
    unfold namedChildren
    rw [children_placed, List.filter_map]
    rfl
  have unplaced : (fun child : Site => decide (child.node.kind = "variable_declaration")) ∘
      placed path = fun child : Site => decide (child.node.kind = "variable_declaration") := rfl
  unfold declarators
  rw [named, List.find?_map, unplaced]
  cases site.namedChildren.find? fun child => child.node.kind = "variable_declaration" with
  | none => rfl
  | some declaration =>
      show ((declaration.placed path).namedChildren.filter fun child =>
        child.node.kind = "variable_declarator") = _
      rw [named, List.filter_map]
      rfl

/-- What is left without a value in a declaration does not depend on where its tree stands. -/
theorem dangling_of_node (site : Site) :
    (∀ declarator ∈ site.declarators, ¬ Dangling declarator) ↔
      ∀ declarator ∈ (root site.node).declarators, ¬ Dangling declarator := by
  have dangling (declarator : Site) :
      Dangling (declarator.placed site.path) ↔ Dangling declarator := by
    unfold Dangling namedChildren
    rw [children_placed, List.filter_map, List.map_eq_nil_iff]
    rfl
  rw [show site.declarators = (root site.node).declarators.map (placed site.path) from
    declarators_placed site.path (root site.node), List.forall_mem_map]
  simp only [dangling]

end Site

namespace FileScoped

variable {file : FileScoped} (regular : file.Regular)
include regular

theorem Regular.declared_places (globals : List Using) :
    List.Forall₂ TypeDeclaration.SamePlace (TypeDeclaration.all file.contained globals)
      (TypeDeclaration.all file.beside globals) := by
  have fails : ∀ node : Node,
      node.kind ∈ ["compilation_unit", "file_scoped_namespace_declaration"] →
        node.isTypeDeclaration = false := by
    intro node outer
    have none : ∀ kind ∈ ["compilation_unit", "file_scoped_namespace_declaration"],
        typeDeclarationKinds.contains kind = false := by decide
    exact none node.kind outer
  apply picked_of_related regular.counterparts
  · intro site other pair
    exact (regular.counterpart_test pair fails).1
  · intro site other pair isType
    have node := (regular.counterpart_test pair fails).2 isType
    have alike := regular.scopes_alike pair globals
    have space : (file.beside.scope globals other).space =
        (file.contained.scope globals site).space := by
      rw [Scope.space_eq_head, Scope.space_eq_head, alike.spaces]
    refine ⟨?_, space⟩
    unfold TypeDeclaration.ofSite
    dsimp only
    rw [node, alike.enclosing, space]
    rfl

theorem Regular.in_type_iff {site other : Site} (pair : file.Counterpart site other) :
    InType file.beside other ↔ InType file.contained site := by
  have own := Surroundings.enclosing_nil (Surroundings.ofSite file.contained site) []
  have others := Surroundings.enclosing_nil (Surroundings.ofSite file.beside other) []
  have same : (file.beside.scope [] other).enclosing = (file.contained.scope [] site).enclosing :=
    (regular.scopes_alike pair []).enclosing
  unfold Source.scope at same
  unfold InType
  rw [Ne, Ne, ← own, ← others, same]

theorem Regular.initialized_iff : Initialized file.contained ↔ Initialized file.beside := by
  let test (node : Node) : Bool :=
    node.kind = "field_declaration" && (file.contained.modifiers node).contains "const"
  have fails : ∀ node : Node,
      node.kind ∈ ["compilation_unit", "file_scoped_namespace_declaration"] →
        test node = false := by
    intro node outer
    have notField : ¬ node.kind = "field_declaration" := by
      intro isField
      rw [isField] at outer
      exact absurd outer (by decide)
    show (decide (node.kind = "field_declaration") && _) = false
    rw [decide_eq_false notField, Bool.false_and]
  apply forall_iff_of_related regular.counterparts
  intro site other pair
  obtain ⟨same, oneNode⟩ := regular.counterpart_test pair fails
  show (test site.node = true → _) ↔ (test other.node = true → _)
  rw [same, regular.in_type_iff pair]
  apply imp_congr_right
  intro isConstant
  rw [site.dangling_of_node, other.dangling_of_node, oneNode isConstant]

theorem Regular.globals_eq (earlier later : List Source) :
    globalUsings (earlier ++ file.beside :: later) =
      globalUsings (earlier ++ file.contained :: later) := by
  obtain ⟨-, -, usings, otherUsings⟩ := regular.usings_of_trees
  have none : file.behind.filter (·.isGlobal) = [] :=
    List.filter_eq_nil_iff.mpr fun directive listed =>
      Bool.eq_false_iff.mp (regular.isLocal directive listed)
  unfold globalUsings
  rw [List.flatMap_append, List.flatMap_append, List.flatMap_cons, List.flatMap_cons, usings,
    otherUsings, List.filter_append, none, List.append_nil]

theorem Regular.declarations_related (earlier later : List Source) :
    List.Forall₂ TypeDeclaration.SamePlace
      (declarationsOf (earlier ++ file.contained :: later))
      (declarationsOf (earlier ++ file.beside :: later)) := by
  have same (declarations : List TypeDeclaration) :
      List.Forall₂ TypeDeclaration.SamePlace declarations declarations :=
    List.forall₂_same.mpr fun _ _ => ⟨rfl, rfl⟩
  apply by_nesting_related
  rw [regular.globals_eq, List.flatMap_append, List.flatMap_append, List.flatMap_cons,
    List.flatMap_cons]
  exact List.rel_append (same _) (List.rel_append (regular.declared_places _) (same _))

theorem Regular.known_eq (earlier later : List Source) (references : References) :
    knownNames (declarationsOf (earlier ++ file.beside :: later)) references =
      knownNames (declarationsOf (earlier ++ file.contained :: later)) references := by
  have related := regular.declarations_related earlier later
  have names := map_eq_of_related related fun _ _ place => place.1
  have spaces := map_eq_of_related related fun _ _ place => place.2
  unfold knownNames
  rw [names, spaces]

end FileScoped

/-- Two counterparts in two programs that differ in the shape of the file alone: what is around
them, and what names mean there. -/
structure FileScoped.AlikeIn (file : FileScoped) (first second : Program) (site other : Site) :
    Prop where
  node : other.node = site.node ∨ (site.path = [] ∧ other.path = []) ∨
    (site.node = file.container ∧ other.node = file.declaration)
  enclosing : (second.scope file.beside other).enclosing =
    (first.scope file.contained site).enclosing
  spaces : (second.scope file.beside other).levels.map (·.space) =
    (first.scope file.contained site).levels.map (·.space)
  /-- In front of the members the directives behind the declaration are visible in one shape. -/
  visible : ((second.scope file.beside other).levels.flatMap (·.usings)).Perm
    ((first.scope file.contained site).levels.flatMap (·.usings) ++
      if site.path ≠ [] ∧ site.containers = [] then file.behind else [])
  atRoot : site.path = [] → second.scope file.beside other = first.scope file.contained site
  /-- A name in which the directives behind the declaration have no say means the same. -/
  unbound : ∀ use name, second.known.boundBy? (second.scope file.beside other) file.behind use
      (.ofText name) = none →
    first.known.resolve? use name (first.scope file.contained site) =
      second.known.resolve? use name (second.scope file.beside other)
  /-- In the namespace they answer before all that is further out if the declaration contains them;
  so a name means the same exactly if that answer, where there is one, is the other meaning. -/
  bound : site.containers ≠ [] → ∀ use name,
    first.known.resolve? use name (first.scope file.contained site) =
        (second.known.boundBy? (second.scope file.beside other) file.behind use
          (.ofText name)).getD
          (second.known.resolve? use name (second.scope file.beside other)) ∧
      (first.known.resolve? use name (first.scope file.contained site) =
          second.known.resolve? use name (second.scope file.beside other) ↔
        ∀ answer, second.known.boundBy? (second.scope file.beside other) file.behind use
            (.ofText name) = some answer →
          answer = second.known.resolve? use name (second.scope file.beside other))

structure FileScoped.ShapesAgree (file : FileScoped) (first second : Program) : Prop where
  declared : (TypeDeclaration.all file.beside second.globals).map (·.metadataName) =
    (TypeDeclaration.all file.contained first.globals).map (·.metadataName)
  names : (declarationsOf second.sources).map (·.metadataName) =
    (declarationsOf first.sources).map (·.metadataName)
  /-- In all other trees the scopes and the meanings of names are the same. -/
  elsewhere : second.known = first.known ∧ second.globals = first.globals
  nodes : List.Forall₂ (file.AlikeIn first second) file.contained.sites file.beside.sites

theorem KnownNames.get_or_eq_iff {answer? : Option (Option String)} {meaning : Option String} :
    answer?.getD meaning = meaning ↔ ∀ answer, answer? = some answer → answer = meaning := by
  cases answer? with
  | none => simp
  | some answer => simp

theorem FileScoped.Regular.alike_in {file : FileScoped} (regular : file.Regular)
    {first second : Program} (known : second.known = first.known)
    (globals : second.globals = first.globals) {site other : Site}
    (pair : file.Counterpart site other) : file.AlikeIn first second site other := by
  have alike : file.ScopesAlike site (first.scope file.contained site)
      (second.scope file.beside other) := by
    unfold Program.scope
    rw [globals]
    exact regular.scopes_alike pair first.globals
  refine ⟨?node, alike.enclosing, alike.spaces, alike.visible, ?atRoot, ?unbound, ?bound⟩
  case node =>
    cases pair with
    | root => exact .inr (.inl ⟨rfl, rfl⟩)
    | declaration node otherNode _ _ => exact .inr (.inr ⟨node, otherNode⟩)
    | front same _ _ _ _ => exact .inl same
    | header same _ _ _ => exact .inl same
    | member same _ _ _ _ => exact .inl same
  case atRoot =>
    intro path
    cases alike with
    | root _ same => exact same
    | front deeper _ _ => exact absurd path deeper
    | inside containers _ =>
        rw [Site.containers_root path] at containers
        cases containers
  case unbound =>
    intro use name unbound
    rw [← known]
    cases alike with
    | root _ same => rw [same]
    | front _ _ extended => exact KnownNames.resolve_extended extended unbound
    | inside _ shifted => rw [KnownNames.resolve_shifted shifted, unbound, Option.getD_none]
  case bound =>
    intro contained use name
    rw [← known]
    cases alike with
    | root path _ => exact absurd (Site.containers_root path) contained
    | front _ none _ => exact absurd none contained
    | inside _ shifted =>
        rw [KnownNames.resolve_shifted shifted]
        exact ⟨rfl, KnownNames.get_or_eq_iff⟩

/-- The two shapes of a file-scoped namespace declare the same types, and the same types are around
every node. The same directives are visible in the namespace, where a name means the same unless
the directives behind the declaration answer it otherwise than all that is further out. -/
theorem shapes_agree {file : FileScoped} (regular : file.Regular) (earlier later : List Source)
    (references : References) :
    ((∃ program, Program.build (earlier ++ file.contained :: later) references = .ok program) ↔
      ∃ program, Program.build (earlier ++ file.beside :: later) references = .ok program) ∧
    ∀ first second,
      Program.build (earlier ++ file.contained :: later) references = .ok first →
      Program.build (earlier ++ file.beside :: later) references = .ok second →
        file.ShapesAgree first second := by
  constructor
  · rw [Program.build_returns, Program.build_returns, List.forall_mem_append,
      List.forall_mem_append, List.forall_mem_cons, List.forall_mem_cons, regular.initialized_iff]
  · intro first second built alsoBuilt
    obtain ⟨sources, -, globals, known, -⟩ := Program.build_eq built
    obtain ⟨otherSources, -, otherGlobals, otherKnown, -⟩ := Program.build_eq alsoBuilt
    have sameGlobals : second.globals = first.globals := by
      rw [globals, otherGlobals, regular.globals_eq]
    have sameKnown : second.known = first.known := by
      rw [known, otherKnown, regular.known_eq]
    constructor
    case declared =>
      rw [sameGlobals]
      exact map_eq_of_related (regular.declared_places _) fun _ _ place => place.1
    case names =>
      rw [sources, otherSources]
      exact map_eq_of_related (regular.declarations_related earlier later) fun _ _ place => place.1
    case elsewhere => exact ⟨sameKnown, sameGlobals⟩
    case nodes =>
      exact regular.counterparts.imp fun _ _ pair => regular.alike_in sameKnown sameGlobals pair

section Samples

open Marker (branch token leaf fieldLeaf fieldBranch)

def spaceLine (start : Nat) : Node :=
  branch "file_scoped_namespace_declaration" start (start + 12) [
    token "namespace" start (start + 9),
    fieldLeaf "identifier" "name" (start + 10) (start + 11),
    token ";" (start + 11) (start + 12)]

def importBehind : FileScoped :=
  { path := "F0.cs"
    bytes := Text.Utf8.encode "using U; namespace N; using X; class T \x7b F f; \x7d"
    unit := branch "compilation_unit" 0 47 [importDirective 0]
    declaration := spaceLine 9
    members := [
      importDirective 22,
      classWith 31 1 47 [
        branch "field_declaration" 41 45 [
          branch "variable_declaration" 41 44 [
            fieldLeaf "identifier" "type" 41 42,
            branch "variable_declarator" 43 44 [
              fieldLeaf "identifier" "name" 43 44]],
          token ";" 44 45]]]
    stop := 47 }

def importedClass : Source :=
  { path := "F1.cs"
    bytes := Text.Utf8.encode "namespace X \x7b class F \x7b \x7d \x7d"
    root := branch "compilation_unit" 0 27 [blockWith 0 1 27 [classWith 14 1 25 []]] }

def globalClass : Source :=
  { path := "F2.cs"
    bytes := Text.Utf8.encode "class F \x7b \x7d"
    root := branch "compilation_unit" 0 11 [classWith 0 1 11 []] }

def FieldMeans (program : Program) (source : Source) (meaning : Option String) : Prop :=
  ∃ site ∈ source.sites, site.node.kind = "field_declaration" ∧
    program.known.resolve? .type "F" (program.scope source site) = meaning

instance (program : Program) (source : Source) (meaning : Option String) :
    Decidable (FieldMeans program source meaning) :=
  inferInstanceAs (Decidable (∃ site ∈ source.sites, _ ∧ _))

theorem import_behind_regular : importBehind.Regular := by decide +kernel

theorem import_behind_means {others : List Source} {meaning : Option String}
    (given : (others, meaning) ∈ [([importedClass], some "X.F"),
      ([importedClass, globalClass], some "F")]) :
    ∃ first second,
      Program.build ([] ++ importBehind.contained :: others) [] = .ok first ∧
      Program.build ([] ++ importBehind.beside :: others) [] = .ok second ∧
      FieldMeans first importBehind.contained (some "X.F") ∧
      FieldMeans second importBehind.beside meaning := by
  have found : ((Program.build ([] ++ importBehind.contained :: others) []).toOption.any
      fun first => FieldMeans first importBehind.contained (some "X.F")) = true ∧
    ((Program.build ([] ++ importBehind.beside :: others) []).toOption.any
      fun second => FieldMeans second importBehind.beside meaning) = true := by
    rw [List.mem_pair, Prod.mk.injEq, Prod.mk.injEq] at given
    rcases given with ⟨rfl, rfl⟩ | ⟨rfl, rfl⟩ <;> decide +kernel
  obtain ⟨first, built, means⟩ := except_any_returns found.1
  obtain ⟨second, alsoBuilt, alsoMeans⟩ := except_any_returns found.2
  exact ⟨first, second, built, alsoBuilt, of_decide_eq_true means, of_decide_eq_true alsoMeans⟩

theorem shapes_agree_imported :
    importBehind.Regular ∧ importBehind.behind = [importOf "X"] ∧
    ∃ first second,
      Program.build ([] ++ importBehind.contained :: [importedClass]) [] = .ok first ∧
      Program.build ([] ++ importBehind.beside :: [importedClass]) [] = .ok second ∧
      importBehind.ShapesAgree first second ∧
      FieldMeans first importBehind.contained (some "X.F") ∧
      FieldMeans second importBehind.beside (some "X.F") := by
  obtain ⟨first, second, built, alsoBuilt, means, alsoMeans⟩ :=
    import_behind_means (List.mem_cons_self)
  have agree := (shapes_agree import_behind_regular [] [importedClass] []).2 first second
    built alsoBuilt
  exact ⟨import_behind_regular, by decide +kernel, first, second, built, alsoBuilt, agree, means,
    alsoMeans⟩

/-- A block in a file-scoped namespace, and a global import behind one, as no program may have. -/
def blockBehind : FileScoped :=
  { path := "F0.cs"
    bytes := Text.Utf8.encode "namespace N; namespace M \x7b class C \x7b \x7d \x7d"
    unit := branch "compilation_unit" 0 40 []
    declaration := spaceLine 0
    members := [blockWith 13 1 40 [classWith 27 1 38 []]]
    stop := 40 }

def globalBehind : FileScoped :=
  { path := "F0.cs"
    bytes := Text.Utf8.encode "namespace N; global using X;"
    unit := branch "compilation_unit" 0 28 []
    declaration := spaceLine 0
    members := [
      branch "using_directive" 13 28 [
        token "global" 13 19,
        token "using" 20 25,
        leaf "identifier" 26 27,
        token ";" 27 28]]
    stop := 28 }

/-- The shapes differ where a name is found further out and the directives behind the declaration
answer it, too. A block in the namespace is in it in one shape only, and a global directive behind
the declaration is one of the program in the other shape only. -/
theorem shapes_disagree :
    (importBehind.Regular ∧ ∃ first second,
      Program.build ([] ++ importBehind.contained :: [importedClass, globalClass]) [] = .ok first ∧
      Program.build ([] ++ importBehind.beside :: [importedClass, globalClass]) [] = .ok second ∧
      FieldMeans first importBehind.contained (some "X.F") ∧
      FieldMeans second importBehind.beside (some "F")) ∧
    ((TypeDeclaration.all blockBehind.contained []).map (·.metadataName) = ["N.M.C"] ∧
      (TypeDeclaration.all blockBehind.beside []).map (·.metadataName) = ["M.C"]) ∧
    ((globalUsings [globalBehind.contained]).map (·.target) = [] ∧
      (globalUsings [globalBehind.beside]).map (·.target) = ["X"]) ∧
    ¬ ∀ (file : FileScoped) (earlier later : List Source) (references : References)
      (first second : Program), file.Regular →
        Program.build (earlier ++ file.contained :: later) references = .ok first →
        Program.build (earlier ++ file.beside :: later) references = .ok second →
          List.Forall₂ (fun site other => ∀ use name,
            first.known.resolve? use name (first.scope file.contained site) =
              second.known.resolve? use name (second.scope file.beside other))
            file.contained.sites file.beside.sites := by
  obtain ⟨first, second, built, alsoBuilt, means, alsoMeans⟩ :=
    import_behind_means (List.mem_cons_of_mem _ List.mem_cons_self)
  refine ⟨⟨import_behind_regular, first, second, built, alsoBuilt, means, alsoMeans⟩,
    by decide +kernel, by decide +kernel, fun always => ?_⟩
  have nowhere : ((Program.build ([] ++ importBehind.beside :: [importedClass, globalClass])
      []).toOption.all fun second => importBehind.beside.sites.all fun other =>
        second.known.resolve? .type "F" (second.scope importBehind.beside other) ≠ some "X.F") =
      true := by
    decide +kernel
  rw [alsoBuilt] at nowhere
  have same := map_eq_of_related
    (always importBehind [] _ [] first second import_behind_regular built alsoBuilt)
    fun _ _ means => (means .type "F").symm
  obtain ⟨site, inside, -, meaning⟩ := means
  have listed := List.mem_map_of_mem (f := fun site =>
    first.known.resolve? .type "F" (first.scope importBehind.contained site)) inside
  rw [meaning, ← same] at listed
  obtain ⟨other, otherInside, otherMeaning⟩ := List.mem_map.mp listed
  exact of_decide_eq_true (List.all_eq_true.mp nowhere other otherInside) otherMeaning

end Samples

end PropertyGen
