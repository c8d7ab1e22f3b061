import PropertyGen.Proofs.Folding
import PropertyGen.Proofs.NameArguments
import PropertyGen.Proofs.Properties
import PropertyGen.Proofs.QualifiedNames

/-!
What is read as `nameof`. An invocation of `nameof` with a name yields the last identifier of that
name. The text of a node decides whether it is read so, and not its tree: everything that begins and
ends like such an invocation is taken for one.
-/

namespace PropertyGen

namespace Text

theorem drop_suffix_some {ending text rest : List Char} :
    dropSuffix? ending text = some rest ↔ text = rest ++ ending := by
  unfold dropSuffix?
  rw [Option.map_eq_some_iff]
  constructor
  · intro given
    rcases given with ⟨reversed, dropped, rfl⟩
    have whole := congrArg List.reverse (drop_prefix_some.mp dropped)
    rwa [List.reverse_append, List.reverse_reverse, List.reverse_reverse] at whole
  · intro whole
    refine ⟨rest.reverse, drop_prefix_some.mpr ?_, List.reverse_reverse rest⟩
    rw [whole, List.reverse_append]

end Text

namespace Expression

/-- A text that begins and ends like a `nameof` of a target. -/
def IsNameOfText (text target : String) : Prop :=
  target ≠ "" ∧ text.toList = "nameof(".toList ++ (target.toList ++ [')'])

theorem name_of_target_some {compact target : String} :
    nameOfTarget? compact = some target ↔ IsNameOfText compact target := by
  have found : nameOfTarget? compact = some target ↔ ∃ rest,
      Text.dropPrefix? "nameof(".toList compact.toList = some rest ∧ ∃ characters,
        Text.dropSuffix? [')'] rest = some characters ∧
          (if characters.isEmpty then none else some (String.ofList characters)) = some target := by
    unfold nameOfTarget?
    simp only [Option.bind_eq_bind, Option.bind_eq_some_iff]
  rw [found, IsNameOfText]
  simp only [Text.drop_prefix_some, Text.drop_suffix_some]
  constructor
  · intro given
    rcases given with ⟨rest, whole, characters, rfl, kept⟩
    cases characters with
    | nil => cases kept
    | cons first more =>
        have same : String.ofList (first :: more) = target := Option.some.inj kept
        have own : target.toList = first :: more := by rw [← same, String.toList_ofList]
        rw [own]
        refine ⟨fun empty => ?_, whole⟩
        rw [empty] at own
        cases own
  · intro given
    rcases given with ⟨some, whole⟩
    refine ⟨_, whole, _, rfl, ?_⟩
    rw [if_neg, String.ofList_toList]
    intro empty
    exact some (String.toList_inj.mp (List.isEmpty_iff.mp empty))

end Expression

namespace Source

variable (source : Source)

/-- An invocation of `nameof` with one argument, which has a value. -/
inductive AsksNameOf (node value : Node) : Prop
  | invoked {function arguments opening argument closing : Node}
      (isInvocation : node.kind = "invocation_expression")
      (children : node.uncommented = [function, arguments])
      (isIdentifier : function.kind = "identifier")
      (isNameOf : source.compactText function = "nameof")
      (areArguments : arguments.kind = "argument_list")
      (single : arguments.uncommented = [opening, argument, closing])
      (isOpening : opening.IsToken "(") (isClosing : closing.IsToken ")")
      (isArgument : argument.kind = "argument") (only : argument.uncommented = [value])

def NameOf (node : Node) (name : String) : Prop :=
  ∃ value, source.AsksNameOf node value ∧ source.QualifiedName value name

def Folds (node : Node) (folding : Folding) : Prop :=
  ∀ lookup : String → Logged Folding,
    ((Expression.ofNode source node).fold lookup).outcome = .ok folding

/-- A node that no rule gives a value to: it is neither put together of other values nor a name nor
a `nameof`. -/
def NoConstant (node : Node) : Prop :=
  (node.kind = "binary_expression" ∧ Expression.operator node ≠ "+") ∨
    (Expression.isStructured source node = false ∧
      Expression.nameKinds.contains node.kind = false ∧ ∀ name, ¬ source.NameOf node name)

/-- A node yields a name by `nameof` if it is one, and the property of a field has that name.
Without a value the field is reported and left out. -/
structure ReadsNameOf (node : Node) : Prop where
  named : ∀ name, source.NameOf node name → source.Folds node (some (.text name))
  others : source.NoConstant node → source.Folds node none
  /-- A binary expression has no value but the joined texts of its two sides. -/
  joined : node.kind = "binary_expression" → ∀ lookup folding,
    ((Expression.ofNode source node).fold lookup).outcome = .ok folding →
      folding = none ∨
        ∃ text, folding = some (.text text) ∧ Expression.Joins source lookup node text
  /-- What a name yields is looked up. -/
  names : Expression.isStructured source node = false →
    Expression.nameKinds.contains node.kind = true →
      Expression.ofNode source node = .name (source.compactText node)
  accepted : ∀ (program : Program) (marker : String) (declarator : Site) (marking : Marking)
    (name : String), source.NameOf node name →
      program.NamedBy marker source declarator marking node →
        (program.resolveDeclarator? marker source declarator).outcome =
          .ok (some marking.resolved) ∧ marking.resolved.override? = some name
  skipped : ∀ (program : Program) (marker : String) (declarator : Site) (marking : Marking),
    source.NoConstant node → program.NamedBy marker source declarator marking node →
      (program.resolveDeclarator? marker source declarator).outcome = .ok none ∧
        Templates.nonConstantName.report marking.first.location? [marking.field.display] ∈
          (program.resolveDeclarator? marker source declarator).diagnostics

/-- A node that begins and ends like a `nameof` and is none, or only one of an identifier behind an
alias. -/
def Misread (node : Node) : Prop :=
  Expression.isStructured source node = false ∧
    (∃ target, Expression.IsNameOfText (source.compactText node) target) ∧
    ∀ value name, source.AsksNameOf node value → source.QualifiedName value name →
      value.kind = "alias_qualified_name"

variable {source}

theorem asks_text {node value : Node} (asks : source.AsksNameOf node value)
    (legible : source.Legible node) : source.Legible value ∧
      (source.compactText node).toList =
        "nameof(".toList ++ ((source.compactText value).toList ++ [')']) := by
  cases asks with
  | @invoked function arguments opening argument closing isInvocation children isIdentifier
      isNameOf areArguments single isOpening isClosing isArgument only =>
      obtain ⟨each, text⟩ :=
        legible.joined (by rw [isInvocation]; decide) children (List.cons_ne_nil _ _)
      obtain ⟨eachArgument, argumentsText⟩ := (each arguments (by simp)).joined
        (by rw [areArguments]; decide) single (List.cons_ne_nil _ _)
      obtain ⟨eachValue, argumentText⟩ := (eachArgument argument (by simp)).joined
        (by rw [isArgument]; decide) only (List.cons_ne_nil _ _)
      refine ⟨eachValue value (by simp), ?_⟩
      have openingText := (eachArgument opening (by simp)).token isOpening
      have closingText := (eachArgument closing (by simp)).token isClosing
      rw [text]
      simp only [List.flatMap_cons, List.flatMap_nil, List.append_nil, argumentsText, argumentText,
        isNameOf, openingText, closingText]
      rfl

theorem asks_unique {node value other : Node} (asks : source.AsksNameOf node value)
    (again : source.AsksNameOf node other) : other = value := by
  cases asks with
  | invoked _ children _ _ _ single _ _ _ only =>
      cases again with
      | invoked _ sameChildren _ _ _ same _ _ _ sameOnly =>
          rw [children] at sameChildren
          obtain ⟨-, listed⟩ := List.cons.inj sameChildren
          rw [← (List.cons.inj listed).1, single] at same
          obtain ⟨-, listed⟩ := List.cons.inj same
          rw [← (List.cons.inj listed).1, only] at sameOnly
          exact (List.cons.inj sameOnly).1.symm

theorem asks_unstructured {node value : Node} (asks : source.AsksNameOf node value) :
    Expression.isStructured source node = false := by
  cases asks with
  | invoked isInvocation =>
      unfold Expression.isStructured
      rw [isInvocation]
      rfl

theorem of_node_cases {source : Source} {node : Node}
    (unstructured : Expression.isStructured source node = false) :
    (∃ target, Expression.IsNameOfText (source.compactText node) target ∧
      Expression.ofNode source node = .leaf (Expression.nameOf target)) ∨
    ((¬ ∃ target, Expression.IsNameOfText (source.compactText node) target) ∧
      Expression.ofNode source node =
        if Expression.nameKinds.contains node.kind then .name (source.compactText node)
        else Expression.constant none) := by
  rw [Expression.of_node_unstructured unstructured]
  unfold Expression.ofSimple
  dsimp only
  cases found : Expression.nameOfTarget? (source.compactText node) with
  | some target => exact .inl ⟨target, Expression.name_of_target_some.mp found, rfl⟩
  | none =>
      refine .inr ⟨fun looks => ?_, rfl⟩
      obtain ⟨target, given⟩ := looks
      cases found.symm.trans (Expression.name_of_target_some.mpr given)

theorem asks_target {node value : Node} {target : String}
    (asks : source.AsksNameOf node value) (legible : source.Legible node) :
    Expression.IsNameOfText (source.compactText node) target ↔
      source.compactText value ≠ "" ∧ target = source.compactText value := by
  unfold Expression.IsNameOfText
  rw [(asks_text asks legible).2, List.append_cancel_left_eq, List.append_cancel_right_eq,
    String.toList_inj]
  constructor
  · intro given
    exact ⟨given.2 ▸ given.1, given.2.symm⟩
  · intro given
    exact ⟨given.2 ▸ given.1, given.2.symm⟩

theorem name_of_some (target : String) : Expression.nameOf target ≠ .ok none := by
  unfold Expression.nameOf
  intro same
  cases last : (Names.segments target).getLast? with
  | none =>
      rw [last] at same
      cases same
  | some segment =>
      rw [last] at same
      cases same

/-- A `nameof` that is not misread yields the last identifier of its name. -/
theorem name_of_folds {node : Node} {name : String} (rightly : ¬ source.Misread node)
    (isNameOf : source.NameOf node name) (legible : source.Legible node) :
    source.Folds node (some (.text name)) := by
  obtain ⟨value, asks, qualified⟩ := isNameOf
  have unstructured := asks_unstructured asks
  have legibleValue := (asks_text asks legible).1
  have looks := (asks_target asks legible).mpr ⟨qualified_some qualified legibleValue, rfl⟩
  have notAliased : value.kind ≠ "alias_qualified_name" := by
    intro isAliased
    apply rightly
    refine ⟨unstructured, ⟨_, looks⟩, fun other _ again _ => ?_⟩
    rw [asks_unique asks again, isAliased]
  intro lookup
  rcases of_node_cases unstructured with ⟨target, given, read⟩ | ⟨other, -⟩
  · obtain ⟨-, rfl⟩ := (asks_target asks legible).mp given
    rw [read, Expression.fold, Logged.outcome_ofExcept]
    exact name_of_qualified qualified legibleValue notAliased
  · exact absurd ⟨_, looks⟩ other

theorem of_node_otherwise {node : Node} (rightly : ¬ source.Misread node)
    (unstructured : Expression.isStructured source node = false)
    (noName : ∀ name, ¬ source.NameOf node name) :
    Expression.ofNode source node =
      if Expression.nameKinds.contains node.kind then .name (source.compactText node)
      else Expression.constant none := by
  rcases of_node_cases unstructured with ⟨target, given, -⟩ | ⟨-, read⟩
  · exfalso
    apply rightly
    refine ⟨unstructured, ⟨target, given⟩, fun value name asks qualified => ?_⟩
    exact absurd ⟨value, asks, qualified⟩ (noName name)
  · exact read

theorem no_constant_folds {node : Node} (rightly : ¬ source.Misread node)
    (noConstant : source.NoConstant node) : source.Folds node none := by
  intro lookup
  rcases noConstant with ⟨isBinary, compared⟩ | ⟨unstructured, noNameKind, noName⟩
  · rw [Expression.of_node_compared isBinary compared]
    rfl
  · rw [of_node_otherwise rightly unstructured noName, if_neg (ne_true_of_eq_false noNameKind)]
    rfl

/-- A misread node gets a value off its text, where it should have another one or none. -/
theorem not_reads_of_misread {node : Node}
    (legible : ∀ name, source.NameOf node name → source.Legible node)
    (misread : source.Misread node) : ¬ source.ReadsNameOf node := by
  intro reads
  obtain ⟨unstructured, looks, onlyAliased⟩ := misread
  rcases of_node_cases unstructured with ⟨target, given, read⟩ | ⟨other, -⟩
  · by_cases isNameOf : ∃ name, source.NameOf node name
    · obtain ⟨name, value, asks, qualified⟩ := isNameOf
      have isLegible := legible name ⟨value, asks, qualified⟩
      obtain ⟨-, rfl⟩ := (asks_target asks isLegible).mp given
      have folded := reads.named name ⟨value, asks, qualified⟩ fun _ => pure none
      rw [read, Expression.fold, Logged.outcome_ofExcept] at folded
      exact name_of_aliased qualified (asks_text asks isLegible).1
        (onlyAliased value name asks qualified) folded
    · by_cases isName : Expression.nameKinds.contains node.kind = true
      · have named := reads.names unstructured isName
        rw [read] at named
        cases named
      · have noConstant : source.NoConstant node :=
          .inr ⟨unstructured, eq_false_of_ne_true isName, not_exists.mp isNameOf⟩
        have folded := reads.others noConstant fun _ => pure none
        rw [read, Expression.fold, Logged.outcome_ofExcept] at folded
        exact name_of_some target folded
  · exact other looks

/-- `nameof` is read rightly if and only if no other text is taken for one. Only a node that really
is a `nameof` of a name has to be legible. -/
theorem reads_name_of_iff {node : Node}
    (legible : ∀ name, source.NameOf node name → source.Legible node) :
    source.ReadsNameOf node ↔ ¬ source.Misread node := by
  constructor
  · exact fun reads misread => not_reads_of_misread legible misread reads
  · intro rightly
    constructor
    case named =>
      intro name isNameOf
      exact name_of_folds rightly isNameOf (legible name isNameOf)
    case others => exact no_constant_folds rightly
    case joined =>
      intro isBinary lookup folding returned
      exact Expression.binary_folds isBinary returned
    case names =>
      intro unstructured isName
      rw [of_node_otherwise rightly unstructured, if_pos isName]
      intro name isNameOf
      obtain ⟨value, asks, -⟩ := isNameOf
      cases asks with
      | invoked isInvocation =>
          rw [isInvocation] at isName
          exact absurd isName (by decide)
    case accepted =>
      intro program marker declarator marking name isNameOf namedBy
      exact namedBy.accepted (name_of_folds rightly isNameOf (legible name isNameOf))
    case skipped =>
      intro program marker declarator marking noConstant namedBy
      exact namedBy.skipped (no_constant_folds rightly noConstant)

section Samples

open Marker (branch leaf token fieldLeaf fieldBranch)

def askingFor (written : String) (value : Node) : Source :=
  let stop := 56 + written.length
  { path := "X.cs"
    bytes := Text.Utf8.encode ("class X \x7b [AutoNotify.NotifiableProperty(PropertyName = "
      ++ written ++ ")] int _a; \x7d")
    root :=
      branch "compilation_unit" 0 (stop + 12) [
        branch "class_declaration" 0 (stop + 12) [
          token "class" 0 5,
          fieldLeaf "identifier" "name" 6 7,
          fieldBranch "declaration_list" "body" 8 (stop + 12) [
            token "\x7b" 8 9,
            branch "field_declaration" 10 (stop + 10) [
              branch "attribute_list" 10 (stop + 2) [
                token "[" 10 11,
                branch "attribute" 11 (stop + 1) [
                  fieldBranch "qualified_name" "name" 11 40 [
                    fieldLeaf "identifier" "qualifier" 11 21,
                    token "." 21 22,
                    fieldLeaf "identifier" "name" 22 40],
                  branch "attribute_argument_list" 40 (stop + 1) [
                    token "(" 40 41,
                    branch "attribute_argument" 41 stop [
                      fieldLeaf "identifier" "name" 41 53,
                      token "=" 54 55,
                      value],
                    token ")" stop (stop + 1)]],
                token "]" (stop + 1) (stop + 2)],
              branch "variable_declaration" (stop + 3) (stop + 9) [
                fieldLeaf "predefined_type" "type" (stop + 3) (stop + 6),
                branch "variable_declarator" (stop + 7) (stop + 9) [
                  fieldLeaf "identifier" "name" (stop + 7) (stop + 9)]],
              token ";" (stop + 9) (stop + 10)],
            token "\x7d" (stop + 11) (stop + 12)]]] }

def argumentsOf (value : Node) : Node :=
  fieldBranch "argument_list" "arguments" (value.start - 1) (value.stop + 1) [
    token "(" (value.start - 1) value.start,
    branch "argument" value.start value.stop [value],
    token ")" value.stop (value.stop + 1)]

def nameOfCall (value : Node) : Node :=
  branch "invocation_expression" (value.start - 7) (value.stop + 1) [
    fieldLeaf "identifier" "function" (value.start - 7) (value.start - 1),
    argumentsOf value]

def genericAccess : Node :=
  branch "member_access_expression" 63 73 [
    fieldBranch "member_access_expression" "expression" 63 71 [
      fieldLeaf "identifier" "expression" 63 64,
      token "." 64 65,
      fieldBranch "generic_name" "name" 65 71 [
        leaf "identifier" 65 66,
        branch "type_argument_list" 66 71 [
          token "<" 66 67,
          leaf "predefined_type" 67 70,
          token ">" 70 71]]],
    token "." 71 72,
    fieldLeaf "identifier" "name" 72 73]

def genericCall : Node := nameOfCall genericAccess

def genericName : Source := askingFor "nameof(A.B<int>.C)" genericCall

theorem generic_call_asks : genericName.AsksNameOf genericCall genericAccess :=
  .invoked rfl rfl rfl (by decide +kernel) rfl rfl ⟨rfl, rfl, rfl⟩ ⟨rfl, rfl, rfl⟩ rfl rfl

theorem generic_access_named : genericName.QualifiedName genericAccess "C" := by
  have name : genericName.identifier (fieldLeaf "identifier" "name" 72 73) = "C" := by
    decide +kernel
  rw [← name]
  apply QualifiedName.qualified (.inr rfl) rfl _ ⟨rfl, rfl, rfl⟩ (.identifier rfl)
  · exact genericName.identifier (leaf "identifier" 65 66)
  · exact .qualified (.inr rfl) rfl (.simple (.identifier rfl)) ⟨rfl, rfl, rfl⟩
      (.generic rfl rfl rfl rfl)

def trimCall : Node :=
  branch "invocation_expression" 56 81 [
    fieldBranch "member_access_expression" "function" 56 70 [
      { nameOfCall (leaf "identifier" 63 64) with field? := some "expression" },
      token "." 65 66,
      fieldLeaf "identifier" "name" 66 70],
    argumentsOf (nameOfCall (leaf "identifier" 78 79))]

def trimmedName : Source := askingFor "nameof(A).Trim(nameof(B))" trimCall

theorem trim_call_no_constant : trimmedName.NoConstant trimCall := by
  refine .inr ⟨by decide +kernel, by decide, ?_⟩
  intro name isNameOf
  obtain ⟨value, asks, -⟩ := isNameOf
  cases asks with
  | invoked _ children isIdentifier =>
      rw [← (List.cons.inj children).1] at isIdentifier
      exact absurd isIdentifier (by decide)

theorem trim_call_folds : trimmedName.Folds trimCall (some (.text "Trim(nameof(B)")) := by
  have unstructured : Expression.isStructured trimmedName trimCall = false := by decide +kernel
  have read : Expression.nameOfTarget? (trimmedName.compactText trimCall) =
      some "A).Trim(nameof(B)" := by decide +kernel
  have yields : Expression.nameOf "A).Trim(nameof(B)" = .ok (some (.text "Trim(nameof(B)")) := by
    decide +kernel
  intro lookup
  rw [Expression.of_node_unstructured unstructured]
  unfold Expression.ofSimple
  dsimp only
  rw [read]
  dsimp only
  rw [Expression.fold, Logged.outcome_ofExcept, yields]

theorem asking_names :
    ((findFields [genericName] Options.standard).outcome.map fun fields =>
        (typeGroups fields).map fun group =>
          (group.containing.isTopLevel, group.members.map (·.name))).toOption =
      some [(true, [Points.ofText "C"])] ∧
    ((findFields [trimmedName] Options.standard).outcome.map fun fields =>
        (typeGroups fields).map fun group =>
          (group.containing.isTopLevel, group.members.map (·.name))).toOption =
      some [(true, [Points.ofText "Trim(nameof(B)"])] := by
  constructor
  · rw [find_fields_knowing (knows_sole (by decide +kernel))]
    decide +kernel
  · rw [find_fields_knowing (knows_sole (by decide +kernel))]
    decide +kernel

/-- The property has the last identifier of the generic name. -/
theorem reads_name_of_generic :
    genericName.Legible genericCall ∧ genericName.NameOf genericCall "C" ∧
      genericName.ReadsNameOf genericCall ∧
      ∃ bound fields, BoundIn [genericName] Options.standard bound ∧
        ∃ group ∈ bound.published Options.standard fields,
          Render.PropertiesNamed group bound.notification
            (bound.fragment Options.standard group).2 ["C"] := by
  have legible : genericName.Legible genericCall := by decide +kernel
  have reads : genericName.ReadsNameOf genericCall := by
    apply (reads_name_of_iff fun _ _ => legible).mpr
    intro misread
    have isAliased := misread.2.2 genericAccess "C" generic_call_asks generic_access_named
    exact absurd isAliased (by decide)
  obtain ⟨-, bound, fields, group, -, own, -, published, names⟩ := sole_published asking_names.1
  have named := Render.properties_named group bound.notification
  rw [names] at named
  exact ⟨legible, ⟨_, generic_call_asks, generic_access_named⟩, reads, bound, fields, own, group,
    published, named⟩

/-- A call of a method on a `nameof` is taken for one, and the property gets a piece of the
expression for its name. -/
theorem name_of_despite_call :
    (trimmedName.Legible trimCall ∧ trimmedName.NoConstant trimCall ∧
      trimmedName.Folds trimCall (some (.text "Trim(nameof(B)")) ∧
      ∃ result bound fields, (generate [trimmedName] Options.standard).outcome = .ok result ∧
        BoundIn [trimmedName] Options.standard bound ∧
        (findFields [trimmedName] Options.standard).outcome = .ok fields ∧
        ∃ group ∈ bound.published Options.standard fields,
          Render.PropertiesNamed group bound.notification
            (bound.fragment Options.standard group).2 ["Trim(nameof(B)"]) ∧
      ¬ ∀ (source : Source) (node : Node), source.Legible node → source.ReadsNameOf node := by
  have legible : trimmedName.Legible trimCall := by decide +kernel
  obtain ⟨result, bound, fields, group, returned, own, found, published, names⟩ :=
    sole_published asking_names.2
  have named := Render.properties_named group bound.notification
  rw [names] at named
  refine ⟨⟨legible, trim_call_no_constant, trim_call_folds, result, bound, fields, returned, own,
    found, group, published, named⟩, fun always => ?_⟩
  have skipped := (always trimmedName trimCall legible).others trim_call_no_constant
  have same := (trim_call_folds fun _ => pure none).symm.trans (skipped fun _ => pure none)
  cases same

end Samples

end Source

end PropertyGen
