import Mathlib.Logic.Relation
import PropertyGen.Proofs.Declarations
import PropertyGen.Proofs.Folding

/-!
What a constant expression is worth, apart from how it is folded: a value has a finite derivation
from the leaves up. Folding finds exactly the values that are derived. The constants in use along a
path cut off nothing but cycles, and what leads into a cycle has no derivation.
-/

namespace PropertyGen

namespace Text

theorem dotless_all {text : List Char} (clean : '.' ∉ text) :
    ∀ character ∈ text.reverse, decide (character ≠ '.') = true := by
  intro character member
  apply decide_eq_true
  intro isDot
  exact clean (isDot ▸ List.mem_reverse.mp member)

theorem after_last_dot (front : List Char) {back : List Char} (clean : '.' ∉ back) :
    afterLast '.' (front ++ '.' :: back) = back := by
  unfold afterLast
  rw [List.reverse_append, List.reverse_cons, List.append_assoc,
    List.takeWhile_append_of_pos (dotless_all clean)]
  simp

theorem no_last_dot {text : List Char} (clean : '.' ∉ text) :
    beforeLast '.' text = [] ∧ afterLast '.' text = text := by
  unfold beforeLast afterLast
  rw [List.dropWhile_eq_nil_iff.mpr (dotless_all clean),
    List.takeWhile_eq_self_iff.mpr (dotless_all clean)]
  simp

theorem at_last_dot {text : List Char} (dotted : '.' ∈ text) :
    ∃ front back, text = front ++ '.' :: back ∧ '.' ∉ back := by
  obtain ⟨back, front, split, clean⟩ :=
    List.eq_append_cons_of_mem (List.mem_reverse.mpr dotted)
  refine ⟨front.reverse, back.reverse, ?_, by simpa using clean⟩
  rw [← List.reverse_reverse text, split]
  simp

end Text

namespace Program

/-- A type declares a constant: the constant is the first one with the key of the two. -/
def Declares (program : Program) (type member : String) (constant : ConstantDeclaration) : Prop :=
  ∃ before after, program.constants = before ++ constant :: after ∧
    constant.key = Names.member type member ∧
    ∀ earlier ∈ before, earlier.key ≠ Names.member type member

inductive Denotes (program : Program) (text : String) (scope : Scope)
    (constant : ConstantDeclaration) : Prop
  /-- A name with nothing before a dot is looked up in the types around it. -/
  | simple (member type : String) (inner outer : List String)
      (written : Text.compact text = member ∨ Text.compact text = "." ++ member)
      (dotless : '.' ∉ member.toList)
      (around : scope.enclosing = inner ++ type :: outer)
      (innermost : ∀ other ∈ inner, ∀ another, ¬ program.Declares other member another)
      (declared : program.Declares type member constant)
  /-- Otherwise what stands before the last dot is the name of a type. -/
  | qualified (owner member type : String)
      (written : Text.compact text = owner ++ "." ++ member)
      (dotless : '.' ∉ member.toList)
      (owned : owner ≠ "")
      (resolved : program.resolveName? .type owner scope = some type)
      (declared : program.Declares type member constant)

/-- The value of an expression in a scope. The initialiser of a constant has its value in the
scope of its own declaration. -/
inductive Derives (program : Program) : Expression → Scope → Value → Prop
  | leaf (value : Value) (scope : Scope) : Derives program (.leaf (.ok (some value))) scope value
  | name (text : String) (scope : Scope) (constant : ConstantDeclaration) (value : Value)
      (denoted : program.Denotes text scope constant)
      (derived : Derives program (Expression.ofNode constant.source constant.site.node)
        (constant.source.scope program.globals constant.site) value) :
      Derives program (.name text) scope value
  | parenthesized (inner : Expression) (scope : Scope) (value : Value)
      (derived : Derives program inner scope value) :
      Derives program (.parenthesized inner) scope value
  | negated (operand : Expression) (scope : Scope) (number : Int)
      (derived : Derives program operand scope (.integer number)) :
      Derives program (.negated operand) scope (.integer (-number))
  | joined (left right : Expression) (scope : Scope) (first second : Points)
      (derivedLeft : Derives program left scope (.text first))
      (derivedRight : Derives program right scope (.text second)) :
      Derives program (.joined left right) scope (.text (first ++ second))

def Mentions (program : Program) (expression : Expression) (scope : Scope)
    (constant : ConstantDeclaration) : Prop :=
  ∃ text, .name text ∈ expression.parts ∧ program.Denotes text scope constant

def Uses (program : Program) (user used : ConstantDeclaration) : Prop :=
  program.Mentions (Expression.ofNode user.source user.site.node)
    (user.source.scope program.globals user.site) used

/-- The constants that an expression leads to. -/
def Reaches (program : Program) (expression : Expression) (scope : Scope)
    (constant : ConstantDeclaration) : Prop :=
  ∃ first, program.Mentions expression scope first ∧
    Relation.ReflTransGen program.Uses first constant

/-- An expression leads to a constant that leads back to itself. -/
def ReachesCycle (program : Program) (expression : Expression) (scope : Scope) : Prop :=
  ∃ constant, program.Reaches expression scope constant ∧
    Relation.TransGen program.Uses constant constant

variable {program : Program} {scope : Scope}

section Denoted

variable (program) in
theorem owners_simple {text member : String}
    (written : Text.compact text = member ∨ Text.compact text = "." ++ member)
    (dotless : '.' ∉ member.toList) :
    program.constantOwners text scope = (scope.enclosing, member) := by
  have parts : Text.beforeLast '.' (Text.compact text).toList = [] ∧
      Text.afterLast '.' (Text.compact text).toList = member.toList := by
    rcases written with plain | dotted
    · rw [plain]
      exact Text.no_last_dot dotless
    · have characters : (Text.compact text).toList = [] ++ '.' :: member.toList := by
        simp [dotted]
      rw [characters]
      exact ⟨Names.before_last_dot [] dotless, Text.after_last_dot [] dotless⟩
  simp [constantOwners, parts]

variable (program) in
theorem owners_qualified {text owner member : String}
    (written : Text.compact text = owner ++ "." ++ member) (dotless : '.' ∉ member.toList)
    (owned : owner ≠ "") :
    program.constantOwners text scope =
      ((program.resolveName? .type owner scope).toList, member) := by
  have characters : (Text.compact text).toList = owner.toList ++ '.' :: member.toList := by
    simp [written]
  simp [constantOwners, characters, Names.before_last_dot _ dotless,
    Text.after_last_dot _ dotless, owned]

theorem declares_iff {type member : String} {constant : ConstantDeclaration} :
    program.Declares type member constant ↔
      program.constants.find? (fun other => other.key = Names.member type member) =
        some constant := by
  rw [List.find?_eq_some_iff_append]
  constructor
  · rintro ⟨before, after, split, key, first⟩
    exact ⟨by simpa using key, before, after, split, by simpa using first⟩
  · rintro ⟨key, before, after, split, first⟩
    exact ⟨before, after, split, by simpa using key, by simpa using first⟩

theorem not_declares {type member : String}
    (absent : ∀ constant, ¬ program.Declares type member constant) :
    program.constants.find? (fun other => other.key = Names.member type member) = none := by
  apply Option.eq_none_iff_forall_ne_some.mpr
  intro constant found
  exact absent constant (declares_iff.mpr found)

theorem denotes_iff {text : String} {constant : ConstantDeclaration} :
    program.Denotes text scope constant ↔ program.constant? text scope = some constant := by
  constructor
  · intro denoted
    cases denoted with
    | simple member type inner outer written dotless around innermost declared =>
        simp only [constant?, program.owners_simple written dotless]
        apply List.findSome?_eq_some_iff.mpr
        refine ⟨inner, type, outer, around, declares_iff.mp declared, ?_⟩
        intro other listed
        exact not_declares (innermost other listed)
    | qualified owner member type written dotless owned resolved declared =>
        simp only [constant?, program.owners_qualified written dotless owned, resolved]
        simpa using declares_iff.mp declared
  · intro found
    have simple (member : String)
        (written : Text.compact text = member ∨ Text.compact text = "." ++ member)
        (dotless : '.' ∉ member.toList) : program.Denotes text scope constant := by
      simp only [constant?, program.owners_simple written dotless] at found
      obtain ⟨inner, type, outer, around, declared, none⟩ := List.findSome?_eq_some_iff.mp found
      refine .simple member type inner outer written dotless around ?_ (declares_iff.mpr declared)
      intro other listed another elsewhere
      exact absurd (none other listed) (by simp [declares_iff.mp elsewhere])
    by_cases dotted : '.' ∈ (Text.compact text).toList
    · obtain ⟨front, back, split, clean⟩ := Text.at_last_dot dotted
      have dotless : '.' ∉ (String.ofList back).toList := by simpa using clean
      by_cases bare : front = []
      · apply simple (String.ofList back) (.inr _) dotless
        apply String.toList_inj.mp
        simp [split, bare]
      · have written : Text.compact text = String.ofList front ++ "." ++ String.ofList back := by
          apply String.toList_inj.mp
          simp [split]
        have owned : String.ofList front ≠ "" := by
          intro empty
          exact bare (by simpa using congrArg String.toList empty)
        simp only [constant?, program.owners_qualified written dotless owned] at found
        cases resolved : program.resolveName? .type (String.ofList front) scope with
        | none => simp [resolved] at found
        | some type =>
            rw [resolved] at found
            exact .qualified _ _ type written dotless owned resolved
              (declares_iff.mpr (by simpa using found))
    · exact simple (Text.compact text) (.inl rfl) dotted

theorem denoted_by_key {text other : String} {inside : Scope} {first second : ConstantDeclaration}
    (denoted : program.Denotes text scope first) (denotedToo : program.Denotes other inside second)
    (same : first.key = second.key) : first = second := by
  have found := constant_first (denotes_iff.mp denoted)
  rw [same, constant_first (denotes_iff.mp denotedToo)] at found
  exact (Option.some.inj found).symm

end Denoted

section Cycles

theorem reaches_denoted {expression : Expression} {constant : ConstantDeclaration}
    (reached : program.Reaches expression scope constant) :
    ∃ text inside, program.Denotes text inside constant := by
  obtain ⟨first, ⟨text, -, denoted⟩, steps⟩ := reached
  cases steps with
  | refl => exact ⟨text, scope, denoted⟩
  | tail _ last =>
      obtain ⟨text, -, denoted⟩ := last
      exact ⟨text, _, denoted⟩

theorem reaches_mentioned {expression : Expression} {constant : ConstantDeclaration}
    (mentioned : program.Mentions expression scope constant) :
    program.Reaches expression scope constant := ⟨constant, mentioned, .refl⟩

theorem reaches_through {expression : Expression} {constant other : ConstantDeclaration}
    (mentioned : program.Mentions expression scope constant)
    (reached : program.Reaches (Expression.ofNode constant.source constant.site.node)
      (constant.source.scope program.globals constant.site) other) :
    program.Reaches expression scope other ∧ Relation.TransGen program.Uses constant other := by
  obtain ⟨first, used, steps⟩ := reached
  have uses : program.Uses constant first := used
  exact ⟨⟨constant, mentioned, .head uses steps⟩, .head' uses steps⟩

/-- The constants that an expression with a value mentions rest on no infinite chain. -/
theorem grounded_of_derives {expression : Expression} {value : Value}
    (derived : program.Derives expression scope value) :
    ∀ constant, program.Mentions expression scope constant →
      Acc (fun used user => program.Uses user used) constant := by
  induction derived with
  | leaf value scope =>
      rintro constant ⟨text, mentioned, -⟩
      simp [Expression.parts] at mentioned
  | name text scope constant value denoted derived induction =>
      rintro another ⟨other, mentioned, denotedToo⟩
      have same : other = text := by simpa [Expression.parts] using mentioned
      subst same
      have found := denotes_iff.mp denoted
      rw [denotes_iff.mp denotedToo] at found
      rw [Option.some.inj found]
      exact .intro constant induction
  | parenthesized inner scope value derived induction => exact induction
  | negated operand scope number derived induction => exact induction
  | joined left right scope first second derivedLeft derivedRight leftInduction rightInduction =>
      rintro constant ⟨text, mentioned, denoted⟩
      rcases List.mem_append.mp mentioned with inLeft | inRight
      · exact leftInduction constant ⟨text, inLeft, denoted⟩
      · exact rightInduction constant ⟨text, inRight, denoted⟩

theorem no_cycle_of_derives {expression : Expression} {value : Value}
    (derived : program.Derives expression scope value) {constant : ConstantDeclaration}
    (reached : program.Reaches expression scope constant) :
    ¬ Relation.TransGen program.Uses constant constant := by
  obtain ⟨first, mentioned, steps⟩ := reached
  have grounded : Acc (fun used user => program.Uses user used) constant := by
    induction steps with
    | refl => exact grounded_of_derives derived first mentioned
    | tail _ last induction => exact induction.inv last
  intro cycle
  have backwards : Relation.TransGen (fun used user => program.Uses user used) constant constant :=
    Relation.transGen_swap.mpr cycle
  have around := acc_transGen_iff.mpr grounded
  clear grounded steps
  induction around with
  | intro constant _ induction => exact induction constant backwards cycle backwards

end Cycles

section Folds

theorem negated_some {folding : Folding} {value : Value} :
    folding.negated = some value ↔
      ∃ number, folding = some (.integer number) ∧ .integer (-number) = value := by
  cases folding with
  | none => simp [Folding.negated]
  | some operand => cases operand <;> simp [Folding.negated]

theorem joined_some {first second : Folding} {value : Value} :
    first.joined second = some value ↔
      ∃ left right, first = some (.text left) ∧ second = some (.text right) ∧
        .text (left ++ right) = value := by
  cases first with
  | none => simp [Folding.joined]
  | some left =>
      cases second with
      | none => cases left <;> simp [Folding.joined]
      | some right => cases left <;> cases right <;> simp [Folding.joined]

theorem fold_negated {lookup : String → Logged Folding} {operand : Expression} {value : Value} :
    ((Expression.negated operand).fold lookup).outcome = .ok (some value) ↔
      ∃ number, (operand.fold lookup).outcome = .ok (some (.integer number)) ∧
        .integer (-number) = value := by
  rw [Expression.fold, Logged.bind_returns]
  simp [negated_some]

theorem fold_joined {lookup : String → Logged Folding} {left right : Expression} {value : Value} :
    ((Expression.joined left right).fold lookup).outcome = .ok (some value) ↔
      ∃ first second, (left.fold lookup).outcome = .ok (some (.text first)) ∧
        (right.fold lookup).outcome = .ok (some (.text second)) ∧
        .text (first ++ second) = value := by
  rw [Expression.fold, Logged.bind_returns]
  simp only [Logged.bind_returns, Logged.outcome_pure, Except.ok.injEq, joined_some]
  constructor
  · rintro ⟨_, leftFold, _, rightFold, first, second, rfl, rfl, same⟩
    exact ⟨first, second, leftFold, rightFold, same⟩
  · rintro ⟨first, second, leftFold, rightFold, same⟩
    exact ⟨_, leftFold, _, rightFold, first, second, rfl, rfl, same⟩

theorem fold_name {used : List String} {text : String} {value : Value} :
    (program.valueUsing used scope text).outcome = .ok (some value) ↔
      ∃ constant, program.Denotes text scope constant ∧ constant.key ∉ used ∧
        (constant.expression.fold (program.valueUsing (constant.key :: used)
          (constant.scope program.globals))).outcome = .ok (some value) := by
  rw [value_using_outcome]
  simp only [denotes_iff]
  cases program.constant? text scope with
  | none => simp
  | some constant =>
      by_cases inUse : constant.key ∈ used
      · simp [inUse]
      · simp [inUse]

/-- What folding finds is derived. The induction is on the constants not in use, and for those on
the expression. -/
theorem derives_of_fold {used : List String} {expression : Expression} {value : Value}
    (folded : (expression.fold (program.valueUsing used scope)).outcome = .ok (some value)) :
    program.Derives expression scope value := by
  induction steps : (ConstantDeclaration.unused program.constants used).length
    using Nat.strongRecOn generalizing used expression scope value with
  | ind steps induction =>
      induction expression generalizing value with
      | leaf folding =>
          have same : folding = .ok (some value) := folded
          rw [same]
          exact .leaf value scope
      | name text =>
          obtain ⟨constant, denoted, fresh, inside⟩ := fold_name.mp folded
          have declared := program.mem_of_constant? (denotes_iff.mp denoted)
          have fewer := ConstantDeclaration.length_unused_lt declared fresh
          apply Derives.name text scope constant value denoted
          exact induction _ (steps ▸ fewer) inside rfl
      | parenthesized inner innerInduction =>
          exact .parenthesized inner scope value (innerInduction folded)
      | negated operand operandInduction =>
          obtain ⟨number, operandFold, rfl⟩ := fold_negated.mp folded
          exact .negated operand scope number (operandInduction operandFold)
      | joined left right leftInduction rightInduction =>
          obtain ⟨first, second, leftFold, rightFold, rfl⟩ := fold_joined.mp folded
          exact .joined left right scope first second (leftInduction leftFold)
            (rightInduction rightFold)

theorem reaches_part {expression whole : Expression}
    (parts : ∀ part ∈ expression.parts, part ∈ whole.parts) {constant : ConstantDeclaration}
    (reached : program.Reaches expression scope constant) :
    program.Reaches whole scope constant := by
  obtain ⟨first, ⟨text, mentioned, denoted⟩, steps⟩ := reached
  exact ⟨first, ⟨text, parts _ mentioned, denoted⟩, steps⟩

/-- What is derived is found, as long as nothing that the expression leads to is in use. Behind a
constant that is put in use this stays so: it does not lead back to itself. -/
theorem fold_of_derives {used : List String} {expression : Expression} {value : Value}
    (derived : program.Derives expression scope value)
    (apart : ∀ constant, program.Reaches expression scope constant → constant.key ∉ used) :
    (expression.fold (program.valueUsing used scope)).outcome = .ok (some value) := by
  induction derived generalizing used with
  | leaf value scope => rfl
  | name text scope constant value denoted derived induction =>
      have mentioned : program.Mentions (.name text) scope constant :=
        ⟨text, by simp [Expression.parts], denoted⟩
      apply fold_name.mpr
      refine ⟨constant, denoted, apart constant (reaches_mentioned mentioned), ?_⟩
      apply induction
      intro other reached again
      obtain ⟨reachedToo, steps⟩ := reaches_through mentioned reached
      rcases List.mem_cons.mp again with same | earlier
      · obtain ⟨_, _, denotedToo⟩ := reaches_denoted reached
        rw [denoted_by_key denotedToo denoted same] at steps
        have whole : program.Derives (.name text) scope value :=
          .name text scope constant value denoted derived
        exact no_cycle_of_derives whole (reaches_mentioned mentioned) steps
      · exact apart other reachedToo earlier
  | parenthesized inner scope value derived induction => exact induction apart
  | negated operand scope number derived induction =>
      exact fold_negated.mpr ⟨number, induction apart, rfl⟩
  | joined left right scope first second derivedLeft derivedRight leftInduction rightInduction =>
      apply fold_joined.mpr
      refine ⟨first, second, leftInduction ?_, rightInduction ?_, rfl⟩
      · intro constant reached
        apply apart constant
        exact reaches_part (fun part inside => List.mem_append_left _ inside) reached
      · intro constant reached
        apply apart constant
        exact reaches_part (fun part inside => List.mem_append_right _ inside) reached

/-- Folding ends, and what it finds is exactly what is derived; an expression that leads into a
cycle of constants has no value. -/
theorem folding_derives (program : Program) (expression : Expression) (scope : Scope)
    (faultless : ¬ program.ReachesFault expression scope) :
    ∃ folding, (expression.fold fun text => program.constantValue text scope).outcome =
        .ok folding ∧
      (∀ value, folding = some value ↔ program.Derives expression scope value) ∧
      (program.ReachesCycle expression scope → folding = none) := by
  obtain ⟨folding, returned⟩ := (program.fold_returns_iff expression scope).mpr faultless
  have unused : (expression.fold (program.valueUsing [] scope)).outcome = .ok folding := returned
  have exact_values (value : Value) :
      folding = some value ↔ program.Derives expression scope value := by
    constructor
    · intro same
      exact derives_of_fold (same ▸ unused)
    · intro derived
      have folded := fold_of_derives derived fun _ _ => List.not_mem_nil
      rw [unused] at folded
      exact Except.ok.inj folded
  refine ⟨folding, returned, exact_values, ?_⟩
  rintro ⟨constant, reached, cycle⟩
  cases same : folding with
  | none => rfl
  | some value =>
      exact absurd cycle (no_cycle_of_derives ((exact_values value).mp same) reached)

end Folds

end Program

open Marker (branch leaf token fieldToken fieldLeaf fieldBranch) in
/-- A constant made of one of another class, whose initialiser names one of its own class where the
first class has one of the same name, and two that need each other. -/
def crossingConstants : Source :=
  { path := "X.cs"
    bytes := Text.Utf8.encode ("class X \x7b const string A = \"a\" + Y.B, C = \"x\", P = Q, Q = P; \x7d "
      ++ "class Y \x7b const string B = C, C = \"b\"; \x7d")
    root :=
      branch "compilation_unit" 0 103 [
        branch "class_declaration" 0 62 [
          token "class" 0 5,
          fieldLeaf "identifier" "name" 6 7,
          fieldBranch "declaration_list" "body" 8 62 [
            token "\x7b" 8 9,
            branch "field_declaration" 10 60 [
              branch "modifier" 10 15 [token "const" 10 15],
              branch "variable_declaration" 16 59 [
                fieldLeaf "predefined_type" "type" 16 22,
                branch "variable_declarator" 23 36 [
                  fieldLeaf "identifier" "name" 23 24,
                  token "=" 25 26,
                  branch "binary_expression" 27 36 [
                    fieldBranch "string_literal" "left" 27 30 [
                      token "\"" 27 28,
                      leaf "string_literal_content" 28 29,
                      token "\"" 29 30],
                    fieldToken "+" "operator" 31 32,
                    fieldBranch "member_access_expression" "right" 33 36 [
                      fieldLeaf "identifier" "expression" 33 34,
                      token "." 34 35,
                      fieldLeaf "identifier" "name" 35 36]]],
                token "," 36 37,
                branch "variable_declarator" 38 45 [
                  fieldLeaf "identifier" "name" 38 39,
                  token "=" 40 41,
                  branch "string_literal" 42 45 [
                    token "\"" 42 43,
                    leaf "string_literal_content" 43 44,
                    token "\"" 44 45]],
                token "," 45 46,
                branch "variable_declarator" 47 52 [
                  fieldLeaf "identifier" "name" 47 48,
                  token "=" 49 50,
                  leaf "identifier" 51 52],
                token "," 52 53,
                branch "variable_declarator" 54 59 [
                  fieldLeaf "identifier" "name" 54 55,
                  token "=" 56 57,
                  leaf "identifier" 58 59]],
              token ";" 59 60],
            token "\x7d" 61 62]],
        branch "class_declaration" 63 103 [
          token "class" 63 68,
          fieldLeaf "identifier" "name" 69 70,
          fieldBranch "declaration_list" "body" 71 103 [
            token "\x7b" 71 72,
            branch "field_declaration" 73 101 [
              branch "modifier" 73 78 [token "const" 73 78],
              branch "variable_declaration" 79 100 [
                fieldLeaf "predefined_type" "type" 79 85,
                branch "variable_declarator" 86 91 [
                  fieldLeaf "identifier" "name" 86 87,
                  token "=" 88 89,
                  leaf "identifier" 90 91],
                token "," 91 92,
                branch "variable_declarator" 93 100 [
                  fieldLeaf "identifier" "name" 93 94,
                  token "=" 95 96,
                  branch "string_literal" 97 100 [
                    token "\"" 97 98,
                    leaf "string_literal_content" 98 99,
                    token "\"" 99 100]]],
              token ";" 100 101],
            token "\x7d" 102 103]]] }

def crossingScope : Scope := { enclosing := ["X"], levels := [{ space := "", usings := [] }] }

namespace Program

theorem crossing_constants_fold :
    ((build [crossingConstants] References.standard).toOption.map fun program =>
      ["A", "P"].map fun text =>
        ((Expression.name text).fold fun name =>
          program.constantValue name crossingScope).outcome) =
      some [.ok (some (.text "ab")), .ok none] := by
  decide +kernel

/-- The first constant has a value, and the two that need each other have none. -/
theorem folding_derives_crossing :
    ∃ program, build [crossingConstants] References.standard = .ok program ∧
      ¬ program.ReachesFault (.name "A") crossingScope ∧
      ¬ program.ReachesFault (.name "P") crossingScope ∧
      program.Derives (.name "A") crossingScope (.text "ab") ∧
      ∀ value, ¬ program.Derives (.name "P") crossingScope value := by
  have folds := crossing_constants_fold
  cases built : build [crossingConstants] References.standard with
  | error fault => simp [built, Except.toOption] at folds
  | ok program =>
      simp only [built, Except.toOption, Option.map_some, Option.some.injEq, List.map_cons,
        List.map_nil, List.cons.injEq, and_true] at folds
      have faultless := (program.fold_returns_iff (.name "A") crossingScope).mp ⟨_, folds.1⟩
      have faultlessToo := (program.fold_returns_iff (.name "P") crossingScope).mp ⟨_, folds.2⟩
      obtain ⟨first, firstFold, firstValues, -⟩ := program.folding_derives _ _ faultless
      obtain ⟨second, secondFold, secondValues, -⟩ := program.folding_derives _ _ faultlessToo
      rw [folds.1] at firstFold
      rw [folds.2] at secondFold
      refine ⟨program, rfl, faultless, faultlessToo, ?_, ?_⟩
      · exact (firstValues _).mp (Except.ok.inj firstFold).symm
      · intro value derived
        rw [← Except.ok.inj secondFold] at secondValues
        cases (secondValues value).mpr derived

end Program

end PropertyGen
