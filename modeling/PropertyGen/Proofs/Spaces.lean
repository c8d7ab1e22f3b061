import Mathlib.Data.List.Basic
import PropertyGen.Program.Scope

/-!
Namespaces and the namespaces around them. The last one around a namespace is the namespace
itself, so the innermost level of a scope is the one of its namespace.
-/

namespace PropertyGen

namespace Text

theorem pieces_at_ne_nil (separator : Char) (text : List Char) : piecesAt separator text ≠ [] := by
  cases text with
  | nil => exact List.cons_ne_nil _ _
  | cons character rest =>
      rw [piecesAt]
      by_cases here : character = separator
      · rw [if_pos here]
        exact List.cons_ne_nil _ _
      · rw [if_neg here]
        cases piecesAt separator rest <;> exact List.cons_ne_nil _ _

theorem pieces_at_plain {separator : Char} {text : List Char} (plain : separator ∉ text) :
    piecesAt separator text = [text] := by
  induction text with
  | nil => rfl
  | cons first rest induction =>
      simp only [List.mem_cons, not_or] at plain
      rw [piecesAt, if_neg (Ne.symm plain.1), induction plain.2]
      rfl

theorem intercalate_pieces_at (separator : Char) (text : List Char) :
    [separator].intercalate (piecesAt separator text) = text := by
  induction text with
  | nil => rfl
  | cons character rest induction =>
      rw [piecesAt]
      by_cases here : character = separator
      · rw [if_pos here, List.intercalate_cons_of_ne_nil (pieces_at_ne_nil separator rest),
          induction, here]
        rfl
      · rw [if_neg here]
        cases pieces : piecesAt separator rest with
        | nil => exact absurd pieces (pieces_at_ne_nil separator rest)
        | cons piece more =>
            rw [pieces] at induction
            rw [attach, List.intercalate_cons_cons_left, induction]

end Text

namespace Names

theorem spaces_around_global : spacesAround "" = [] := rfl

theorem intercalate_pieces (text : String) :
    ".".intercalate ((Text.piecesAt '.' text.toList).map String.ofList) = text := by
  have same : String.toList ∘ String.ofList = id := by
    funext characters
    exact String.toList_ofList
  apply String.toList_inj.mp
  rw [String.toList_intercalate, List.map_map, same, List.map_id]
  exact Text.intercalate_pieces_at '.' text.toList

theorem intercalate_space_segments {space : String} (named : space ≠ "") :
    ".".intercalate (spaceSegments space) = space := by
  rw [spaceSegments, if_neg named, intercalate_pieces]

theorem space_segments_ne_nil {space : String} (named : space ≠ "") : spaceSegments space ≠ [] := by
  rw [spaceSegments, if_neg named]
  intro none
  exact Text.pieces_at_ne_nil '.' space.toList (List.map_eq_nil_iff.mp none)

theorem spaces_around_named {space : String} (named : space ≠ "") :
    spacesAround space = (spacesAround space).dropLast ++ [space] := by
  have last : (spacesAround space).getLast? = some space := by
    unfold spacesAround dottedPrefixes
    cases count : (spaceSegments space).length with
    | zero => exact absurd (List.length_eq_zero_iff.mp count) (space_segments_ne_nil named)
    | succ shorter =>
        rw [List.range_succ, List.map_append, List.map_singleton, List.getLast?_concat, ← count,
          List.take_length, intercalate_space_segments named]
  exact (List.dropLast_append_getLast? space last).symm

theorem outer_space_ne {space outer : String} (around : outer ∈ (spacesAround space).dropLast) :
    outer ≠ space := by
  by_cases named : space = ""
  · rw [named, spaces_around_global] at around
    cases around
  · unfold spacesAround dottedPrefixes at around
    rw [← List.map_dropLast, List.dropLast_eq_take, List.take_range] at around
    obtain ⟨index, listed, same⟩ := List.mem_map.mp around
    have short := List.mem_range.mp listed
    rw [List.length_range] at short
    have taken : (spaceSegments space).take (index + 1) ≠ [] := by
      apply List.ne_nil_of_length_pos
      rw [List.length_take]
      omega
    have left : (spaceSegments space).drop (index + 1) ≠ [] := by
      apply List.ne_nil_of_length_pos
      rw [List.length_drop]
      omega
    have whole := intercalate_space_segments named
    rw [← List.take_append_drop (index + 1) (spaceSegments space),
      String.intercalate_append_of_ne_nil taken left, same] at whole
    intro equal
    have lengths := congrArg String.length whole
    rw [String.length_append, String.length_append, equal] at lengths
    have dot : ".".length = 1 := by decide
    omega

end Names

namespace Surroundings

def directivesAt (surroundings : Surroundings) (space : String) : List Using :=
  (usingsOf surroundings.declaredSpaces space).filter fun directive => !directive.isGlobal

def unitDirectives (surroundings : Surroundings) : List Using :=
  surroundings.unitUsings.filter fun directive => !directive.isGlobal

variable (surroundings : Surroundings) (globals : List Using)

theorem levels_eq :
    (surroundings.scope globals).levels =
      ((Names.spacesAround surroundings.space).reverse.map fun space =>
        { space, usings := surroundings.directivesAt space }) ++
        [{ space := "", usings := surroundings.unitDirectives ++ globals }] := rfl

theorem space_eq : (surroundings.scope globals).space = surroundings.space := by
  unfold Scope.space
  rw [levels_eq]
  by_cases isGlobal : surroundings.space = ""
  · rw [isGlobal, Names.spaces_around_global]
    rfl
  · rw [Names.spaces_around_named isGlobal, List.reverse_append]
    rfl

/-- All directives around a site that are not global, innermost first. -/
def localDirectives : List Using :=
  (Names.spacesAround surroundings.space).reverse.flatMap surroundings.directivesAt ++
    surroundings.unitDirectives

theorem local_directives_local {directive : Using}
    (member : directive ∈ surroundings.localDirectives) : directive.isGlobal = false := by
  rcases List.mem_append.mp member with inner | outermost
  · obtain ⟨space, -, own⟩ := List.mem_flatMap.mp inner
    have isLocal := (List.mem_filter.mp own).2
    simpa using isLocal
  · have isLocal := (List.mem_filter.mp outermost).2
    simpa using isLocal

theorem usings_eq :
    (surroundings.scope globals).levels.flatMap (·.usings) =
      surroundings.localDirectives ++ globals := by
  rw [levels_eq, List.flatMap_append, List.flatMap_map, List.flatMap_singleton]
  unfold localDirectives
  rw [List.append_assoc]

theorem local_usings_eq (isGlobal : ∀ directive ∈ globals, directive.isGlobal = true) :
    (surroundings.scope globals).localUsings = surroundings.localDirectives := by
  have own : surroundings.localDirectives.filter (fun directive => !directive.isGlobal) =
      surroundings.localDirectives := by
    apply List.filter_eq_self.mpr
    intro directive member
    rw [surroundings.local_directives_local member]
    rfl
  have others : globals.filter (fun directive => !directive.isGlobal) = [] := by
    apply List.filter_eq_nil_iff.mpr
    intro directive member
    rw [isGlobal directive member]
    exact Bool.false_ne_true
  unfold Scope.localUsings
  rw [usings_eq, List.filter_append, own, others, List.append_nil]

end Surroundings

end PropertyGen
