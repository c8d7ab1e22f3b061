import PropertyGen.Proofs.Nesting
import PropertyGen.Proofs.Summaries

/-!
The summary of a comment that is made of tags and passages of text: the text of its first outermost
element named `summary`, or else of its first outermost element, on one line.
-/

namespace PropertyGen

namespace Markup

open Documentation (Tag summaryOf? summary? summaryChars? nonEmpty?)
open Xml

section Outlined

theorem outline_content (depth : Nat) (content : Content) (behind : List Token) :
    Documentation.outline (depth + 1) (content.pieces.flatMap Piece.tokens ++ behind) =
      (content.characters ++ (Documentation.outline (depth + 1) behind).1,
        (Documentation.outline (depth + 1) behind).2) := by
  induction content generalizing depth behind with
  | nothing => rfl
  | text passage rest induction =>
      simp [Content.pieces, Content.characters, Piece.tokens, Documentation.outline_characters,
        induction]
  | empty name rest induction =>
      simp [Content.pieces, Content.characters, Piece.tokens, Documentation.outline, induction]
  | element name inside rest inner outer =>
      simp [Content.pieces, Content.characters, Piece.tokens, Documentation.outline, inner, outer]

theorem outline_skip (text : List Char) (rest : List Token) :
    Documentation.outline 0 (characterTokens text ++ rest) = Documentation.outline 0 rest := by
  induction text with
  | nil => rfl
  | cons first text induction => simpa [characterTokens, Documentation.outline] using induction

theorem outline_outside (read : List Token) : (Documentation.outline 0 read).1 = [] := by
  induction read with
  | nil => rfl
  | cons token rest induction =>
      cases token with
      | text characters => simpa [Documentation.outline] using induction
      | aside => simpa [Documentation.outline] using induction
      | closing name => rfl
      | opening name attributes isClosed => cases isClosed <;> rfl

def Name.tag (name : Name) : Tag := { name := name.characters, attributes := [] }

/-- The outermost elements of a content are those that are found in it. -/
theorem outline_elements (content : Content) :
    (Documentation.outline 0
      (content.pieces.flatMap Piece.tokens ++ [.closing Documentation.wrapper])).2 =
      content.elements.map fun element => (element.1.tag, element.2) := by
  induction content with
  | nothing => rfl
  | text passage rest induction =>
      simpa [Content.pieces, Content.elements, Piece.tokens, outline_skip] using induction
  | empty name rest induction =>
      simpa [Content.pieces, Content.elements, Piece.tokens, Documentation.outline, Name.tag]
        using induction
  | element name inside rest _ outer =>
      simpa [Content.pieces, Content.elements, Piece.tokens, Documentation.outline, outline_content,
        outline_outside, Name.tag] using outer

theorem angle_of_elements {content : Content} (some : content.elements ≠ []) :
    '<' ∈ written content.pieces := by
  induction content with
  | nothing => exact absurd rfl some
  | text passage rest induction =>
      exact List.mem_append_right _ (induction some)
  | empty name rest _ => exact List.mem_cons_self
  | element name inside rest _ _ => exact List.mem_cons_self

end Outlined

section Summary

def Name.isSummary (name : Name) : Bool := name.characters = "summary".toList

def Content.counting? (content : Content) : Option (List Char) :=
  ((content.elements.find? (·.1.isSummary)).or content.elements.head?).map (·.2)

def Content.summary? (content : Content) : Option String :=
  content.counting?.bind fun text =>
    if text.all Text.isBlank then none else some (String.ofList (Text.squeezeChars text))

theorem Name.is_summary_tag (name : Name) : name.tag.isSummary = name.isSummary :=
  Bool.and_true name.isSummary

theorem summary_of_elements (content : Content) :
    summaryOf? (content.elements.map fun element => (element.1.tag, element.2)) =
      content.counting? := by
  unfold summaryOf? Content.counting?
  rw [List.find?_map, List.head?_map]
  simp only [Function.comp_def, Name.is_summary_tag]
  cases content.elements.find? _ with
  | some element => rfl
  | none =>
      cases content.elements with
      | nil => rfl
      | cons first rest => rfl

theorem counting_of_blank {content : Content}
    (blank : (written content.pieces).all Text.isBlank = true) : content.counting? = none := by
  have empty : content.elements = [] := by
    by_contra some
    have angle := List.all_eq_true.mp blank _ (angle_of_elements some)
    revert angle
    decide
  simp [Content.counting?, empty]

/-- A comment that is made of a content has the summary of the content. -/
theorem summary_of_content (content : Content) :
    summary? (some (String.ofList (written content.pieces))) = content.summary? := by
  have nested : WellNested content.pieces := (well_nested_iff _).mpr ⟨content, rfl⟩
  have read : (if (written content.pieces).all Text.isBlank then none else content.counting?) =
      content.counting? := by
    split
    · next blank => exact (counting_of_blank blank).symm
    · rfl
  have found : summaryChars? (written content.pieces) =
      content.counting?.bind fun text => nonEmpty? (Text.squeezeChars text) := by
    rw [← read, summaryChars?]
    split
    · rfl
    · rw [read_nested nested]
      simp only [outline_elements, summary_of_elements]
      rfl
  simp only [summary?, Option.bind_eq_bind, Option.bind_some, String.toList_ofList, found,
    Content.summary?, Option.bind_assoc]
  congr 1
  funext text
  unfold nonEmpty?
  by_cases blank : text.all Text.isBlank = true
  · rw [if_pos blank, if_pos (by simpa using Text.squeeze_eq_nil.mpr blank)]
    rfl
  · rw [if_neg blank, if_neg (by simpa using mt Text.squeeze_eq_nil.mp blank)]
    rfl

/-- A comment with tags that are not well nested has no summary. -/
theorem summary_of_tangled {pieces : List Piece} (tangled : ¬ WellNested pieces) :
    summary? (some (String.ofList (written pieces))) = none := by
  obtain ⟨fault, read⟩ := read_tangled tangled
  simp only [summary?, Option.bind_eq_bind, Option.bind_some, String.toList_ofList, summaryChars?,
    read]
  split <;> rfl

/-- Of the comments that are made of tags and passages, those are read whose tags are well nested,
and these have the text of the element that counts as their summary. -/
theorem summary_iff_nested (pieces : List Piece) :
    (WellNested pieces ↔ ∃ content : Content, content.pieces = pieces) ∧
      (¬ WellNested pieces → summary? (some (String.ofList (written pieces))) = none) ∧
      ∀ content : Content, content.pieces = pieces →
        summary? (some (String.ofList (written pieces))) = content.summary? := by
  refine ⟨well_nested_iff pieces, summary_of_tangled, ?_⟩
  rintro content rfl
  exact summary_of_content content

/-- An element without a text, and behind it a summary with another element in it. -/
def remarkedContent : Content :=
  .empty ⟨'r', "emarks".toList, List.all_eq_true.mp (by decide)⟩ <|
    .text ⟨['\n'], List.all_eq_true.mp (by decide)⟩ <|
    .element ⟨'s', "ummary".toList, List.all_eq_true.mp (by decide)⟩
      (.text ⟨"a < ".toList, List.all_eq_true.mp (by decide)⟩ <|
        .element ⟨'b', [], List.all_eq_true.mp (by decide)⟩
          (.text ⟨['c'], List.all_eq_true.mp (by decide)⟩ .nothing) <|
        .text ⟨['\n', 'd'], List.all_eq_true.mp (by decide)⟩ .nothing)
      .nothing

def wrapperName : Name := ⟨'m', "ember".toList, List.all_eq_true.mp (by decide)⟩

/-- Tags that close the wrapper and open it again are not well nested. -/
theorem summary_iff_nested_remarked :
    summary? (some "</member><member>") = none ∧
      summary? (some "<remarks/>\n<summary>a &lt; <b>c</b>\nd</summary>") = some "a < c d" := by
  have reopened := (summary_iff_nested [.closing wrapperName, .opening wrapperName]).2.1 (by decide)
  have remarked := (summary_iff_nested remarkedContent.pieces).2.2 remarkedContent rfl
  have counted : remarkedContent.summary? = some "a < c d" := by decide +kernel
  exact ⟨reopened, remarked.trans counted⟩

end Summary

end Markup

end PropertyGen
