import PropertyGen.Xml.Token

/-!
Reading a token takes at least one character, so that a text has finitely many tokens.
-/

namespace PropertyGen.Xml

theorem commentBody_shrinks : Shrinks commentBody := by
  intro text
  fun_induction commentBody text with
  | case3 rest =>
      intro value suffix found
      simp only [Except.ok.injEq, Prod.mk.injEq] at found
      simp only [List.length_cons, ← found.2]
      omega
  | case5 first rest _ _ _ _ induction =>
      intro value suffix found
      have shorter := induction _ _ found
      simp only [List.length_cons]
      omega
  | _ => simp

theorem instructionBody_shrinks : Shrinks instructionBody := by
  intro text
  fun_induction instructionBody text with
  | case2 rest =>
      intro value suffix found
      simp only [Except.ok.injEq, Prod.mk.injEq] at found
      simp only [List.length_cons, ← found.2]
      omega
  | case3 first rest _ _ induction =>
      intro value suffix found
      have shorter := induction _ _ found
      simp only [List.length_cons]
      omega
  | _ => simp

theorem instructionTail_shrinks : Shrinks instructionTail := by
  intro text value suffix found
  unfold instructionTail at found
  split at found
  · simp at found
  · simp at found
  · simp only [Except.ok.injEq, Prod.mk.injEq] at found
    simp only [List.length_cons, ← found.2]
    omega
  · simp at found
  · split at found
    · have shorter := instructionBody_shrinks _ _ _ found
      simp only [List.length_cons]
      omega
    · simp at found

theorem instruction_shrinks : Shrinks instruction := by
  intro text value suffix found
  unfold instruction at found
  split at found
  · simp at found
  · rename_i target rest equal
    have first := localName_shrinks _ _ _ equal
    split at found
    · simp at found
    · cases inner : instructionTail rest with
      | error halt => simp [inner, Except.map] at found
      | ok pair =>
          have second := instructionTail_shrinks _ _ _ inner
          simp only [inner, Except.map, Except.ok.injEq, Prod.mk.injEq] at found
          rw [← found.2]
          omega

theorem characterData_shrinks : Shrinks characterData := by
  intro text
  fun_induction characterData text with
  | case2 rest =>
      intro value suffix found
      simp only [Except.ok.injEq, Prod.mk.injEq] at found
      simp only [List.length_cons, ← found.2]
      omega
  | case3 first rest _ _ induction =>
      intro value suffix found
      cases inner : characterData rest with
      | error halt => simp [inner, Except.map] at found
      | ok pair =>
          have shorter := induction _ _ inner
          simp only [inner, Except.map, Except.ok.injEq, Prod.mk.injEq] at found
          simp only [List.length_cons, ← found.2]
          omega
  | _ => simp

theorem expect_shrinks (expected : List Char) : Shrinks (expect expected) := by
  intro text
  fun_induction expect expected text with
  | case1 text =>
      intro value suffix found
      simp only [Except.ok.injEq, Prod.mk.injEq] at found
      simp [found.2]
  | case3 more first rest induction =>
      intro value suffix found
      have shorter := induction _ _ found
      simp only [List.length_cons]
      omega
  | _ => simp

theorem openingTag_shrinks : Shrinks openingTag := by
  intro text value suffix found
  unfold openingTag at found
  split at found
  · simp at found
  · rename_i name rest equal
    have first := qualifiedName_shrinks _ _ _ equal
    cases inner : tagRest rest with
    | error halt => simp [inner, Except.map] at found
    | ok pair =>
        have second := tagRest_shrinks _ _ _ inner
        simp only [inner, Except.map, Except.ok.injEq, Prod.mk.injEq] at found
        rw [← found.2]
        omega

theorem closingTag_shrinks : Shrinks closingTag := by
  intro text value suffix found
  match text with
  | [] => simp [closingTag] at found
  | first :: rest =>
      simp only [closingTag] at found
      split at found
      · have shorter := length_dropWhile_le isTagNameCharacter rest
        have shortest := length_dropWhile_le isSpace (rest.dropWhile isTagNameCharacter)
        split at found
        · simp at found
        · rename_i after equal
          simp only [skipSpace] at equal
          rw [equal] at shortest
          simp only [Except.ok.injEq, Prod.mk.injEq] at found
          simp only [List.length_cons, ← found.2] at shorter shortest ⊢
          omega
        · simp at found
      · simp at found

theorem asToken_shrinks {α : Type} {text suffix : List Char} {token : α → Token} {part : Part α}
    {read : Token} (bound : Nat)
    (shrinks : ∀ value rest, part = .ok (value, rest) → rest.length ≤ bound)
    (found : asToken text token part = .ok (read, suffix)) : suffix.length ≤ bound := by
  unfold asToken at found
  split at found
  · simp at found
  · simp only [Except.ok.injEq, Prod.mk.injEq] at found
    rw [← found.2]
    exact shrinks _ _ rfl

theorem referenceToken_shrinks {text rest suffix : List Char} {read : Token}
    (found : referenceToken text (reference rest) = .ok (read, suffix)) :
    suffix.length ≤ rest.length := by
  unfold referenceToken at found
  split at found
  · simp at found
  · rename_i equal
    have shorter := reference_shrinks _ _ _ equal
    split at found
    · simp at found
    · simp only [Except.ok.injEq, Prod.mk.injEq] at found
      rw [← found.2]
      exact shorter

theorem instructionToken_shrinks {text rest suffix : List Char} {read : Token}
    (found : instructionToken text (instruction rest) = .ok (read, suffix)) :
    suffix.length ≤ rest.length := by
  unfold instructionToken at found
  split at found
  · simp at found
  · rename_i equal
    have shorter := instruction_shrinks _ _ _ equal
    split at found
    · simp at found
    · simp only [Except.ok.injEq, Prod.mk.injEq] at found
      rw [← found.2]
      exact shorter

theorem characterDataToken_shrinks {text rest suffix : List Char} {read : Token}
    (found : characterDataToken text rest = .ok (read, suffix)) :
    suffix.length ≤ rest.length := by
  unfold characterDataToken at found
  split at found
  · simp at found
  · rename_i equal
    have first := expect_shrinks _ _ _ _ equal
    split at found
    · simp at found
    · simp at found
    · rename_i inner
      have second := characterData_shrinks _ _ _ inner
      simp only [Except.ok.injEq, Prod.mk.injEq] at found
      rw [← found.2]
      omega

theorem exclamationToken_shrinks {text rest suffix : List Char} {read : Token}
    (found : exclamationToken text rest = .ok (read, suffix)) : suffix.length ≤ rest.length := by
  unfold exclamationToken at found
  split at found
  · rename_i body
    have shorter := asToken_shrinks body.length
      (fun value after => commentBody_shrinks body value after) found
    simp only [List.length_cons]
    omega
  · simp at found
  · have shorter := characterDataToken_shrinks found
    simp only [List.length_cons]
    omega
  · simp at found

theorem nextToken_shrinks {text suffix : List Char} {read : Token}
    (found : nextToken text = .ok (read, suffix)) : suffix.length < text.length := by
  unfold nextToken at found
  split at found
  · simp at found
  · simp at found
  · have shorter := exclamationToken_shrinks found
    simp only [List.length_cons]
    omega
  · have shorter := instructionToken_shrinks found
    simp only [List.length_cons]
    omega
  · rename_i rest
    have shorter := asToken_shrinks rest.length
      (fun value after => closingTag_shrinks rest value after) found
    simp only [List.length_cons]
    omega
  · rename_i rest _ _ _ _
    have shorter := asToken_shrinks rest.length
      (fun value after => openingTag_shrinks rest value after) found
    simp only [List.length_cons]
    omega
  · have shorter := referenceToken_shrinks found
    simp only [List.length_cons]
    omega
  · simp at found
  · split at found
    · simp only [Except.ok.injEq, Prod.mk.injEq] at found
      simp [← found.2]
    · simp at found

end PropertyGen.Xml
