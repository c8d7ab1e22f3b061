import PropertyGen.Constant.Literal
import PropertyGen.Xml.Character

/-!
The parts of XML markup: names, references, attributes and the bodies of comments, processing
instructions and character data sections. Each reader takes a part from the front of a text and
returns the text after it, which is never longer.
-/

namespace PropertyGen.Xml

/-- Why a part cannot be read: a character does not belong where the given text begins, or the
text ends inside the part. -/
inductive Halt where
  | stray (start : List Char)
  | ended
deriving DecidableEq, Repr

abbrev Part (α : Type) := Except Halt (α × List Char)

/-- A reader whose rest is never longer than its text. -/
def Shrinks {α : Type} (reader : List Char → Part α) : Prop :=
  ∀ text value rest, reader text = .ok (value, rest) → rest.length ≤ text.length

def localName : List Char → Part (List Char)
  | [] => .error .ended
  | first :: rest =>
      if isNameStart first then
        .ok (first :: rest.takeWhile isNameCharacter, rest.dropWhile isNameCharacter)
      else .error (.stray (first :: rest))

def qualifiedName (text : List Char) : Part (List Char) :=
  match localName text with
  | .error halt => .error halt
  | .ok (head, ':' :: rest) =>
      match localName rest with
      | .error halt => .error halt
      | .ok (_, ':' :: more) => .error (.stray (':' :: more))
      | .ok (tail, more) => .ok (head ++ ':' :: tail, more)
  | .ok (name, rest) => .ok (name, rest)

inductive Reference where
  | number (code : Nat)
  | entity (name : List Char)
deriving DecidableEq, Repr

def numberReference (base : Nat) (isDigit : Char → Bool) : List Char → Part Reference
  | [] => .error .ended
  | first :: rest =>
      if isDigit first then
        match rest.dropWhile isDigit with
        | [] => .error .ended
        | ';' :: more =>
            .ok (.number (Numeral.value base (first :: rest.takeWhile isDigit)), more)
        | other => .error (.stray other)
      else .error (.stray (first :: rest))

def isDecimalDigit (character : Char) : Bool := '0' ≤ character && character ≤ '9'

def reference : List Char → Part Reference
  | '#' :: 'x' :: rest => numberReference 16 Literal.isHex rest
  | '#' :: rest => numberReference 10 isDecimalDigit rest
  | text =>
      match localName text with
      | .error halt => .error halt
      | .ok (_, []) => .error .ended
      | .ok (name, ';' :: rest) => .ok (.entity name, rest)
      | .ok (_, other) => .error (.stray other)

theorem length_dropWhile_le (keeps : Char → Bool) (text : List Char) :
    (text.dropWhile keeps).length ≤ text.length :=
  (List.dropWhile_sublist keeps).length_le

theorem localName_shrinks : Shrinks localName := by
  intro text value rest found
  match text with
  | [] => simp [localName] at found
  | first :: more =>
      simp only [localName] at found
      split at found
      · simp only [Except.ok.injEq, Prod.mk.injEq] at found
        have shorter := length_dropWhile_le isNameCharacter more
        simp only [List.length_cons, ← found.2]
        omega
      · simp at found

theorem numberReference_shrinks (base : Nat) (isDigit : Char → Bool) :
    Shrinks (numberReference base isDigit) := by
  intro text value rest found
  match text with
  | [] => simp [numberReference] at found
  | first :: more =>
      simp only [numberReference] at found
      split at found
      · have shorter := length_dropWhile_le isDigit more
        split at found
        · simp at found
        · rename_i after equal
          simp only [Except.ok.injEq, Prod.mk.injEq] at found
          rw [equal] at shorter
          simp only [List.length_cons, ← found.2] at shorter ⊢
          omega
        · simp at found
      · simp at found

theorem reference_shrinks : Shrinks reference := by
  intro text value rest found
  unfold reference at found
  split at found
  · have shorter := numberReference_shrinks _ _ _ _ _ found
    simp only [List.length_cons]
    omega
  · have shorter := numberReference_shrinks _ _ _ _ _ found
    simp only [List.length_cons]
    omega
  · split at found
    · simp at found
    · simp at found
    · rename_i name after equal
      have shorter := localName_shrinks _ _ _ equal
      simp only [Except.ok.injEq, Prod.mk.injEq] at found
      simp only [List.length_cons, ← found.2] at shorter ⊢
      omega
    · simp at found

/-- A piece of an attribute value. A reference remembers the text from its ampersand on. -/
inductive Chunk where
  | plain (character : Char)
  | reference (reference : Reference) (start : List Char)
deriving DecidableEq, Repr

def attributeValue (mark : Char) (text : List Char) : Part (List Chunk) :=
  match text with
  | [] => .error .ended
  | first :: rest =>
      if first = mark then .ok ([], rest)
      else if first = '&' then
        match _ : reference rest with
        | .error halt => .error halt
        | .ok (target, after) =>
            (attributeValue mark after).map fun (chunks, suffix) =>
              (.reference target (first :: rest) :: chunks, suffix)
      else if first = '<' || !isAllowed first then .error (.stray (first :: rest))
      else
        (attributeValue mark rest).map fun (chunks, suffix) => (.plain first :: chunks, suffix)
termination_by text.length
decreasing_by
  · have shorter := reference_shrinks _ _ _ (by assumption)
    simp only [List.length_cons]
    omega
  · simp

theorem attributeValue_shrinks (mark : Char) : Shrinks (attributeValue mark) := by
  intro text
  fun_induction attributeValue mark text with
  | case1 => simp
  | case2 rest =>
      intro value suffix found
      simp only [Except.ok.injEq, Prod.mk.injEq] at found
      simp [← found.2]
  | case3 => simp
  | case4 rest target after equal _ induction =>
      intro value suffix found
      cases inner : attributeValue mark after with
      | error halt => simp [inner, Except.map] at found
      | ok pair =>
          have first := induction _ _ inner
          have second := reference_shrinks _ _ _ equal
          simp only [inner, Except.map, Except.ok.injEq, Prod.mk.injEq] at found
          simp only [List.length_cons, ← found.2]
          omega
  | case5 => simp
  | case6 first rest _ _ _ induction =>
      intro value suffix found
      cases inner : attributeValue mark rest with
      | error halt => simp [inner, Except.map] at found
      | ok pair =>
          have shorter := induction _ _ inner
          simp only [inner, Except.map, Except.ok.injEq, Prod.mk.injEq] at found
          simp only [List.length_cons, ← found.2]
          omega

structure Attribute where
  name : List Char
  value : List Chunk
  start : List Char
deriving DecidableEq, Repr

def skipSpace (text : List Char) : List Char := text.dropWhile isSpace

def readAttribute (text : List Char) : Part Attribute :=
  match qualifiedName text with
  | .error halt => .error halt
  | .ok (name, rest) =>
      match skipSpace rest with
      | [] => .error .ended
      | '=' :: more =>
          match skipSpace more with
          | [] => .error .ended
          | mark :: body =>
              if mark = '"' || mark = '\'' then
                (attributeValue mark body).map fun (value, suffix) =>
                  ({ name, value, start := text }, suffix)
              else .error (.stray (mark :: body))
      | other => .error (.stray other)

end PropertyGen.Xml
