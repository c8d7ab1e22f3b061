import PropertyGen.Xml.Scan

/-!
The tokens of XML content. A document is cut into tokens until its end or the first place that
no token can be read from.
-/

namespace PropertyGen.Xml

inductive FaultKind where
  | invalidToken
  | unclosedToken
  | unclosedCharacterData
  | mismatchedTag
  | duplicateAttribute
  | undefinedEntity
  | invalidReference
  | misplacedDeclaration
  | trailingContent
  | noElement
  | unboundPrefix
  | undeclaredPrefix
  | reservedXmlPrefix
  | reservedDeclaringPrefix
  | reservedNamespace
  | separatorInNamespace
deriving DecidableEq, Repr

def FaultKind.message : FaultKind → String
  | .invalidToken => "not well-formed (invalid token)"
  | .unclosedToken => "unclosed token"
  | .unclosedCharacterData => "unclosed CDATA section"
  | .mismatchedTag => "mismatched tag"
  | .duplicateAttribute => "duplicate attribute"
  | .undefinedEntity => "undefined entity"
  | .invalidReference => "reference to invalid character number"
  | .misplacedDeclaration => "XML or text declaration not at start of entity"
  | .trailingContent => "junk after document element"
  | .noElement => "no element found"
  | .unboundPrefix => "unbound prefix"
  | .undeclaredPrefix => "must not undeclare prefix"
  | .reservedXmlPrefix =>
      "reserved prefix (xml) must not be undeclared or bound to another namespace name"
  | .reservedDeclaringPrefix => "reserved prefix (xmlns) must not be declared or undeclared"
  | .reservedNamespace => "prefix must not be bound to one of the reserved namespace names"
  | .separatorInNamespace => "syntax error"

/-- What makes a document ill-formed, and the text from there on. -/
structure DocumentFault where
  kind : FaultKind
  start : List Char
deriving DecidableEq, Repr

/-- Where a halt inside a token is reported: at the stray character, or at the token if the text
ends inside it. -/
def Halt.fault (token : List Char) : Halt → DocumentFault
  | .stray start => { kind := .invalidToken, start }
  | .ended => { kind := .unclosedToken, start := token }

inductive Token where
  | text (characters : List Char)
  | opening (name : List Char) (attributes : List Attribute) (isClosed : Bool)
  | closing (name : List Char)
  /-- A comment or a processing instruction. -/
  | aside
deriving DecidableEq, Repr

def entity? (name : List Char) : Option Char :=
  if name = "lt".toList then some '<'
  else if name = "gt".toList then some '>'
  else if name = "amp".toList then some '&'
  else if name = "quot".toList then some '"'
  else if name = "apos".toList then some '\''
  else none

def isReferable (code : Nat) : Bool :=
  code < 0x110000 && !(0xD800 ≤ code && code < 0xE000) && isAllowed (Char.ofNat code)

def Reference.character : Reference → Except FaultKind Char
  | .number code => if isReferable code then .ok (Char.ofNat code) else .error .invalidReference
  | .entity name =>
      match entity? name with
      | some character => .ok character
      | none => .error .undefinedEntity

def commentBody : List Char → Part Unit
  | [] => .error .ended
  | '-' :: '-' :: [] => .error .ended
  | '-' :: '-' :: '>' :: rest => .ok ((), rest)
  | '-' :: '-' :: other => .error (.stray other)
  | first :: rest => if isAllowed first then commentBody rest else .error (.stray (first :: rest))

def instructionBody : List Char → Part Unit
  | [] => .error .ended
  | '?' :: '>' :: rest => .ok ((), rest)
  | first :: rest =>
      if isAllowed first then instructionBody rest else .error (.stray (first :: rest))

def instructionTail : List Char → Part Unit
  | [] => .error .ended
  | '?' :: [] => .error .ended
  | '?' :: '>' :: rest => .ok ((), rest)
  | '?' :: other => .error (.stray other)
  | first :: rest =>
      if isSpace first then instructionBody rest else .error (.stray (first :: rest))

def declarationTarget : List Char := ['x', 'm', 'l']

/-- The spellings of the declaration's target that no instruction may have. -/
def isReservedTarget (target : List Char) : Bool :=
  target ≠ declarationTarget && target.map Char.toLower = declarationTarget

def instruction (text : List Char) : Part (List Char) :=
  match localName text with
  | .error halt => .error halt
  | .ok (target, rest) =>
      if isReservedTarget target && !rest.isEmpty then .error (.stray rest)
      else (instructionTail rest).map fun result => (target, result.2)

def characterData : List Char → Part (List Char)
  | [] => .error .ended
  | ']' :: ']' :: '>' :: rest => .ok ([], rest)
  | first :: rest =>
      if isAllowed first then
        (characterData rest).map fun (characters, suffix) => (first :: characters, suffix)
      else .error (.stray (first :: rest))

def expect : List Char → List Char → Part Unit
  | [], text => .ok ((), text)
  | _ :: _, [] => .error .ended
  | expected :: more, first :: rest =>
      if expected = first then expect more rest else .error (.stray (first :: rest))

theorem qualifiedName_shrinks : Shrinks qualifiedName := by
  intro text value rest found
  unfold qualifiedName at found
  split at found
  · simp at found
  · rename_i head after equal
    have first := localName_shrinks _ _ _ equal
    split at found
    · simp at found
    · simp at found
    · rename_i tail more _ inner
      have second := localName_shrinks _ _ _ inner
      simp only [Except.ok.injEq, Prod.mk.injEq] at found
      simp only [List.length_cons, ← found.2] at first second ⊢
      omega
  · rename_i name after equal
    have first := localName_shrinks _ _ _ equal
    simp only [Except.ok.injEq, Prod.mk.injEq] at found
    rw [← found.2]
    exact first

theorem readAttribute_shrinks : Shrinks readAttribute := by
  intro text value rest found
  unfold readAttribute at found
  split at found
  · simp at found
  · rename_i name after equal
    have first := qualifiedName_shrinks _ _ _ equal
    have second := length_dropWhile_le isSpace after
    split at found
    · simp at found
    · rename_i more equalSign
      have third := length_dropWhile_le isSpace more
      split at found
      · simp at found
      · rename_i mark body quoted
        split at found
        · cases inner : attributeValue mark body with
          | error halt => simp [inner, Except.map] at found
          | ok pair =>
              have fourth := attributeValue_shrinks _ _ _ _ inner
              simp only [skipSpace] at equalSign quoted
              rw [equalSign] at second
              rw [quoted] at third
              simp only [inner, Except.map, Except.ok.injEq, Prod.mk.injEq] at found
              simp only [List.length_cons, ← found.2] at first second third fourth ⊢
              omega
        · simp at found
    · simp at found

/-- What follows the name of an opening tag: attributes, each after a space, and the end of the
tag, which says whether the element is closed at once. -/
def tagRest (text : List Char) : Part (List Attribute × Bool) :=
  match _ : skipSpace text with
  | [] => .error .ended
  | '>' :: rest => .ok (([], false), rest)
  | ['/'] => .error .ended
  | '/' :: '>' :: rest => .ok (([], true), rest)
  | '/' :: other => .error (.stray other)
  | first :: rest =>
      if _ : (skipSpace text).length < text.length then
        match _ : readAttribute (first :: rest) with
        | .error halt => .error halt
        | .ok (read, after) =>
            (tagRest after).map fun (result, suffix) =>
              ((read :: result.1, result.2), suffix)
      else .error (.stray (first :: rest))
termination_by text.length
decreasing_by
  rename_i skipped spaced found
  have shorter := readAttribute_shrinks _ _ _ found
  rw [skipped] at spaced
  omega

theorem tagRest_shrinks : Shrinks tagRest := by
  intro text
  fun_induction tagRest text with
  | case1 => simp
  | case2 text rest skipped =>
      intro value suffix found
      have shorter := length_dropWhile_le isSpace text
      simp only [skipSpace] at skipped
      rw [skipped] at shorter
      simp only [Except.ok.injEq, Prod.mk.injEq] at found
      simp only [List.length_cons, ← found.2] at shorter ⊢
      omega
  | case3 => simp
  | case4 text rest skipped =>
      intro value suffix found
      have shorter := length_dropWhile_le isSpace text
      simp only [skipSpace] at skipped
      rw [skipped] at shorter
      simp only [Except.ok.injEq, Prod.mk.injEq] at found
      simp only [List.length_cons, ← found.2] at shorter ⊢
      omega
  | case5 => simp
  | case6 => simp
  | case7 text first rest _ _ _ _ skipped spaced read after equal induction =>
      intro value suffix found
      have shorter := readAttribute_shrinks _ _ _ equal
      rw [skipped] at spaced
      cases inner : tagRest after with
      | error halt => simp [inner, Except.map] at found
      | ok pair =>
          have last := induction _ _ inner
          simp only [inner, Except.map, Except.ok.injEq, Prod.mk.injEq] at found
          rw [← found.2]
          omega
  | case8 => simp

def openingTag (text : List Char) : Part Token :=
  match qualifiedName text with
  | .error halt => .error halt
  | .ok (name, rest) =>
      (tagRest rest).map fun (result, suffix) => (.opening name result.1 result.2, suffix)

def isTagNameCharacter (character : Char) : Bool := isNameCharacter character || character = ':'

def closingTag : List Char → Part Token
  | [] => .error .ended
  | first :: rest =>
      if isNameStart first then
        match skipSpace (rest.dropWhile isTagNameCharacter) with
        | [] => .error .ended
        | '>' :: after => .ok (.closing (first :: rest.takeWhile isTagNameCharacter), after)
        | other => .error (.stray other)
      else .error (.stray (first :: rest))

def asToken {α : Type} (text : List Char) (token : α → Token) (part : Part α) :
    Except DocumentFault (Token × List Char) :=
  match part with
  | .error halt => .error (halt.fault text)
  | .ok (value, rest) => .ok (token value, rest)

def referenceToken (text : List Char) (part : Part Reference) :
    Except DocumentFault (Token × List Char) :=
  match part with
  | .error halt => .error (halt.fault text)
  | .ok (target, rest) =>
      match target.character with
      | .error kind => .error { kind, start := text }
      | .ok character => .ok (.text [character], rest)

def instructionToken (text : List Char) (part : Part (List Char)) :
    Except DocumentFault (Token × List Char) :=
  match part with
  | .error halt => .error (halt.fault text)
  | .ok (target, rest) =>
      if target = declarationTarget then .error { kind := .misplacedDeclaration, start := text }
      else .ok (.aside, rest)

def characterDataToken (text : List Char) (start : List Char) :
    Except DocumentFault (Token × List Char) :=
  match expect "CDATA[".toList start with
  | .error halt => .error (halt.fault text)
  | .ok (_, body) =>
      match characterData body with
      | .error .ended => .error { kind := .unclosedCharacterData, start := [] }
      | .error halt => .error (halt.fault text)
      | .ok (characters, rest) => .ok (.text characters, rest)

def exclamationToken (text : List Char) : List Char → Except DocumentFault (Token × List Char)
  | '-' :: '-' :: body => asToken text (fun _ => .aside) (commentBody body)
  | '-' :: other =>
      .error ((if other.isEmpty then Halt.ended else Halt.stray other).fault text)
  | '[' :: rest => characterDataToken text rest
  | other => .error ((if other.isEmpty then Halt.ended else Halt.stray other).fault text)

def nextToken : List Char → Except DocumentFault (Token × List Char)
  | [] => .error { kind := .noElement, start := [] }
  | '<' :: [] => .error { kind := .unclosedToken, start := ['<'] }
  | '<' :: '!' :: rest => exclamationToken ('<' :: '!' :: rest) rest
  | '<' :: '?' :: rest => instructionToken ('<' :: '?' :: rest) (instruction rest)
  | '<' :: '/' :: rest => asToken ('<' :: '/' :: rest) id (closingTag rest)
  | '<' :: rest => asToken ('<' :: rest) id (openingTag rest)
  | '&' :: rest => referenceToken ('&' :: rest) (reference rest)
  | ']' :: ']' :: '>' :: rest => .error { kind := .invalidToken, start := '>' :: rest }
  | first :: rest =>
      if isAllowed first then .ok (.text [first], rest)
      else .error { kind := .invalidToken, start := first :: rest }

end PropertyGen.Xml
