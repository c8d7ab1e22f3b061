import PropertyGen.Xml.Namespaces
import PropertyGen.Xml.TokenLemmas

/-!
Documents: the tokens of one element with everything in it, well nested, and nothing but
comments, instructions and spaces after it.
-/

namespace PropertyGen.Xml

/-- A token with the text it begins and the text after it. -/
structure Lexeme where
  token : Token
  start : List Char
  rest : List Char
deriving Repr

def lexemes (text : List Char) : List Lexeme × Option DocumentFault :=
  match text with
  | [] => ([], none)
  | first :: more =>
      match _ : nextToken (first :: more) with
      | .error fault => ([], some fault)
      | .ok (token, rest) =>
          let (lexemes, fault?) := lexemes rest
          ({ token, start := first :: more, rest } :: lexemes, fault?)
termination_by text.length
decreasing_by exact nextToken_shrinks (by assumption)

def isNameEnd (character : Char) : Bool :=
  isSpace character || ['>', ')', ',', '|', '[', '%'].contains character

def trailingFault (text : List Char) : DocumentFault :=
  let trailing : DocumentFault := { kind := .trailingContent, start := text }
  match text with
  | '<' :: '!' :: '[' :: _ => trailing
  | '<' :: '!' :: first :: rest =>
      if isNameStart first then trailing
      else { kind := .invalidToken, start := first :: rest }
  | '<' :: first :: rest =>
      if isNameStart first then trailing
      else { kind := .invalidToken, start := first :: rest }
  | first :: rest =>
      if [',', '[', ']', '(', ')', '|', '>'].contains first then trailing
      else if isNameCharacter first then
        match rest.dropWhile isTagNameCharacter with
        | [] => trailing
        | next :: more =>
            if isNameEnd next then trailing
            else { kind := .invalidToken, start := next :: more }
      else { kind := .invalidToken, start := first :: rest }
  | [] => trailing

def epilogFault? (text : List Char) : Option DocumentFault :=
  let content := skipSpace text
  match _ : content with
  | [] => none
  | '<' :: '!' :: '-' :: _ | '<' :: '?' :: _ =>
      match _ : nextToken content with
      | .error { kind := .misplacedDeclaration, start } =>
          some { kind := .trailingContent, start }
      | .error fault => some fault
      | .ok (_, rest) => epilogFault? rest
  | other => some (trailingFault other)
termination_by text.length
decreasing_by
  all_goals
    have shorter := nextToken_shrinks (by assumption)
    have bound : content.length ≤ text.length := length_dropWhile_le isSpace text
    omega

structure Opened where
  name : List Char
  bindings : Bindings
deriving Repr

/-- Follows the tokens with the open elements, innermost first, up to the end of the outermost
one. If the tokens run out before, `fault` says why. -/
def nest (fault : DocumentFault) : List Opened → List Lexeme → Except DocumentFault Unit
  | _, [] => .error fault
  | opened, lexeme :: rest =>
      let around := ((opened.head?).map (·.bindings)).getD Bindings.initial
      let finish := match epilogFault? lexeme.rest with
        | some trailing => .error trailing
        | none => .ok ()
      match lexeme.token with
      | .text _ | .aside => nest fault opened rest
      | .opening name attributes isClosed =>
          match enter lexeme.start around name attributes with
          | .error trouble => .error trouble
          | .ok bindings =>
              if isClosed then if opened.isEmpty then finish else nest fault opened rest
              else nest fault ({ name, bindings } :: opened) rest
      | .closing name =>
          match opened with
          | [] => .error { kind := .invalidToken, start := lexeme.start.drop 1 }
          | innermost :: outer =>
              if innermost.name = name then
                if outer.isEmpty then finish else nest fault outer rest
              else .error { kind := .mismatchedTag, start := lexeme.start.drop 2 }

def tokens (text : List Char) : Except DocumentFault (List Token) :=
  let (found, fault?) := lexemes text
  (nest (fault?.getD { kind := .noElement, start := [] }) [] found).map fun _ => found.map (·.token)

def advance : List Char → Nat × Nat → Nat × Nat
  | [], place => place
  | '\r' :: '\n' :: rest, (line, _) => advance rest (line + 1, 0)
  | character :: rest, (line, column) =>
      if character = '\n' ∨ character = '\r' then advance rest (line + 1, 0)
      else advance rest (line, column + 1)

/-- What is wrong and where, counting lines from one and columns from zero. -/
def DocumentFault.text (document : List Char) (fault : DocumentFault) : String :=
  let passed := document.take (document.length - fault.start.length)
  let (line, column) := advance passed (1, 0)
  fault.kind.message ++ ": line " ++ toString line ++ ", column " ++ toString column

end PropertyGen.Xml
