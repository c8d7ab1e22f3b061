import PropertyGen.Fault
import PropertyGen.Text.Pieces

/-!
Metadata names: dotted namespaces, a plus sign before the name of a nested type, and a
backtick with the number of type parameters after the name of a generic one.
-/

namespace PropertyGen.Names

/-- A name inside a namespace; the global namespace is empty. -/
def qualify (space name : String) : String := if space = "" then name else space ++ "." ++ name

def nest (outer name : String) : String := outer ++ "+" ++ name

def member (type name : String) : String := type ++ "." ++ name

def spaceSegments (space : String) : List String :=
  if space = "" then [] else (Text.piecesAt '.' space.toList).map String.ofList

def dottedPrefixes (segments : List String) : List String :=
  (List.range segments.length).map fun index => ".".intercalate (segments.take (index + 1))

/-- A namespace and every namespace around it except the global one, outermost first. -/
def spacesAround (space : String) : List String := dottedPrefixes (spaceSegments space)

/-- The namespace a metadata name lies in. -/
def spaceOf (name : String) : String :=
  String.ofList (Text.beforeLast '.' (Text.beforeFirst '+' name.toList))

def nesting (name : String) : Nat := name.toList.count '+'

def display (name : String) : String := String.ofList (Text.replaceChar '+' ['.'] name.toList)

/-- The number of type parameters of the innermost type. -/
def arity (name : String) : Except Fault Int :=
  let innermost := Text.afterLast '+' name.toList
  if innermost.contains '`' then
    let count := Text.afterFirst '`' innermost
    match Numeral.readInt 10 count with
    | .ok value => .ok value
    | .error .malformed => .error (.notANumber 10 (String.ofList count))
    | .error (.tooLong digits) => .error (.tooManyDigits digits)
  else .ok 0

end PropertyGen.Names
