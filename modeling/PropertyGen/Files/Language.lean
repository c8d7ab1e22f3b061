import PropertyGen.Fault
import PropertyGen.Files.Path
import PropertyGen.Text.Blank
import PropertyGen.Text.Lowercase

/-!
The language of a source, by a name for it or by the suffix of its path.
-/

namespace PropertyGen

inductive Language where
  | csharp
deriving DecidableEq, Repr

namespace Language

def name : Language → String
  | .csharp => "csharp"

def ofWord? (word : String) : Option Language :=
  if ["c#", "cs", "csharp"].contains word then some .csharp else none

def ofSuffix? (suffix : String) : Option Language := if suffix = ".cs" then some .csharp else none

/-- The language that a name means, in any case and with blanks around it. -/
def ofName (name : String) : Except Fault Language :=
  match ofWord? (Text.lower (Text.trim name)) with
  | some language => .ok language
  | none => .error (.unsupportedLanguage name)

def ofPath (path : Path) : Except Fault Language :=
  let suffix := Text.lower path.suffix
  match ofSuffix? suffix with
  | some language => .ok language
  | none => .error (.unsupportedExtension suffix)

end Language

def Path.isSupported (path : Path) : Bool := (Language.ofSuffix? (Text.lower path.suffix)).isSome

end PropertyGen
