import PropertyGen.Numeral.Reading
import PropertyGen.Text.Quoted

/-!
What can stop a computation, and the wording of each cause.
-/

namespace PropertyGen

inductive FlawKind where
  | missing
  | notText
  | notLiteral
  | notInteger
  | unreadableInteger
  | fractionalInteger
  | notBoolean
  | unreadableBoolean
  | notSequence
  | notRecord
deriving DecidableEq, Repr

def FlawKind.name : FlawKind → String
  | .missing => "missing"
  | .notText => "string_type"
  | .notLiteral => "literal_error"
  | .notInteger => "int_type"
  | .unreadableInteger => "int_parsing"
  | .fractionalInteger => "int_from_float"
  | .notBoolean => "bool_type"
  | .unreadableBoolean => "bool_parsing"
  | .notSequence => "tuple_type"
  | .notRecord => "model_type"

structure Flaw where
  kind : FlawKind
  place : List String
deriving DecidableEq, Repr

def Flaw.text (flaw : Flaw) : String := flaw.kind.name ++ "@" ++ ".".intercalate flaw.place

/-- The same flaw seen from a record that holds the flawed one. -/
def Flaw.within (place : List String) (flaw : Flaw) : Flaw :=
  { flaw with place := place ++ flaw.place }

inductive Fault where
  /-- A text that should be a whole number. -/
  | notANumber (base : Nat) (text : String)
  | tooManyDigits (count : Nat)
  /-- An escape whose number is no code point. -/
  | codePointOutOfRange
  /-- An escape whose number does not even fit a machine integer. -/
  | codePointTooLarge
  | emptySequence
  | missingArgument (index : Nat)
  | unsupportedLanguage (language : String)
  | unsupportedExtension (extension : String)
  | fileNotFound (path : String)
  | notADirectory (path : String)
  | isADirectory (path : String)
  | fileNameTooLong (path : String)
  | nullInPath
  | duplicateSource (key : String)
  | unboundTypes (first second : String)
  | flawedRecord (flaws : List Flaw)
deriving DecidableEq, Repr

def supportedLanguages : List String := ["csharp"]

def Fault.message : Fault → String
  | .notANumber base text =>
      "invalid literal for int() with base " ++ toString base ++ ": "
        ++ String.ofList ((Text.quoteChars text.toList).take 200)
  | .tooManyDigits count =>
      "Exceeds the limit (" ++ toString Numeral.digitLimit
        ++ " digits) for integer string conversion: value has " ++ toString count
        ++ " digits; use sys.set_int_max_str_digits() to increase the limit"
  | .codePointOutOfRange => "chr() arg not in range(0x110000)"
  | .codePointTooLarge => "Python int too large to convert to C int"
  | .emptySequence => "list index out of range"
  | .missingArgument index =>
      "Replacement index " ++ toString index ++ " out of range for positional args tuple"
  | .unsupportedLanguage language =>
      "Unsupported language '" ++ language ++ "'. Supported: " ++ Text.quoteList supportedLanguages
  | .unsupportedExtension extension => "Unsupported file extension: " ++ extension
  | .fileNotFound path => "File not found: " ++ path
  | .notADirectory path => "[Errno 20] Not a directory: " ++ Text.quote path
  | .isADirectory path => "[Errno 21] Is a directory: " ++ Text.quote path
  | .fileNameTooLong path => "[Errno 36] File name too long: " ++ Text.quote path
  | .nullInPath => "embedded null byte"
  | .duplicateSource key => "A source named '" ++ key ++ "' was already added"
  | .unboundTypes first second => "Could not bind " ++ first ++ " or " ++ second
  | .flawedRecord flaws => "; ".intercalate (flaws.map Flaw.text)

end PropertyGen
