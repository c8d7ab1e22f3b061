import PropertyGen.Text.Ranges

/-!
Blank characters, the words between them, and the two ways this library removes blanks:
`compact` drops all of them, `squeeze` leaves one space between words.
-/

namespace PropertyGen.Text

def blankRanges : List (Nat × Nat) :=
  [(0x09, 0x0D), (0x1C, 0x20), (0x85, 0x85), (0xA0, 0xA0), (0x1680, 0x1680), (0x2000, 0x200A),
   (0x2028, 0x2029), (0x202F, 0x202F), (0x205F, 0x205F), (0x3000, 0x3000)]

def isBlank (character : Char) : Bool := within blankRanges character

def words : List Char → List (List Char)
  | [] => []
  | first :: rest =>
      if isBlank first then words rest
      else match rest with
        | [] => [[first]]
        | next :: _ =>
            if isBlank next then [first] :: words rest
            else match words rest with
              | [] => [[first]]
              | word :: more => (first :: word) :: more

def trimLeft (text : List Char) : List Char := text.dropWhile isBlank

def trimRight (text : List Char) : List Char := (text.reverse.dropWhile isBlank).reverse

def trimChars (text : List Char) : List Char := trimRight (trimLeft text)

def compactChars (text : List Char) : List Char := text.filter fun character => !isBlank character

def squeezeChars (text : List Char) : List Char := [' '].intercalate (words text)

def trim (text : String) : String := String.ofList (trimChars text.toList)

def compact (text : String) : String := String.ofList (compactChars text.toList)

def squeeze (text : String) : String := String.ofList (squeezeChars text.toList)

end PropertyGen.Text
