/-!
Reading bytes as UTF-8. Bytes that cannot stand where they are read as U+FFFD, one for each
longest run that some well-formed character begins with.
-/

namespace PropertyGen.Text.Utf8

/-- A character whose first bytes are read: how many bytes are missing, the number read so
far, and the bounds on the next byte. -/
structure Pending where
  missing : Nat
  value : Nat
  low : Nat := 0x80
  high : Nat := 0xBF

def replacement : Char := '\uFFFD'

def begin (byte : Nat) : List Char × Option Pending :=
  if byte < 0x80 then ([Char.ofNat byte], none)
  else if byte < 0xC2 then ([replacement], none)
  else if byte < 0xE0 then ([], some { missing := 1, value := byte - 0xC0 })
  else if byte = 0xE0 then ([], some { missing := 2, value := 0, low := 0xA0 })
  else if byte = 0xED then ([], some { missing := 2, value := 0xD, high := 0x9F })
  else if byte < 0xF0 then ([], some { missing := 2, value := byte - 0xE0 })
  else if byte = 0xF0 then ([], some { missing := 3, value := 0, low := 0x90 })
  else if byte < 0xF4 then ([], some { missing := 3, value := byte - 0xF0 })
  else if byte = 0xF4 then ([], some { missing := 3, value := 4, high := 0x8F })
  else ([replacement], none)

/-- A byte that does not continue the pending character begins another one. -/
def step (byte : Nat) : Option Pending → List Char × Option Pending
  | none => begin byte
  | some pending =>
      if pending.low ≤ byte ∧ byte ≤ pending.high then
        let value := pending.value * 64 + (byte - 0x80)
        if pending.missing ≤ 1 then ([Char.ofNat value], none)
        else ([], some { missing := pending.missing - 1, value })
      else
        let (characters, next) := begin byte
        (replacement :: characters, next)

def decodeFrom : Option Pending → List UInt8 → List Char
  | none, [] => []
  | some _, [] => [replacement]
  | pending, byte :: rest =>
      let (characters, next) := step byte.toNat pending
      characters ++ decodeFrom next rest

def decode (bytes : List UInt8) : String := String.ofList (decodeFrom none bytes)

def encode (text : String) : List UInt8 := text.toUTF8.data.toList

end PropertyGen.Text.Utf8
