import ContactFlow.Text.CharacterName
import ContactFlow.Text.Handler.Number

/-!
Backslashes in the texts of an expression that a handler in markup is given. Faults are placed in
the text as it is spelled in ASCII characters only.
-/

namespace ContactFlow.Handler.Escape

def isAscii (c : Char) : Bool := c.toNat < 0x80

def isHexadecimal (c : Char) : Bool := (Number.digit? c).isSome

/-- A backslash that does not stand before an ASCII character, spelled by its number. -/
def loneBackslash : List Char := "\\u005c".toList

/-- A character spelled by its number with eight digits. -/
def numbered (c : Char) : List Char :=
  let digits := Nat.toDigits 16 c.toNat
  '\\' :: 'U' :: List.replicate (8 - digits.length) '0' ++ digits

/-- Spells a text in ASCII characters. A backslash keeps the character after it. -/
def spelled : List Char → List Char
  | '\\' :: c :: rest =>
    if isAscii c then '\\' :: c :: spelled rest
    else loneBackslash ++ numbered c ++ spelled rest
  | c :: rest =>
    (if c == '\\' then loneBackslash else if isAscii c then [c] else numbered c) ++ spelled rest
  | [] => []

/-- How many digits follow a letter that spells a character by its number. -/
def digitCount? (letter : Char) : Option Nat :=
  if letter == 'x' then some 2 else if letter == 'u' then some 4
  else if letter == 'U' then some 8 else none

/-- The number after the largest that a character has. -/
def characterLimit : Nat := 0x110000

/-- What is wrong with the digits after a letter that asks for so many of them. -/
def digitsFault? (letter : Char) (count place : Nat) (cs : List Char) : Option Fault :=
  let ds := ((cs.take count).takeWhile isHexadecimal).filterMap Number.digit?
  let last := place + 1 + ds.length
  if ds.length < count then some (.escape place last (.short letter count))
  else if characterLimit ≤ Number.value 16 ds then some (.escape place last .noCharacter)
  else none

/-- What is wrong with the name of a character, from its bracket on. -/
def nameFault? (place : Nat) : List Char → Option Fault
  | '{' :: rest =>
    let name := rest.takeWhile (· != '}')
    let last := place + 2 + name.length
    if name.length = rest.length || name.isEmpty then some (.escape place last .noName)
    else if Text.CharacterName.isKnown name then none
    else some (.escape place (last + 1) .unknownName)
  | _ => some (.escape place (place + 1) .noName)

/-- What is wrong with the backslashes of a text that is spelled in ASCII characters. -/
def spelledFault? (place : Nat) : List Char → Option Fault
  | '\\' :: c :: rest =>
    let fault := match digitCount? c with
      | some count => digitsFault? c count place rest
      | none => if c == 'N' then nameFault? place rest else none
    fault.or (spelledFault? (place + 2) rest)
  | _ :: rest => spelledFault? (place + 1) rest
  | [] => none

/-- What is wrong with the backslashes of a text. -/
def fault? (cs : List Char) : Option Fault := spelledFault? 0 (spelled cs)

/-- What is wrong with the backslashes of bytes, of which two digits spell one. -/
def bytesFault? (place : Nat) : List Char → Option Fault
  | '\\' :: c :: rest =>
    if c == 'x' && ((rest.take 2).takeWhile isHexadecimal).length < 2 then
      some (.bytesEscape place)
    else bytesFault? (place + 2) rest
  | _ :: rest => bytesFault? (place + 1) rest
  | [] => none

end ContactFlow.Handler.Escape
