/-!
Bytes written as text, six bits to a character. Characters outside the alphabet are passed over.
Equals signs fill the last group of four up, and what comes after the group does not count.
-/

namespace ContactFlow.Yaml.Binary

/-- The six bits that a character stands for. -/
def bits? (c : Char) : Option Nat :=
  if c.isUpper then some (c.toNat - 'A'.toNat)
  else if c.isLower then some (c.toNat - 'a'.toNat + 26)
  else if c.isDigit then some (c.toNat - '0'.toNat + 52)
  else if c == '+' then some 62
  else if c == '/' then some 63
  else none

/-- Reads on, given how many characters of a group were read, the bits left over from them and how
many equals signs came last. -/
def groups (place left signs : Nat) : List Char → Option (List UInt8)
  | [] => if place = 0 then some [] else none
  | '=' :: rest =>
    if place < 2 then groups place left signs rest
    else if 4 ≤ place + signs + 1 then some []
    else groups place left (signs + 1) rest
  | c :: rest => match bits? c with
    | none => groups place left signs rest
    | some n =>
      let byte (high low : Nat) : UInt8 := UInt8.ofNat (left * high + n / low)
      match place with
      | 0 => groups 1 n 0 rest
      | 1 => (groups 2 (n % 16) 0 rest).map (byte 4 16 :: ·)
      | 2 => (groups 3 (n % 4) 0 rest).map (byte 16 4 :: ·)
      | _ => (groups 0 0 0 rest).map (byte 64 1 :: ·)

/-- The bytes that a text spells. -/
def read? (cs : List Char) : Option (List UInt8) :=
  if cs.all (·.toNat < 128) then groups 0 0 0 cs else none

end ContactFlow.Yaml.Binary
