import ContactFlow.Text.Handler.Fault

/-!
Numbers in the expression that a handler in markup is given: whole ones in four bases, real ones and
imaginary ones. Single bars may stand between digits.
-/

namespace ContactFlow.Handler

/-- A number, as far as its value can be at fault. -/
inductive Number
  | whole (value : Nat)
  | long (digits : Nat)
  | real
  | imaginary
  deriving DecidableEq, Repr

namespace Number

/-- A number that was read, and what follows it. -/
abbrev Found := Except Fault (Number × List Char)

/-- What is left of a text after a part of a number. -/
abbrev Rest := Except Fault (List Char)

/-- Whether a text starts like a word. -/
def startsLikeWord (cs : List Char) : Bool :=
  cs.head?.any fun c => c.isAlphanum || c == '_' || 0x80 ≤ c.toNat

/-- The words that may follow a number without a space. -/
def joiningWords : List String := ["and", "else", "for", "not", "or"]

/-- Shorter words that may follow a number without a space. They may be the start of longer ones. -/
def joiningStarts : List String := ["if", "in", "is"]

def isJoined (cs : List Char) : Bool :=
  joiningStarts.any (fun w => w.toList.isPrefixOf cs) ||
    joiningWords.any fun w => w.toList.isPrefixOf cs && !startsLikeWord (cs.drop w.length)

/-- Nothing that looks like a part of a number may follow it. -/
def ended (base : String) (cs : List Char) : Rest :=
  if startsLikeWord cs && !isJoined cs then .error (.number base) else .ok cs

/-- What follows the digits of a number. -/
def afterDigits : List Char → Rest
  | [] => .ok []
  | '_' :: rest => match rest with
    | c :: _ => if c.isDigit then afterDigits rest else .error (.number "decimal")
    | [] => .error (.number "decimal")
  | c :: rest => if c.isDigit then afterDigits rest else .ok (c :: rest)

/-- What follows the digits of a number of another base. The first one is still to come, as it is
after every bar. -/
def afterBased (base : String) (isOwn : Char → Bool) (expected : Bool) : List Char → Rest
  | [] => if expected then .error (.number base) else .ok []
  | c :: rest =>
    if isOwn c then afterBased base isOwn false rest
    else if c.isDigit then .error (.digit c base)
    else if c == '_' && !expected then afterBased base isOwn true rest
    else if expected then .error (.number base)
    else ended base (c :: rest)

/-- The value of a digit in any base up to sixteen. -/
def digit? (c : Char) : Option Nat :=
  if c.isDigit then some (c.toNat - 48)
  else if 'a' ≤ c.toLower && c.toLower ≤ 'f' then some (c.toLower.toNat - 87)
  else none

/-- The digits that were read of a text, given what is left of it. -/
def digits (cs rest : List Char) : List Nat := (cs.take (cs.length - rest.length)).filterMap digit?

def value (radix : Nat) (ds : List Nat) : Nat := ds.foldl (fun n d => n * radix + d) 0

def based (base : String) (radix : Nat) (cs : List Char) : Found := do
  let isOwn (c : Char) := (digit? c).any (· < radix)
  let rest ← afterBased base isOwn true (if cs.head? == some '_' then cs.tail else cs)
  pure (.whole (value radix (digits cs rest)), rest)

/-- Reads a number from its exponent on, given what it is if nothing more of it follows. -/
def afterExponent (plain : Number) (cs : List Char) : Found := do
  let (found, rest) ← match cs with
    | e :: cs' =>
      if e == 'e' || e == 'E' then
        match cs' with
        | c :: d :: _ =>
          if c == '+' || c == '-' then
            if d.isDigit then pure (.real, ← afterDigits cs'.tail)
            else throw (.number "decimal")
          else if c.isDigit then pure (.real, ← afterDigits cs') else pure (plain, cs)
        | [c] =>
          if c == '+' || c == '-' then throw (.number "decimal")
          else if c.isDigit then pure (.real, []) else pure (plain, cs)
        | [] => pure (plain, cs)
      else pure (plain, cs)
    | [] => pure (plain, [])
  match rest with
  | c :: rest' =>
    if c == 'j' || c == 'J' then pure (.imaginary, ← ended "imaginary" rest')
    else pure (found, ← ended "decimal" rest)
  | [] => pure (found, [])

/-- Reads a number from its point on. -/
def afterPoint (plain : Number) (cs : List Char) : Found :=
  match cs with
  | '.' :: rest =>
    if rest.head?.any (·.isDigit) then afterDigits rest >>= afterExponent .real
    else afterExponent .real rest
  | cs => afterExponent plain cs

def ofDigits (ds : List Nat) : Number :=
  if ds.length ≤ Numeral.maxDigits then .whole (value 10 ds) else .long ds.length

/-- What may follow the digits of a number that starts with a zero. -/
def continues (cs : List Char) : Bool := cs.head?.any fun c => ".eEjJ".toList.contains c

def read (cs : List Char) : Found := do
  match cs with
  | '0' :: c :: rest =>
    match c.toLower with
    | 'x' => based "hexadecimal" 16 rest
    | 'o' => based "octal" 8 rest
    | 'b' => based "binary" 2 rest
    | _ =>
      let after ← afterDigits (c :: rest)
      if (digits cs after).any (· != 0) && !continues after then throw .leadingZeros
      afterPoint (.whole 0) after
  | cs => do
    let after ← afterDigits cs
    afterPoint (ofDigits (digits cs after)) after

end Number

end ContactFlow.Handler
