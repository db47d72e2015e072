import Std.Data.HashMap
import ContactFlow.Text.Handler.Expression
import ContactFlow.Text.Handler.Token

/-!
Reading tokens. A reader may fail, so that something else is tried, or refuse the whole. What was
found in a place is remembered, so that no place is read twice for the same.
-/

namespace ContactFlow.Handler

/-- What can be found in a place, and is remembered. -/
inductive Rule
  | item
  | expression
  | disjunction
  | conjunction
  | inversion
  | operand
  | factor
  | awaited
  | primary
  | texts
  | arguments
  | misplaced
  | target
  | targetAtom
  | targetPrimary
  deriving DecidableEq, Repr, Hashable

/-- What is read: the tokens, whether it is a field of a text, whether faults are explained, and how
the fields of a text are read, given their line. -/
structure Source where
  spots : Array Spot
  isField : Bool
  explains : Bool
  field : Nat → List Char → Except Fault Unit

/-- Says of a fault that it is in a field. -/
def Source.place (s : Source) (f : Fault) : Fault := if s.isField then .inField f else f

abbrev Memo := Std.HashMap (Rule × Nat) (Option (Expression × Nat))

/-- How far reading came: the place, how many tokens were looked at, and what was found where. -/
structure Progress where
  place : Nat
  seen : Nat
  memo : Memo

/-- Why the whole is refused: for a fault among the tokens, or for another one that was found after
looking at so many of them. -/
inductive Refusal
  | token (f : Fault)
  | found (f : Fault) (seen : Nat)
  deriving DecidableEq, Repr

abbrev Attempts := OptionT (StateT Progress (Except Refusal))

/-- Reads something of a source. Reading may fail, with what was remembered kept. -/
def Reader := ReaderT Source Attempts

instance : Monad Reader := inferInstanceAs (Monad (ReaderT Source Attempts))

instance : MonadReaderOf Source Reader :=
  inferInstanceAs (MonadReaderOf Source (ReaderT Source Attempts))

instance : MonadWithReaderOf Source Reader :=
  inferInstanceAs (MonadWithReaderOf Source (ReaderT Source Attempts))

instance : MonadStateOf Progress Reader :=
  inferInstanceAs (MonadStateOf Progress (ReaderT Source Attempts))

namespace Reader

variable {α β : Type}

def fail : Reader α := fun _ => OptionT.mk fun p => .ok (none, p)

/-- Refuses the whole with a fault that says already whether it is in a field. -/
def reject (f : Fault) : Reader α := fun _ => OptionT.mk fun p => .error (.found f p.seen)

def refuse (f : Fault) : Reader α := do reject ((← read).place f)

def refuseToken (f : Fault) : Reader α := fun _ => OptionT.mk fun _ => .error (.token f)

def moveTo (place : Nat) : Reader Unit := modify fun p => { p with place }

def here : Reader Nat := do pure (← get).place

/-- Reads something if it is there. Otherwise nothing is used up. -/
def attempt (x : Reader α) : Reader (Option α) := fun s => OptionT.mk fun p => do
  match ← (x s).run p with
  | (some a, p) => pure (some (some a), p)
  | (none, q) => pure (some none, { q with place := p.place })

/-- Goes on with what was found, or with something else if it is not there. -/
def commit (x : Reader α) (found : α → Reader β) (missing : Reader β) : Reader β := do
  match ← attempt x with
  | some a => found a
  | none => missing

instance : Alternative Reader where
  failure := fail
  orElse x y := commit x pure (y ())

/-- Whether something can be read here. Nothing is used up. -/
def sees (x : Reader α) : Reader Bool := do
  let start ← here
  let found ← attempt x
  moveTo start
  pure found.isSome

def ahead (x : Reader α) : Reader Unit := do guard (← sees x)

def notAhead (x : Reader α) : Reader Unit := do guard !(← sees x)

def optional (x : Reader α) : Reader Unit := do let _ ← attempt x

def manyUpTo : Nat → Reader α → Reader (List α)
  | 0, _ => pure []
  | n + 1, x => commit x (fun a => (a :: ·) <$> manyUpTo n x) (pure [])

/-- Reads as many as there are, none of them empty. -/
def many (x : Reader α) : Reader (List α) := do manyUpTo (← read).spots.size x

/-- Reads as many as there are, and at least one. -/
def oneOrMore (x : Reader α) : Reader (List α) := do pure ((← x) :: (← many x))

/-- The token here. A fault refuses the whole. -/
def peek : Reader Token := do
  let place ← here
  modify fun p => { p with seen := max p.seen (place + 1) }
  let source ← read
  match source.spots[place]? with
  | some ⟨.fault f, _, _, _⟩ => refuseToken (source.place f)
  | some ⟨.broken f, _, _, _⟩ => refuseToken f
  | some s => pure s.token
  | none => pure .finish

def skip : Reader Unit := do moveTo ((← here) + 1)

/-- How many brackets are open after the token before this place. -/
def level : Reader Nat := do
  pure (((← read).spots[(← here) - 1]?.map Spot.level).getD 0)

def isNext (t : Token) : Reader Bool := do pure ((← peek) == t)

def expect (t : Token) : Reader Unit := do
  guard (← isNext t)
  skip

def mark (s : String) : Reader Unit := expect (.mark s)

def word (s : String) : Reader Unit := expect (.word s)

/-- One or more with commas between them. -/
def separated (x : Reader α) : Reader (List α) := do
  pure ((← x) :: (← many do mark ","; x))

/-- One or more with commas between them, and perhaps one after them. -/
def listed (x : Reader α) : Reader (List α) := do
  let items ← separated x
  optional (mark ",")
  pure items

/-- Reads something only where faults are explained. -/
def explaining (x : Reader α) : Reader α := do
  guard (← read).explains
  x

/-- Reads something without explaining its faults. -/
def plainly (x : Reader α) : Reader α := withReader (fun s => { s with explains := false }) x

def store (r : Rule) (start : Nat) (found : Option (Expression × Nat)) : Reader Unit :=
  modify fun p => { p with memo := p.memo.insert (r, start) found }

/-- Remembers what is found here. -/
def remember (r : Rule) (x : Reader Expression) : Reader Expression := do
  let start ← here
  match (← get).memo[(r, start)]? with
  | some (some (e, place)) => do
    moveTo place
    pure e
  | some none => fail
  | none => do
    match ← attempt x with
    | some e => do
      store r start (some (e, ← here))
      pure e
    | none => do
      store r start none
      fail

end Reader

/-- How what has a rule is read. -/
abbrev Rules := Rule → Reader Expression

end ContactFlow.Handler
