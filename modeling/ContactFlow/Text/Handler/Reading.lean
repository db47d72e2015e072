import ContactFlow.Text.Handler.Grammar

/-!
Reading an expression twice. What is not well formed is read once more to find out what is wrong
with it.
-/

namespace ContactFlow.Handler

/-- The bracket that stays open, if the last of so many tokens is in a later line. -/
def Tokens.unclosed? (t : Tokens) (seen : Nat) : Option Fault :=
  match t.opened, t.spots[seen - 1]? with
  | some o, some s => if o.line < s.line then some (.neverClosed o.bracket) else none
  | _, _ => none

/-- Whether so many tokens were only ended by the end of the text. -/
def Tokens.isAll (t : Tokens) (seen : Nat) : Bool := t.spots[seen - 1]?.any Spot.isLast

/-- The fault that is told. There may be another one in the tokens that were not looked at yet. That
one comes first. -/
def Refusal.fault (source : Source) (t : Tokens) : Refusal → Fault
  | .token f => f
  | .found f seen =>
    let unclosed := if t.isAll seen then none else (t.unclosed? seen).map source.place
    (t.fault?.or unclosed).getD f

/-- What is wrong if nothing better is known, given how many tokens were looked at in the first
reading and in both. -/
def unexplained (source : Source) (t : Tokens) (first last : Nat) : Fault :=
  match t.spots[first - 1]?.map Spot.token with
  | some .indent => source.place .indent
  | some .unindent => source.place .unindent
  | _ => (t.fault?.or ((t.unclosed? last).map source.place)).getD (source.place .form)

/-- Reads an expression that goes over tokens. -/
def Tokens.expression (t : Tokens) (source : Source) (start : Rules → Reader Expression) :
    Except Fault Expression :=
  let x := start (Grammar.rules (Grammar.ruleCount * (t.spots.size + 1)))
  match (x { source with explains := false }).run ⟨0, 0, ∅⟩ with
  | .error r => .error (r.fault source t)
  | .ok (some e, _) => .ok e
  | .ok (none, first) =>
    match (x { source with explains := true }).run ⟨0, first.seen, ∅⟩ with
    | .error r => .error (r.fault source t)
    | .ok (_, last) => .error (unexplained source t first.seen last.seen)

/-- Reads the expression of a field. The fuel is a bound on how deep texts with fields are nested.
-/
def readField : Nat → Nat → List Char → Except Fault Unit
  | 0, _, _ => .ok ()
  | n + 1, line, cs => do
    let t := Tokens.ofText line cs
    let _ ← t.expression ⟨t.spots, true, false, readField n⟩ Grammar.items

/-- Reads a whole expression. -/
def Expression.ofText (cs : List Char) : Except Fault Expression :=
  let t := Tokens.ofText 1 cs
  t.expression ⟨t.spots, false, false, readField cs.length⟩ Grammar.whole

end ContactFlow.Handler
