import ContactFlow.Decimal.Numeral
import ContactFlow.Value.Display

/-!
Plain data: the values that JSON knows. Stamps become texts and bytes the text that they spell,
bundles become lists, and numbers that are not finite become null. The keys of tables become texts,
and null and the numbers that are not finite one and the same. Of two keys that are the same the
later one counts, in the place of the earlier.
-/

namespace ContactFlow

inductive PlainError
  | cycle
  | garbled (position : Nat) (byte : UInt8)
  | longNumber
  | tooDeep
  deriving DecidableEq, Repr

namespace PlainError

def message : PlainError → String
  | .cycle => "Circular reference detected (id repeated)"
  | .garbled position byte =>
    "'utf-8' codec can't decode byte 0x" ++ String.ofList (Text.hex 2 byte.toNat) ++
      " in position " ++ toString position ++ ": invalid utf-8"
  | .longNumber => Numeral.unwritableMessage
  | .tooDeep => "Maximum serialization depth exceeded"

end PlainError

namespace Stamp

/-- The distance from universal time. -/
def zoneMark (offset : Int) : String := if offset = 0 then "Z" else offsetText offset

/-- A stamp with a letter between its day and its time. -/
def standard : Stamp → String
  | .day y m d => dayText y m d
  | .moment y m d h min s micro offset =>
    dayText y m d ++ "T" ++ padded 2 h ++ ":" ++ padded 2 min ++ ":" ++ padded 2 s ++
      (if micro = 0 then "" else "." ++ padded 6 micro) ++ (offset.map zoneMark).getD ""

end Stamp

namespace Value

/-- How many of the bytes, from the first on, spell a text. -/
def spelledLength (bs : List UInt8) : Nat → Nat
  | 0 => 0
  | n + 1 => if (String.fromUTF8? ⟨(bs.take (n + 1)).toArray⟩).isSome then n + 1
    else spelledLength bs n

def spell (bs : List UInt8) : Except PlainError String :=
  match String.fromUTF8? ⟨bs.toArray⟩ with
  | some s => .ok s
  | none =>
    let position := spelledLength bs bs.length
    .error (.garbled position (bs.getD position 0))

def plainScalar : Scalar → Except PlainError Scalar
  | .stamp t => .ok (.text t.standard)
  | .bytes bs => (spell bs).map .text
  | .real x => .ok (if x.isFinite then .real x else .null)
  | s => .ok s

def plainKey : Scalar → Except PlainError Scalar
  | .null => .ok (.text "None")
  | .bool b => .ok (.text (if b then "true" else "false"))
  | .stamp t => .ok (.text t.standard)
  | .bytes bs => (spell bs).map .text
  | .int n => if Numeral.isWritable n then .ok (.text (toString n)) else .error .longNumber
  | .real x => .ok (.text (if x.isFinite then (Scalar.real x).display else "None"))
  | s => .ok (.text s.display)

mutual

/-- The plain data that a value stands for. -/
def toPlain : Value → Except PlainError Value
  | .scalar s => (plainScalar s).map .scalar
  | .list items => (listToPlain items).map .list
  | .table entries => (tableToPlain entries).map fun t => .table (Table.union [] t)
  | .reference r => .ok (.reference r)
  | .bundle _ items => (listToPlain items).map .list
  | .cycle _ => .error .cycle

def listToPlain : List Value → Except PlainError (List Value)
  | [] => .ok []
  | v :: rest => do
    let v ← toPlain v
    pure (v :: (← listToPlain rest))

def tableToPlain : List (Scalar × Value) → Except PlainError (List (Scalar × Value))
  | [] => .ok []
  | (k, v) :: rest => do
    let k ← plainKey k
    let v ← toPlain v
    pure ((k, v) :: (← tableToPlain rest))

end

end Value

end ContactFlow
