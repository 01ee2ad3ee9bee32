import LogMill.Row.Feed
import LogMill.Value.Order

/-!
Batches: rows that follow each other, and the producer that makes any of them from its feeds.
-/

namespace LogMill

abbrev Cells := List Value

structure Batch where
  start : Value
  rows : List Cells
  halves : Text.Halves := none

namespace Batch

inductive Fault where
  | unknownColumn (shown : String)
  | outOfRange
  | misfit (f : Misfit)
deriving DecidableEq

def Fault.message : Fault → String
  | unknownColumn shown => shown
  | outOfRange => "list index out of range"
  | misfit f => f.message

def Fault.kind : Fault → Kind
  | unknownColumn _ => .key
  | outOfRange => .index
  | misfit f => f.kind

instance Fault.explained : Explained Fault := ⟨Fault.kind, Fault.message⟩

def size (b : Batch) : Nat := b.rows.length

def stop (b : Batch) : Except Arithmetic.Fault Value := b.start.add (.int b.size)

def shown (b : Batch) : String :=
  "Batch(start_index=" ++ b.start.plain ++ ", rows=" ++ toString b.size ++ ")"

def get (b : Batch) (index : Int) : Except Fault Cells :=
  match (place? b.size index).bind fun i => b.rows[i]? with
  | some r => .ok r
  | none => .error .outOfRange

def find (b : Batch) (index : Value) : Except Fault Cells := do
  b.get (← (index.index "list").mapError .misfit)

def column (b : Batch) (name : String) : Except Fault (List Value) :=
  match Schema.indexOf? name with
  | some i => .ok (b.rows.map fun r => r.getD i .null)
  | none => .error (.unknownColumn (Text.quoted name))

def columnOf (b : Batch) (name : Value) : Except Fault (List Value) := do
  match ← name.key?.mapError .misfit with
  | some name => b.column name
  | none => throw (.unknownColumn name.shown)

end Batch

structure Producer where
  feeds : List Feed
  rowCount : Int

inductive Producer.Fault where
  | invalidRange (start count : String)
  | row (f : Row.Fault)
  | misfit (f : Misfit)
  | arithmetic (f : Arithmetic.Fault)
  | tooMany
  | noRoom
deriving DecidableEq

def Producer.Fault.message : Producer.Fault → String
  | invalidRange start count => "Invalid batch range: start=" ++ start ++ " count=" ++ count
  | row f => f.message
  | misfit f => f.message
  | arithmetic f => f.message
  | tooMany => "cannot fit 'int' into an index-sized integer"
  | noRoom => ""

def Producer.Fault.kind : Producer.Fault → Kind
  | invalidRange _ _ => .value
  | row f => f.kind
  | misfit f => f.kind
  | arithmetic f => f.kind
  | tooMany => .overflow
  | noRoom => .memory

instance Producer.Fault.explained : Explained Producer.Fault := ⟨Producer.Fault.kind, Producer.Fault.message⟩

namespace Producer

def row (p : Producer) (n : Int) : Except Row.Fault Cells := p.feeds.mapM fun f => f.rule.value n

def rowOf (p : Producer) (v : Value) : Except Row.Fault Cells := p.feeds.mapM fun f => f.rule.valueIn v

def numbers (start stop : Int) : List Int := (List.range (stop - start).toNat).map fun (i : Nat) => start + i

def halves (p : Producer) : Text.Halves :=
  p.feeds.findSome? fun f => match f.rule with
    | .message t => t.halves
    | _ => none

/-- As many rows as the memory of a machine takes. It is no limit of the program. -/
def room : Int := 0x200000000

def rows (p : Producer) (start stop : Int) : Except Fault (List Cells) :=
  if Value.maxIndex < stop - start then .error .tooMany
  else if room < stop - start then .error .noRoom
  else ((numbers start stop).mapM p.row).mapError .row

def batch (p : Producer) (start count : Int) : Except Fault Batch :=
  if start < 0 ∨ count < 0 then .error (.invalidRange (toString start) (toString count))
  else (p.rows start (min (start + count) p.rowCount)).map fun rows => { start := .int start, rows, halves := p.halves }

def batchOf (p : Producer) (start count : Value) : Except Fault Batch := do
  let isBelow := fun (v : Value) => (v.less (.int 0)).mapError Fault.misfit
  if (← isBelow start) || (← isBelow count) then throw (.invalidRange start.plain count.plain)
  let stop ← ((← (start.add count).mapError .arithmetic).lesser (.int p.rowCount)).mapError .misfit
  if ← (start.atLeast stop).mapError .misfit then return { start, rows := [] }
  match start.whole?, stop.whole? with
  | some low, some high => return { start, rows := ← p.rows low high, halves := p.halves }
  | _, _ => throw (.misfit (.noTimes "float"))

end Producer

end LogMill
