import LogMill.Pool.Category
import LogMill.Pool.Slot
import LogMill.Random.Draw
import LogMill.Value.Display
import LogMill.Value.Order

namespace LogMill

structure Pool where
  name : String
  values : Array String

inductive Pool.Fault where
  | unknownCategory (name : String)
  | misfit (f : Misfit)
  | arithmetic (f : Arithmetic.Fault)
deriving DecidableEq

def Pool.Fault.message : Pool.Fault → String
  | unknownCategory name => "Unknown pool category: " ++ Text.quoted name
  | misfit f => f.message
  | arithmetic f => f.message

def Pool.Fault.kind : Pool.Fault → Kind
  | unknownCategory _ => .preparation
  | misfit f => f.kind
  | arithmetic f => f.kind

instance Pool.Fault.explained : Explained Pool.Fault := ⟨Pool.Fault.kind, Pool.Fault.message⟩

namespace Pool

def defaultCap : Int := 10000

def sizeFor (rows cap : Int) : Int := if rows ≤ 0 then 0 else max 1 (min cap (2 * rows))

def sizeOf (rows cap : Value) : Except Fault Value := do
  if ← (rows.atMost (.int 0)).mapError .misfit then return .int 0
  let twice ← (rows.times 2).mapError .arithmetic
  let least := if ← (twice.less cap).mapError .misfit then twice else cap
  return if ← ((Value.int 1).less least).mapError .misfit then least else .int 1

def countOf (rows cap : Value) : Except Fault Int := do
  ((← sizeOf rows cap).count).mapError .misfit

def size (p : Pool) : Nat := p.values.size

def get (p : Pool) (index : Int) : Except Slot.Fault String :=
  match (place? p.size index).bind fun i => p.values[i]? with
  | some s => .ok s
  | none => .error .outOfRange

def ofRow (p : Pool) (row : Int) : Except Slot.Fault String := do p.get (← slot? row p.size)

def find (p : Pool) (index : Value) : Except Slot.Fault String := do
  p.get (← (index.index "tuple").mapError .misfit)

def ofValue (p : Pool) (row : Value) : Except Slot.Fault String := do
  p.find (← (slotOf row (.int p.size)).mapError .arithmetic)

def shown (p : Pool) : String :=
  "ValuePool(" ++ Text.quoted p.name ++ ", size=" ++ toString p.size ++ ")"

def identifiers (r : Resource) : (count i : Nat) → Twister → List String × Twister
  | 0, _, t => ([], t)
  | count + 1, i, t =>
    let (n, t) := t.fiveDigits
    let (rest, t) := identifiers r count (i + 1) t
    ((r.label ++ "-" ++ toString (n + i)) :: rest, t)

def names (r : Resource) (count : Nat) : List String :=
  (List.range count).map fun (i : Nat) => nameOf (i + r.shift)

def tokens (k : Token) : (count : Nat) → Twister → List String × Twister
  | 0, t => ([], t)
  | count + 1, t =>
    let (n, t) := t.longWord
    let (rest, t) := tokens k count t
    ((k.lead ++ toString n) :: rest, t)

def draw (c : Category) (count : Nat) (t : Twister) : List String × Twister :=
  match c with
  | .id r => identifiers r count 0 t
  | .name r => (names r count, t)
  | .token k => tokens k count t

def ofSize (c : Category) (size : Int) (t : Twister) : Pool × Twister :=
  let (values, t) := draw c size.toNat t
  (⟨c.column, values.toArray⟩, t)

def build (c : Category) (rows cap : Int) (t : Twister) : Pool × Twister := ofSize c (sizeFor rows cap) t

def buildNamed (name rows cap : Value) (t : Twister) : Except Fault (Pool × Twister) := do
  let size ← sizeOf rows cap
  let .text name := name | throw (.misfit (.noMember name.kindName "rpartition"))
  let some c := Category.ofColumn? name | throw (.unknownCategory name)
  return ofSize c (← size.count.mapError .misfit) t

end Pool

end LogMill
