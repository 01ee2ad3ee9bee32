import LogMill.Value.Arithmetic

namespace LogMill

def slot (row length : Int) : Int := Int.fmod (row * 7 + 13) length

inductive Slot.Fault where
  | emptyPool
  | outOfRange
  | misfit (f : Misfit)
  | arithmetic (f : Arithmetic.Fault)
deriving DecidableEq

def Slot.Fault.message : Slot.Fault → String
  | emptyPool => "integer modulo by zero"
  | outOfRange => "tuple index out of range"
  | misfit f => f.message
  | arithmetic f => f.message

def Slot.Fault.kind : Slot.Fault → Kind
  | emptyPool => .division
  | outOfRange => .index
  | misfit f => f.kind
  | arithmetic f => f.kind

instance Slot.Fault.explained : Explained Slot.Fault := ⟨Slot.Fault.kind, Slot.Fault.message⟩

def slot? (row length : Int) : Except Slot.Fault Int :=
  if length = 0 then .error .emptyPool else .ok (slot row length)

def slotOf (row length : Value) : Except Arithmetic.Fault Value := do
  (← (← row.times 7).add (.int 13)).mod length

def place? (length : Nat) (index : Int) : Option Nat :=
  let i := if index < 0 then index + length else index
  if 0 ≤ i ∧ i < length then some i.toNat else none

end LogMill
