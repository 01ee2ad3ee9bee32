import LogMill.Value.Display
import LogMill.Value.Misfit

namespace LogMill

inductive Level where
  | info
  | debug
  | warn
  | error
deriving DecidableEq, Repr

namespace Level

def all : List Level := [info, debug, warn, error]

def name : Level → String
  | info => "INFO"
  | debug => "DEBUG"
  | warn => "WARN"
  | error => "ERROR"

def weight : Level → Nat
  | info => 84
  | debug => 10
  | warn => 5
  | error => 1

def slots : List Level := all.flatMap fun l => List.replicate l.weight l

theorem length_slots : slots.length = 100 := by decide

/-- The level of a row. A step of 37 slots a row visits each slot once in any hundred rows. -/
def ofRow (row : Int) : Level :=
  slots.get ⟨((row * 37 + 11) % 100).toNat, by rw [length_slots]; omega⟩

inductive Fault where
  | unknown (shown : String)
  | misfit (f : Misfit)
deriving DecidableEq

def Fault.message : Fault → String
  | unknown shown => "Unknown log level: " ++ shown
  | misfit f => f.message

def Fault.kind : Fault → Kind
  | unknown _ => .value
  | misfit f => f.kind

instance Fault.explained : Explained Fault := ⟨Fault.kind, Fault.message⟩

def ofName? (s : String) : Option Level := all.find? fun l => l.name = s

def ofValue (v : Value) : Except Fault Level := do
  match (← v.key?.mapError .misfit).bind ofName? with
  | some l => return l
  | none => throw (.unknown v.shown)

end Level

structure PerLevel (α : Type) where
  info : α
  debug : α
  warn : α
  error : α

def PerLevel.get {α : Type} (p : PerLevel α) : Level → α
  | .info => p.info
  | .debug => p.debug
  | .warn => p.warn
  | .error => p.error

end LogMill
