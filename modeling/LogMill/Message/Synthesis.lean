import LogMill.Message.Detail
import LogMill.Message.Trace
import LogMill.Template.Table

/-!
The message of a row: a filled template, for an error perhaps a stack trace, and details up to the least
length. What goes beyond the greatest length is cut off. Row number, level and table decide all of it. The level
and the row may also be given as values of any kind, the level by its name.
-/

namespace LogMill.Message

def targetLength : Nat := 1500

def maxLength : Nat := 1650

def trace (level : Level) (row : Int) : String :=
  if level = .error ∧ Trace.isDue row then Trace.text row else ""

def whole (table : Table) (level : Level) (row : Int) : Except Template.Fault String := do
  let values := fun p => Placeholder.value row p
  let body ← (table.choose level row).fill values
  let start := body ++ trace level row
  return start ++ String.join (Detail.padding values (scatter row 14) (targetLength - start.length))

def cut (s : String) : String :=
  if s.length ≤ maxLength then s else String.ofList (s.toList.take maxLength)

def synthesize (table : Table) (level : Level) (row : Int) : Except Template.Fault String :=
  (whole table level row).map cut

inductive Fault where
  | level (f : Level.Fault)
  | row (f : Misfit)
  | template (f : Template.Fault)
deriving DecidableEq

def Fault.message : Fault → String
  | level f => f.message
  | row f => f.message
  | template f => f.message

def Fault.kind : Fault → Kind
  | level f => f.kind
  | row f => f.kind
  | template f => f.reason.kind

instance Fault.explained : Explained Fault := ⟨Fault.kind, Fault.message⟩

def ofValues (table : Table) (level row : Value) : Except Fault String := do
  let level ← (Level.ofValue level).mapError .level
  let row ← row.row.mapError .row
  (synthesize table level row).mapError .template

end LogMill.Message
