import LogMill.Message.Synthesis
import LogMill.Pool.Set

namespace LogMill

inductive Rule where
  | timestamp (base spread : Int)
  | uid (base : Int)
  | timestampFrom (base spread : Value)
  | uidFrom (base : Value)
  | level
  | user
  | responseTime
  | constant (v : Value)
  | pool (p : Pool)
  | message (t : Table)

inductive Row.Fault where
  | slot (f : Slot.Fault)
  | template (f : Template.Fault)
  | number (f : Whole.Fault)
  | arithmetic (f : Arithmetic.Fault)
deriving DecidableEq

def Row.Fault.message : Row.Fault → String
  | .slot f => f.message
  | .template f => f.message
  | .number f => f.message
  | .arithmetic f => f.message

def Row.Fault.kind : Row.Fault → Kind
  | .slot f => f.kind
  | .template f => f.reason.kind
  | .number _ => .value
  | .arithmetic f => f.kind

instance Row.Fault.explained : Explained Row.Fault := ⟨Row.Fault.kind, Row.Fault.message⟩

namespace Rule

def userCount : Int := 9999

def maxResponseTime : Int := 999

def maxShift : Int := 1000

def forTimestamps (base spread : Value) : Rule :=
  match base, spread with
  | .int base, .int spread => timestamp base spread
  | _, _ => timestampFrom base spread

def forUids (base : Value) : Rule :=
  match base with
  | .int base => uid base
  | _ => uidFrom base

def timestampOf (base spread row : Int) : Except Slot.Fault Int := do
  return base + row + ((← slot? row spread) % (2 * maxShift) - maxShift)

def uidOf (base row : Int) : Except Whole.Fault String := do
  return "log_" ++ (← Whole.text (base + row)) ++ "_" ++ (← Whole.text row)

def userOf (row : Int) : String := "user_" ++ toString (slot row userCount + 1)

def responseTimeOf (row : Int) : Int := row % maxResponseTime + 1

def messageOf (t : Table) (level : Level) (row : Int) : Except Row.Fault Value :=
  ((Message.synthesize t level row).map .text).mapError .template

def timestampIn (base spread row : Value) : Except Arithmetic.Fault Value := do
  let shift ← (← (← slotOf row spread).mod (.int (2 * maxShift))).add (.int (-maxShift))
  (← base.add row).add shift

def part : Value → Except Row.Fault String
  | .int n => (Whole.text n).mapError .number
  | v => .ok v.plain

def uidIn (base row : Value) : Except Row.Fault Value := do
  let time ← (base.add row).mapError .arithmetic
  return .text ("log_" ++ (← part time) ++ "_" ++ (← part row))

def userIn (row : Value) : Except Arithmetic.Fault Value := do
  return .text ("user_" ++ (← (← slotOf row (.int userCount)).add (.int 1)).plain)

def responseTimeIn (row : Value) : Except Arithmetic.Fault Value := do
  (← row.modBy (.joined "str" "int") maxResponseTime).add (.int 1)

def levelIn (row : Value) : Except Row.Fault Level := do
  let place ← (do (← (← row.times 37).add (.int 11)).mod (.int 100)).mapError .arithmetic
  discard ((place.index "tuple").mapError fun f => .slot (.misfit f))
  return Level.ofRow (row.whole?.getD 0)

def value (rule : Rule) (row : Int) : Except Row.Fault Value :=
  match rule with
  | timestamp base spread => ((timestampOf base spread row).map .int).mapError .slot
  | uid base => ((uidOf base row).map .text).mapError .number
  | timestampFrom base spread => (timestampIn base spread (.int row)).mapError .arithmetic
  | uidFrom base => uidIn base (.int row)
  | level => .ok (.text (Level.ofRow row).name)
  | user => .ok (.text (userOf row))
  | responseTime => .ok (.int (responseTimeOf row))
  | constant v => .ok v
  | pool p => ((p.ofRow row).map .text).mapError .slot
  | message t => messageOf t (Level.ofRow row) row

def valueIn (rule : Rule) (row : Value) : Except Row.Fault Value :=
  match rule, row with
  | rule, .int n => rule.value n
  | timestamp base spread, row => (timestampIn (.int base) (.int spread) row).mapError .arithmetic
  | uid base, row => uidIn (.int base) row
  | timestampFrom base spread, row => (timestampIn base spread row).mapError .arithmetic
  | uidFrom base, row => uidIn base row
  | level, row => do return .text (← levelIn row).name
  | user, row => (userIn row).mapError .arithmetic
  | responseTime, row => (responseTimeIn row).mapError .arithmetic
  | constant v, _ => .ok v
  | pool p, row => ((p.ofValue row).map .text).mapError .slot
  | message t, row => do messageOf t (← levelIn row) (row.whole?.getD 0)

def own? (table : Table) (base spread : Value) (column : String) : Option Rule :=
  [("ts", forTimestamps base spread), ("log_uid", forUids base), ("log_message", message table),
    ("log_level", level), ("user_id", user), ("response_time_ms", responseTime),
    ("log_source", constant (.text "application")), ("version", constant (.text "v1.0.0"))].lookup column

end Rule

end LogMill
