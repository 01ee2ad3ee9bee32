import LogMill.Row.Rule
import LogMill.Schema

namespace LogMill

structure Feed where
  column : String
  rule : Rule

namespace Feed

inductive Fault where
  | noFeed (column : String)
deriving DecidableEq

def Fault.message : Fault → String
  | noFeed column => Text.quoted column

instance Fault.explained : Explained Fault := ⟨fun _ => .key, Fault.message⟩

def forColumn (pools : PoolSet) (table : Table) (base spread : Value) (column : String) : Except Fault Feed :=
  match pools.find? column with
  | some p => .ok ⟨column, .pool p⟩
  | none =>
    match Rule.own? table base spread column with
    | some rule => .ok ⟨column, rule⟩
    | none => .error (.noFeed column)

def allOver (pools : PoolSet) (table : Table) (base spread : Value) : Except Fault (List Feed) :=
  Schema.names.mapM (forColumn pools table base spread)

def all (pools : PoolSet) (table : Table) (base : Value) : Except Fault (List Feed) :=
  allOver pools table base (.int pools.size)

end Feed

end LogMill
