import LogMill.Scatter
import LogMill.Value.Arithmetic

namespace LogMill.Value

open Arithmetic

def scaled (v : Value) (k : Int) : Except Fault Value :=
  match v with
  | text _ | list _ => .ok v
  | v => v.times k

def scatter (row salt : Value) : Except Fault Nat := do
  let sum ← row.add (← salt.scaled 0x632BE5AB)
  let product ← sum.scaled 0x9E3779B1
  match row.whole?, salt.whole? with
  | some r, some s => return LogMill.scatter r s
  | _, _ => throw (.misfit (.operands "&" product.kindName "int"))

end LogMill.Value
