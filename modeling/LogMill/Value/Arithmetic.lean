import LogMill.Value.Misfit

namespace LogMill

inductive Arithmetic.Fault where
  | misfit (f : Misfit)
  | byZero (areWhole : Bool)
  | tooLarge
deriving DecidableEq

namespace Arithmetic

def Fault.message : Fault → String
  | misfit f => f.message
  | byZero areWhole => if areWhole then "integer modulo by zero" else "float modulo"
  | tooLarge => "int too large to convert to float"

def Fault.kind : Fault → Kind
  | misfit f => f.kind
  | byZero _ => .division
  | tooLarge => .overflow

instance Fault.explained : Explained Fault := ⟨Fault.kind, Fault.message⟩

inductive Pair where
  | whole (m n : Int)
  | real (x y : Double)

end Arithmetic

namespace Value

open Arithmetic

def whole? : Value → Option Int
  | int n => some n
  | bool b => some (if b then 1 else 0)
  | _ => none

def toReal (misfit : Misfit) (v : Value) : Except Fault Double :=
  match v, v.whole? with
  | _, some n => (Double.ofInt? n).elim (.error .tooLarge) .ok
  | real x, none => .ok x
  | _, none => .error (.misfit misfit)

def pair (misfit : Misfit) (v w : Value) : Except Fault Pair :=
  match v.whole?, w.whole? with
  | some m, some n => .ok (.whole m n)
  | _, _ =>
    if v.number?.isNone || w.number?.isNone then .error (.misfit misfit)
    else do return .real (← v.toReal misfit) (← w.toReal misfit)

def add (v w : Value) : Except Fault Value :=
  match v, w with
  | text s, text t => .ok (.text (s ++ t))
  | list xs, list ys => .ok (.list (xs ++ ys))
  | text _, _ | list _, _ => .error (.misfit (.joined v.kindName w.kindName))
  | _, _ => do
    match ← pair (.operands "+" v.kindName w.kindName) v w with
    | .whole m n => return .int (m + n)
    | .real x y => return .real (x + y)

def sub (v w : Value) : Except Fault Value := do
  match ← pair (.operands "-" v.kindName w.kindName) v w with
  | .whole m n => return .int (m - n)
  | .real x y => return .real (x - y)

def times (v : Value) (k : Int) : Except Fault Value :=
  match v with
  | text s => .ok (.text (String.join (List.replicate k.toNat s)))
  | list xs => .ok (.list (List.replicate k.toNat xs).flatten)
  | _ => do
    match ← pair (.operands "*" v.kindName "int") v (.int k) with
    | .whole m n => return .int (m * n)
    | .real x y => return .real (x * y)

def mod (v w : Value) : Except Fault Value := do
  match ← pair (.operands "%" v.kindName w.kindName) v w with
  | .whole m n => if n = 0 then throw (.byZero true) else return .int (Int.fmod m n)
  | .real x y => if y.toRat? = some 0 then throw (.byZero false) else return .real (x.mod y)

def modBy (misfit : Misfit) (v : Value) (n : Int) : Except Fault Value :=
  match v with
  | text s => .error (.misfit ((Marks.fault? s).elim misfit .marks))
  | v => v.mod (.int n)

end Value

end LogMill
