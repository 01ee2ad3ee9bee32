import LogMill.Number.Double

namespace LogMill

inductive Value where
  | null
  | bool (b : Bool)
  | int (n : Int)
  | real (x : Double)
  | text (s : String)
  | list (items : List Value)
  | object (fields : List (String × Value))
deriving Inhabited

namespace Value

def isPresent : Value → Bool
  | null => false
  | bool b => b
  | int n => n ≠ 0
  | real x => x.toRat? ≠ some 0
  | text s => s ≠ ""
  | list xs => !xs.isEmpty
  | object fs => !fs.isEmpty

def kindName : Value → String
  | null => "NoneType"
  | bool _ => "bool"
  | int _ => "int"
  | real _ => "float"
  | text _ => "str"
  | list _ => "list"
  | object _ => "dict"

def text? : Value → Option String
  | text s => some s
  | _ => none

def number? : Value → Option Double
  | bool b => some (.finite (if b then 1 else 0))
  | int n => some (.finite n)
  | real x => some x
  | _ => none

def equalsInt (v : Value) (n : Int) : Bool :=
  (v.number?.bind Double.toRat?) = some (n : Rat)

def put (name : String) (v : Value) : List (String × Value) → List (String × Value)
  | [] => [(name, v)]
  | (n, w) :: fs => if n = name then (n, v) :: fs else (n, w) :: put name v fs

mutual

def hasChar (p : Char → Bool) : Value → Bool
  | text s => s.any p
  | list vs => hasCharItems p vs
  | object fs => hasCharFields p fs
  | _ => false

def hasCharItems (p : Char → Bool) : List Value → Bool
  | [] => false
  | v :: vs => hasChar p v || hasCharItems p vs

def hasCharFields (p : Char → Bool) : List (String × Value) → Bool
  | [] => false
  | (name, v) :: fs => name.any p || hasChar p v || hasCharFields p fs

end

def get? (v : Value) (name : String) : Option Value :=
  match v with
  | object fs => fs.lookup name
  | _ => none

end Value

end LogMill
