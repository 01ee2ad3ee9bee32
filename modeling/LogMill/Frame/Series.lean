import LogMill.Value.Display

namespace LogMill

inductive SeriesType where
  | whole
  | natural
  | real
  | bool
  | text
  | mixed
deriving DecidableEq, Repr

namespace SeriesType

def maxWhole : Int := 0x7FFFFFFFFFFFFFFF

def minWhole : Int := -0x8000000000000000

def maxNatural : Int := 0xFFFFFFFFFFFFFFFF

def isText : Value → Bool
  | .text _ => true
  | _ => false

def isBool : Value → Bool
  | .bool _ => true
  | _ => false

def isReal : Value → Bool
  | .real _ => true
  | _ => false

def isNull : Value → Bool
  | .null => true
  | _ => false

def isMissing : Value → Bool
  | .null | .real .nan => true
  | _ => false

def isNested : Value → Bool
  | .list _ | .object _ => true
  | _ => false

def wholes (cells : List Value) : List Int :=
  cells.filterMap fun
    | .int n => some n
    | _ => none

def fits (cells : List Value) : Bool :=
  (wholes cells).all (fun n => minWhole ≤ n && n ≤ maxNatural) &&
    !((wholes cells).any (· < 0) && (wholes cells).any (maxWhole < ·))

def ofNumbers (cells : List Value) : SeriesType :=
  if cells.all isNull || !fits cells then mixed
  else if cells.any isNull || cells.any isReal then real
  else if (wholes cells).any (maxWhole < ·) then natural
  else whole

def ofCells (cells : List Value) : SeriesType :=
  if cells.any isNested then mixed
  else if cells.any isText then
    if cells.all fun v => isText v || isMissing v then text else mixed
  else if cells.any isBool then
    if cells.all isBool then bool else mixed
  else ofNumbers cells

def cell (t : SeriesType) (v : Value) : Value :=
  match t, v with
  | real, .int n => .real (.ofInt n)
  | real, .null => .real .nan
  | _, v => v

end SeriesType

end LogMill
