import LogMill.Number.Shortest
import LogMill.Number.Whole
import LogMill.Text.Quoted
import LogMill.Value

namespace LogMill.Value

mutual

def shown : Value → String
  | null => "None"
  | bool b => if b then "True" else "False"
  | int n => toString n
  | real x => x.text
  | text s => Text.quoted s
  | list xs => "[" ++ String.intercalate ", " (shownItems xs) ++ "]"
  | object fs => "\x7b" ++ String.intercalate ", " (shownFields fs) ++ "\x7d"

def shownItems : List Value → List String
  | [] => []
  | v :: vs => shown v :: shownItems vs

def shownFields : List (String × Value) → List String
  | [] => []
  | (name, v) :: fs => (Text.quoted name ++ ": " ++ shown v) :: shownFields fs

end

def plain : Value → String
  | text s => s
  | v => v.shown

mutual

def isWritable : Value → Bool
  | int n => n.natAbs < Nat.pow 10 Whole.maxDigits
  | list xs => areWritable xs
  | object fs => fieldsWritable fs
  | null | bool _ | real _ | text _ => true

def areWritable : List Value → Bool
  | [] => true
  | v :: vs => isWritable v && areWritable vs

def fieldsWritable : List (String × Value) → Bool
  | [] => true
  | (_, v) :: fs => isWritable v && fieldsWritable fs

end

def inText (v : Value) : Except Whole.Fault String := if v.isWritable then .ok v.plain else .error .tooManyDigits

end LogMill.Value
