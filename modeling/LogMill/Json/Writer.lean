import LogMill.Value.Display

namespace LogMill.Json

open Text (Halves)

def isPlain (h : Halves) (c : Char) : Bool :=
  0x20 ≤ c.toNat && c ≠ '"' && c ≠ '\\' && (h.unit? c).isNone

def written (h : Halves) (c : Char) : String :=
  if isPlain h c then c.toString
  else if c = '"' then "\\\""
  else if c = '\\' then "\\\\"
  else "\\u" ++ Whole.hex 4 (h.code c)

def quoted (h : Halves) (s : String) : String :=
  if s.all (isPlain h) then "\"" ++ s ++ "\"" else "\"" ++ String.join (s.toList.map (written h)) ++ "\""

def numberText : Double → String
  | .nan => "NaN"
  | .infinite negative => if negative then "-Infinity" else "Infinity"
  | x => x.text

mutual

def text (h : Halves) : Value → String
  | .null => "null"
  | .bool b => if b then "true" else "false"
  | .int n => toString n
  | .real x => numberText x
  | .text s => quoted h s
  | .list vs => "[" ++ String.intercalate "," (texts h vs) ++ "]"
  | .object fs => "\x7b" ++ String.intercalate "," (fieldTexts h fs) ++ "\x7d"

def texts (h : Halves) : List Value → List String
  | [] => []
  | v :: vs => text h v :: texts h vs

def fieldTexts (h : Halves) : List (String × Value) → List String
  | [] => []
  | (name, v) :: fs => (quoted h name ++ ":" ++ text h v) :: fieldTexts h fs

end

end LogMill.Json
