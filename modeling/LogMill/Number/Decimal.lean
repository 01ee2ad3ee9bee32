import LogMill.Number.Double
import LogMill.Number.Whole

namespace LogMill.Double

open Text

def scaled (negative : Bool) (digits : Nat) (scale : Int) : Double :=
  let top := scale + (Nat.toDigits 10 digits).length
  if digits = 0 ∨ top < -400 then if negative then minusZero else finite 0
  else if 400 < top then infinite negative
  else
    let x := digits * (10 : Rat) ^ scale
    match ofRat (if negative then -x else x) with
    | finite y => if y = 0 ∧ negative then minusZero else finite y
    | d => d

def run (s : List Char) : Option (List Char) := if s.isEmpty then some [] else Whole.digitsOf s

def isMark (c : Char) : Bool := c = 'e' || c = 'E'

def readDigits (negative : Bool) (s : List Char) : Option Double := do
  let front := s.takeWhile fun c => !isMark c
  let power ← match s.drop front.length with
    | [] => some 0
    | _ :: s => Whole.readSigned s
  let whole ← run (front.takeWhile (· ≠ '.'))
  let fraction ← run ((front.dropWhile (· ≠ '.')).drop 1)
  if whole.isEmpty && fraction.isEmpty then none
  let n ← Whole.digitsValue (whole ++ fraction)
  return scaled negative n (power - fraction.length)

def read (s : List Char) : Option Double :=
  let (negative, s) := Whole.signed (trim isBlank s)
  let word := String.ofList (s.map Char.toLower)
  if word = "nan" then some nan
  else if word = "inf" || word = "infinity" then some (infinite negative)
  else readDigits negative s

end LogMill.Double
