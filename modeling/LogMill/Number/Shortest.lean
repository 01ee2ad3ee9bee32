import LogMill.Number.Double
import LogMill.Number.Whole

namespace LogMill.Double

structure Decimal where
  digits : Nat
  scale : Int
deriving DecidableEq

namespace Decimal

def value (d : Decimal) : Rat := d.digits * (10 : Rat) ^ d.scale

def strip : Nat → Decimal → Decimal
  | 0, d => d
  | n + 1, d => if d.digits ≠ 0 ∧ d.digits % 10 = 0 then strip n ⟨d.digits / 10, d.scale + 1⟩ else d

end Decimal

def decimalExponent (x : Rat) : Int :=
  let guess := exponent x * 30103 / 100000
  if (10 : Rat) ^ (guess + 1) ≤ x then guess + 1
  else if (10 : Rat) ^ guess ≤ x then guess
  else guess - 1

def candidates (x : Rat) (scale : Int) : List Decimal :=
  let low := (x / (10 : Rat) ^ scale).floor.toNat
  let rest := x / (10 : Rat) ^ scale - low
  let upFirst := decide (1 / 2 < rest) || (decide (rest = 1 / 2) && low % 2 == 1)
  let below : Decimal := ⟨low, scale⟩
  let above : Decimal := ⟨low + 1, scale⟩
  (if upFirst then [above, below] else [below, above]).filter fun d => ofRat d.value = finite x

def shortest (x : Rat) : Decimal :=
  let top := decimalExponent x
  let found := (List.range 17).findSome? fun n => (candidates x (top - Int.ofNat n)).head?
  (found.getD ⟨(x / (10 : Rat) ^ (top - 17)).floor.toNat, top - 17⟩).strip 20

def Decimal.text (d : Decimal) : String :=
  let digits := Nat.toDigits 10 d.digits
  let top : Int := d.scale + digits.length - 1
  if 16 ≤ top ∨ top < -4 then
    let fraction := if digits.length = 1 then [] else '.' :: digits.drop 1
    let sign := if top < 0 then "-" else "+"
    String.ofList (digits.take 1 ++ fraction) ++ "e" ++ sign ++ Whole.padded 2 top.natAbs
  else if 0 ≤ d.scale then String.ofList (digits ++ List.replicate d.scale.toNat '0') ++ ".0"
  else if 0 ≤ top then
    String.ofList (digits.take (top + 1).toNat ++ '.' :: digits.drop (top + 1).toNat)
  else "0." ++ String.ofList (List.replicate (-top - 1).toNat '0' ++ digits)

def text : Double → String
  | finite x => if x = 0 then "0.0" else (if x < 0 then "-" else "") ++ (shortest x.abs).text
  | minusZero => "-0.0"
  | infinite n => if n then "-inf" else "inf"
  | nan => "nan"

def wholeText (x : Double) : String :=
  match x with
  | infinite n => if n then "-inf" else "inf"
  | nan => "nan"
  | _ =>
    let n := nearestEven (x.toRat?.getD 0)
    if n = 0 ∧ x.isNegative then "-0" else toString n

end LogMill.Double
