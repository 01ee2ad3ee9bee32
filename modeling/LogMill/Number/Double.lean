import LogMill.Kind

/-!
Binary floating point numbers of 64 bits. A finite number is kept as the rational it stands for, and
each operation is the exact one, rounded once to the nearest such number, a tie to the even neighbour.
-/

namespace LogMill

inductive Double where
  | finite (x : Rat)
  | minusZero
  | infinite (negative : Bool)
  | nan
deriving DecidableEq, Inhabited

inductive Double.Fault where
  | infinite
  | nan
deriving DecidableEq

namespace Double

def Fault.message : Fault → String
  | infinite => "cannot convert float infinity to integer"
  | nan => "cannot convert float NaN to integer"

def Fault.kind : Fault → Kind
  | infinite => .overflow
  | nan => .value

instance Fault.explained : Explained Fault := ⟨Fault.kind, Fault.message⟩

def nearestEven (x : Rat) : Int :=
  let rest := x - x.floor
  if rest < 1 / 2 then x.floor
  else if 1 / 2 < rest then x.floor + 1
  else if x.floor % 2 = 0 then x.floor
  else x.floor + 1

def exponent (x : Rat) : Int :=
  let guess : Int := x.num.natAbs.log2 - x.den.log2
  if x < 2 ^ guess then guess - 1 else guess

def gap (x : Rat) : Rat := 2 ^ max (exponent x - 52) (-1074)

def ofRat (x : Rat) : Double :=
  if x = 0 then finite 0
  else
    let y := nearestEven (x / gap x.abs) * gap x.abs
    if y = 0 then if x < 0 then minusZero else finite 0
    else if 2 ^ (1024 : Nat) ≤ y.abs then infinite (x < 0)
    else finite y

def ofInt (n : Int) : Double := ofRat n

def toRat? : Double → Option Rat
  | finite x => some x
  | minusZero => some 0
  | _ => none

def ofInt? (n : Int) : Option Double := if (ofInt n).toRat?.isSome then some (ofInt n) else none

def truncate : Double → Except Fault Int
  | finite x => .ok (if x < 0 then -(-x).floor else x.floor)
  | minusZero => .ok 0
  | infinite _ => .error .infinite
  | nan => .error .nan

def isNegative : Double → Bool
  | finite x => x < 0
  | minusZero => true
  | infinite n => n
  | nan => false

def signed (negative : Bool) (x : Rat) : Double :=
  if x = 0 then if negative then minusZero else finite 0 else ofRat x

def add (a b : Double) : Double :=
  match a, b with
  | nan, _ | _, nan => nan
  | infinite m, infinite n => if m = n then infinite m else nan
  | infinite m, _ | _, infinite m => infinite m
  | minusZero, minusZero => minusZero
  | _, _ => ofRat (a.toRat?.getD 0 + b.toRat?.getD 0)

def neg : Double → Double
  | finite x => if x = 0 then minusZero else finite (-x)
  | minusZero => finite 0
  | infinite n => infinite !n
  | nan => nan

def sub (a b : Double) : Double := a.add b.neg

def mul (a b : Double) : Double :=
  let negative := a.isNegative != b.isNegative
  match a, b with
  | nan, _ | _, nan => nan
  | infinite _, infinite _ => infinite negative
  | infinite _, c | c, infinite _ => if c.toRat? = some 0 then nan else infinite negative
  | _, _ => signed negative (a.toRat?.getD 0 * b.toRat?.getD 0)

def div (a b : Double) : Double :=
  let negative := a.isNegative != b.isNegative
  match a, b with
  | nan, _ | _, nan => nan
  | infinite _, infinite _ => nan
  | infinite _, _ => infinite negative
  | _, infinite _ => signed negative 0
  | _, _ =>
    if b.toRat? = some 0 then if a.toRat? = some 0 then nan else infinite negative
    else signed negative (a.toRat?.getD 0 / b.toRat?.getD 0)

def mod (a b : Double) : Double :=
  match a, b with
  | nan, _ | _, nan | infinite _, _ => nan
  | _, infinite n =>
    if a.toRat? = some 0 then signed n 0 else if a.isNegative = n then a else infinite n
  | _, _ =>
    let x := a.toRat?.getD 0
    let y := b.toRat?.getD 0
    if y = 0 then nan else signed b.isNegative (x - y * (x / y).floor)

instance : Add Double := ⟨add⟩
instance : Sub Double := ⟨sub⟩
instance : Mul Double := ⟨mul⟩
instance : Div Double := ⟨div⟩

def equals : Double → Double → Bool
  | nan, _ | _, nan => false
  | infinite m, infinite n => m == n
  | infinite _, _ | _, infinite _ => false
  | a, b => a.toRat? = b.toRat?

def less : Double → Double → Bool
  | nan, _ | _, nan => false
  | infinite m, infinite n => m && !n
  | infinite m, _ => m
  | _, infinite n => !n
  | a, b => a.toRat?.getD 0 < b.toRat?.getD 0

def signBit : Nat := 0x8000000000000000

def leadingBit : Nat := 0x10000000000000

def toBits : Double → Nat
  | minusZero => signBit
  | infinite n => (if n then signBit else 0) + 0x7FF * leadingBit
  | nan => 0x7FF * leadingBit + leadingBit / 2
  | finite x =>
    if x = 0 then 0
    else
      let units := (x.abs / gap x.abs).floor.toNat
      let e := exponent x.abs
      (if x < 0 then signBit else 0) +
        if e < -1022 then units else (e + 1023).toNat * leadingBit + (units - leadingBit)

end Double

end LogMill
