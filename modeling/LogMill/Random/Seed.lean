import LogMill.Number.Double
import LogMill.Random.Draw
import LogMill.Value.Misfit

namespace LogMill

namespace Residue

def bits : Nat := 61

def modulus : Nat := Nat.pow 2 bits - 1

def ofInfinity : Nat := 314159

def ofFraction (x : Rat) : Nat :=
  (x.num.natAbs % modulus) * Nat.pow 2 ((bits - x.den.log2 % bits) % bits) % modulus

def ofDouble : Double → Int
  | .finite x =>
    if x < 0 then if ofFraction x = 1 then -2 else -(ofFraction x : Int) else ofFraction x
  | .minusZero | .nan => 0
  | .infinite negative => if negative then -(ofInfinity : Int) else ofInfinity

end Residue

namespace Twister

def ofValue : Value → Except Misfit Twister
  | .null => .ok (ofSeed 0)
  | .bool b => .ok (ofSeed b.toNat)
  | .int n => .ok (ofSeed n.natAbs)
  | .real x => .ok (ofSeed (Residue.ofDouble x % 0x10000000000000000).toNat)
  | .text s => .ok (ofText s)
  | .list _ | .object _ => .error .noSeed

end Twister

end LogMill
