import LogMill.Random.Digest
import LogMill.Random.Twister

namespace LogMill.Twister

def seedWords (n : Nat) : List UInt32 :=
  (List.range (max 1 ((n.log2 + 32) / 32))).map fun i => (n >>> (32 * i)).toUInt32

def ofSeed (n : Nat) : Twister := ofKey (seedWords n)

def ofText (s : String) : Twister :=
  let bytes := s.toUTF8.toList
  ofSeed ((bytes ++ Digest.hash bytes).foldl (fun n b => 256 * n + b.toNat) 0)

/-- The number of draws after which a number in range is made from the last one by its remainder. -/
def maxTries : Nat := 1000

def below (limit bits : Nat) : (tries : Nat) → Twister → Nat × Twister
  | 0, t => (t.draw.1.toNat % limit, t.draw.2)
  | tries + 1, t =>
    let n := t.draw.1.toNat >>> (32 - bits)
    if n < limit then (n, t.draw.2) else below limit bits tries t.draw.2

theorem below_lt (limit bits tries : Nat) (t : Twister) (h : 0 < limit) :
    (below limit bits tries t).1 < limit := by
  induction tries generalizing t with
  | zero => exact Nat.mod_lt _ h
  | succ n ih =>
    simp only [below]
    split
    · assumption
    · exact ih _

def fiveDigits (t : Twister) : Nat × Twister := below 100000 17 maxTries t

def longWord (t : Twister) : Nat × Twister :=
  let low := t.draw
  let high := low.2.draw
  (low.1.toNat + 0x100000000 * high.1.toNat, high.2)

theorem longWord_lt (t : Twister) : (longWord t).1 < 0x10000000000000000 := by
  have h1 := t.draw.1.toNat_lt
  have h2 := t.draw.2.draw.1.toNat_lt
  simp only [longWord]
  omega

end LogMill.Twister
