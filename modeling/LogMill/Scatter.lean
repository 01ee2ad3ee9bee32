namespace LogMill

def mix (x : BitVec 32) : BitVec 32 :=
  let y := x * 0x9E3779B1#32
  let z := (y ^^^ (y >>> 16)) * 0x85EBCA6B#32
  z ^^^ (z >>> 13)

def scatter (row salt : Int) : Nat := (mix (BitVec.ofInt 32 (row + salt * 0x632BE5AB))).toNat

theorem scatter_lt (row salt : Int) : scatter row salt < 0x100000000 := BitVec.isLt _

def pick {α : Type} {k : Nat} (xs : Vector α (k + 1)) (n : Nat) : α :=
  xs.get ⟨n % (k + 1), Nat.mod_lt _ (Nat.succ_pos _)⟩

end LogMill
