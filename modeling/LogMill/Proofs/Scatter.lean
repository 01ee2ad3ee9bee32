import LogMill.Scatter
import Mathlib.Logic.Function.Basic

namespace LogMill

theorem injective_mul_of_inverse {w : Nat} {c d : BitVec w} (h : c * d = 1#w) :
    Function.Injective fun x : BitVec w => x * c := by
  intro x y hxy
  have hback (z : BitVec w) : z * c * d = z := by rw [BitVec.mul_assoc, h, BitVec.mul_one]
  rw [← hback x, ← hback y]
  exact congrArg (· * d) hxy

theorem injective_xor_shift (w : Nat) {n : Nat} (hn : 0 < n) : Function.Injective fun x : BitVec w => x ^^^ (x >>> n) := by
  intro x y h
  -- From the highest bit downwards: the shift brings in a bit that is known already.
  have hbit (k i : Nat) (hk : w ≤ i + k) : x.getLsbD i = y.getLsbD i := by
    induction k generalizing i with
    | zero => rw [BitVec.getLsbD_of_ge x i hk, BitVec.getLsbD_of_ge y i hk]
    | succ k ih =>
      have hhigh : x.getLsbD (n + i) = y.getLsbD (n + i) := ih (n + i) (by omega)
      have hxor := congrArg (fun z => z.getLsbD i) h
      simpa [hhigh] using hxor
  apply BitVec.eq_of_getLsbD_eq
  intro i _
  exact hbit w i (Nat.le_add_left w i)

theorem mix_injective : Function.Injective mix :=
  (injective_xor_shift 32 (show 0 < 13 by decide)).comp <|
    (injective_mul_of_inverse (d := 0xA5CB9243#32) (show 0x85EBCA6B#32 * 0xA5CB9243#32 = 1#32 by decide)).comp <|
      (injective_xor_shift 32 (show 0 < 16 by decide)).comp <|
        injective_mul_of_inverse (d := 0x0E8B2F51#32) (show 0x9E3779B1#32 * 0x0E8B2F51#32 = 1#32 by decide)

theorem scatter_eq_iff {row row' : Int} (salt : Int) :
    scatter row salt = scatter row' salt ↔ row % 0x100000000 = row' % 0x100000000 := by
  rw [scatter, scatter, BitVec.toNat_inj, mix_injective.eq_iff, ← BitVec.toNat_inj, BitVec.toNat_ofInt,
    BitVec.toNat_ofInt]
  omega

theorem pick_eq_iff {α : Type} {k : Nat} {xs : Vector α (k + 1)} (h : xs.toList.Nodup) (m n : Nat) :
    pick xs m = pick xs n ↔ m % (k + 1) = n % (k + 1) := by
  have hm := Nat.mod_lt m (Nat.succ_pos k)
  have hn := Nat.mod_lt n (Nat.succ_pos k)
  change xs[m % (k + 1)] = xs[n % (k + 1)] ↔ _
  rw [← Vector.getElem_toList (by simpa using hm), ← Vector.getElem_toList (by simpa using hn), List.getElem_inj h]

theorem pick_of_forall {α : Type} {k : Nat} {xs : Vector α (k + 1)} {P : α → Prop} (h : ∀ x ∈ xs.toList, P x)
    (n : Nat) : P (pick xs n) := by
  apply h
  rw [pick, Vector.mem_toList_iff]
  exact Vector.getElem_mem _

end LogMill
