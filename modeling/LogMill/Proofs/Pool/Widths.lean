import LogMill.Pool.Set
import LogMill.Proofs.Outcome
import LogMill.Proofs.Scatter
import LogMill.Proofs.Text.Width

namespace LogMill

open Outcome Text

theorem within_label (r : Resource) : Within isInk 9 r.label := by cases r <;> decide

theorem within_lead (k : Token) : Within isInk 8 k.lead := by cases k <;> decide

theorem within_nameOf (n : Int) : Within isInk 12 (nameOf n) := by
  have hword : Within isInk 9 (pick suffixes (n % 36).toNat) := pick_of_forall (by decide) _
  have hnumber : Within isInk 3 (toString (n % 1000)) := within_int (by decide) (by omega) (by omega)
  exact hword.append hnumber

namespace Pool

theorem within_identifiers {r : Resource} {count i : Nat} (h : i + count ≤ 0x10000000000000000) (t : Twister) :
    ∀ s ∈ (identifiers r count i t).1, Within isInk 30 s := by
  induction count generalizing i t with
  | zero => simp [identifiers]
  | succ count ih =>
    have hdrawn : t.fiveDigits.1 < 100000 := Twister.below_lt _ _ _ _ (by decide)
    have hnumber : Within isInk 20 (toString (t.fiveDigits.1 + i)) := within_nat (by decide) (by omega)
    have hdash : Within isInk 1 "-" := by decide
    simp only [identifiers, List.forall_mem_cons]
    exact ⟨((within_label r).append hdash).append hnumber, ih (by omega) _⟩

theorem within_tokens (k : Token) (count : Nat) (t : Twister) : ∀ s ∈ (tokens k count t).1, Within isInk 28 s := by
  induction count generalizing t with
  | zero => simp [tokens]
  | succ count ih =>
    have hdrawn := t.longWord_lt
    have hnumber : Within isInk 20 (toString t.longWord.1) := within_nat (by decide) (by omega)
    simp only [tokens, List.forall_mem_cons]
    exact ⟨(within_lead k).append hnumber, ih _⟩

theorem within_draw {c : Category} {count : Nat} (h : count ≤ 0x10000000000000000) (t : Twister) :
    ∀ s ∈ (draw c count t).1, Within isInk 32 s := by
  intro s hs
  cases c with
  | id r => exact (within_identifiers (by omega) t s hs).widen (by decide)
  | name r =>
    obtain ⟨i, -, rfl⟩ := List.mem_map.mp hs
    exact (within_nameOf _).widen (by decide)
  | token k => exact (within_tokens k count t s hs).widen (by decide)

theorem mem_of_ofRow {p : Pool} {row : Int} {s : String} (h : p.ofRow row = .ok s) : s ∈ p.values.toList := by
  obtain ⟨place, -, hget⟩ := bind_eq_ok.mp h
  unfold get at hget
  split at hget
  · rename_i hfound
    obtain ⟨i, -, hi⟩ := Option.bind_eq_some_iff.mp hfound
    obtain rfl := Except.ok.inj hget
    exact Array.mem_toList_iff.mpr (Array.mem_of_getElem? hi)
  · exact absurd hget (by simp)

end Pool

theorem PoolSet.within_poolFor {seed : Value} {size row : Int} {c : Category} {s : String}
    (hsize : size ≤ 0x10000000000000000) (h : (poolFor seed size c).ofRow row = .ok s) : Within isInk 32 s := by
  have hmem := Pool.mem_of_ofRow h
  simp only [poolFor, Pool.ofSize] at hmem
  exact Pool.within_draw (by omega) _ s hmem

end LogMill
