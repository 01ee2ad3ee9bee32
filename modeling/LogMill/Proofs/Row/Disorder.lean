import LogMill.Proofs.Number.Sorting
import LogMill.Proofs.Pool.Slots

namespace LogMill

open Producer (numbers)

namespace Rule

def timeOf (base spread row : Int) : Int := base + row + (slot row spread % (2 * maxShift) - maxShift)

variable {base spread : Int}

theorem timestamp_value_eq (h : 1 ≤ spread) (base row : Int) :
    (timestamp base spread).value row = .ok (.int (timeOf base spread row)) := by
  have hnz : spread ≠ 0 := by omega
  simp only [value, timestampOf, slot?, hnz, ↓reduceIte]
  rfl

theorem timeOf_bounds (base spread row : Int) :
    base + row - 1000 ≤ timeOf base spread row ∧ timeOf base spread row ≤ base + row + 999 := by
  have hlow := Int.emod_nonneg (slot row spread) (show 2 * maxShift ≠ 0 by decide)
  have hhigh := Int.emod_lt_of_pos (slot row spread) (show 0 < 2 * maxShift by decide)
  simp only [timeOf, maxShift] at *
  omega

theorem near_of_timeOf_le {i j : Int} (h : timeOf base spread j ≤ timeOf base spread i) : j - i ≤ 1999 := by
  have hi := (timeOf_bounds base spread i).2
  have hj := (timeOf_bounds base spread j).1
  omega

end Rule

/-- The times of two rows that follow each other differ by two seconds at most, and a later row with no later time is
less than two thousand rows behind. In a stable sort by time of rows that follow each other, every row ends less than
two thousand places away from where it was. -/
theorem times_nearly_ordered {spread : Int} (h : 1 ≤ spread) (base : Int) :
    ∃ time : Int → Int, (∀ n, (Rule.timestamp base spread).value n = .ok (.int (time n))) ∧
      (∀ i, |time (i + 1) - time i| ≤ 2000) ∧
      (∀ i j, i < j → time j ≤ time i → j - i ≤ 1999) ∧
      ∀ a b, (∃ sorted, StableSort time (numbers a b) sorted) ∧
        ∀ sorted, StableSort time (numbers a b) sorted → ∀ (p q : Nat) (n : Int), sorted[p]? = some n →
          (numbers a b)[q]? = some n → |(p : Int) - q| ≤ 1999 := by
  refine ⟨Rule.timeOf base spread, Rule.timestamp_value_eq h base, fun i => ?_, fun i j _ => Rule.near_of_timeOf_le, ?_⟩
  · have hi := Rule.timeOf_bounds base spread i
    have hnext := Rule.timeOf_bounds base spread (i + 1)
    rw [abs_le]
    omega
  · intro a b
    refine ⟨⟨_, stableSort_mergeSort _ _⟩, fun sorted hsorted p q n => ?_⟩
    exact hsorted.displacement (by decide) fun i j _ => Rule.near_of_timeOf_le

theorem times_nearly_ordered_pair : ∃ time : Int → Int,
    (∀ n, (Rule.timestamp 0 10000).value n = .ok (.int (time n))) ∧ time 283 = 1277 ∧ time 284 = -715 ∧
      |time (283 + 1) - time 283| ≤ 2000 ∧ ∃ sorted, StableSort time (numbers 283 285) sorted ∧
        ∀ (p q : Nat) (n : Int), sorted[p]? = some n → (numbers 283 285)[q]? = some n → |(p : Int) - q| ≤ 1999 := by
  obtain ⟨time, htime, hstep, -, hsort⟩ := times_nearly_ordered (show (1 : Int) ≤ 10000 by decide) 0
  obtain ⟨⟨sorted, hsorted⟩, hplaces⟩ := hsort 283 285
  have hfirst : (Rule.timestamp 0 10000).value 283 = .ok (.int 1277) := rfl
  have hsecond : (Rule.timestamp 0 10000).value 284 = .ok (.int (-715)) := rfl
  refine ⟨time, htime, ?_, ?_, hstep 283, sorted, hsorted, hplaces sorted hsorted⟩
  · exact Value.int.inj (Except.ok.inj ((htime 283).symm.trans hfirst))
  · exact Value.int.inj (Except.ok.inj ((htime 284).symm.trans hsecond))

end LogMill
