import LogMill.Proofs.Row.Drain
import Mathlib.Algebra.Order.Ring.Int
import Mathlib.Algebra.Order.Group.Abs
import Mathlib.Data.List.Pairwise

namespace LogMill

open Producer (numbers)

/-- The elements of a list in the order of their keys, where equal keys keep their order. -/
structure StableSort {α : Type} (key : α → Int) (l sorted : List α) : Prop where
  perm : sorted.Perm l
  ordered : sorted.Pairwise fun a b => key a ≤ key b
  stable : ∀ k, sorted.filter (key · = k) = l.filter (key · = k)

variable {α : Type} {key : α → Int} {l sorted : List α}

theorem stableSort_mergeSort (key : α → Int) (l : List α) :
    StableSort key l (l.mergeSort fun a b => key a ≤ key b) := by
  have htrans (a b c : α) (hab : decide (key a ≤ key b)) (hbc : decide (key b ≤ key c)) : decide (key a ≤ key c) := by
    simp only [decide_eq_true_eq] at *
    omega
  have htotal (a b : α) : decide (key a ≤ key b) || decide (key b ≤ key a) := by
    simp only [Bool.or_eq_true, decide_eq_true_eq]
    omega
  refine ⟨List.mergeSort_perm _ _, ?_, fun k => ?_⟩
  · simpa using List.pairwise_mergeSort htrans htotal l
  · have hsame : (l.filter (key · = k)).Pairwise fun a b => decide (key a ≤ key b) := by
      rw [List.pairwise_filter]
      apply List.pairwise_of_forall
      intro a b ha hb
      simp_all
    have hsub := (List.sublist_mergeSort htrans htotal hsame List.filter_sublist).filter (key · = k)
    rw [List.filter_filter] at hsub
    simp only [Bool.and_self] at hsub
    symm
    apply hsub.eq_of_length
    exact (((List.mergeSort_perm l fun a b => key a ≤ key b).filter _).length_eq).symm

theorem StableSort.lexicographic (h : StableSort key l sorted) {R : α → α → Prop} (hl : l.Pairwise R) :
    sorted.Pairwise fun a b => key a < key b ∨ key a = key b ∧ R a b := by
  rw [List.pairwise_iff_forall_sublist]
  intro a b hab
  have hle := List.pairwise_iff_forall_sublist.mp h.ordered hab
  rcases Int.lt_or_eq_of_le hle with hlt | heq
  · exact .inl hlt
  · have hsub := hab.filter (key · = key b)
    rw [h.stable] at hsub
    simp only [heq, decide_true, List.filter_cons_of_pos, List.filter_nil] at hsub
    exact .inr ⟨heq, List.pairwise_iff_forall_sublist.mp hl (hsub.trans List.filter_sublist)⟩

namespace Producer

theorem pairwise_numbers (a b : Int) : (numbers a b).Pairwise (· < ·) := by
  rw [numbers, List.pairwise_map]
  apply List.pairwise_lt_range.imp
  intro i j hij
  omega

theorem countP_numbers {a b c : Int} (hac : a ≤ c) (hcb : c ≤ b) : (numbers a b).countP (· < c) = (c - a).toNat := by
  have hfront : (numbers a c).countP (· < c) = (numbers a c).length := by
    rw [List.countP_eq_length]
    exact fun n hn => decide_eq_true (mem_numbers.mp hn).2
  have hback : (numbers c b).countP (· < c) = 0 := by
    rw [List.countP_eq_zero]
    intro n hn
    have := (mem_numbers.mp hn).1
    simp only [decide_eq_true_eq]
    omega
  rw [← numbers_append hac hcb, List.countP_append, hfront, hback, length_numbers, Nat.add_zero]

end Producer

theorem StableSort.displacement {key : Int → Int} {a b : Int} {sorted : List Int}
    (h : StableSort key (numbers a b) sorted) {distance : Int} (hdistance : 0 ≤ distance)
    (hnear : ∀ i j, i < j → key j ≤ key i → j - i ≤ distance) {p q : Nat} {n : Int} (hp : sorted[p]? = some n)
    (hq : (numbers a b)[q]? = some n) : |(p : Int) - q| ≤ distance := by
  obtain ⟨hlow, hhigh⟩ := Producer.mem_numbers.mp (List.mem_of_getElem? hq)
  have hplace : n = a + q := by
    have hlt := (List.getElem?_eq_some_iff.mp hq).1
    rw [Producer.length_numbers] at hlt
    exact Option.some.inj (hq.symm.trans (Producer.getElem?_numbers (by omega)))
  obtain ⟨front, back, rfl, rfl⟩ : ∃ front back, sorted = front ++ n :: back ∧ front.length = p := by
    obtain ⟨hlt, rfl⟩ := List.getElem?_eq_some_iff.mp hp
    exact ⟨sorted.take p, sorted.drop (p + 1), by simp, List.length_take_of_le (Nat.le_of_lt hlt)⟩
  obtain ⟨-, hback, hfront⟩ := List.pairwise_append.mp (h.lexicographic (Producer.pairwise_numbers a b))
  have hbefore (m : Int) (hm : m ∈ front) : m < n + distance + 1 := by
    have := hfront m hm n (by simp)
    have := hnear n m
    omega
  have hafter (m : Int) (hm : m ∈ back) : ¬ m < n - distance := by
    have := (List.pairwise_cons.mp hback).1 m hm
    have := hnear m n
    omega
  have hfar (c : Int) (hac : a ≤ c) (hcb : c ≤ b) : (front ++ n :: back).countP (· < c) = (c - a).toNat := by
    rw [h.perm.countP_eq, Producer.countP_numbers hac hcb]
  rw [abs_le]
  constructor
  · -- All numbers further down stand in front.
    by_cases hfirst : n - distance < a
    · omega
    have hcount := hfar (n - distance) (by omega) (by omega)
    have hle := List.countP_le_length (p := (· < n - distance)) (l := front)
    have hnone : back.countP (· < n - distance) = 0 := by
      rw [List.countP_eq_zero]
      exact fun m hm => by simpa using hafter m hm
    rw [List.countP_append, List.countP_cons_of_neg (by simpa using hdistance), hnone] at hcount
    omega
  · -- Nothing that stands in front is further up.
    by_cases hlast : b < n + distance + 1
    · have hlength := h.perm.length_eq
      rw [Producer.length_numbers, List.length_append, List.length_cons] at hlength
      omega
    have hcount := hfar (n + distance + 1) (by omega) (by omega)
    have hall : front.countP (· < n + distance + 1) = front.length := by
      rw [List.countP_eq_length]
      exact fun m hm => decide_eq_true (hbefore m hm)
    rw [List.countP_append, List.countP_cons_of_pos (p := (· < n + distance + 1)) (decide_eq_true (by omega)),
      hall] at hcount
    omega

end LogMill
