import LogMill.Number.Whole
import Mathlib.Algebra.GroupWithZero.Nat
import Mathlib.Algebra.Ring.Int.Defs
import Mathlib.Data.List.Forall2
import Mathlib.Tactic.Tauto

namespace LogMill

theorem place_lt_iff {p x y u v : Nat} (hu : u < p) (hv : v < p) : p * x + u < p * y + v ↔ x < y ∨ x = y ∧ u < v := by
  rcases Nat.lt_trichotomy x y with h | rfl | h
  · have hstep : p * (x + 1) ≤ p * y := Nat.mul_le_mul_left p h
    rw [Nat.mul_succ] at hstep
    exact iff_of_true (by omega) (.inl h)
  · simp
  · have hstep : p * (y + 1) ≤ p * x := Nat.mul_le_mul_left p h
    rw [Nat.mul_succ] at hstep
    exact iff_of_false (by omega) (by omega)

theorem append_lt_append_iff {s s' t t' : List Char} (h : s.length = s'.length) :
    s ++ t < s' ++ t' ↔ s < s' ∨ s = s' ∧ t < t' := by
  induction s generalizing s' with
  | nil =>
    obtain rfl := List.eq_nil_of_length_eq_zero h.symm
    simp
  | cons c s ih =>
    cases s' with
    | nil => simp at h
    | cons d s' =>
      rw [List.cons_append, List.cons_append, List.cons_lt_cons_iff, List.cons_lt_cons_iff, List.cons.injEq,
        ih (Nat.succ_inj.mp h)]
      tauto

namespace Whole

variable {s t : List Char}

theorem ofDigitChars_cons (c : Char) (s : List Char) :
    Nat.ofDigitChars 10 (c :: s) 0 = 10 ^ s.length * (c.toNat - 48) + Nat.ofDigitChars 10 s 0 := by
  rw [Nat.ofDigitChars_cons, Nat.ofDigitChars_eq_ofDigitChars_zero, Nat.mul_zero, Nat.zero_add]
  rfl

theorem toNat_of_isDigit {c : Char} (h : c.isDigit) : 48 ≤ c.toNat ∧ c.toNat ≤ 57 := by
  simp only [Char.isDigit, Bool.and_eq_true, decide_eq_true_eq] at h
  exact h

theorem ofDigitChars_lt (h : ∀ c ∈ s, c.isDigit) : Nat.ofDigitChars 10 s 0 < 10 ^ s.length := by
  induction s with
  | nil => decide
  | cons c s ih =>
    obtain ⟨hc, hs⟩ := List.forall_mem_cons.mp h
    have hdigit : c.toNat - 48 + 1 ≤ 10 := by
      have := toNat_of_isDigit hc
      omega
    have hbound := Nat.mul_le_mul_left (10 ^ s.length) hdigit
    have hrest := ih hs
    rw [ofDigitChars_cons, List.length_cons, Nat.pow_succ]
    rw [Nat.mul_succ] at hbound
    omega

theorem digits_lt_iff (hs : ∀ c ∈ s, c.isDigit) (ht : ∀ c ∈ t, c.isDigit) (h : s.length = t.length) :
    s < t ↔ Nat.ofDigitChars 10 s 0 < Nat.ofDigitChars 10 t 0 := by
  induction s generalizing t with
  | nil =>
    obtain rfl := List.eq_nil_of_length_eq_zero h.symm
    simp
  | cons c s ih =>
    cases t with
    | nil => simp at h
    | cons d t =>
      obtain ⟨hc, hs⟩ := List.forall_mem_cons.mp hs
      obtain ⟨hd, ht⟩ := List.forall_mem_cons.mp ht
      have hlength : s.length = t.length := Nat.succ_inj.mp h
      have hless : c < d ↔ c.toNat - 48 < d.toNat - 48 := by
        have := toNat_of_isDigit hc
        have := toNat_of_isDigit hd
        have hvalue : c < d ↔ c.toNat < d.toNat := Iff.rfl
        rw [hvalue]
        omega
      have hsame : c = d ↔ c.toNat - 48 = d.toNat - 48 := by
        have := toNat_of_isDigit hc
        have := toNat_of_isDigit hd
        rw [← Char.toNat_inj]
        omega
      rw [ofDigitChars_cons, ofDigitChars_cons, ← hlength, place_lt_iff (ofDigitChars_lt hs) (hlength ▸ ofDigitChars_lt ht),
        List.cons_lt_cons_iff, hless, hsame, ih hs ht hlength]

theorem digits_inj (hs : ∀ c ∈ s, c.isDigit) (ht : ∀ c ∈ t, c.isDigit) (h : s.length = t.length)
    (hvalue : Nat.ofDigitChars 10 s 0 = Nat.ofDigitChars 10 t 0) : s = t := by
  apply List.le_antisymm
  · rw [← List.not_lt, digits_lt_iff ht hs h.symm]
    omega
  · rw [← List.not_lt, digits_lt_iff hs ht h]
    omega

variable {width m n : Nat}

theorem toList_padded (width n : Nat) : (padded width n).toList = (Nat.toDigits 10 n).leftpad width '0' := by
  rw [padded, if_neg (by omega), String.toList_ofList, Int.natAbs_natCast]

theorem isDigit_of_mem_padded {c : Char} (h : c ∈ (padded width n).toList) : c.isDigit := by
  rw [toList_padded, List.leftpad] at h
  rcases List.mem_append.mp h with h | h
  · rw [List.eq_of_mem_replicate h]
    decide
  · exact Nat.isDigit_of_mem_toDigits (by decide) (by decide) h

theorem length_padded (hwidth : 0 < width) (h : n < 10 ^ width) : (padded width n).toList.length = width := by
  have := (Nat.length_toDigits_le_iff (b := 10) (by decide) hwidth).mpr h
  rw [toList_padded, List.leftpad, List.length_append, List.length_replicate]
  omega

theorem ofDigitChars_padded (width n : Nat) : Nat.ofDigitChars 10 (padded width n).toList 0 = n := by
  rw [toList_padded, List.leftpad, Nat.ofDigitChars_append, Nat.ofDigitChars_replicate_zero, Nat.mul_zero,
    Nat.ofDigitChars_ten_toDigits]

theorem padded_inj : (padded width m).toList = (padded width n).toList ↔ m = n := by
  constructor
  · intro h
    rw [← ofDigitChars_padded width m, h, ofDigitChars_padded]
  · rintro rfl
    rfl

theorem padded_lt_iff (hwidth : 0 < width) (hm : m < 10 ^ width) (hn : n < 10 ^ width) :
    (padded width m).toList < (padded width n).toList ↔ m < n := by
  rw [digits_lt_iff (fun c => isDigit_of_mem_padded) (fun c => isDigit_of_mem_padded)
    ((length_padded hwidth hm).trans (length_padded hwidth hn).symm), ofDigitChars_padded, ofDigitChars_padded]

theorem padded_append_zeros (k : Nat) (hwidth : 0 < width) (h : n < 10 ^ width) :
    (padded width n).toList ++ List.replicate k '0' = (padded (width + k) (n * 10 ^ k : Nat)).toList := by
  have hproduct : n * 10 ^ k < 10 ^ (width + k) := by
    rw [Nat.pow_add]
    exact Nat.mul_lt_mul_of_pos_right h (Nat.pow_pos (by decide))
  apply digits_inj
  · intro c hc
    rcases List.mem_append.mp hc with hc | hc
    · exact isDigit_of_mem_padded hc
    · rw [List.eq_of_mem_replicate hc]
      decide
  · exact fun c => isDigit_of_mem_padded
  · rw [List.length_append, length_padded hwidth h, length_padded (by omega) hproduct, List.length_replicate]
  · rw [Nat.ofDigitChars_append, ofDigitChars_padded, ofDigitChars_padded, Nat.ofDigitChars_replicate_zero, Nat.mul_comm]

end Whole

abbrev Form := List (Nat × List Char)

namespace Form

def write : Form → List Nat → List Char
  | (width, mark) :: form, n :: ns => (Whole.padded width n).toList ++ (mark ++ write form ns)
  | _, _ => []

def read? : Form → List Char → Option (List Nat)
  | [], s => if s = [] then some [] else none
  | (width, mark) :: form, s =>
    let digits := s.take width
    if digits.length = width ∧ digits.all Char.isDigit ∧ mark.isPrefixOf (s.drop width) then
      ((read? form ((s.drop width).drop mark.length)).map (Nat.ofDigitChars 10 digits 0 :: ·))
    else none

def Fits (form : Form) (ns : List Nat) : Prop := List.Forall₂ (fun f n => 0 < f.1 ∧ n < 10 ^ f.1) form ns

variable {form : Form} {ms ns : List Nat}

theorem Fits.read?_write (h : form.Fits ns) : form.read? (form.write ns) = some ns := by
  induction h with
  | nil => rfl
  | @cons f n form ns hn _ ih =>
    obtain ⟨width, mark⟩ := f
    have hlength := Whole.length_padded hn.1 hn.2
    have hdigits : (Whole.padded width n).toList.all Char.isDigit :=
      List.all_eq_true.mpr fun c => Whole.isDigit_of_mem_padded
    simp only [write, read?, List.take_left' hlength, List.drop_left' hlength, hlength, hdigits, List.drop_left,
      List.isPrefixOf_iff_prefix, List.prefix_append, and_self, ↓reduceIte, ih, Option.map_some,
      Whole.ofDigitChars_padded]

theorem Fits.length_write (h : form.Fits ns) :
    (form.write ns).length = (form.map fun f => f.1 + f.2.length).sum := by
  induction h with
  | nil => rfl
  | @cons f n form ns hn _ ih =>
    simp only [write, List.length_append, Whole.length_padded hn.1 hn.2, ih, List.map_cons, List.sum_cons, Nat.add_assoc]

theorem Fits.write_lt_iff (hm : form.Fits ms) (hn : form.Fits ns) : form.write ms < form.write ns ↔ ms < ns := by
  induction hm generalizing ns with
  | nil =>
    cases hn
    simp [write]
  | @cons f m form ms hm _ ih =>
    cases hn with
    | @cons _ n _ ns hn hrest =>
      have hlength := (Whole.length_padded hm.1 hm.2).trans (Whole.length_padded hn.1 hn.2).symm
      rw [write, write, append_lt_append_iff hlength, append_lt_append_iff rfl, Whole.padded_lt_iff hm.1 hm.2 hn.2,
        Whole.padded_inj, ih hrest, List.cons_lt_cons_iff]
      simp only [List.lt_irrefl f.2, false_or, true_and]

end Form

end LogMill
