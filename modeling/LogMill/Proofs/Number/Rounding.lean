import LogMill.Number.Double
import Mathlib.Algebra.Order.Field.Power
import Mathlib.Data.Rat.Cast.Order
import Mathlib.Tactic.Linarith
import Mathlib.Tactic.Positivity
import Mathlib.Tactic.Ring

/-!
Rounding to floating point numbers: a number of normal size is changed by one part in 2 ^ 53 at most. Numbers that
are further apart than that keep their order, unless both are beyond the greatest finite one.
-/

namespace LogMill.Double

theorem nearestEven_error (x : Rat) : |(nearestEven x : Rat) - x| ≤ 1 / 2 := by
  have hlow := Rat.floor_le x
  have hhigh : x - 1 < x.floor := Rat.lt_floor
  simp only [nearestEven]
  rw [abs_le]
  split_ifs <;> push_cast <;> constructor <;> linarith

theorem two_pow_log2_bounds {n d : Nat} (hn : n ≠ 0) (hd : d ≠ 0) :
    (2 : Rat) ^ ((n.log2 : Int) - d.log2 - 1) < n / d ∧ (n / d : Rat) < 2 ^ ((n.log2 : Int) - d.log2 + 1) := by
  have hpos : (0 : Rat) < d := by exact_mod_cast Nat.pos_of_ne_zero hd
  have hn₁ : (2 : Rat) ^ n.log2 ≤ n := by exact_mod_cast Nat.log2_self_le hn
  have hn₂ : (n : Rat) < 2 ^ (n.log2 + 1) := by exact_mod_cast Nat.lt_log2_self
  have hd₁ : (2 : Rat) ^ d.log2 ≤ d := by exact_mod_cast Nat.log2_self_le hd
  have hd₂ : (d : Rat) < 2 ^ (d.log2 + 1) := by exact_mod_cast Nat.lt_log2_self
  have hlow : (2 : Rat) ^ ((n.log2 : Int) - d.log2 - 1) = 2 ^ n.log2 / 2 ^ (d.log2 + 1) := by
    rw [← zpow_natCast, ← zpow_natCast, ← zpow_sub₀ two_ne_zero]
    congr 1
    omega
  have hhigh : (2 : Rat) ^ ((n.log2 : Int) - d.log2 + 1) = 2 ^ (n.log2 + 1) / 2 ^ d.log2 := by
    rw [← zpow_natCast, ← zpow_natCast, ← zpow_sub₀ two_ne_zero]
    congr 1
    omega
  constructor
  · rw [hlow]
    exact div_lt_div₀' hn₁ hd₂ (by positivity) hpos
  · rw [hhigh]
    exact div_lt_div₀ hn₂ hd₁ (by positivity) (by positivity)

theorem exponent_bounds {x : Rat} (h : 0 < x) : 2 ^ exponent x ≤ x ∧ x < 2 ^ (exponent x + 1) := by
  have hnum : (x.num.natAbs : Rat) = x.num := by
    rw [← Int.cast_natCast, Int.natCast_natAbs, abs_of_pos (Rat.num_pos.mpr h)]
  have hbounds := two_pow_log2_bounds (Int.natAbs_ne_zero.mpr (Rat.num_ne_zero.mpr h.ne')) x.den_ne_zero
  rw [hnum, Rat.num_div_den] at hbounds
  simp only [exponent]
  split_ifs with hless
  · rw [sub_add_cancel]
    exact ⟨hbounds.1.le, hless⟩
  · exact ⟨not_lt.mp hless, hbounds.2⟩

theorem gap_pos (x : Rat) : 0 < gap x := zpow_pos two_pos _

theorem gap_le {x : Rat} (h : 2 ^ (-1022 : Int) ≤ x) : gap x ≤ x / 2 ^ 52 := by
  have hpos : 0 < x := (zpow_pos two_pos _).trans_le h
  obtain ⟨hlow, hhigh⟩ := exponent_bounds hpos
  have hexponent : -1022 < exponent x + 1 := (zpow_lt_zpow_iff_right₀ one_lt_two).mp (h.trans_lt hhigh)
  have hgap : gap x = 2 ^ exponent x / 2 ^ 52 := by
    rw [gap, max_eq_left (by omega), zpow_sub₀ two_ne_zero]
    rfl
  rw [hgap]
  gcongr

theorem normal_of_le {x : Rat} (h : 1 / 2 ^ 30 ≤ x) : 2 ^ (-1022 : Int) ≤ x := by
  refine le_trans ?_ h
  rw [show (1 / 2 ^ 30 : Rat) = 2 ^ (-30 : Int) by norm_num]
  exact zpow_le_zpow_right₀ one_le_two (by decide)

def rounded (x : Rat) : Rat := nearestEven (x / gap x) * gap x

theorem rounded_error {x : Rat} (h : 2 ^ (-1022 : Int) ≤ x) : |rounded x - x| ≤ x / 2 ^ 53 := by
  have hgap := gap_pos x
  have herror : rounded x - x = (nearestEven (x / gap x) - x / gap x) * gap x := by
    rw [rounded, sub_mul, div_mul_cancel₀ _ hgap.ne']
  calc |rounded x - x| = |(nearestEven (x / gap x) : Rat) - x / gap x| * gap x := by
        rw [herror, abs_mul, abs_of_pos hgap]
    _ ≤ 1 / 2 * (x / 2 ^ 52) := by gcongr; exacts [nearestEven_error _, gap_le h]
    _ = x / 2 ^ 53 := by ring

theorem rounded_bounds {x : Rat} (h : 2 ^ (-1022 : Int) ≤ x) :
    x * (1 - 1 / 2 ^ 53) ≤ rounded x ∧ rounded x ≤ x * (1 + 1 / 2 ^ 53) := by
  have herror := abs_le.mp (rounded_error h)
  constructor <;> linarith

theorem rounded_pos {x : Rat} (h : 2 ^ (-1022 : Int) ≤ x) : 0 < rounded x := by
  have hpos : 0 < x := (zpow_pos two_pos _).trans_le h
  exact lt_of_lt_of_le (mul_pos hpos (by norm_num)) (rounded_bounds h).1

theorem ofRat_eq {x : Rat} (h : 2 ^ (-1022 : Int) ≤ x) :
    ofRat x = if 2 ^ 1024 ≤ rounded x then infinite false else finite (rounded x) := by
  have hpos : 0 < x := (zpow_pos two_pos _).trans_le h
  have hrounded := rounded_pos h
  simp only [ofRat, hpos.ne', ↓reduceIte, Rat.abs_of_nonneg hpos.le]
  change (if rounded x = 0 then _ else if 2 ^ 1024 ≤ (rounded x).abs then _ else _) = _
  simp only [hrounded.ne', ↓reduceIte, Rat.abs_of_nonneg hrounded.le, not_lt.mpr hpos.le, decide_false]
  rfl

theorem ofRat_of_le {x : Rat} (h : 2 ^ (-1022 : Int) ≤ x) (hsmall : x ≤ 2 ^ 32) : ofRat x = finite (rounded x) := by
  have hbound : rounded x ≤ 2 ^ 33 := by
    have := (rounded_bounds h).2
    linarith
  have hless : rounded x < 2 ^ 1024 := hbound.trans_lt (pow_lt_pow_right₀ one_lt_two (by decide))
  rw [ofRat_eq h, if_neg (not_le.mpr hless)]

theorem eq_of_ofInt? {n : Int} {x : Double} (hn : 2 ^ (-1022 : Int) ≤ (n : Rat)) (h : ofInt? n = some x) :
    x = finite (rounded n) := by
  simp only [ofInt?, ofInt, ofRat_eq hn] at h
  split_ifs at h with _ hfinite
  · cases hfinite
  · exact (Option.some.inj h).symm

theorem div_finite {x y : Rat} (hx : 0 < x) (hy : 0 < y) : finite x / finite y = ofRat (x / y) := by
  have hquotient : x / y ≠ 0 := (div_pos hx hy).ne'
  change div (finite x) (finite y) = _
  simp only [div, toRat?, Option.some.injEq, Option.getD_some, hy.ne', signed, hquotient, ↓reduceIte]

theorem zero_less_ofRat {x : Rat} (h : 2 ^ (-1022 : Int) ≤ x) : (finite 0).less (ofRat x) := by
  rw [ofRat_eq h]
  split_ifs
  · rfl
  · exact decide_eq_true (rounded_pos h)

theorem less_ofRat {x y : Rat} (hx : 2 ^ (-1022 : Int) ≤ x) (hy : 2 ^ (-1022 : Int) ≤ y) (h : rounded x < rounded y) :
    (ofRat x).less (ofRat y) ∨ ofRat x = infinite false ∧ ofRat y = infinite false := by
  rw [ofRat_eq hx, ofRat_eq hy]
  split_ifs with hx' hy' hy'
  · exact .inr ⟨rfl, rfl⟩
  · exact absurd (hx'.trans h.le) hy'
  · exact .inl rfl
  · exact .inl (decide_eq_true h)

end LogMill.Double
