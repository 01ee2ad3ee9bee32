import LogMill.Row.Feed
import LogMill.Proofs.Outcome
import Mathlib.Algebra.Group.Nat.Defs
import Std.Data.String.ToInt

namespace LogMill

open Outcome

namespace Whole

theorem text_eq_ok {n : Int} {s : String} (h : text n = .ok s) : s = toString n := by
  unfold text at h
  split_ifs at h
  simpa using h.symm

theorem text_of_lt {n : Int} (h : n.natAbs < Nat.pow 10 maxDigits) : text n = .ok (toString n) := by
  simp only [text, h, ↓reduceIte]

theorem lt_limit_of_text {n : Int} {s : String} (h : text n = .ok s) : n.natAbs < Nat.pow 10 maxDigits := by
  unfold text at h
  split_ifs at h with hn
  exact hn

theorem lt_limit {n k d : Nat} (h : n < 10 ^ k) (hk : k ≤ d) : n < Nat.pow 10 d :=
  Nat.lt_of_lt_of_le h (Nat.pow_le_pow_right (by decide) hk)

theorem underscore_not_mem (n : Int) : '_' ∉ (toString n).toList := by
  change '_' ∉ n.repr.toList
  rw [Int.repr_eq_if]
  split
  · simp [Nat.toList_repr, Nat.underscore_not_in_toDigits]
  · simp [Nat.toList_repr, Nat.underscore_not_in_toDigits]

end Whole

theorem eq_of_append_underscore {a b x y : List Char} (h : x ++ '_' :: a = y ++ '_' :: b) (ha : '_' ∉ a)
    (hb : '_' ∉ b) : a = b := by
  have back {a x : List Char} (ha : '_' ∉ a) : (x ++ '_' :: a).reverse.takeWhile (· ≠ '_') = a.reverse := by
    have hall : ∀ c ∈ a.reverse, (c ≠ '_' : Bool) = true := by
      intro c hc
      have hne : c ≠ '_' := fun he => ha (he ▸ List.mem_reverse.mp hc)
      simpa using hne
    simp only [List.reverse_append, List.reverse_cons, List.append_assoc, List.takeWhile_append_of_pos hall]
    simp
  have hr := congrArg (fun s => s.reverse.takeWhile (· ≠ '_')) h
  simp only [back ha, back hb] at hr
  exact List.reverse_injective hr

namespace Rule

def uidText (time : String) (row : Int) : String := "log_" ++ time ++ "_" ++ toString row

theorem uidText_injective {time time' : String} {m n : Int} (h : uidText time m = uidText time' n) : m = n := by
  have hl := congrArg String.toList h
  simp only [uidText, String.toList_append] at hl
  have hr := eq_of_append_underscore (x := "log_".toList ++ time.toList) (y := "log_".toList ++ time'.toList)
    (by simpa using hl) (Whole.underscore_not_mem m) (Whole.underscore_not_mem n)
  exact Int.repr_injective (String.toList_injective hr)

theorem forUids_value {base : Value} {row : Int} {v : Value} (h : (forUids base).value row = .ok v) :
    ∃ time, v = .text (uidText time row) := by
  unfold forUids at h
  split at h
  · simp only [value, mapError_eq_ok, map_eq_ok, uidOf, bind_eq_ok, pure, Except.pure, Except.ok.injEq] at h
    obtain ⟨_, ⟨time, _, number, hn, rfl⟩, rfl⟩ := h
    exact ⟨time, by rw [Whole.text_eq_ok hn]; rfl⟩
  · simp only [value, uidIn, part, bind_eq_ok, mapError_eq_ok, pure, Except.pure, Except.ok.injEq] at h
    obtain ⟨_, _, time, _, number, hn, rfl⟩ := h
    exact ⟨time, by rw [Whole.text_eq_ok hn]; rfl⟩

end Rule

end LogMill
