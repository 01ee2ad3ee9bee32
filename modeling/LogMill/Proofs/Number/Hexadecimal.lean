import LogMill.Proofs.Text.Width
import Mathlib.Data.List.Induction

namespace LogMill.Whole

def isHexDigit (c : Char) : Bool := c.isDigit || 'a' ≤ c && c ≤ 'f'

variable {s t : List Char}

theorem hexDigit_spec {c : Char} (h : isHexDigit c) : hexDigit c < 16 ∧ (hexDigit c).digitChar = c := by
  simp only [isHexDigit, Char.isDigit, Char.le_def, Bool.or_eq_true, Bool.and_eq_true, decide_eq_true_eq,
    UInt32.le_iff_toNat_le] at h
  have hall : ∀ n : Fin 128, (48 ≤ n.val ∧ n.val ≤ 57 ∨ 97 ≤ n.val ∧ n.val ≤ 102) →
      hexDigit (Char.ofNat n) < 16 ∧ (hexDigit (Char.ofNat n)).digitChar = Char.ofNat n := by decide
  have hc : 48 ≤ c.toNat ∧ c.toNat ≤ 57 ∨ 97 ≤ c.toNat ∧ c.toNat ≤ 102 := h
  have hchar := hall ⟨c.toNat, by omega⟩ hc
  rwa [Char.ofNat_toNat] at hchar

theorem isHexDigit_digitChar {d : Nat} (h : d < 16) : isHexDigit d.digitChar := by
  have hall : ∀ d : Fin 16, isHexDigit (Nat.digitChar d) := by decide
  exact hall ⟨d, h⟩

theorem hexNumber_append (s : List Char) (c : Char) : hexNumber (s ++ [c]) = 16 * hexNumber s + hexDigit c := by
  simp [hexNumber]

theorem hexNumber_lt (hs : ∀ c ∈ s, isHexDigit c) : hexNumber s < 16 ^ s.length := by
  induction s using List.reverseRecOn with
  | nil => decide
  | append_singleton s c ih =>
    have hlast := (hexDigit_spec (hs c (by simp))).1
    have hfront := ih fun c hc => hs c (by simp [hc])
    rw [hexNumber_append, List.length_append, List.length_singleton, Nat.pow_succ]
    omega

theorem hexNumber_inj (hs : ∀ c ∈ s, isHexDigit c) (ht : ∀ c ∈ t, isHexDigit c) (hlength : s.length = t.length)
    (h : hexNumber s = hexNumber t) : s = t := by
  induction s using List.reverseRecOn generalizing t with
  | nil => exact (List.eq_nil_of_length_eq_zero hlength.symm).symm
  | append_singleton s c ih =>
    obtain ⟨t, d, rfl⟩ : ∃ front last, t = front ++ [last] := by
      obtain rfl | ⟨front, last, ht⟩ := List.eq_nil_or_concat t
      · simp at hlength
      · exact ⟨front, last, by simpa using ht⟩
    obtain ⟨hc, hc'⟩ := hexDigit_spec (hs c (by simp))
    obtain ⟨hd, hd'⟩ := hexDigit_spec (ht d (by simp))
    rw [hexNumber_append, hexNumber_append] at h
    have hlast : hexDigit c = hexDigit d := by omega
    have hfront : s = t := ih (fun c hc => hs c (by simp [hc])) (fun c hc => ht c (by simp [hc]))
      (by simpa using hlength) (by omega)
    rw [hfront, ← hc', ← hd', hlast]

theorem isHexDigit_of_mem_toDigits (n : Nat) : ∀ c ∈ Nat.toDigits 16 n, isHexDigit c := by
  induction n using Nat.base_induction 16 (by decide) with
  | single d hd => simpa [Nat.toDigits_of_lt_base hd] using isHexDigit_digitChar hd
  | digit n d hd hn ih =>
    rw [← Nat.toDigits_append_toDigits (by decide) hn hd, Nat.toDigits_of_lt_base hd]
    intro c hc
    rcases List.mem_append.mp hc with hc | hc
    · exact ih c hc
    · rw [List.mem_singleton.mp hc]
      exact isHexDigit_digitChar hd

theorem isHexDigit_of_mem_hex {width n : Nat} {c : Char} (h : c ∈ (hex width n).toList) : isHexDigit c := by
  rw [hex, String.toList_ofList, List.leftpad] at h
  rcases List.mem_append.mp h with h | h
  · rw [List.eq_of_mem_replicate h]
    decide
  · exact isHexDigit_of_mem_toDigits n c h

theorem hex_hexNumber {text : String} (hpos : 0 < text.length) (h : ∀ c ∈ text.toList, isHexDigit c) :
    hex text.length (hexNumber text.toList) = text := by
  have hlt := hexNumber_lt h
  rw [String.length_toList] at hlt
  apply String.toList_injective
  apply hexNumber_inj (fun c hc => isHexDigit_of_mem_hex hc) h
  · rw [String.length_toList, String.length_toList, length_hex hpos hlt]
  · exact hexNumber_hex _ _

end LogMill.Whole
