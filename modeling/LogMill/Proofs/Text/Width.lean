import LogMill.Number.Whole
import Mathlib.Algebra.GroupWithZero.Nat
import Mathlib.Algebra.Ring.Int.Defs
import Mathlib.Logic.Function.Defs
import Std.Data.String.ToInt

namespace LogMill.Text

def isInk (c : Char) : Bool := '!' ≤ c && c ≤ '~' && c ≠ '{' && c ≠ '}'

def isLine (c : Char) : Bool := isInk c || c = ' '

def isPage (c : Char) : Bool := isLine c || c = '\n' || c = '\t'

def isAscii (c : Char) : Bool := c.toNat < 128

theorem isLine_of_isInk {c : Char} (h : isInk c) : isLine c := by simp [isLine, h]

theorem isPage_of_isLine {c : Char} (h : isLine c) : isPage c := by simp [isPage, h]

theorem isAscii_of_isInk {c : Char} (h : isInk c) : isAscii c := by
  simp only [isInk, Bool.and_eq_true, decide_eq_true_eq] at h
  exact decide_eq_true (Nat.lt_of_le_of_lt (UInt32.le_iff_toNat_le.mp h.1.1.2) (by decide))

theorem isAscii_of_isPage {c : Char} (h : isPage c) : isAscii c := by
  simp only [isPage, isLine, Bool.or_eq_true, decide_eq_true_eq] at h
  rcases h with ((h | rfl) | rfl) | rfl
  · exact isAscii_of_isInk h
  all_goals decide

structure Within (p : Char → Bool) (width : Nat) (s : String) : Prop where
  kind : s.toList.all p
  length_le : s.length ≤ width

instance (p : Char → Bool) (width : Nat) (s : String) : Decidable (Within p width s) :=
  decidable_of_iff (s.toList.all p ∧ s.length ≤ width) ⟨fun h => ⟨h.1, h.2⟩, fun h => ⟨h.kind, h.length_le⟩⟩

variable {p q : Char → Bool} {k l : Nat} {s t : String}

namespace Within

theorem of_mem (h : Within p k s) {c : Char} (hc : c ∈ s.toList) : p c := List.all_eq_true.mp h.kind c hc

theorem not_mem (h : Within p k s) {c : Char} (hc : p c = false) : c ∉ s.toList := by
  intro hmem
  rw [h.of_mem hmem] at hc
  exact absurd hc (by decide)

theorem weaken (h : Within p k s) (hl : k ≤ l) (hp : ∀ {c}, p c → q c) : Within q l s := by
  refine ⟨List.all_eq_true.mpr ?_, Nat.le_trans h.length_le hl⟩
  intro c hc
  exact hp (h.of_mem hc)

theorem widen (h : Within p k s) (hl : k ≤ l) : Within p l s := h.weaken hl id

theorem append (hs : Within p k s) (ht : Within p l t) : Within p (k + l) (s ++ t) := by
  have := hs.length_le
  have := ht.length_le
  refine ⟨?_, ?_⟩
  · simp only [String.toList_append, List.all_append, hs.kind, ht.kind, Bool.and_self]
  · rw [String.length_append]
    omega

theorem join {ss : List String} (h : ∀ s ∈ ss, Within p k s) : Within p (ss.length * k) (String.join ss) := by
  induction ss with
  | nil => exact ⟨rfl, Nat.zero_le _⟩
  | cons s ss ih =>
    have hss := ih fun s hs => h s (List.mem_cons_of_mem _ hs)
    rw [String.join_cons, List.length_cons, Nat.succ_mul, Nat.add_comm]
    exact (h s (by simp)).append hss

end Within

theorem isInk_of_isDigit {c : Char} (h : c.isDigit) : isInk c := by
  simp only [Char.isDigit, Bool.and_eq_true, decide_eq_true_eq] at h
  simp only [isInk, Bool.and_eq_true, decide_eq_true_eq, Char.le_def]
  refine ⟨⟨⟨?_, ?_⟩, ?_⟩, ?_⟩
  · exact UInt32.le_trans (by decide) h.1
  · exact UInt32.le_trans h.2 (by decide)
  all_goals
    rintro rfl
    exact absurd h.2 (by decide)

theorem isDigit_of_mem_toString {n : Nat} {c : Char} (hc : c ∈ (toString n).toList) : c.isDigit := by
  rw [Nat.toString_eq_repr, Nat.toList_repr] at hc
  exact Nat.isDigit_of_mem_toDigits (by decide) (by decide) hc

theorem within_nat {n : Nat} (hk : 0 < k) (h : n < 10 ^ k) : Within isInk k (toString n) := by
  refine ⟨List.all_eq_true.mpr ?_, (Nat.length_repr_le_iff hk).mpr h⟩
  intro c hc
  exact isInk_of_isDigit (isDigit_of_mem_toString hc)

theorem within_int {n : Int} (hk : 0 < k) (hn : 0 ≤ n) (h : n < 10 ^ k) : Within isInk k (toString n) := by
  obtain ⟨m, rfl⟩ := Int.eq_ofNat_of_zero_le hn
  exact within_nat hk (by exact_mod_cast h)

end LogMill.Text

namespace LogMill.Whole

open Text

def hexDigit (c : Char) : Nat := if c.isDigit then c.toNat - 48 else c.toNat - 87

def hexNumber (s : List Char) : Nat := s.foldl (fun n c => 16 * n + hexDigit c) 0

theorem hexDigit_digitChar {d : Nat} (h : d < 16) : hexDigit d.digitChar = d ∧ isInk d.digitChar := by
  have : ∀ d : Fin 16, hexDigit (Nat.digitChar d) = d ∧ isInk (Nat.digitChar d) := by decide
  exact this ⟨d, h⟩

theorem toDigits_hex (n : Nat) : hexNumber (Nat.toDigits 16 n) = n ∧ (Nat.toDigits 16 n).all isInk := by
  induction n using Nat.base_induction 16 (by decide) with
  | single d hd =>
    have hdigit := hexDigit_digitChar hd
    simp [Nat.toDigits_of_lt_base hd, hexNumber, hdigit]
  | digit n d hd hn ih =>
    have hdigit := hexDigit_digitChar hd
    rw [← Nat.toDigits_append_toDigits (by decide) hn hd, Nat.toDigits_of_lt_base hd]
    simp only [hexNumber] at ih
    simp only [hexNumber, List.foldl_append, ih, List.foldl_cons, List.foldl_nil, hdigit, List.all_append,
      List.all_cons, List.all_nil, Bool.and_self, and_self]

theorem hexNumber_hex (width n : Nat) : hexNumber (hex width n).toList = n := by
  have hzeros (k : Nat) : (List.replicate k '0').foldl (fun n c => 16 * n + hexDigit c) 0 = 0 := by
    induction k with
    | zero => rfl
    | succ k ih => exact ih
  rw [hex, String.toList_ofList, List.leftpad, hexNumber, List.foldl_append, hzeros]
  exact (toDigits_hex n).1

theorem hex_injective (width : Nat) : Function.Injective (hex width) := by
  intro m n h
  rw [← hexNumber_hex width m, h, hexNumber_hex]

theorem length_hex {width n : Nat} (hwidth : 0 < width) (h : n < 16 ^ width) : (hex width n).length = width := by
  have := (Nat.length_toDigits_le_iff (b := 16) (by decide) hwidth).mpr h
  simp only [hex, String.length_ofList, List.leftpad, List.length_append, List.length_replicate]
  omega

theorem within_hex {width n : Nat} (hwidth : 0 < width) (h : n < 16 ^ width) : Within isInk width (hex width n) := by
  refine ⟨?_, Nat.le_of_eq (length_hex hwidth h)⟩
  rw [hex, String.toList_ofList, List.leftpad, List.all_append, (toDigits_hex n).2, Bool.and_true]
  simp [isInk]

end LogMill.Whole
