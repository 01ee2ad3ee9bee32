import LogMill.Message.Detail
import LogMill.Template.Table
import LogMill.Proofs.Scatter
import LogMill.Proofs.Template.Phrases
import LogMill.Proofs.Text.Width

namespace LogMill

open Text

namespace Placeholder

def width : Placeholder → Nat
  | user => 10
  | ip => 15
  | time => 4
  | size => 6
  | count => 3
  | table => 9
  | id => 8
  | service => 20
  | status => 7

theorem within_addressText (h : Nat) : Within isInk 15 (addressText h) := by
  have hfirst : Within isInk 3 (toString (h / 256 % 256)) := within_nat (by decide) (by omega)
  have hlast : Within isInk 3 (toString (h % 256)) := within_nat (by decide) (by omega)
  have hlead : Within isInk 8 "192.168." := by decide
  have hdot : Within isInk 1 "." := by decide
  exact ((hlead.append hfirst).append hdot).append hlast

theorem within_sizeText (h : Nat) : Within isInk 6 (sizeText h) := by
  simp only [sizeText]
  split
  · decide
  · have hkb : Within isInk 4 (toString (1 + h % 1024)) := within_nat (by decide) (by omega)
    exact hkb.append (show Within isInk 2 "KB" by decide)

theorem within_value (row : Int) (p : Placeholder) : Within isInk p.width (value row p) := by
  cases p with
  | user =>
    have hnumber : Within isInk 5 (toString (10000 + scatter row 1 % 1000)) := within_nat (by decide) (by omega)
    exact (show Within isInk 5 "user_" by decide).append hnumber
  | ip => exact within_addressText _
  | time => exact within_nat (by decide) (show 1 + scatter row 3 % 4999 < 10000 by omega)
  | size => exact within_sizeText _
  | count => exact within_nat (by decide) (show 1 + scatter row 5 % 999 < 1000 by omega)
  | table => exact pick_of_forall (by decide) _
  | id => exact Whole.within_hex (by decide) (scatter_lt row 7)
  | service => exact pick_of_forall (by decide) _
  | status => exact pick_of_forall (by decide) _

end Placeholder

def Chunk.width : Chunk → Nat
  | text s => s.length
  | slot p => p.width

def Phrase.width (p : Phrase) : Nat := (List.map Chunk.width p).sum

theorem Chunk.within_fill {c : Chunk} (hc : c.isLine) {values : Placeholder → String}
    (hv : ∀ p, Within isInk p.width (values p)) : Within Text.isLine c.width (c.fill values) := by
  cases c with
  | text s => exact ⟨hc, Nat.le_refl _⟩
  | slot p => exact (hv p).weaken (Nat.le_refl _) isLine_of_isInk

theorem Phrase.within_fill {p : Phrase} (hp : p.all Chunk.isLine) {values : Placeholder → String}
    (hv : ∀ p, Within isInk p.width (values p)) : Within Text.isLine p.width (p.fill values) := by
  induction p with
  | nil => exact ⟨rfl, Nat.zero_le _⟩
  | cons c p ih =>
    simp only [List.all_cons, Bool.and_eq_true] at hp
    simp only [fill, width, List.map_cons, String.join_cons, List.sum_cons]
    exact (Chunk.within_fill hp.1 hv).append (ih hp.2)

theorem Builtin.width_le {level : Level} {p : Phrase} (hp : p ∈ ofLevel level) : p.width ≤ 230 := by
  have hall : ∀ level ∈ Level.all, ∀ p ∈ ofLevel level, Phrase.width p ≤ 230 := by decide +kernel
  exact hall level (by cases level <;> decide) p hp

theorem Detail.within_fragment (row : Int) (n : Nat) : Within Text.isLine 100 (fragment (Placeholder.value row) n) := by
  have hall : ∀ p ∈ fragments.toList, p.all Chunk.isLine ∧ Phrase.width p ≤ 100 := by decide +kernel
  obtain ⟨hline, hwidth⟩ := pick_of_forall hall n
  exact (Phrase.within_fill hline (Placeholder.within_value row)).widen hwidth

end LogMill
