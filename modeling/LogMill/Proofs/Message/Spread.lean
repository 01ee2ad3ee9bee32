import LogMill.Message.Trace
import LogMill.Proofs.Number.Hexadecimal
import LogMill.Proofs.Number.Period
import LogMill.Proofs.Scatter
import LogMill.Template.Placeholder
import Mathlib.Data.FinEnum

namespace LogMill

open Finset

theorem mix_bijective : Function.Bijective mix := Finite.injective_iff_bijective.mp mix_injective

theorem exists_scatter_iff (salt : Int) {h : Nat} (hh : h < 0x100000000) :
    ∃ row₀, ∀ row, scatter row salt = h ↔ row ≡ row₀ [ZMOD 0x100000000] := by
  obtain ⟨x, hx⟩ := mix_bijective.surjective (BitVec.ofNat 32 h)
  have hscatter : scatter (x.toInt - salt * 0x632BE5AB) salt = h := by
    rw [scatter, Int.sub_add_cancel, BitVec.ofInt_toInt, hx, BitVec.toNat_ofNat]
    exact Nat.mod_eq_of_lt hh
  refine ⟨x.toInt - salt * 0x632BE5AB, fun row => ?_⟩
  rw [← hscatter]
  exact scatter_eq_iff salt

theorem existsUnique_scatter (salt s : Int) {h : Nat} (hh : h < 0x100000000) :
    ∃! row, row ∈ Ico s (s + 0x100000000) ∧ scatter row salt = h := by
  obtain ⟨row₀, hrow₀⟩ := exists_scatter_iff salt hh
  have hcard := Window.card_modEq (show (0 : Int) < 0x100000000 by decide) 1 s row₀
  simp only [Nat.cast_one, Int.one_mul, card_eq_one, singleton_iff_unique_mem, mem_filter] at hcard
  simpa only [hrow₀] using hcard

theorem card_scatter (P : Int → Prop) [DecidablePred P] (salt s : Int) :
    ((Ico s (s + 0x100000000)).filter fun row => P (scatter row salt)).card = Window.count P 0 0x100000000 := by
  rw [Window.count_eq_card]
  apply card_bij fun row _ => (scatter row salt : Int)
  · intro row hrow
    have hlt := scatter_lt row salt
    rw [mem_filter] at hrow
    rw [mem_filter, mem_Ico]
    exact ⟨by omega, hrow.2⟩
  · intro row hrow row' hrow' heq
    have hunique := existsUnique_scatter salt s (scatter_lt row' salt)
    exact hunique.unique ⟨(mem_filter.mp hrow).1, Int.natCast_inj.mp heq⟩ ⟨(mem_filter.mp hrow').1, rfl⟩
  · intro h hh
    obtain ⟨hbounds, hP⟩ := mem_filter.mp hh
    rw [mem_Ico] at hbounds
    obtain ⟨row, ⟨hrow, heq⟩, -⟩ := existsUnique_scatter salt s (show h.toNat < 0x100000000 by omega)
    have hcast : (scatter row salt : Int) = h := by omega
    exact ⟨row, mem_filter.mpr ⟨hrow, hcast ▸ hP⟩, hcast⟩

theorem count_percent : Window.count (fun h => h % 100 < Trace.percent) 0 0x100000000 = 3006477110 := by
  have hrepeats : Window.Repeats (fun h => h % 100 < Trace.percent) 100 := by
    intro h
    simp
  have hcount := hrepeats.count_eq 0 42949672 96
  have hwhole : Window.count (fun h => h % 100 < Trace.percent) 0 100 = 70 := by decide
  have hrest : Window.count (fun h => h % 100 < Trace.percent) 0 96 = 70 := by decide
  rw [hwhole, hrest] at hcount
  exact hcount

/-- The hash of a row has 32 bits, for each salt, and is that of another row exactly if both have the same last 32 bits.
So any 2 ^ 32 consecutive rows have each text of eight hexadecimal digits as an identifier once, and no other text, and
seven in ten of them are due a stack trace. -/
theorem hash_spreads :
    (∀ row salt, 0 ≤ (scatter row salt : Int) ∧ (scatter row salt : Int) < 0x100000000) ∧
    (∀ row row' salt, scatter row salt = scatter row' salt ↔ row ≡ row' [ZMOD 0x100000000]) ∧
    (∀ (s : Int) (text : String),
      (∃! row, row ∈ Ico s (s + 0x100000000) ∧ Placeholder.value row .id = text) ↔
        text.length = 8 ∧ text.toList.all Whole.isHexDigit) ∧
    ∀ s, ((Ico s (s + 0x100000000)).filter fun row => Trace.isDue row).card = 3006477110 := by
  refine ⟨fun row salt => ⟨by omega, ?_⟩, fun row row' salt => scatter_eq_iff salt, fun s text => ⟨?_, ?_⟩, fun s => ?_⟩
  · exact_mod_cast scatter_lt row salt
  · rintro ⟨row, ⟨-, rfl⟩, -⟩
    refine ⟨Whole.length_hex (by decide) (scatter_lt row 7), List.all_eq_true.mpr ?_⟩
    exact fun c hc => Whole.isHexDigit_of_mem_hex hc
  · rintro ⟨hlength, hall⟩
    have hdigits := List.all_eq_true.mp hall
    have hlt := Whole.hexNumber_lt hdigits
    have htext := Whole.hex_hexNumber (by omega) hdigits
    rw [String.length_toList, hlength] at hlt
    rw [hlength] at htext
    have hsame (row : Int) : Placeholder.value row .id = text ↔ scatter row 7 = Whole.hexNumber text.toList := by
      conv_lhs => rw [← htext]
      exact (Whole.hex_injective 8).eq_iff
    simp only [hsame]
    exact existsUnique_scatter 7 s hlt
  · have hdue (row : Int) : Trace.isDue row = true ↔ (scatter row 11 : Int) % 100 < Trace.percent := by
      simp only [Trace.isDue, decide_eq_true_eq]
      omega
    simp only [hdue]
    rw [card_scatter (fun h => h % 100 < Trace.percent), count_percent]

end LogMill
