import LogMill.Proofs.Message.Composition
import Mathlib.Data.Int.ModEq

/-!
Messages tell rows apart: the first letters of a message give its template, and with it the place of the
identifier, which no two rows share that differ in their last 32 bits.
-/

namespace LogMill

open Text

theorem eq_of_append_blank {a b t x y : List Char} (h : a ++ (t ++ x) = b ++ (t ++ y)) (ha : ' ' ∉ a)
    (hb : ' ' ∉ b) (ht : ' ' ∈ t) : a = b := by
  obtain ⟨u, v, rfl, hu⟩ := List.eq_append_cons_of_mem ht
  have front {a x : List Char} (ha : ' ' ∉ a) : (a ++ (u ++ ' ' :: v ++ x)).takeWhile (· ≠ ' ') = a ++ u := by
    have hall : ∀ c ∈ a ++ u, (c ≠ ' ' : Bool) = true := by
      intro c hc
      have hne : c ≠ ' ' := by
        rintro rfl
        exact (List.mem_append.mp hc).elim ha hu
      simpa using hne
    rw [List.append_assoc, List.cons_append, ← List.append_assoc, List.takeWhile_append_of_pos hall]
    simp
  have hfront := congrArg (List.takeWhile (· ≠ ' ')) h
  rw [front ha, front hb] at hfront
  exact List.append_cancel_right hfront

namespace Phrase

def reveals (q : Placeholder) : Phrase → Bool
  | [] => false
  | .text _ :: p => reveals q p
  | .slot r :: p => r = q || (match p with
    | .text s :: _ => s.toList.contains ' ' && reveals q p
    | _ => false)

variable {q : Placeholder} {p : Phrase} {values values' : Placeholder → String}

theorem toList_fill_cons (c : Chunk) (p : Phrase) (values : Placeholder → String) :
    (fill (c :: p) values).toList = (c.fill values).toList ++ (fill p values).toList := by
  simp [fill, String.toList_append]

theorem value_eq_of_reveals (hp : p.reveals q) (hv : ∀ r, ' ' ∉ (values r).toList)
    (hv' : ∀ r, ' ' ∉ (values' r).toList) (hlength : (values q).length = (values' q).length) {x y : List Char}
    (h : (p.fill values).toList ++ x = (p.fill values').toList ++ y) : values q = values' q := by
  induction p with
  | nil => simp [reveals] at hp
  | cons c p ih =>
    rw [toList_fill_cons, toList_fill_cons, List.append_assoc, List.append_assoc] at h
    cases c with
    | text s => exact ih hp (List.append_cancel_left h)
    | slot r =>
      simp only [reveals, Bool.or_eq_true, decide_eq_true_eq] at hp
      rcases hp with rfl | hp
      · apply String.toList_injective
        apply List.append_inj_left h
        simpa only [Chunk.fill, String.length_toList] using hlength
      · -- A slot before the one in question ends at the first blank of the text behind it, so that it cancels too.
        split at hp
        · rename_i s p
          simp only [Bool.and_eq_true, List.contains_iff_mem] at hp
          have hr : (values r).toList = (values' r).toList := by
            simp only [toList_fill_cons, Chunk.fill, List.append_assoc] at h
            exact eq_of_append_blank h (hv r) (hv' r) hp.1
          apply ih hp.2
          simp only [Chunk.fill, hr] at h
          exact List.append_cancel_left h
        · exact absurd hp (by decide)

def lead : Phrase → List Char
  | .text s :: _ => s.toList.take 2
  | _ => []

theorem take_fill (hp : p.lead.length = 2) (values : Placeholder → String) (x : List Char) :
    ((p.fill values).toList ++ x).take 2 = p.lead := by
  match p with
  | .text s :: p =>
    rw [lead, List.length_take] at hp
    rw [toList_fill_cons, List.append_assoc, Chunk.fill, List.take_append_of_le_length (by omega), lead]
  | [] => simp [lead] at hp
  | .slot q :: p => simp [lead] at hp

end Phrase

theorem Builtin.recognized {level level' : Level} {p p' : Phrase} (hp : p ∈ ofLevel level) (hp' : p' ∈ ofLevel level') :
    p.reveals .id ∧ p.lead.length = 2 ∧ (p.lead = p'.lead → level = level' ∧ p = p') := by
  have hall : ∀ level ∈ Level.all, ∀ level' ∈ Level.all, ∀ p ∈ ofLevel level, ∀ p' ∈ ofLevel level',
      Phrase.reveals .id p ∧ p.lead.length = 2 ∧ (p.lead = p'.lead → level = level' ∧ p = p') := by decide +kernel
  have hmem (level : Level) : level ∈ Level.all := by cases level <;> decide
  exact hall level (hmem level) level' (hmem level') p hp p' hp'

namespace Message

variable {level level' : Level} {row row' : Int} {phrase phrase' : Phrase} {count count' : Nat}

theorem value_id_eq_iff : Placeholder.value row .id = Placeholder.value row' .id ↔ row ≡ row' [ZMOD 0x100000000] :=
  (Whole.hex_injective 8).eq_iff.trans (scatter_eq_iff 7)

theorem exists_upTo_eq (level : Level) (row : Int) (phrase : Phrase) (count : Nat) : ∃ rest,
    (upTo level row phrase count).toList = (phrase.fill (Placeholder.value row)).toList ++ rest := by
  refine ⟨(trace level row ++ Detail.first (Placeholder.value row) (scatter row 14) count).toList, ?_⟩
  rw [upTo, String.append_assoc, String.toList_append]

theorem level_and_row_of_upTo (hphrase : phrase ∈ Builtin.ofLevel level) (hphrase' : phrase' ∈ Builtin.ofLevel level')
    (h : upTo level row phrase count = upTo level' row' phrase' count') :
    level = level' ∧ row ≡ row' [ZMOD 0x100000000] := by
  obtain ⟨rest, hrest⟩ := exists_upTo_eq level row phrase count
  obtain ⟨rest', hrest'⟩ := exists_upTo_eq level' row' phrase' count'
  rw [h, hrest'] at hrest
  obtain ⟨hreveals, hlead, hdistinct⟩ := Builtin.recognized hphrase hphrase'
  have hlead' := (Builtin.recognized hphrase' hphrase).2.1
  have htake := congrArg (List.take 2) hrest
  rw [Phrase.take_fill hlead', Phrase.take_fill hlead] at htake
  obtain ⟨rfl, rfl⟩ := hdistinct htake.symm
  refine ⟨rfl, value_id_eq_iff.mp ?_⟩
  have hblank (row : Int) (p : Placeholder) : ' ' ∉ (Placeholder.value row p).toList :=
    (Placeholder.within_value row p).not_mem (by decide)
  have hlength (row : Int) : (Placeholder.value row .id).length = 8 := Whole.length_hex (by decide) (scatter_lt row 7)
  exact Phrase.value_eq_of_reveals hreveals (hblank row) (hblank row') ((hlength row).trans (hlength row').symm)
    hrest.symm

theorem synthesize_congr (table : Table) (level : Level) (h : row ≡ row' [ZMOD 0x100000000]) :
    synthesize table level row = synthesize table level row' := by
  have hscatter : scatter row = scatter row' := funext fun salt => (scatter_eq_iff salt).mpr h
  have hvalue : Placeholder.value row = Placeholder.value row' := by
    funext p
    cases p <;> simp only [Placeholder.value, hscatter]
  have htrace : trace level row = trace level row' := by
    have hframe : Trace.frame row = Trace.frame row' := by
      funext n
      simp only [Trace.frame_eq, hscatter]
    have hdue : Trace.isDue row = Trace.isDue row' := by simp only [Trace.isDue, hscatter]
    have htext : Trace.text row = Trace.text row' := by
      simp only [Trace.text, Trace.exception, Trace.depth, hframe, hscatter]
    rw [trace, trace, hdue, htext]
  have hchoose : table.choose level row = table.choose level row' := by simp only [Table.choose, hscatter]
  simp only [synthesize, whole, hchoose, hvalue, htrace, hscatter]

end Message

/-- Two messages with the built-in templates are the same exactly if they are of one level and of rows whose numbers
are alike in their last 32 bits. -/
theorem message_identifies_row (level level' : Level) (row row' : Int) : ∃ message message',
    Message.synthesize .builtin level row = .ok message ∧ Message.synthesize .builtin level' row' = .ok message' ∧
      (message = message' ↔ level = level' ∧ row ≡ row' [ZMOD 0x100000000]) := by
  obtain ⟨phrase, count, hphrase, -, -, hmessage⟩ := Message.exists_upTo level row
  obtain ⟨phrase', count', hphrase', -, -, hmessage'⟩ := Message.exists_upTo level' row'
  refine ⟨_, _, hmessage, hmessage', ?_⟩
  constructor
  · exact Message.level_and_row_of_upTo (List.mem_of_getElem? hphrase) (List.mem_of_getElem? hphrase')
  · rintro ⟨rfl, hrow⟩
    rw [Message.synthesize_congr _ _ hrow, hmessage'] at hmessage
    exact (Except.ok.inj hmessage).symm

end LogMill
