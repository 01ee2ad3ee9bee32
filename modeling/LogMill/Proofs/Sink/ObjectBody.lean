import Mathlib.Data.List.TakeWhile
import Std.Data.String.ToInt
import LogMill.Sink.Upload
import LogMill.Proofs.Csv.Reader
import LogMill.Proofs.Frame.Typed

/-!
The objects of an upload: which batches are read back from them, cell by cell.
-/

namespace LogMill

open Outcome

def IsMark (c : Char) : Prop := c.isDigit = true ∨ c = '-' ∨ c = ' ' ∨ c = ':' ∨ c = '.'

theorem IsMark.toNat_lt {c : Char} (h : IsMark c) : c.toNat < 128 := by
  rcases h with h | rfl | rfl | rfl | rfl
  · simp only [Char.isDigit, Bool.and_eq_true, decide_eq_true_eq] at h
    have hle : c.toNat ≤ 57 := h.2
    omega
  all_goals decide

theorem IsMark.not_ending {c : Char} (h : IsMark c) : c ≠ '\r' ∧ c ≠ '\n' := by
  constructor <;> rintro rfl <;> revert h <;> simp [IsMark, Char.isDigit]

theorem isMark_of_toDigits {n : Nat} {c : Char} (h : c ∈ Nat.toDigits 10 n) : IsMark c :=
  .inl (Nat.isDigit_of_mem_toDigits (by decide) (by decide) h)

theorem isMark_of_leftpad {n width : Nat} {c : Char} (h : c ∈ (Nat.toDigits 10 n).leftpad width '0') : IsMark c := by
  rcases List.mem_append.mp h with h | h
  · obtain rfl := List.eq_of_mem_replicate h
    exact .inl (by decide)
  · exact isMark_of_toDigits h

def Marks (s : String) : Prop := ∀ c ∈ s.toList, IsMark c

theorem Marks.append {s t : String} (hs : Marks s) (ht : Marks t) : Marks (s ++ t) := by
  intro c hc
  rw [String.toList_append] at hc
  rcases List.mem_append.mp hc with hc | hc
  · exact hs c hc
  · exact ht c hc

theorem marks_ofList {s : List Char} (h : ∀ c ∈ s, IsMark c) : Marks (String.ofList s) := by
  unfold Marks
  rwa [String.toList_ofList]

theorem marks_dash : Marks "-" := by
  simp [Marks, IsMark]

namespace Whole

theorem marks_toString (n : Int) : Marks (toString n) := by
  have hrepr (m : Nat) : Marks m.repr := by
    intro c hc
    rw [Nat.toList_repr] at hc
    exact isMark_of_toDigits hc
  change Marks n.repr
  rw [Int.repr_eq_if]
  split
  · exact hrepr _
  · exact marks_dash.append (hrepr _)

theorem marks_padded (width : Nat) (n : Int) : Marks (padded width n) := by
  unfold padded
  split_ifs
  · exact marks_dash.append (marks_ofList fun c hc => isMark_of_leftpad hc)
  · exact marks_ofList fun c hc => isMark_of_leftpad hc

end Whole

theorem Calendar.marks_text (n : Int) : Marks (text n) := by
  have hspace : Marks " " := by simp [Marks, IsMark]
  have hcolon : Marks ":" := by simp [Marks, IsMark]
  have hdot : Marks "." := by simp [Marks, IsMark]
  have hzeros : Marks "000" := by simp [Marks, IsMark, Char.isDigit]
  have hnumber (width : Nat) (m : Int) : Marks (Whole.padded width m) := Whole.marks_padded width m
  exact (((((((((((((hnumber _ _).append marks_dash).append (hnumber _ _)).append marks_dash).append (hnumber _ _)).append
    hspace).append (hnumber _ _)).append hcolon).append (hnumber _ _)).append hcolon).append (hnumber _ _)).append
    hdot).append (hnumber _ _)).append hzeros

namespace Text.Unencodable

theorem find?_eq_none {h : Halves} {s : List Char} : find? h s = none ↔ ∀ c ∈ s, h.unit? c = none := by
  constructor
  · intro hnone
    by_contra hall
    obtain ⟨before, c, after, rfl, hbefore, hc⟩ := Csv.exists_first hall
    obtain ⟨unit, hunit⟩ := Option.ne_none_iff_exists'.mp hc
    have hfront : (before ++ c :: after).takeWhile (fun c => (h.unit? c).isNone) = before := by
      rw [List.takeWhile_append_of_pos (by simpa using hbefore)]
      simp [hunit]
    simp [find?, hfront, hunit] at hnone
  · intro hall
    have hfront : s.takeWhile (fun c => (h.unit? c).isNone) = s :=
      List.takeWhile_eq_self_iff.mpr (by simpa using hall)
    simp [find?, hfront]

end Text.Unencodable

namespace Csv

variable {P : Char → Prop}

theorem forall_mem_field {d : Dialect} (hquote : P '"') {s : List Char} : (∀ c ∈ field d s, P c) ↔ ∀ c ∈ s, P c := by
  have hdoubled : (∀ c ∈ doubled s, P c) ↔ ∀ c ∈ s, P c := by
    induction s with
    | nil => simp [doubled]
    | cons c s ih =>
      rw [doubled]
      split_ifs <;> simp [ih]
  unfold field
  split_ifs
  · simp [hquote, or_imp, forall_and, hdoubled]
  · rfl

theorem forall_mem_records {d : Dialect} (hquote : P '"') (hcomma : P ',') (hend : ∀ c ∈ d.lineEnd, P c)
    {rows : List (List (List Char))} : (∀ c ∈ records d rows, P c) ↔ ∀ fs ∈ rows, ∀ s ∈ fs, ∀ c ∈ s, P c := by
  have hline (fs : List (List Char)) : (∀ c ∈ Reading.line d fs, P c) ↔ ∀ s ∈ fs, ∀ c ∈ s, P c := by
    induction fs with
    | nil => simp [Reading.line]
    | cons s fs ih =>
      by_cases hfs : fs = []
      · subst hfs
        simpa [Reading.line, List.intercalate] using forall_mem_field hquote
      · rw [Reading.line_cons hfs]
        simp only [List.mem_append, List.mem_cons, or_imp, forall_and, forall_eq, hcomma, true_and, ih,
          forall_mem_field hquote]
  have hrecord (fs : List (List Char)) : (∀ c ∈ record d fs, P c) ↔ ∀ s ∈ fs, ∀ c ∈ s, P c := by
    unfold record
    split_ifs with hempty
    · simpa [hempty, hquote] using hend
    · change (∀ c ∈ Reading.line d fs ++ d.lineEnd, P c) ↔ _
      simp only [List.mem_append, or_imp, forall_and, hline, and_iff_left hend]
  simp only [records, List.mem_flatMap, forall_exists_index, and_imp]
  constructor
  · intro h fs hfs
    exact (hrecord fs).mp fun c hc => h c fs hfs hc
  · intro h c fs hfs hc
    exact (hrecord fs).mpr (h fs hfs) c hc

end Csv

namespace Upload

def entry (c : Column) (v : Value) : List Char := cell c (c.type.framed v)

abbrev entries (cs : List Column) (cells : Cells) : List (List Char) := List.zipWith entry cs cells

def Recovers (cells : Cells) (record : List (List Char)) : Prop :=
  record.length = Schema.columns.length ∧ record.tail = cells.tail.map Csv.cell

def ReadsBack (rows : List Cells) (records : List (List (List Char))) : Prop :=
  ∃ rest, records = Schema.names.map String.toList :: rest ∧ List.Forall₂ Recovers rows rest

/-- Whether a cell is read back: a carriage return in a text counts for nothing if something else in the text makes it
quoted. -/
def Survives (h : Text.Halves) : ColumnType → Value → Prop
  | .text _, .text s => (∀ c ∈ s.toList, h.unit? c = none) ∧
    ('\r' ∈ s.toList → ∃ c ∈ s.toList, c = ',' ∨ c = '"' ∨ c = '\n')
  | c, v => c.Takes v

theorem legible_object {s : List Char} :
    Csv.Legible .object s ↔ ('\r' ∈ s → ∃ c ∈ s, c = ',' ∨ c = '"' ∨ c = '\n') := by
  have hquotes : Csv.needsQuotes .object s = true ↔ ∃ c ∈ s, c = ',' ∨ c = '"' ∨ c = '\n' := by
    simp [Csv.needsQuotes, Csv.Dialect.object, or_assoc]
  rw [Csv.Legible, hquotes]
  constructor
  · rintro (hquoted | hends) hreturn
    · exact hquoted
    · exact absurd rfl (hends _ hreturn).1
  · intro h
    by_cases hquoted : ∃ c ∈ s, c = ',' ∨ c = '"' ∨ c = '\n'
    · exact .inl hquoted
    · refine .inr fun c hc => ⟨?_, ?_⟩
      · rintro rfl
        exact hquoted (h hc)
      · rintro rfl
        exact hquoted ⟨_, hc, by simp⟩

variable {h : Text.Halves}

theorem unit?_eq_none (hh : ∀ first ∈ h, first ∈ Text.halfPlaces) {c : Char} (hc : c.toNat < 128) : h.unit? c = none := by
  cases h with
  | none => rfl
  | some first =>
    obtain ⟨i, _, hi⟩ := List.mem_map.mp (hh first rfl)
    have hlow : ¬ first ≤ c.toNat := by omega
    simp [Text.Halves.unit?, Text.isPlaced, hlow]

theorem fine_of_marks (hh : ∀ first ∈ h, first ∈ Text.halfPlaces) {s : String} (hs : Marks s) :
    Csv.Legible .object s.toList ∧ ∀ c ∈ s.toList, h.unit? c = none :=
  ⟨.inr fun c hc => (hs c hc).not_ending, fun c hc => unit?_eq_none hh (hs c hc).toNat_lt⟩

theorem entry_cases {c : Column} {v : Value} (hv : c.type.Admits v) :
    (∃ t, entry c v = t.toList ∧ Marks t) ∨ ∃ width s, c.type = .text width ∧ v = .text s ∧ entry c v = s.toList := by
  obtain ⟨name, type⟩ := c
  cases type <;> cases v <;> first | exact hv.elim | skip
  · rename_i n
    by_cases hmin : n = SeriesType.minWhole
    · exact .inl ⟨"", by simp [entry, ColumnType.framed, cell, hmin, SeriesType.isMissing], by simp [Marks]⟩
    · exact .inl ⟨Calendar.text n, by simp [entry, ColumnType.framed, cell, hmin], Calendar.marks_text n⟩
  · exact .inl ⟨_, rfl, Whole.marks_toString _⟩
  · exact .inr ⟨_, _, rfl, rfl, rfl⟩

theorem Survives.takes {c : ColumnType} {v : Value} (hs : Survives h c v) : c.Takes v := by
  cases c <;> cases v <;> first | exact hs | trivial

theorem survives_iff (hh : ∀ first ∈ h, first ∈ Text.halfPlaces) {c : Column} {v : Value} : Survives h c.type v ↔
    c.type.Takes v ∧ Csv.Legible .object (entry c v) ∧ ∀ x ∈ entry c v, h.unit? x = none := by
  constructor
  · intro hs
    refine ⟨hs.takes, ?_⟩
    rcases entry_cases hs.takes.admits with ⟨t, ht, hmarks⟩ | ⟨width, s, hc, rfl, hentry⟩
    · rw [ht]
      exact fine_of_marks hh hmarks
    · rw [hc] at hs
      rw [hentry, legible_object]
      exact ⟨hs.2, hs.1⟩
  · rintro ⟨htakes, hlegible, hhalves⟩
    obtain ⟨name, type⟩ := c
    cases type with
    | text width =>
      cases v with
      | text s => exact ⟨hhalves, legible_object.mp hlegible⟩
      | _ => exact htakes.elim
    | _ => cases v <;> exact htakes

variable {cs : List Column} {cells : Cells} {rows : List Cells}

theorem forall₂_survives (hh : ∀ first ∈ h, first ∈ Text.halfPlaces) :
    List.Forall₂ (fun c v => Survives h c.type v) cs cells ↔ List.Forall₂ (fun c v => c.type.Takes v) cs cells ∧
      ∀ s ∈ entries cs cells, Csv.Legible .object s ∧ ∀ x ∈ s, h.unit? x = none := by
  induction cs generalizing cells with
  | nil => simp [List.forall₂_nil_left_iff]
  | cons c cs ih =>
    cases cells with
    | nil => simp
    | cons v cells =>
      rw [List.forall₂_cons, ih, survives_iff hh, List.forall₂_cons]
      simp only [entries, List.zipWith_cons_cons, List.forall_mem_cons]
      tauto

theorem zipWith_framed : List.zipWith cell cs (Frame.framed cs cells) = entries cs cells := by
  induction cs generalizing cells with
  | nil => rfl
  | cons c cs ih =>
    cases cells with
    | nil => rfl
    | cons v cells => exact congrArg (entry c v :: ·) ih

theorem entry_eq_cell {c : Column} {v : Value} (hc : c.type ≠ .timestamp) (h : c.type.Takes v) :
    entry c v = Csv.cell v := by
  obtain ⟨name, type⟩ := c
  cases type <;> cases v <;> first | exact h.elim | exact absurd rfl hc | skip
  · have hkeep := Int.not_lt.mpr h.2
    simp [entry, ColumnType.framed, hkeep, cell, SeriesType.isMissing]
  · rfl

theorem framed_eq_self {c : Column} {v : Value} (hc : c.type ≠ .timestamp) (hv : c.type.Admits v)
    (h : entry c v = Csv.cell v) : c.type.framed v = v := by
  obtain ⟨name, type⟩ := c
  cases type <;> cases v <;> first | exact hv.elim | exact absurd rfl hc | skip
  · have htext := String.toList_injective h
    exact congrArg Value.int (Int.repr_injective htext)
  · rfl

theorem entries_eq_map (hcs : ∀ c ∈ cs, c.type ≠ .timestamp) (h : List.Forall₂ (fun c v => c.type.Takes v) cs cells) :
    entries cs cells = cells.map Csv.cell := by
  induction h with
  | nil => rfl
  | cons hv _ ih =>
    rw [entries, List.zipWith_cons_cons, List.map_cons, entry_eq_cell (hcs _ (by simp)) hv]
    exact congrArg _ (ih fun c hc => hcs c (by simp [hc]))

theorem takes_of_entries (hcs : ∀ c ∈ cs, c.type ≠ .timestamp)
    (hadmits : List.Forall₂ (fun c v => c.type.Admits v) cs cells)
    (h : List.Forall₂ (fun c v => c.type = .timestamp ∨ c.type.framed v = v → c.type.Takes v) cs cells)
    (hentries : entries cs cells = cells.map Csv.cell) : List.Forall₂ (fun c v => c.type.Takes v) cs cells := by
  induction h with
  | nil => exact .nil
  | cons htakes _ ih =>
    cases hadmits with
    | cons hv hadmits =>
      rw [entries, List.zipWith_cons_cons, List.map_cons, List.cons.injEq] at hentries
      exact .cons (htakes (.inr (framed_eq_self (hcs _ (by simp)) hv hentries.1)))
        (ih (fun c hc => hcs c (by simp [hc])) hadmits hentries.2)

def recordsOf (rows : List Cells) : List (List (List Char)) :=
  Schema.names.map String.toList :: rows.map (entries Schema.columns)

theorem body_eq (hrows : Frame.ofRows rows = .ok (rows.map (Frame.framed Schema.columns))) :
    body rows = .ok (String.ofList (Csv.records .object (recordsOf rows))) := by
  unfold body
  rw [hrows]
  have htexts : (rows.map (Frame.framed Schema.columns)).flatMap rowText =
      (rows.map (entries Schema.columns)).flatMap (Csv.record .object) := by
    rw [List.flatMap_map, List.flatMap_map]
    apply List.flatMap_congr
    intro cells _
    rw [rowText, zipWith_framed]
  simp only [Except.mapError, bind, Except.bind, pure, Except.pure, htexts]
  rfl

theorem exists_frame_of_body {text : String} (h : body rows = .ok text) : ∃ rows', Frame.ofRows rows = .ok rows' := by
  simp only [body, bind_eq_ok, mapError_eq_ok] at h
  obtain ⟨rows', hrows, _⟩ := h
  exact ⟨rows', hrows⟩

theorem columns_eq : ∃ c cs, Schema.columns = c :: cs ∧ c.type = .timestamp ∧ ∀ c ∈ cs, c.type ≠ .timestamp :=
  ⟨_, _, rfl, rfl, by decide⟩

theorem entries_length (h : cells.length = Schema.columns.length) :
    (entries Schema.columns cells).length = Schema.columns.length := by
  simp [h]

theorem recovers_of_takes (h : List.Forall₂ (fun c v => c.type.Takes v) Schema.columns cells) :
    Recovers cells (entries Schema.columns cells) := by
  refine ⟨entries_length h.length_eq.symm, ?_⟩
  obtain ⟨c, cs, hsplit, _, hcs⟩ := columns_eq
  rw [hsplit] at h ⊢
  cases h with
  | cons _ h => exact entries_eq_map hcs h

theorem takes_of_recovers (hadmits : Frame.Typed cells)
    (h : List.Forall₂ (fun c v => c.type = .timestamp ∨ c.type.framed v = v → c.type.Takes v) Schema.columns cells)
    (hback : Recovers cells (entries Schema.columns cells)) :
    List.Forall₂ (fun c v => c.type.Takes v) Schema.columns cells := by
  obtain ⟨c, cs, hsplit, hc, hcs⟩ := columns_eq
  unfold Frame.Typed at hadmits
  rw [hsplit] at h hadmits ⊢
  obtain ⟨_, htail⟩ := hback
  rw [hsplit] at htail
  cases h with
  | cons htakes h =>
    cases hadmits with
    | cons _ hadmits => exact .cons (htakes (.inl hc)) (takes_of_entries hcs hadmits h htail)

theorem getElem?_of_recovers (hh : ∀ first ∈ h, first ∈ Text.halfPlaces) (htyped : Frame.Typed cells)
    {record : List (List Char)} (hback : Recovers cells record) {k : Nat} {s : List Char}
    (hk : (entries Schema.columns cells)[k]? = some s) (hs : ¬ Csv.Legible .object s) : record[k]? = some s := by
  obtain ⟨c, v, hc, hv, rfl⟩ := List.getElem?_zipWith_eq_some.mp hk
  have hadmits : c.type.Admits v := by
    obtain ⟨hlt, rfl⟩ := List.getElem?_eq_some_iff.mp hc
    obtain ⟨hlt', rfl⟩ := List.getElem?_eq_some_iff.mp hv
    exact htyped.get hlt hlt'
  rcases entry_cases hadmits with ⟨t, ht, hmarks⟩ | ⟨width, t, htext, rfl, hentry⟩
  · exact absurd (ht ▸ (fine_of_marks hh hmarks).1) hs
  · obtain ⟨k, rfl⟩ : ∃ m, k = m + 1 := by
      cases k with
      | zero =>
        obtain rfl := Option.some.inj hc
        simp at htext
      | succ m => exact ⟨m, rfl⟩
    have htail := congrArg (·[k]?) hback.2
    simpa [hv, hentry, Csv.cell, Value.plain] using htail

theorem header_fine : ∀ s ∈ Schema.names.map String.toList, ∀ c ∈ s, c.toNat < 128 ∧ c ≠ '\r' ∧ c ≠ '\n' := by
  simp [Schema.names, Schema.columns]

theorem header_legible : ∀ s ∈ Schema.names.map String.toList, Csv.Legible .object s := fun s hs =>
  .inr fun c hc => (header_fine s hs c hc).2

theorem encodable_iff (hh : ∀ first ∈ h, first ∈ Text.halfPlaces) :
    Text.Unencodable.find? h (String.ofList (Csv.records .object (recordsOf rows))).toList = none ↔
      ∀ cells ∈ rows, ∀ s ∈ entries Schema.columns cells, ∀ c ∈ s, h.unit? c = none := by
  rw [Text.Unencodable.find?_eq_none, String.toList_ofList, Csv.forall_mem_records]
  · rw [recordsOf, List.forall_mem_cons]
    exact (and_iff_right fun s hs c hc => unit?_eq_none hh (header_fine s hs c hc).1).trans List.forall_mem_map
  · exact unit?_eq_none hh (by decide)
  · exact unit?_eq_none hh (by decide)
  · intro c hc
    obtain rfl : c = '\n' := by simpa [Csv.Dialect.object] using hc
    exact unit?_eq_none hh (by decide)

theorem read_recordsOf (htyped : ∀ cells ∈ rows, Frame.Typed cells)
    (h : ∀ cells ∈ rows, ∀ s ∈ entries Schema.columns cells, Csv.Legible .object s) :
    Csv.read (Csv.records .object (recordsOf rows)) = recordsOf rows := by
  apply Csv.read_records (.inl rfl)
  intro fs hfs
  rcases List.mem_cons.mp hfs with rfl | hfs
  · exact ⟨by decide, header_legible⟩
  · obtain ⟨cells, hc, rfl⟩ := List.mem_map.mp hfs
    refine ⟨?_, h cells hc⟩
    apply List.ne_nil_of_length_pos
    rw [entries_length (htyped cells hc).length]
    decide

theorem legible_of_readsBack (hh : ∀ first ∈ h, first ∈ Text.halfPlaces) (htyped : ∀ cells ∈ rows, Frame.Typed cells)
    (hback : ReadsBack rows (Csv.read (Csv.records .object (recordsOf rows)))) :
    ∀ cells ∈ rows, ∀ s ∈ entries Schema.columns cells, Csv.Legible .object s := by
  obtain ⟨rest, hread, hrest⟩ := hback
  have hall : ∀ fs ∈ recordsOf rows, ∀ s ∈ fs, Csv.Legible .object s := by
    apply Csv.legible_of_read (.inl rfl)
    · intro fs hfs
      rcases List.mem_cons.mp hfs with rfl | hfs
      · exact ⟨_, _, rfl, header_legible _ (by decide)⟩
      · obtain ⟨cells, hc, rfl⟩ := List.mem_map.mp hfs
        have hadmits := htyped cells hc
        obtain ⟨c, cs, hsplit, htime, _⟩ := columns_eq
        unfold Frame.Typed at hadmits
        rw [hsplit] at hadmits ⊢
        cases hadmits with
        | cons hv _ =>
          refine ⟨_, _, rfl, ?_⟩
          rcases entry_cases hv with ⟨t, ht, hmarks⟩ | ⟨_, _, htext, _⟩
          · exact ht ▸ (fine_of_marks hh hmarks).1
          · exact absurd (htime.symm.trans htext) (by simp)
    · intro i fs hfs
      rw [hread]
      cases i with
      | zero =>
        obtain rfl := Option.some.inj hfs
        exact ⟨_, rfl, fun k s hk _ => hk⟩
      | succ i =>
        rw [recordsOf, List.getElem?_cons_succ, List.getElem?_map, Option.map_eq_some_iff] at hfs
        obtain ⟨cells, hi, rfl⟩ := hfs
        obtain ⟨hlt, rfl⟩ := List.getElem?_eq_some_iff.mp hi
        have hlt' : i < rest.length := hrest.length_eq ▸ hlt
        exact ⟨rest[i], List.getElem?_eq_getElem hlt', fun k s hk hs =>
          getElem?_of_recovers hh (htyped _ (List.getElem_mem hlt)) (hrest.get hlt hlt') hk hs⟩
  exact fun cells hc => hall _ (List.mem_cons_of_mem _ (List.mem_map.mpr ⟨cells, hc, rfl⟩))

theorem body_readsBack_iff (hh : ∀ first ∈ h, first ∈ Text.halfPlaces) (hne : rows ≠ [])
    (htyped : ∀ cells ∈ rows, Frame.Typed cells) :
    (∃ text, body rows = .ok text ∧ Text.Unencodable.find? h text.toList = none ∧
        ReadsBack rows (Csv.read text.toList)) ↔
      ∀ cells ∈ rows, List.Forall₂ (fun c v => Survives h c.type v) Schema.columns cells := by
  constructor
  · rintro ⟨text, hbody, hhalves, hback⟩
    obtain ⟨rows', hrows⟩ := exists_frame_of_body hbody
    obtain ⟨rfl, htakes⟩ := Frame.ofRows_eq_ok hne htyped hrows
    obtain rfl := Except.ok.inj ((body_eq hrows).symm.trans hbody)
    rw [encodable_iff hh] at hhalves
    rw [String.toList_ofList] at hback
    -- First that nothing is cut off, then that the numbers are those of the rows.
    have hlegible := legible_of_readsBack hh htyped hback
    obtain ⟨rest, hread, hrest⟩ := hback
    rw [read_recordsOf htyped hlegible] at hread
    obtain rfl := (List.cons.inj hread).2
    rw [List.forall₂_map_right_iff, List.forall₂_same] at hrest
    intro cells hc
    exact (forall₂_survives hh).mpr ⟨takes_of_recovers (htyped cells hc) (htakes cells hc) (hrest cells hc),
      fun s hs => ⟨hlegible cells hc s hs, hhalves cells hc s hs⟩⟩
  · intro hsurvive
    have hall := fun cells hc => (forall₂_survives hh).mp (hsurvive cells hc)
    refine ⟨_, body_eq (Frame.ofRows_of_takes hne fun cells hc => (hall cells hc).1), ?_, ?_⟩
    · exact (encodable_iff hh).mpr fun cells hc s hs => ((hall cells hc).2 s hs).2
    · rw [String.toList_ofList, read_recordsOf htyped fun cells hc s hs => ((hall cells hc).2 s hs).1]
      refine ⟨_, rfl, ?_⟩
      rw [List.forall₂_map_right_iff, List.forall₂_same]
      exact fun cells hc => recovers_of_takes (hall cells hc).1

theorem write_puts_iff {u : Upload} {b : Batch} {client : Store.Client} {calls : List Call} {n : Int} {text : String}
    (hrows : b.rows ≠ []) (hstart : b.start = .int n) :
    (u.write b client calls).2.2.1 =
        calls ++ [.put u.bucket (u.keyFor n) text (client.refusal calls (u.keyFor n))] ↔
      body b.rows = .ok text ∧ Text.Unencodable.find? b.halves text.toList = none := by
  rw [write, if_neg hrows]
  cases hbody : body b.rows with
  | error f =>
    have hobject : u.objectOf b = .error f := by
      rw [objectOf, hbody]
      rfl
    simp [hobject]
  | ok text' =>
    have hobject : u.objectOf b = .ok (text', u.keyFor n) := by
      rw [objectOf, hbody, hstart]
      rfl
    cases hfind : Text.Unencodable.find? b.halves text'.toList with
    | some x =>
      simp only [hobject, hfind]
      constructor
      · intro hcalls
        exact absurd hcalls (by simp)
      · rintro ⟨htext, hnone⟩
        obtain rfl := Except.ok.inj htext
        exact absurd (hfind.symm.trans hnone) (by simp)
    | none =>
      have hcalls : (u.write b client calls).2.2.1 =
          calls ++ [.put u.bucket (u.keyFor n) text' (client.refusal calls (u.keyFor n))] := by
        rw [write, if_neg hrows]
        simp only [hobject, hfind, Store.put]
        cases client.refusal calls (u.keyFor n) <;> rfl
      rw [write, if_neg hrows] at hcalls
      rw [hcalls]
      constructor
      · intro hput
        obtain rfl : text' = text := by simpa using hput
        exact ⟨rfl, hfind⟩
      · rintro ⟨htext, _⟩
        rw [Except.ok.inj htext]

def noted (message : String) : Batch where
  start := .int 0
  rows := [[.int 0, .text "v", .text message] ++ List.replicate 16 (.text "v") ++ [.int 1, .text "v", .text "v"]]

def willing : Store.Client := ⟨none, [], fun _ => none, fun _ _ => none⟩

theorem noted_typed (message : String) : ∀ cells ∈ (noted message).rows, Frame.Typed cells := by
  simp [noted, Frame.Typed, Schema.columns, List.replicate, ColumnType.Admits]

theorem noted_takes (message : String) :
    ∀ cells ∈ (noted message).rows, List.Forall₂ (fun c v => c.type.Takes v) Schema.columns cells := by
  have hmoment : ColumnType.timestamp.Takes (.int 0) := .inr (by decide)
  have hnumber : ColumnType.integer.Takes (.int 1) := ⟨by decide, by decide⟩
  have htext (width : Nat) (s : String) : (ColumnType.text width).Takes (.text s) := trivial
  simp [noted, Schema.columns, List.replicate, hmoment, hnumber, htext]

theorem noted_survives_iff (message : String) :
    (∀ cells ∈ (noted message).rows, List.Forall₂ (fun c v => Survives none c.type v) Schema.columns cells) ↔
      ('\r' ∈ message.toList → ∃ c ∈ message.toList, c = ',' ∨ c = '"' ∨ c = '\n') := by
  have hmoment : ColumnType.timestamp.Takes (.int 0) := .inr (by decide)
  have hnumber : ColumnType.integer.Takes (.int 1) := ⟨by decide, by decide⟩
  simp [noted, Schema.columns, List.replicate, Survives, hmoment, hnumber, Text.Halves.unit?]

end Upload

/-- A batch that is written can be read back from its object exactly if every cell of it survives: moments and numbers
of the sizes that frames take, and texts with a byte for each character in which no carriage return stands bare. -/
theorem upload_reads_back_iff (u : Upload) (b : Batch) (client : Store.Client) (calls : List Call) (n : Int)
    (hrows : b.rows ≠ []) (htyped : ∀ cells ∈ b.rows, Frame.Typed cells) (hstart : b.start = .int n)
    (hhalves : ∀ first ∈ b.halves, first ∈ Text.halfPlaces) :
    (∃ text, (u.write b client calls).2.2.1 =
          calls ++ [.put u.bucket (u.keyFor n) text (client.refusal calls (u.keyFor n))] ∧
        Upload.ReadsBack b.rows (Csv.read text.toList)) ↔
      ∀ cells ∈ b.rows, List.Forall₂ (fun c v => Upload.Survives b.halves c.type v) Schema.columns cells := by
  rw [← Upload.body_readsBack_iff hhalves hrows htyped]
  constructor
  · rintro ⟨text, hcalls, hback⟩
    obtain ⟨hbody, hnone⟩ := (Upload.write_puts_iff hrows hstart).mp hcalls
    exact ⟨text, hbody, hnone, hback⟩
  · rintro ⟨text, hbody, hnone, hback⟩
    exact ⟨text, (Upload.write_puts_iff hrows hstart).mpr ⟨hbody, hnone⟩, hback⟩

theorem upload_reads_back_line : ∃ text, ((Upload.opened (.text "b") "p" "t").write (Upload.noted "a\r\nb")
      Upload.willing []).2.2.1 = [.put (.text "b") ((Upload.opened (.text "b") "p" "t").keyFor 0) text none] ∧
    Upload.ReadsBack (Upload.noted "a\r\nb").rows (Csv.read text.toList) :=
  (upload_reads_back_iff (Upload.opened (.text "b") "p" "t") (Upload.noted "a\r\nb") Upload.willing [] 0
    (by simp [Upload.noted]) (Upload.noted_typed _) rfl (by simp [Upload.noted])).mpr
    ((Upload.noted_survives_iff _).mpr (by simp))

theorem upload_cuts_bare_return : ∃ text, ((Upload.opened (.text "b") "p" "t").write (Upload.noted "a\rb")
      Upload.willing []).2.2.1 = [.put (.text "b") ((Upload.opened (.text "b") "p" "t").keyFor 0) text none] ∧
    ¬ Upload.ReadsBack (Upload.noted "a\rb").rows (Csv.read text.toList) := by
  have hnone (text : String) : Text.Unencodable.find? none text.toList = none :=
    Text.Unencodable.find?_eq_none.mpr fun _ _ => rfl
  have hbody := Upload.body_eq (Frame.ofRows_of_takes (by simp [Upload.noted]) (Upload.noted_takes "a\rb"))
  refine ⟨_, (Upload.write_puts_iff (by simp [Upload.noted]) rfl).mpr ⟨hbody, hnone _⟩, ?_⟩
  intro hback
  have hsurvive := (Upload.body_readsBack_iff (h := none) (by simp) (by simp [Upload.noted]) (Upload.noted_typed _)).mp
    ⟨_, hbody, hnone _, hback⟩
  simp [Upload.noted_survives_iff] at hsurvive

end LogMill
