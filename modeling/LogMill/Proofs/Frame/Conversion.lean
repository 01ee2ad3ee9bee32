import Mathlib.Tactic.SplitIfs
import LogMill.Frame.Table
import LogMill.Proofs.Outcome

namespace LogMill

open Outcome

namespace ColumnType

def Admits : ColumnType → Value → Prop
  | .timestamp, .int _ | .integer, .int _ | .text _, .text _ => True
  | _, _ => False

def Takes : ColumnType → Value → Prop
  | .timestamp, .int n => n = SeriesType.minWhole ∨ Moment.Precision.micro.holds n = true
  | .integer, .int n => SeriesType.minWhole ≤ n ∧ n ≤ SeriesType.maxWhole
  | .text _, .text _ => True
  | _, _ => False

def framed : ColumnType → Value → Value
  | .timestamp, .int n => if n = SeriesType.minWhole then .null else .int n
  | .integer, .int n => .int (if SeriesType.maxWhole < n then n - (SeriesType.maxNatural + 1) else n)
  | _, v => v

theorem Takes.admits {c : ColumnType} {v : Value} (h : c.Takes v) : c.Admits v := by
  cases c <;> cases v <;> first | exact h | trivial

end ColumnType

namespace SeriesType

theorem ofCells_ints {ns : List Int} (hne : ns ≠ []) :
    ofCells (ns.map .int) = if !fits (ns.map .int) then mixed
      else if ns.any (maxWhole < ·) then natural else whole := by
  have hno (p : Value → Bool) (hp : ∀ n, p (.int n) = false) : (ns.map Value.int).any p = false := by
    simp [hp]
  have hnull : (ns.map Value.int).all isNull = false := by
    obtain ⟨n, ns, rfl⟩ := List.exists_cons_of_ne_nil hne
    rfl
  have hwholes : wholes (ns.map .int) = ns := by
    simp [wholes]
  unfold ofCells ofNumbers
  rw [hno isNested fun _ => rfl, hno isText fun _ => rfl, hno isBool fun _ => rfl, hno isNull fun _ => rfl,
    hno isReal fun _ => rfl, hnull, hwholes]
  simp

theorem fits_ints {ns : List Int} : fits (ns.map .int) = true ↔
    (∀ n ∈ ns, minWhole ≤ n ∧ n ≤ maxNatural) ∧ ((∀ n ∈ ns, 0 ≤ n) ∨ ∀ n ∈ ns, n ≤ maxWhole) := by
  have hwholes : wholes (ns.map .int) = ns := by
    simp [wholes]
  simp [fits, hwholes, or_iff_not_imp_left]

theorem fits_of_bounds {ns : List Int} (h : ∀ n ∈ ns, minWhole ≤ n ∧ n ≤ maxWhole) : fits (ns.map .int) = true := by
  refine fits_ints.mpr ⟨?_, .inr fun n hn => (h n hn).2⟩
  intro n hn
  have hle : maxWhole ≤ maxNatural := by decide
  exact ⟨(h n hn).1, Int.le_trans (h n hn).2 hle⟩

theorem ofCells_bounds {ns : List Int} (hne : ns ≠ []) (h : ∀ n ∈ ns, minWhole ≤ n ∧ n ≤ maxWhole) :
    ofCells (ns.map .int) = whole := by
  have hlarge : ns.any (maxWhole < ·) = false := by simpa using fun n hn => (h n hn).2
  simp [ofCells_ints hne, fits_of_bounds h, hlarge]

theorem ofCells_texts {ss : List String} (hne : ss ≠ []) : ofCells (ss.map .text) = text := by
  obtain ⟨s, ss, rfl⟩ := List.exists_cons_of_ne_nil hne
  simp [ofCells, isNested, isText, isMissing]

end SeriesType

namespace Count

theorem ofWhole_eq_ok {n : Int} {v : Value} :
    ofWhole n = .ok v ↔ (SeriesType.minWhole ≤ n ∧ n ≤ SeriesType.maxWhole) ∧ v = .int n := by
  unfold ofWhole
  split_ifs with h
  · simp [h, eq_comm]
  · simp [h]

theorem ofCells_ints {t : SeriesType} (ht : t = .whole ∨ t = .mixed) {ns : List Int} {vs : List Value} :
    ofCells t (ns.map .int) = .ok vs ↔
      (∀ n ∈ ns, SeriesType.minWhole ≤ n ∧ n ≤ SeriesType.maxWhole) ∧ vs = ns.map .int := by
  have hmapM : ofCells t (ns.map .int) = (ns.map .int).mapM (ofValue t) := by
    rcases ht with rfl | rfl <;> rfl
  have hvalue (n : Int) : ofValue t (.int n) = ofWhole n := by
    rcases ht with rfl | rfl <;> rfl
  rw [hmapM]
  exact mapM_map_eq_ok fun n v => by rw [hvalue, ofWhole_eq_ok]

end Count

namespace Moment

theorem holds_milli {n : Int} :
    Precision.milli.holds n = true ↔ SeriesType.minWhole ≤ n ∧ n ≤ SeriesType.maxWhole := by
  simp [Precision.holds, Precision.perMilli]

theorem bounds_of_takes {n : Int} (h : ColumnType.timestamp.Takes (.int n)) :
    SeriesType.minWhole ≤ n ∧ n ≤ SeriesType.maxWhole := by
  rcases h with rfl | h
  · decide
  · simp only [Precision.holds, Precision.perMilli, Bool.and_eq_true, SeriesType.minWhole, SeriesType.maxWhole] at h ⊢
    have hlow := of_decide_eq_true h.1
    have hhigh := of_decide_eq_true h.2
    omega

theorem ofWhole_eq_ok {n : Int} {v : Value} :
    ofWhole n = .ok v ↔ ColumnType.timestamp.Takes (.int n) ∧ v = ColumnType.timestamp.framed (.int n) := by
  simp only [ofWhole, ColumnType.Takes, ColumnType.framed]
  split_ifs with hmin hmicro
  · simp only [Except.ok.injEq, hmin, true_or, true_and, eq_comm]
  · simp only [Except.ok.injEq, hmin, hmicro, false_or, true_and, eq_comm]
  · simp only [hmin, hmicro, false_or, false_and, Bool.false_eq_true]

theorem bounds_of_listen {p q : Precision} {ns : List Int} {said : List Said}
    (h : listen p (ns.map .int) = .ok (q, said)) : ∀ n ∈ ns, SeriesType.minWhole ≤ n ∧ n ≤ SeriesType.maxWhole := by
  induction ns generalizing p q said with
  | nil => simp
  | cons n ns ih =>
    rw [List.map_cons, listen, bind_eq_ok] at h
    obtain ⟨what, hwhat, h⟩ := h
    rw [bind_eq_ok] at h
    obtain ⟨⟨⟩, hkeep, h⟩ := h
    rw [bind_eq_ok] at h
    obtain ⟨⟨q', rest⟩, hrest, _⟩ := h
    have hn : SeriesType.minWhole ≤ n ∧ n ≤ SeriesType.maxWhole := by
      change (if n = SeriesType.minWhole then _ else _) = _ at hwhat
      split_ifs at hwhat with hmin
      · rw [hmin]
        decide
      · obtain rfl := Except.ok.inj hwhat
        simp only [Said.keep] at hkeep
        split_ifs at hkeep with hholds
        exact holds_milli.mp hholds.1
    intro m hm
    rcases List.mem_cons.mp hm with rfl | hm
    · exact hn
    · exact ih hrest m hm

theorem ofCells_ints {ns : List Int} (hne : ns ≠ []) {vs : List Value} :
    ofCells (.ofCells (ns.map .int)) (ns.map .int) = .ok vs ↔
      (∀ n ∈ ns, ColumnType.timestamp.Takes (.int n)) ∧ vs = ns.map fun n => ColumnType.timestamp.framed (.int n) := by
  have hwhole : ofCells .whole (ns.map .int) = .ok vs ↔ (∀ n ∈ ns, ColumnType.timestamp.Takes (.int n)) ∧
      vs = ns.map fun n => ColumnType.timestamp.framed (.int n) := by
    exact mapM_map_eq_ok (g := Value.int) fun n v => ofWhole_eq_ok
  by_cases hbounds : ∀ n ∈ ns, SeriesType.minWhole ≤ n ∧ n ≤ SeriesType.maxWhole
  · rw [SeriesType.ofCells_bounds hne hbounds]
    exact hwhole
  · constructor
    · intro h
      exfalso
      apply hbounds
      rw [SeriesType.ofCells_ints hne] at h
      split_ifs at h with hfits hlarge
      · simp only [ofCells, ofMixed, bind_eq_ok] at h
        obtain ⟨⟨p, said⟩, hlisten, _⟩ := h
        exact bounds_of_listen hlisten
      · simp [ofCells, hne] at h
      · have hfits' := (SeriesType.fits_ints.mp (by simpa using hfits)).1
        intro n hn
        exact ⟨(hfits' n hn).1, by simpa using (by simpa using hlarge : ∀ n ∈ ns, n ≤ SeriesType.maxWhole) n hn⟩
    · rintro ⟨htakes, _⟩
      exact absurd (fun n hn => bounds_of_takes (htakes n hn)) hbounds

end Moment

namespace ColumnType

theorem exists_ints {c : ColumnType} (hc : c = .timestamp ∨ c = .integer) {cells : List Value}
    (h : ∀ v ∈ cells, c.Admits v) : ∃ ns : List Int, cells = ns.map .int := by
  induction cells with
  | nil => exact ⟨[], rfl⟩
  | cons v cells ih =>
    obtain ⟨ns, rfl⟩ := ih fun v hv => h v (List.mem_cons_of_mem _ hv)
    have hv := h v (by simp)
    rcases hc with rfl | rfl <;> cases v <;> first | exact ⟨_ :: ns, rfl⟩ | exact hv.elim

theorem exists_texts {width : Nat} {cells : List Value} (h : ∀ v ∈ cells, (text width).Admits v) :
    ∃ ss : List String, cells = ss.map .text := by
  induction cells with
  | nil => exact ⟨[], rfl⟩
  | cons v cells ih =>
    obtain ⟨ss, rfl⟩ := ih fun v hv => h v (List.mem_cons_of_mem _ hv)
    have hv := h v (by simp)
    cases v <;> first | exact ⟨_ :: ss, rfl⟩ | exact hv.elim

end ColumnType

namespace Frame

variable {c : ColumnType} {cells vs : List Value}

theorem map_cell_ints {ns : List Int} (hne : ns ≠ []) :
    (ns.map Value.int).map (SeriesType.cell (.ofCells (ns.map .int))) = ns.map .int := by
  rw [SeriesType.ofCells_ints hne, List.map_map]
  split_ifs <;> rfl

theorem convert_timestamp {ns : List Int} (hne : ns ≠ []) : convert .timestamp (ns.map .int) = .ok vs ↔
    (∀ n ∈ ns, ColumnType.timestamp.Takes (.int n)) ∧ vs = ns.map fun n => ColumnType.timestamp.framed (.int n) := by
  simp only [convert, map_cell_ints hne, mapError_eq_ok]
  exact Moment.ofCells_ints hne

theorem framed_of_bounds {ns : List Int} (h : ∀ n ∈ ns, SeriesType.minWhole ≤ n ∧ n ≤ SeriesType.maxWhole) :
    (ns.map fun n => ColumnType.integer.framed (.int n)) = ns.map .int := by
  apply List.map_congr_left
  intro n hn
  simp only [ColumnType.framed, Int.not_lt.mpr (h n hn).2, ↓reduceIte]

theorem convert_integer {ns : List Int} (hne : ns ≠ []) (h : convert .integer (ns.map .int) = .ok vs) :
    (∀ n ∈ ns, SeriesType.minWhole ≤ n ∧ n ≤ SeriesType.maxNatural) ∧
      vs = ns.map fun n => ColumnType.integer.framed (.int n) := by
  simp only [convert, map_cell_ints hne, mapError_eq_ok] at h
  rw [SeriesType.ofCells_ints hne] at h
  have hle : SeriesType.maxWhole ≤ SeriesType.maxNatural := by decide
  have hweak (hns : ∀ n ∈ ns, SeriesType.minWhole ≤ n ∧ n ≤ SeriesType.maxWhole) :
      ∀ n ∈ ns, SeriesType.minWhole ≤ n ∧ n ≤ SeriesType.maxNatural := fun n hn =>
    ⟨(hns n hn).1, Int.le_trans (hns n hn).2 hle⟩
  split_ifs at h with hfits hlarge
  · obtain ⟨hns, rfl⟩ := (Count.ofCells_ints (.inr rfl)).mp h
    exact ⟨hweak hns, (framed_of_bounds hns).symm⟩
  · refine ⟨(SeriesType.fits_ints.mp (by simpa using hfits)).1, ?_⟩
    simp only [Count.ofCells, List.map_map, Except.ok.injEq] at h
    exact h.symm
  · obtain ⟨hns, rfl⟩ := (Count.ofCells_ints (.inl rfl)).mp h
    exact ⟨hweak hns, (framed_of_bounds hns).symm⟩

theorem convert_text {width : Nat} {ss : List String} (hne : ss ≠ []) :
    convert (.text width) (ss.map .text) = .ok (ss.map .text) := by
  unfold convert
  simp [SeriesType.ofCells_texts hne, SeriesType.cell]

theorem convert_of_takes (hne : cells ≠ []) (h : ∀ v ∈ cells, c.Takes v) : convert c cells = .ok (cells.map c.framed) := by
  have hadmits : ∀ v ∈ cells, c.Admits v := fun v hv => (h v hv).admits
  cases c with
  | timestamp =>
    obtain ⟨ns, rfl⟩ := ColumnType.exists_ints (.inl rfl) hadmits
    rw [convert_timestamp (by simpa using hne), List.map_map]
    exact ⟨by simpa using h, rfl⟩
  | integer =>
    obtain ⟨ns, rfl⟩ := ColumnType.exists_ints (.inr rfl) hadmits
    have hbounds (n : Int) (hn : n ∈ ns) : SeriesType.minWhole ≤ n ∧ n ≤ SeriesType.maxWhole :=
      h _ (List.mem_map.mpr ⟨n, hn, rfl⟩)
    have hne : ns ≠ [] := by simpa using hne
    simp only [convert, mapError_eq_ok, SeriesType.ofCells_bounds hne hbounds, List.map_map]
    exact (Count.ofCells_ints (.inl rfl)).mpr ⟨hbounds, framed_of_bounds hbounds⟩
  | text width =>
    obtain ⟨ss, rfl⟩ := ColumnType.exists_texts hadmits
    rw [convert_text (by simpa using hne), List.map_map]
    rfl

theorem convert_eq_ok (hne : cells ≠ []) (hadmits : ∀ v ∈ cells, c.Admits v) (h : convert c cells = .ok vs) :
    vs = cells.map c.framed ∧ ∀ v ∈ cells, c = .timestamp ∨ c.framed v = v → c.Takes v := by
  cases c with
  | timestamp =>
    obtain ⟨ns, rfl⟩ := ColumnType.exists_ints (.inl rfl) hadmits
    obtain ⟨htakes, rfl⟩ := (convert_timestamp (by simpa using hne)).mp h
    exact ⟨by rw [List.map_map]; rfl, by simpa using htakes⟩
  | integer =>
    obtain ⟨ns, rfl⟩ := ColumnType.exists_ints (.inr rfl) hadmits
    obtain ⟨hbounds, rfl⟩ := convert_integer (by simpa using hne) h
    refine ⟨by rw [List.map_map]; rfl, ?_⟩
    intro v hv hsame
    obtain ⟨n, hn, rfl⟩ := List.mem_map.mp hv
    refine ⟨(hbounds n hn).1, ?_⟩
    by_contra hlarge
    simp only [ColumnType.framed, Int.not_le.mp hlarge, reduceCtorEq, false_or, ↓reduceIte, Value.int.injEq,
      SeriesType.maxNatural] at hsame
    omega
  | text width =>
    obtain ⟨ss, rfl⟩ := ColumnType.exists_texts hadmits
    rw [convert_text (by simpa using hne), Except.ok.injEq] at h
    refine ⟨by rw [List.map_map, ← h]; rfl, ?_⟩
    intro v hv _
    obtain ⟨s, _, rfl⟩ := List.mem_map.mp hv
    trivial

end Frame

end LogMill
