import LogMill.Proofs.Frame.Typed

namespace LogMill

open Outcome

theorem Schema.head_columns : ∃ rest, columns = ⟨"ts", .timestamp⟩ :: rest ∧ ∀ c ∈ rest, c.type ≠ .timestamp :=
  ⟨columns.tail, rfl, by decide⟩

theorem ColumnType.framed_self {c : ColumnType} {v : Value} (hc : c ≠ .timestamp) (h : c.Takes v) : c.framed v = v := by
  cases c with
  | timestamp => exact absurd rfl hc
  | integer =>
    cases v <;> first | exact h.elim | skip
    simp only [framed, Int.not_lt.mpr h.2, ↓reduceIte]
  | text width => rfl

namespace Moment

theorem length_listen {p q : Precision} {cells : List Value} {said : List Said} (h : listen p cells = .ok (q, said)) :
    said.length = cells.length := by
  induction cells generalizing p q said with
  | nil =>
    obtain ⟨-, rfl⟩ := Prod.mk.inj (Except.ok.inj h)
    rfl
  | cons v cells ih =>
    simp only [listen, bind_eq_ok] at h
    obtain ⟨first, -, -, -, ⟨q', rest⟩, hrest, h⟩ := h
    obtain ⟨-, rfl⟩ := Prod.mk.inj (Except.ok.inj h)
    rw [List.length_cons, List.length_cons, ih hrest]

theorem length_ofMixed {cells vs : List Value} (h : ofMixed cells = .ok vs) : vs.length = cells.length := by
  simp only [ofMixed, bind_eq_ok] at h
  obtain ⟨⟨p, said⟩, hlisten, -, -, h⟩ := h
  split at h
  · rw [← Except.ok.inj h, List.length_map, length_listen hlisten]
  · cases h

theorem length_ofCells {t : SeriesType} {cells vs : List Value} (h : ofCells t cells = .ok vs) :
    vs.length = cells.length := by
  cases t with
  | whole => exact mapM_length h
  | natural =>
    simp only [ofCells] at h
    split_ifs at h with hnone
    rw [← Except.ok.inj h, hnone]
  | real =>
    simp only [ofCells, ofReals] at h
    split_ifs at h <;> exact mapM_length h
  | bool => exact length_ofMixed h
  | text => exact length_ofMixed h
  | mixed => exact length_ofMixed h

end Moment

theorem Count.length_ofCells {t : SeriesType} {cells vs : List Value} (h : ofCells t cells = .ok vs) :
    vs.length = cells.length := by
  cases t with
  | natural => rw [← Except.ok.inj h, List.length_map]
  | real =>
    simp only [ofCells] at h
    split_ifs at h
    rw [← Except.ok.inj h, List.length_map]
  | whole => exact mapM_length h
  | bool => exact mapM_length h
  | text => exact mapM_length h
  | mixed => exact mapM_length h

namespace Frame

theorem length_convert {c : ColumnType} {cells vs : List Value} (h : convert c cells = .ok vs) :
    vs.length = cells.length := by
  cases c with
  | timestamp =>
    simp only [convert, mapError_eq_ok] at h
    rw [Moment.length_ofCells h, List.length_map]
  | integer =>
    simp only [convert, mapError_eq_ok] at h
    rw [Count.length_ofCells h, List.length_map]
  | text width => rw [← Except.ok.inj h, List.length_map]

theorem framed_self {cs : List Column} (hcs : ∀ c ∈ cs, c.type ≠ .timestamp) {cells : Cells}
    (h : List.Forall₂ (fun c v => c.type.Takes v) cs cells) : framed cs cells = cells := by
  induction h with
  | nil => rfl
  | @cons c v cs cells hv _ ih =>
    obtain ⟨hc, hcs⟩ := List.forall_mem_cons.mp hcs
    exact congrArg₂ List.cons (ColumnType.framed_self hc hv) (ih hcs)

theorem takes_of_timeless {cs : List Column} (hcs : ∀ c ∈ cs, c.type ≠ .timestamp) {cells : Cells}
    (h : List.Forall₂ (fun c v => c.type = .timestamp ∨ c.type.Takes v) cs cells) :
    List.Forall₂ (fun c v => c.type.Takes v) cs cells := by
  rw [List.forall₂_iff_zip] at h ⊢
  exact ⟨h.1, fun hmem => (h.2 hmem).resolve_left (hcs _ (List.of_mem_zip hmem).1)⟩

variable {rows : List Cells}

theorem ofRows_timeless (hne : rows ≠ []) (h : ∀ cells ∈ rows,
    List.Forall₂ (fun c v => c.type = .timestamp ∨ c.type.Takes v) Schema.columns cells) :
    ofRows rows = (convert .timestamp (column 0 rows)).map fun times => withColumn 0 times rows := by
  obtain ⟨rest, hcolumns, hrest⟩ := Schema.head_columns
  rw [ofRows_eq hne fun cells hc => (h cells hc).length_eq.symm, hcolumns, List.zipIdx_cons, List.foldlM_cons, step]
  cases hconvert : convert .timestamp (column 0 rows) with
  | error f => rfl
  | ok times =>
    have hlength : times.length = rows.length := by rw [length_convert hconvert, column, List.length_map]
    -- With the times in place, the columns to come find their cells as they are to be.
    let xs : List (Cells × Cells) := (rows.zip times).map fun x => ([x.2], x.1.tail)
    have hafter : ∀ x ∈ xs, x.1.length = 1 ∧ List.Forall₂ (fun c v => c.type.Takes v) rest x.2 := by
      intro x hx
      obtain ⟨⟨cells, time⟩, hmem, rfl⟩ := List.mem_map.mp hx
      have hcells := h cells (List.of_mem_zip hmem).1
      rw [hcolumns] at hcells
      cases hcells with
      | cons _ hcells => exact ⟨rfl, takes_of_timeless hrest hcells⟩
    have hjoined : joined xs = withColumn 0 times rows := by
      rw [joined, List.map_map, withColumn, ← List.map_uncurry_zip_eq_zipWith]
      apply List.map_congr_left
      rintro ⟨cells, time⟩ hmem
      have hcells := h cells (List.of_mem_zip hmem).1
      cases hcells
      rfl
    have hframed : (xs.map fun x => x.1 ++ framed rest x.2) = joined xs :=
      List.map_congr_left fun x hx => by rw [framed_self hrest (hafter x hx).2]
    have hne' : xs ≠ [] := by
      rw [← List.length_pos_iff] at hne ⊢
      rwa [List.length_map, List.length_zip, hlength, Nat.min_self]
    have hfold := foldlM_of_takes (k := 1) hne' hafter
    rw [hframed, hjoined] at hfold
    exact hfold

def Agree (k : Nat) (rows rows' : List Cells) : Prop :=
  List.Forall₂ (fun cells cells' => cells'.length = cells.length ∧ ∀ i < k, cells'[i]? = cells[i]?) rows rows'

variable {k : Nat} {rows' rows'' : List Cells}

theorem Agree.trans (h : Agree k rows rows') (h' : Agree (k + 1) rows' rows'') : Agree k rows rows'' := by
  induction h generalizing rows'' with
  | nil =>
    cases h'
    exact .nil
  | cons hcells _ ih =>
    cases h' with
    | cons hnext hrest =>
      exact .cons ⟨hnext.1.trans hcells.1, fun i hi => (hnext.2 i (by omega)).trans (hcells.2 i hi)⟩ (ih hrest)

theorem withColumn_agree {vs : List Value} (h : vs.length = rows.length) : Agree k rows (withColumn k vs rows) := by
  induction rows generalizing vs with
  | nil => exact .nil
  | cons cells rows ih =>
    obtain ⟨v, vs, rfl⟩ := List.exists_cons_of_length_eq_add_one h
    refine .cons ⟨List.length_set, fun i hi => ?_⟩ (ih (Nat.succ_inj.mp h))
    exact List.getElem?_set_ne (by omega)

theorem foldlM_agree {cs : List Column} (h : (cs.zipIdx k).foldlM step rows = .ok rows') : Agree k rows rows' := by
  induction cs generalizing k rows with
  | nil =>
    obtain rfl := Except.ok.inj h
    exact List.forall₂_same.mpr fun cells _ => ⟨rfl, fun _ _ => rfl⟩
  | cons c cs ih =>
    rw [List.zipIdx_cons, List.foldlM_cons, bind_eq_ok] at h
    obtain ⟨next, hnext, h⟩ := h
    simp only [step, bind_eq_ok] at hnext
    obtain ⟨vs, hvs, hnext⟩ := hnext
    obtain rfl := Except.ok.inj hnext
    have hlength : vs.length = rows.length := by rw [length_convert hvs, column, List.length_map]
    exact (withColumn_agree hlength).trans (ih h)

theorem length_le_width {cells : Cells} (h : cells ∈ rows) : cells.length ≤ width rows := by
  have hfold (m : Nat) (ns : List Nat) : m ≤ ns.foldl max m ∧ ∀ n ∈ ns, n ≤ ns.foldl max m := by
    induction ns generalizing m with
    | nil => simp
    | cons n ns ih =>
      obtain ⟨hfirst, hrest⟩ := ih (max m n)
      rw [List.foldl_cons]
      refine ⟨by omega, List.forall_mem_cons.mpr ⟨by omega, hrest⟩⟩
  exact (hfold 0 _).2 _ (List.mem_map_of_mem h)

theorem ofRows_eq_ok_shaped (hne : rows ≠ []) (h : ofRows rows = .ok rows') :
    width rows = Schema.columns.length ∧
      Schema.columns.zipIdx.foldlM step (rows.map (padded Schema.columns.length)) = .ok rows' := by
  simp only [ofRows, bind_eq_ok, shaped, hne, ↓reduceIte] at h
  obtain ⟨shape, hshape, h⟩ := h
  split_ifs at hshape with hwidth
  obtain rfl := Except.ok.inj hshape
  refine ⟨Decidable.not_not.mp hwidth, ?_⟩
  simp only [List.map_eq_nil_iff, hne, ↓reduceIte] at h
  exact h

theorem withColumn_framed (rows : List Cells) :
    withColumn 0 ((column 0 rows).map ColumnType.timestamp.framed) rows =
      rows.map fun cells => cells.set 0 (ColumnType.timestamp.framed (cells.getD 0 .null)) := by
  rw [withColumn, column, List.map_map, List.zipWith_map_right, List.zipWith_self]
  rfl

theorem convert_times {vs : List Value} (hne : rows ≠ []) (htimes : ∀ cells ∈ rows, ∃ n, cells[0]? = some (.int n))
    (h : convert .timestamp (column 0 rows) = .ok vs) : vs = (column 0 rows).map ColumnType.timestamp.framed := by
  obtain ⟨ns, hns⟩ : ∃ ns : List Int, column 0 rows = ns.map .int := by
    apply ColumnType.exists_ints (c := .timestamp) (.inl rfl)
    intro v hv
    obtain ⟨cells, hcells, rfl⟩ := List.mem_map.mp hv
    obtain ⟨n, hn⟩ := htimes cells hcells
    rw [List.getD_eq_getElem?_getD, hn]
    trivial
  have hne' : ns ≠ [] := by
    rintro rfl
    simp [column, hne] at hns
  rw [hns] at h ⊢
  rw [((convert_timestamp hne').mp h).2, List.map_map]
  rfl

theorem ofRows_times (hne : rows ≠ []) (htimes : ∀ cells ∈ rows, ∃ n, cells[0]? = some (.int n))
    (h : ofRows rows = .ok rows') : List.Forall₂ (fun cells cells' => cells'.length = Schema.columns.length ∧
      ∀ n, cells[0]? = some (.int n) → cells'[0]? = some (ColumnType.timestamp.framed (.int n))) rows rows' := by
  obtain ⟨hwidth, hfold⟩ := ofRows_eq_ok_shaped hne h
  have hpadded : ∀ cells ∈ rows, (padded Schema.columns.length cells).length = Schema.columns.length ∧
      ∃ n, cells[0]? = some (.int n) ∧ (padded Schema.columns.length cells)[0]? = some (.int n) := by
    intro cells hcells
    have hle := length_le_width hcells
    obtain ⟨n, hn⟩ := htimes cells hcells
    refine ⟨?_, n, hn, ?_⟩
    · simp only [padded, List.length_append, List.length_replicate]
      omega
    · rw [padded, List.getElem?_append_left (List.getElem?_eq_some_iff.mp hn).1, hn]
  obtain ⟨cs, hcolumns⟩ : ∃ cs, Schema.columns = ⟨"ts", .timestamp⟩ :: cs := ⟨_, rfl⟩
  rw [hcolumns, List.zipIdx_cons, List.foldlM_cons, ← hcolumns, bind_eq_ok] at hfold
  obtain ⟨next, hnext, hfold⟩ := hfold
  simp only [step, bind_eq_ok] at hnext
  obtain ⟨vs, hvs, hnext⟩ := hnext
  obtain rfl := Except.ok.inj hnext
  have htimes' : ∀ cells ∈ rows.map (padded Schema.columns.length), ∃ n, cells[0]? = some (.int n) := by
    intro cells hcells
    obtain ⟨cells, hmem, rfl⟩ := List.mem_map.mp hcells
    obtain ⟨-, n, -, hn⟩ := hpadded cells hmem
    exact ⟨n, hn⟩
  -- The columns after the first leave it as it is, so that they can be of any kind.
  have hagree := foldlM_agree hfold
  rw [convert_times (by simpa using hne) htimes' hvs, withColumn_framed, List.map_map, Agree,
    List.forall₂_map_left_iff] at hagree
  refine ((List.forall₂_and_left _ _).mpr ⟨hpadded, hagree⟩).imp ?_
  rintro cells cells' ⟨⟨hlength, n, hn, hpad⟩, hsame, hbefore⟩
  refine ⟨by rw [hsame, Function.comp_apply, List.length_set, hlength], fun m hm => ?_⟩
  obtain rfl := Value.int.inj (Option.some.inj (hn.symm.trans hm))
  rw [hbefore 0 (by decide), Function.comp_apply, List.getElem?_set_self (List.getElem?_eq_some_iff.mp hpad).1,
    List.getD_eq_getElem?_getD, hpad, Option.getD_some]

end Frame

end LogMill
