import LogMill.Proofs.Frame.Conversion

namespace LogMill.Frame

open Outcome

variable {c : ColumnType} {k : Nat} {xs : List (Cells × Cells)}

def step (rows : List Cells) (x : Column × Nat) : Except Fault (List Cells) := do
  return withColumn x.2 (← convert x.1.type (column x.2 rows)) rows

abbrev joined (xs : List (Cells × Cells)) : List Cells := xs.map fun x => x.1 ++ x.2

def shifted (c : ColumnType) (xs : List (Cells × Cells)) : List (Cells × Cells) :=
  xs.map fun x => (x.1 ++ [c.framed (x.2.headD .null)], x.2.tail)

theorem column_joined (h : ∀ x ∈ xs, x.1.length = k) : column k (joined xs) = xs.map fun x => x.2.headD .null := by
  unfold column
  rw [List.map_map]
  apply List.map_congr_left
  rintro ⟨before, after⟩ hx
  obtain rfl : before.length = k := h _ hx
  cases after <;> simp

theorem withColumn_joined (h : ∀ x ∈ xs, x.1.length = k ∧ x.2 ≠ []) :
    withColumn k ((xs.map fun x => x.2.headD .null).map c.framed) (joined xs) = joined (shifted c xs) := by
  unfold withColumn joined shifted
  rw [List.map_map, List.map_map, List.zipWith_map, List.zipWith_self]
  apply List.map_congr_left
  rintro ⟨before, after⟩ hx
  obtain ⟨hlength, hafter⟩ := h _ hx
  obtain ⟨v, after, rfl⟩ := List.exists_cons_of_ne_nil hafter
  obtain rfl : before.length = k := hlength
  simp

theorem forall_shifted {c : Column} {cs : List Column} {R : Column → Value → Prop}
    (h : ∀ x ∈ xs, x.1.length = k ∧ List.Forall₂ R (c :: cs) x.2) :
    (∀ x ∈ xs, x.1.length = k ∧ x.2 ≠ []) ∧ (∀ v ∈ xs.map (fun x => x.2.headD .null), R c v) ∧
      ∀ x ∈ shifted c.type xs, x.1.length = k + 1 ∧ List.Forall₂ R cs x.2 := by
  refine ⟨?_, ?_, ?_⟩
  · rintro ⟨before, after⟩ hx
    obtain ⟨hlength, hafter⟩ := h _ hx
    cases hafter
    exact ⟨hlength, by simp⟩
  · intro v hv
    obtain ⟨⟨before, after⟩, hx, rfl⟩ := List.mem_map.mp hv
    obtain ⟨_, hafter⟩ := h _ hx
    cases hafter with
    | cons hfirst _ => exact hfirst
  · intro y hy
    obtain ⟨⟨before, after⟩, hx, rfl⟩ := List.mem_map.mp hy
    obtain ⟨hlength, hafter⟩ := h _ hx
    cases hafter with
    | cons _ hrest => exact ⟨by simpa using hlength, hrest⟩

def framed (cs : List Column) (cells : Cells) : Cells := List.zipWith (fun c v => c.type.framed v) cs cells

theorem framed_shifted {c : Column} {cs : List Column} (h : ∀ x ∈ xs, x.2 ≠ []) :
    ((shifted c.type xs).map fun x => x.1 ++ framed cs x.2) = xs.map fun x => x.1 ++ framed (c :: cs) x.2 := by
  rw [shifted, List.map_map]
  apply List.map_congr_left
  rintro ⟨before, after⟩ hx
  obtain ⟨v, after, rfl⟩ := List.exists_cons_of_ne_nil (h _ hx)
  simp [framed]

theorem framed_nil {R : Column → Value → Prop} (h : ∀ x ∈ xs, List.Forall₂ R [] x.2) :
    (xs.map fun x => x.1 ++ framed [] x.2) = joined xs := by
  apply List.map_congr_left
  intro x hx
  rw [List.forall₂_nil_left_iff.mp (h x hx)]
  rfl

theorem shifted_ne_nil {c : ColumnType} (h : xs ≠ []) : shifted c xs ≠ [] := by
  simpa [shifted] using h

theorem foldlM_of_takes {cs : List Column} (hne : xs ≠ [])
    (h : ∀ x ∈ xs, x.1.length = k ∧ List.Forall₂ (fun c v => c.type.Takes v) cs x.2) :
    (cs.zipIdx k).foldlM step (joined xs) = .ok (xs.map fun x => x.1 ++ framed cs x.2) := by
  induction cs generalizing k xs with
  | nil =>
    rw [framed_nil fun x hx => (h x hx).2]
    rfl
  | cons c cs ih =>
    obtain ⟨hlength, htakes, hrest⟩ := forall_shifted h
    rw [List.zipIdx_cons, List.foldlM_cons, step, column_joined fun x hx => (hlength x hx).1,
      convert_of_takes (by simpa using hne) htakes]
    change List.foldlM step (withColumn k _ (joined xs)) _ = _
    rw [withColumn_joined hlength, ih (shifted_ne_nil hne) hrest, framed_shifted fun x hx => (hlength x hx).2]

theorem foldlM_eq_ok {cs : List Column} {rows : List Cells} (hne : xs ≠ [])
    (hadmits : ∀ x ∈ xs, x.1.length = k ∧ List.Forall₂ (fun c v => c.type.Admits v) cs x.2)
    (h : (cs.zipIdx k).foldlM step (joined xs) = .ok rows) :
    rows = (xs.map fun x => x.1 ++ framed cs x.2) ∧ ∀ x ∈ xs,
      List.Forall₂ (fun c v => c.type = .timestamp ∨ c.type.framed v = v → c.type.Takes v) cs x.2 := by
  -- Each step moves one cell of every row from the columns to come to those so far.
  induction cs generalizing k xs with
  | nil =>
    rw [framed_nil fun x hx => (hadmits x hx).2]
    refine ⟨(Except.ok.inj h).symm, ?_⟩
    intro x hx
    rw [List.forall₂_nil_left_iff.mp (hadmits x hx).2]
    exact .nil
  | cons c cs ih =>
    obtain ⟨hlength, hcolumn, hrest⟩ := forall_shifted hadmits
    rw [List.zipIdx_cons, List.foldlM_cons, bind_eq_ok] at h
    obtain ⟨rows', hstep, h⟩ := h
    rw [step, column_joined fun x hx => (hlength x hx).1, bind_eq_ok] at hstep
    obtain ⟨vs, hvs, hrows⟩ := hstep
    obtain ⟨rfl, htakes⟩ := convert_eq_ok (by simpa using hne) hcolumn hvs
    obtain rfl := Except.ok.inj hrows
    rw [withColumn_joined hlength] at h
    obtain ⟨rfl, hafter⟩ := ih (shifted_ne_nil hne) hrest h
    refine ⟨framed_shifted fun x hx => (hlength x hx).2, ?_⟩
    rintro ⟨before, after⟩ hx
    obtain ⟨v, after, rfl⟩ := List.exists_cons_of_ne_nil (hlength _ hx).2
    exact .cons (htakes v (List.mem_map.mpr ⟨_, hx, rfl⟩)) (hafter _ (List.mem_map.mpr ⟨_, hx, rfl⟩))

abbrev Typed (cells : Cells) : Prop := List.Forall₂ (fun c v => c.type.Admits v) Schema.columns cells

variable {rows : List Cells}

theorem width_eq {n : Nat} (hne : rows ≠ []) (h : ∀ cells ∈ rows, cells.length = n) : width rows = n := by
  have hfold (m : Nat) (hm : m ≤ n) (rows : List Cells) (h : ∀ cells ∈ rows, cells.length = n) :
      (rows.map List.length).foldl max m = if rows = [] then m else n := by
    induction rows generalizing m with
    | nil => rfl
    | cons cells rows ih =>
      have hlength := h cells (by simp)
      rw [List.map_cons, List.foldl_cons, ih _ (by omega) fun cells hc => h cells (by simp [hc])]
      split_ifs <;> simp_all
  rw [width, hfold 0 (Nat.zero_le n) rows h, if_neg hne]

theorem padded_self {cells : Cells} : padded cells.length cells = cells := by
  simp [padded]

theorem ofRows_eq (hne : rows ≠ []) (h : ∀ cells ∈ rows, cells.length = Schema.columns.length) :
    ofRows rows = (Schema.columns.zipIdx).foldlM step rows := by
  have hshaped : shaped Schema.columns.length rows = .ok rows := by
    have hpadded : rows.map (padded Schema.columns.length) = rows := by
      conv_rhs => rw [← List.map_id rows]
      apply List.map_congr_left
      intro cells hc
      rw [← h cells hc, padded_self]
      rfl
    rw [shaped, if_neg hne, if_neg (by simp [width_eq hne h]), hpadded]
  unfold ofRows
  rw [hshaped]
  simp only [bind, Except.bind, hne, ↓reduceIte]
  rfl

theorem Typed.length {cells : Cells} (h : Typed cells) : cells.length = Schema.columns.length := h.length_eq.symm

theorem joined_start (rows : List Cells) : joined (rows.map fun cells => ([], cells)) = rows := by
  rw [joined, List.map_map]
  exact List.map_id rows

theorem ofRows_of_takes (hne : rows ≠ [])
    (h : ∀ cells ∈ rows, List.Forall₂ (fun c v => c.type.Takes v) Schema.columns cells) :
    ofRows rows = .ok (rows.map (framed Schema.columns)) := by
  have hfold : Schema.columns.zipIdx.foldlM step (joined (rows.map fun cells => ([], cells))) = _ :=
    foldlM_of_takes (k := 0) (by simpa using hne) (by simpa using h)
  rw [joined_start, List.map_map] at hfold
  rw [ofRows_eq hne fun cells hc => (h cells hc).length_eq.symm]
  exact hfold

theorem ofRows_eq_ok {rows' : List Cells} (hne : rows ≠ []) (htyped : ∀ cells ∈ rows, Typed cells)
    (h : ofRows rows = .ok rows') : rows' = rows.map (framed Schema.columns) ∧ ∀ cells ∈ rows,
      List.Forall₂ (fun c v => c.type = .timestamp ∨ c.type.framed v = v → c.type.Takes v) Schema.columns cells := by
  rw [ofRows_eq hne fun cells hc => (htyped cells hc).length, ← joined_start rows] at h
  obtain ⟨rfl, htakes⟩ := foldlM_eq_ok (k := 0) (by simpa using hne) (by simpa using htyped) h
  exact ⟨by rw [List.map_map]; rfl, by simpa using htakes⟩

end LogMill.Frame
