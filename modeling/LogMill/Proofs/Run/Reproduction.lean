import LogMill.Proofs.Run.Exported

namespace LogMill

open Outcome

namespace Generator

variable {g g₁ g₂ : Generator} {base₁ base₂ : Int} {seed₁ seed₂ : Value}

theorem next_withPools (g : Generator) (pools : PoolSet) :
    ({ g with pools } : Generator).next = g.next.map fun (b, g') => (b, { g' with pools }) := by
  simp only [next, remaining]
  split_ifs
  · rfl
  · cases g.producer.batch g.cursor (min g.batchSize (g.stop - g.cursor)) <;> rfl

theorem drain_withPools (g : Generator) (pools : PoolSet) :
    ({ g with pools } : Generator).drain.1 = g.drain.1 ∧ ({ g with pools } : Generator).drain.2.1 = g.drain.2.1 := by
  induction g using drain.induct with
  | case1 g g' hn =>
    have hn' : ({ g with pools } : Generator).next = .ok (none, { g' with pools }) := by rw [next_withPools, hn]; rfl
    rw [drain_of_none hn, drain_of_none hn']
    exact ⟨rfl, rfl⟩
  | case2 g f hn =>
    have hn' : ({ g with pools } : Generator).next = .error f := by rw [next_withPools, hn]; rfl
    rw [drain_of_error hn, drain_of_error hn']
    exact ⟨rfl, rfl⟩
  | case3 g b g' hn hb =>
    have hn' : ({ g with pools } : Generator).next = .ok (some b, { g' with pools }) := by rw [next_withPools, hn]; rfl
    rw [drain_of_empty hn hb, drain_of_empty hn' hb]
    exact ⟨rfl, rfl⟩
  | case4 g b g' hn hb bs course last hd ih =>
    have hn' : ({ g with pools } : Generator).next = .ok (some b, { g' with pools }) := by rw [next_withPools, hn]; rfl
    rw [drain_of_some hn hb, drain_of_some hn' hb]
    exact ⟨by simp only [ih.1], ih.2⟩

namespace Ready

variable {table : Table} {base : Value} {n : Int} {a b : Cells}

theorem drain_congr (h₁ : g₁.Ready table base seed₁) (h₂ : g₂.Ready table base seed₂)
    (hsize : g₁.pools.size = g₂.pools.size) (hseed : seed₁.plain = seed₂.plain)
    (hrows : g₁.producer.rowCount = g₂.producer.rowCount) (hbatch : g₁.batchSize = g₂.batchSize) :
    g₁.drain.1 = g₂.drain.1 ∧ g₁.drain.2.1 = g₂.drain.2.1 := by
  have hfeeds := h₁.feeds_congr h₂ hsize hseed
  obtain ⟨hstart₁, hcursor₁, hstop₁⟩ := h₁.range
  obtain ⟨hstart₂, hcursor₂, hstop₂⟩ := h₂.range
  have hsame : { g₁ with pools := g₂.pools } = g₂ := by
    obtain ⟨⟨feeds₁, rows₁⟩, pools₁, batch₁, start₁, stop₁, cursor₁⟩ := g₁
    obtain ⟨⟨feeds₂, rows₂⟩, pools₂, batch₂, start₂, stop₂, cursor₂⟩ := g₂
    simp_all
  obtain ⟨hdrain, hcourse⟩ := drain_withPools g₁ g₂.pools
  rw [hsame] at hdrain hcourse
  exact ⟨hdrain.symm, hcourse.symm⟩

theorem uid_cell (h : g.Ready table (.int base₁) seed₁) (hrow : g.producer.row n = .ok a) :
    a[1]? = some (.text ("log_" ++ toString (base₁ + n) ++ "_" ++ toString n)) := by
  obtain ⟨v, hcell, hvalue⟩ := h.exists_own_cell hrow (c := ⟨"log_uid", .text 64⟩) (by decide) (by decide) rfl
  have hindex : Schema.indexOf? "log_uid" = some 1 := by decide
  obtain rfl := Rule.uid_value hvalue
  simpa only [Cells.cell?, hindex, Option.bind_some] using hcell

theorem base_eq_of_spelled (h₁ : g₁.Ready table (.int base₁) seed₁) (h₂ : g₂.Ready table (.int base₂) seed₂)
    (ha : g₁.producer.row n = .ok a) (hb : g₂.producer.row n = .ok b)
    (hs : a.map FileSink.spelled = b.map FileSink.spelled) : base₁ = base₂ := by
  have hcells := congrArg (fun texts : List (List Char) => texts[1]?) hs
  simp only [List.getElem?_map, h₁.uid_cell ha, h₂.uid_cell hb, Option.map_some, Option.some.injEq, FileSink.spelled,
    String.toList_append, List.append_cancel_right_eq, List.append_cancel_left_eq] at hcells
  have htime : base₁ + n = base₂ + n := Int.repr_injective (String.toList_injective hcells)
  omega

theorem base_eq_of_textOf (h₁ : g₁.Ready .builtin (.int base₁) seed₁) (h₂ : g₂.Ready .builtin (.int base₂) seed₂)
    (htext : FileSink.textOf g₁.kept = FileSink.textOf g₂.kept) : base₁ = base₂ ∨ g₁.kept = [] ∧ g₂.kept = [] := by
  have hrecords := FileSink.recordsOf_of_textOf h₁.ne_nil_of_mem_kept h₂.ne_nil_of_mem_kept htext
  cases hkept₁ : g₁.kept with
  | nil => exact .inr ⟨rfl, by simpa [FileSink.recordsOf, hkept₁] using hrecords.symm⟩
  | cons a rest =>
    cases hkept₂ : g₂.kept with
    | nil => simp [FileSink.recordsOf, hkept₁, hkept₂] at hrecords
    | cons b rest' =>
      have ha : g₁.kept[0]? = some a := by rw [hkept₁]; rfl
      have hb : g₂.kept[0]? = some b := by rw [hkept₂]; rfl
      simp only [FileSink.recordsOf, hkept₁, hkept₂, List.map_cons, List.cons.injEq] at hrecords
      exact .inl (h₁.base_eq_of_spelled h₂ (h₁.row_of_kept ha) (h₂.row_of_kept hb) hrecords.1)

end Ready

end Generator

/-- Two exports with the same counts and seed write the same file exactly if they find the same time, unless neither
has come to write a row. At any times, the rows of the two files are the same but for the times and the identifiers
made of them; the times are as far apart as those found. -/
theorem same_file_iff (path : Value) {rows batch : Int} (hrows : 1 ≤ rows) (hbatch : 1 ≤ batch) (seed : Int)
    (w₁ w₂ : World) {place₁ place₂ : Place} (hplace₁ : w₁.directory.target path = .ok place₁)
    (hplace₂ : w₂.directory.target path = .ok place₂) {time₁ time₂ : Int}
    (htime₁ : Duration.ofSeconds (w₁.clock 1 - w₁.clock 0) = .ok time₁)
    (htime₂ : Duration.ofSeconds (w₂.clock 1 - w₂.clock 0) = .ok time₂) :
    ∃ cells₁ cells₂ : List Cells,
      ((Export.ofCounts path (.int seed) rows batch).run w₁).2.2.read path = .ok (FileSink.textOf cells₁).toUTF8 ∧
      ((Export.ofCounts path (.int seed) rows batch).run w₂).2.2.read path = .ok (FileSink.textOf cells₂).toUTF8 ∧
      ((FileSink.textOf cells₁).toUTF8 = (FileSink.textOf cells₂).toUTF8 ↔
        w₁.now = w₂.now ∨ cells₁ = [] ∧ cells₂ = []) ∧
      (∀ (i : Nat) a b, cells₁[i]? = some a → cells₂[i]? = some b →
        (∀ column ∈ Schema.names, column ≠ "ts" → column ≠ "log_uid" → a.cell? column = b.cell? column) ∧
        ∃ t : Int, a.cell? "ts" = some (.int t) ∧ b.cell? "ts" = some (.int (t + (w₂.now - w₁.now)))) ∧
      (min batch rows ≤ Producer.room →
        (Rule.Short w₁.now rows → (cells₁.length : Int) = rows) ∧
        (Rule.Short w₂.now rows → (cells₂.length : Int) = rows)) := by
  obtain ⟨g₁, notes₁, hc₁, hseed₁, hready₁, hcount₁, hbatch₁, hsize₁⟩ :=
    Export.exists_ready hrows hbatch path (.int seed) htime₁
  obtain ⟨g₂, notes₂, hc₂, hseed₂, hready₂, hcount₂, hbatch₂, hsize₂⟩ :=
    Export.exists_ready hrows hbatch path (.int seed) htime₂
  have htext₁ := hready₁.text_fill
  have htext₂ := hready₂.text_fill
  have hsize : g₁.pools.size = g₂.pools.size := hsize₁.trans hsize₂.symm
  have hseed : g₁.pools.seed.plain = g₂.pools.seed.plain := by rw [hseed₁, hseed₂]; rfl
  refine ⟨g₁.kept, g₂.kept, ?_, ?_, ?_, ?_, ?_⟩
  · rw [Export.run_directory hc₁ hplace₁, htext₁]
    exact Directory.read_write hplace₁ _
  · rw [Export.run_directory hc₂ hplace₂, htext₂]
    exact Directory.read_write hplace₂ _
  · have hbytes : (FileSink.textOf g₁.kept).toUTF8 = (FileSink.textOf g₂.kept).toUTF8 ↔
        FileSink.textOf g₁.kept = FileSink.textOf g₂.kept := String.toByteArray_inj
    rw [hbytes]
    constructor
    · exact hready₁.base_eq_of_textOf hready₂
    · rintro (hnow | ⟨hnil₁, hnil₂⟩)
      · rw [← hnow] at hready₂
        obtain ⟨hdrain, hcourse⟩ := hready₁.drain_congr hready₂ hsize hseed (hcount₁.trans hcount₂.symm)
          (hbatch₁.trans hbatch₂.symm)
        rw [← htext₁, ← htext₂, hdrain, hcourse]
      · rw [hnil₁, hnil₂]
  · intro i a b ha hb
    have ha := hready₁.row_of_kept ha
    have hb := hready₂.row_of_kept hb
    refine ⟨fun column hmem hts huid => ?_, hready₁.times_apart hready₂ hsize ha hb⟩
    exact hready₁.cell_congr hready₂ hsize ha hb hmem ⟨hts, huid⟩ (.inl hseed)
  · intro hroom
    constructor
    · intro hshort
      rw [hready₁.length_kept (hcount₁ ▸ hshort) (by omega), hcount₁]
    · intro hshort
      rw [hready₂.length_kept (hcount₂ ▸ hshort) (by omega), hcount₂]

theorem same_file_iff_pair : ∃ cells₁ cells₂ : List Cells, cells₁.length = 2 ∧ cells₂.length = 2 ∧
    ((Export.ofCounts (.text "a") (.int 7) 2 1).run .idle).2.2.read (.text "a") =
      .ok (FileSink.textOf cells₁).toUTF8 ∧
    ((Export.ofCounts (.text "a") (.int 7) 2 1).run { World.idle with now := 0 }).2.2.read (.text "a") =
      .ok (FileSink.textOf cells₂).toUTF8 ∧
    (FileSink.textOf cells₁).toUTF8 ≠ (FileSink.textOf cells₂).toUTF8 := by
  have hplace : World.idle.directory.target (.text "a") = .ok ⟨false, 0, ["a".toList]⟩ := by decide +kernel
  have hlimit {n : Nat} (h : n < 10 ^ 13) : n < Nat.pow 10 Whole.maxDigits := Whole.lt_limit h (by decide)
  obtain ⟨cells₁, cells₂, hread₁, hread₂, hsame, -, hlength⟩ := same_file_iff (.text "a") (show (1 : Int) ≤ 2 by decide)
    (show (1 : Int) ≤ 1 by decide) 7 .idle { World.idle with now := 0 } hplace hplace World.ofSeconds_idle
    World.ofSeconds_idle
  obtain ⟨hlength₁, hlength₂⟩ := hlength (by decide)
  have hlength₁ : cells₁.length = 2 := Int.ofNat_inj.mp (hlength₁ (hlimit (by decide)))
  have hlength₂ : cells₂.length = 2 := Int.ofNat_inj.mp (hlength₂ (hlimit (by decide)))
  refine ⟨cells₁, cells₂, hlength₁, hlength₂, hread₁, hread₂, ?_⟩
  intro hbytes
  obtain hnow | ⟨hnil, -⟩ := hsame.mp hbytes
  · exact absurd hnow (by decide)
  · simp [hnil] at hlength₁

theorem another_file_later : ∃ bytes₁ bytes₂,
    ((Export.ofCounts (.text "out.csv") (.int 1) 1 1).run .idle).2.2.read (.text "out.csv") = .ok bytes₁ ∧
    ((Export.ofCounts (.text "out.csv") (.int 1) 1 1).run { World.idle with now := 1700000001000 }).2.2.read
      (.text "out.csv") = .ok bytes₂ ∧ bytes₁ ≠ bytes₂ := by
  have hplace : World.idle.directory.target (.text "out.csv") = .ok ⟨false, 0, ["out.csv".toList]⟩ := by decide +kernel
  have hone : (1 : Int) ≤ 1 := by decide
  obtain ⟨g₁, notes₁, hc₁, -, hready₁, hcount₁, hbatch₁, -⟩ := Export.exists_ready (w := .idle) hone hone
    (.text "out.csv") (.int 1) World.ofSeconds_idle
  obtain ⟨g₂, notes₂, hc₂, -, hready₂, -⟩ := Export.exists_ready (w := { World.idle with now := 1700000001000 }) hone
    hone (.text "out.csv") (.int 1) World.ofSeconds_idle
  refine ⟨(FileSink.textOf g₁.kept).toUTF8, (FileSink.textOf g₂.kept).toUTF8, ?_, ?_, ?_⟩
  · rw [Export.run_directory hc₁ hplace, hready₁.text_fill]
    exact Directory.read_write hplace _
  · rw [Export.run_directory hc₂ hplace, hready₂.text_fill]
    exact Directory.read_write hplace _
  · intro hbytes
    obtain hnow | ⟨hnil, -⟩ := hready₁.base_eq_of_textOf hready₂ (String.toByteArray_inj.mp hbytes)
    · exact absurd hnow (by decide)
    · have hshort : Rule.Short World.idle.now g₁.producer.rowCount := by
        rw [hcount₁]
        exact Whole.lt_limit (k := 13) (by decide) (by decide)
      have hlength := hready₁.length_kept hshort (by rw [hcount₁, hbatch₁]; decide)
      simp [hnil, hcount₁] at hlength

end LogMill
