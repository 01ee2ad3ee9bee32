import LogMill.Proofs.Run.Unnoticed
import Mathlib.Tactic.Linarith

namespace LogMill

variable {σ : Type}

namespace Generator

theorem isLeast_chunk (g : Generator) {streams : Int} (h : 1 ≤ streams) :
    IsLeast {size : Int | 1 ≤ size ∧ g.remaining ≤ size * streams} (g.chunk streams) := by
  obtain ⟨hlow, hhigh⟩ := ceilDiv_bounds g.remaining (by omega : 0 < streams)
  simp only [chunk]
  constructor
  · refine ⟨by omega, hhigh.trans ?_⟩
    exact Int.mul_le_mul_of_nonneg_right (by omega) (by omega)
  · rintro size ⟨hone, hall⟩
    have hless := lt_of_mul_lt_mul_right (hlow.trans_le hall) (by omega : 0 ≤ streams)
    omega

variable {g : Generator} {streams : Int}

theorem isLeast_pieceCount (streams : Int) (h : 0 ≤ g.remaining) :
    IsLeast {k : Nat | g.remaining ≤ k * g.chunk streams} (g.pieceCount streams) := by
  obtain ⟨hall, hfew⟩ := g.pieceCount_bounds streams h
  refine ⟨hall, ?_⟩
  intro k hk
  by_contra hless
  exact absurd (hfew k (Nat.not_le.mp hless)) (Int.not_lt.mpr hk)

theorem pieceCount_le (h : 0 ≤ g.remaining) (hstreams : 1 ≤ streams) :
    (g.pieceCount streams : Int) ≤ min streams g.remaining := by
  obtain ⟨⟨hone, hall⟩, -⟩ := g.isLeast_chunk hstreams
  obtain ⟨-, hleast⟩ := isLeast_pieceCount streams h
  have hfits (k : Int) (hk : 0 ≤ k) (henough : g.remaining ≤ k * g.chunk streams) :
      (g.pieceCount streams : Int) ≤ k := by
    have := hleast (a := k.toNat) (by simpa [Int.toNat_of_nonneg hk] using henough)
    omega
  apply le_min
  · apply hfits streams (by omega)
    rwa [Int.mul_comm]
  · apply hfits g.remaining h
    exact le_mul_of_one_le_right h hone

theorem pieceCount_of_few (h : 0 ≤ g.remaining) (hstreams : 1 ≤ streams) (hfew : g.remaining ≤ streams) :
    (g.pieceCount streams : Int) = g.remaining := by
  have hchunk : g.chunk streams = 1 :=
    (g.isLeast_chunk hstreams).unique ⟨⟨le_refl _, by omega⟩, fun size hsize => hsize.1⟩
  have hall := (isLeast_pieceCount streams h).1
  simp only [Set.mem_ofPred_eq, hchunk, Int.mul_one] at hall
  have := pieceCount_le h hstreams
  omega

theorem pieceCount_eq_iff (h : 0 ≤ g.remaining) (hstreams : 1 ≤ streams) :
    (g.pieceCount streams : Int) = streams ↔ (streams - 1) * g.chunk streams < g.remaining := by
  obtain ⟨hall, hfew⟩ := g.pieceCount_bounds streams h
  have hpos := g.chunk_pos streams
  have hle := pieceCount_le h hstreams
  constructor
  · intro heq
    have := hfew (streams - 1).toNat (by omega)
    rwa [Int.toNat_of_nonneg (by omega)] at this
  · intro hlast
    have hless := lt_of_mul_lt_mul_right (hlast.trans_le hall) hpos.le
    omega

theorem chunk_eq (h : 0 < g.remaining) (hstreams : 1 ≤ streams) : g.chunk streams =
    if streams ∣ g.remaining then g.remaining / streams else g.remaining / streams + 1 := by
  obtain ⟨⟨hone, hall⟩, hleast⟩ := g.isLeast_chunk hstreams
  have hsplit := Int.mul_ediv_add_emod g.remaining streams
  have hlow := Int.emod_nonneg g.remaining (by omega : streams ≠ 0)
  have hhigh := Int.emod_lt_of_pos g.remaining (by omega : 0 < streams)
  have hd := Int.ediv_nonneg h.le (by omega : 0 ≤ streams)
  split_ifs with hdvd
  · have hzero : g.remaining % streams = 0 := Int.emod_eq_zero_of_dvd hdvd
    have hge : g.remaining / streams ≤ g.chunk streams :=
      le_of_mul_le_mul_right (by linarith) (by omega : 0 < streams)
    have hpos : g.remaining / streams ≠ 0 := by
      intro hnone
      rw [hnone, Int.mul_zero] at hsplit
      omega
    have hle := hleast (a := g.remaining / streams) ⟨by omega, by linarith⟩
    omega
  · have hrest : g.remaining % streams ≠ 0 := fun hzero => hdvd (Int.dvd_of_emod_eq_zero hzero)
    have hgt : g.remaining / streams < g.chunk streams := by
      have : g.remaining / streams * streams < g.chunk streams * streams := by
        rw [Int.mul_comm]
        omega
      exact lt_of_mul_lt_mul_right this (by omega)
    have hle := hleast (a := g.remaining / streams + 1) ⟨by omega, by linarith⟩
    omega

theorem pieceCount_eq_min_iff (h : 0 ≤ g.remaining) (hstreams : 1 ≤ streams) :
    (g.pieceCount streams : Int) = min streams g.remaining ↔
      g.remaining ≤ streams ∨ streams ∣ g.remaining ∨ streams - g.remaining % streams ≤ g.remaining / streams := by
  by_cases hfew : g.remaining ≤ streams
  · rw [Int.min_eq_right hfew, pieceCount_of_few h hstreams hfew]
    simp only [hfew, true_or]
  have hsplit := Int.mul_ediv_add_emod g.remaining streams
  rw [Int.min_eq_left (by omega), pieceCount_eq_iff h hstreams, chunk_eq (by omega) hstreams]
  simp only [hfew, false_or]
  split_ifs with hdvd
  · have hzero : g.remaining % streams = 0 := Int.emod_eq_zero_of_dvd hdvd
    have hpos : 0 < g.remaining / streams := Int.ediv_pos_of_pos_of_dvd (by omega) (by omega) hdvd
    simp only [hdvd, true_or, iff_true]
    linarith
  · simp only [hdvd, false_or]
    constructor <;> intro <;> linarith

theorem length_pieces (g : Generator) (streams : Int) : (g.pieces streams).length = g.pieceCount streams := by
  rw [pieces_eq, List.length_map, List.length_range]

end Generator

theorem Streams.refused_run {sinks : Sinks σ} (h : ∀ i w, ∃ u, (sinks.create i w).1 = .ok u) {s : Streams σ}
    (hs : s.refused = none) (clock : Clock) (events : List Event) : (s.run sinks clock events).refused = none := by
  apply @run_keeps _ sinks clock (fun _ s => s.refused = none) ?_ [] s hs
  intro past asked s s' hs hstep
  cases hstep with
  | refused g gs f w hwaiting hcreate =>
    obtain ⟨u, hu⟩ := h s.launched.length s.world
    simp [hcreate] at hu
  | idle | launched g gs w hwaiting hcreate | advanced i t ht => exact hs

theorem Benchmark.exists_launched {b : Benchmark} {g : Generator} (hg : g.Bounded) {n : Int}
    (hb : b.parallelism = .int n) (hn : 1 ≤ n) (sinks : Sinks σ) (w : σ) (order : List Generator → List Event)
    (clock streamClock : Clock) : ∃ o, b.runIn order g sinks w clock streamClock = .ok o ∧
      o.streams.launched.length ≤ g.pieceCount n ∧ (∃ more, (o.streams.run sinks streamClock more).isOver) ∧
      (o.streams.isOver → o.streams.refused = none → o.streams.launched.length = g.pieceCount n) := by
  have hbounded : ∀ c ∈ g.pieces n, c.Bounded := fun c hc => hg.pieces hc
  obtain ⟨o, ho, hstreams, -⟩ := b.exists_runIn (hb ▸ g.split_int hn) order sinks w clock streamClock
  have hkept := Streams.run_keeps sinks streamClock (fun h hs => h.step hbounded hs)
    (Streams.Kept.start (g.pieces n) w) (order (g.pieces n))
  have hsound : ((Streams.start (g.pieces n) w).run sinks streamClock (order (g.pieces n))).Sound :=
    Streams.Sound.run ⟨hbounded, by simp [Streams.start]⟩ sinks streamClock _
  rw [← hstreams] at hkept hsound
  obtain ⟨more, -, hmore⟩ := hsound.exists_over sinks streamClock
  rw [← g.length_pieces]
  exact ⟨o, ho, hkept.length_le, ⟨more, hmore⟩, hkept.length_eq⟩

theorem Benchmark.refused_runIn {b : Benchmark} {order : List Generator → List Event} {g : Generator} {sinks : Sinks σ}
    {w : σ} {clock streamClock : Clock} {o : Outcome σ} (ho : b.runIn order g sinks w clock streamClock = .ok o)
    (h : ∀ i w, ∃ u, (sinks.create i w).1 = .ok u) : o.streams.refused = none := by
  simp only [runIn, Outcome.bind_eq_ok, pure, Except.pure, Except.ok.injEq] at ho
  obtain ⟨gs, -, rfl⟩ := ho
  exact Streams.refused_run h rfl streamClock _

/-- How many streams a split gives and a run consists of: as many as the rows of a stream go into the unread ones, the
fewest for all of them. This is the number asked for, or that of the rows, exactly if the rows come out even or the
shares leave enough for the last stream; otherwise there are fewer. -/
theorem streams_as_asked_iff {s : Settings} {w₀ : World} {g₀ g : Generator} {notes : Journal}
    (hs : s.configure w₀ = (.ok g₀, notes)) (moves : List Move) (hg : g ∈ Roster.run [g₀] moves) {b : Benchmark}
    {n : Int} (hb : b.parallelism = .int n) (hn : 1 ≤ n) (sinks : Sinks σ) (w : σ)
    (order : List Generator → List Event) (clock streamClock : Clock) :
    ∃ children o, g.split (.int n) = .ok children ∧ b.runIn order g sinks w clock streamClock = .ok o ∧
      ((children.length : Int) = min n g.remaining ↔
        g.remaining ≤ n ∨ n ∣ g.remaining ∨ n - g.remaining % n ≤ g.remaining / n) ∧
      (children.length : Int) ≤ min n g.remaining ∧
      (∃ size : Int, IsLeast {m : Int | 1 ≤ m ∧ g.remaining ≤ m * n} size ∧
        IsLeast {k : Nat | g.remaining ≤ k * size} children.length) ∧
      o.streams.launched.length ≤ children.length ∧
      (∃ more, (o.streams.run sinks streamClock more).isOver) ∧
      (o.streams.isOver → o.streams.refused = none → o.streams.launched.length = children.length) := by
  obtain ⟨table, seed, -, hready⟩ := Settings.configure_eq_ok hs
  have hbounded := (hready.akin moves g hg).bounded
  have hremaining : 0 ≤ g.remaining := by
    have := hbounded.cursor_le_stop
    simp only [Generator.remaining]
    omega
  obtain ⟨o, ho, hlaunched⟩ := Benchmark.exists_launched hbounded hb hn sinks w order clock streamClock
  refine ⟨g.pieces n, o, g.split_int hn, ho, ?_⟩
  rw [g.length_pieces]
  exact ⟨Generator.pieceCount_eq_min_iff hremaining hn, Generator.pieceCount_le hremaining hn,
    ⟨_, g.isLeast_chunk hn, Generator.isLeast_pieceCount n hremaining⟩, hlaunched⟩

theorem streams_as_asked_three : ∃ g notes children o,
    ({ rowCount := .int 10, batchSize := .int 3 } : Settings).configure .idle = (.ok g, notes) ∧
      g.split (.int 3) = .ok children ∧ children.length = 3 ∧
      ({ parallelism := .int 3 } : Benchmark).run g (Sinks.answering fun _ => 3) () .still .still = .ok o ∧
      o.streams.isOver ∧ o.streams.launched.length = 3 := by
  obtain ⟨g, notes, hs, -, -, hcursor, hstop⟩ := Settings.exists_feasible .null (show 0 < (10 : Int) by decide) (by decide)
    (show 0 < (3 : Int) by decide)
  obtain ⟨table, seed, -, hready⟩ := Settings.configure_eq_ok hs
  have hremaining : g.remaining = 10 := by simp [Generator.remaining, hcursor, hstop]
  obtain ⟨children, o, hsplit, ho, hiff, -, -, -, -, hlaunched⟩ := streams_as_asked_iff hs []
    (List.mem_singleton_self g) (b := { parallelism := .int 3 }) rfl (by decide) (Sinks.answering fun _ => 3) ()
    Streams.inTurn .still .still
  rw [hremaining] at hiff
  have hlength : children.length = 3 := Int.ofNat_inj.mp (hiff.mpr (by decide))
  have hover := Benchmark.isOver_run hready.bounded ho
  have hrefused := Benchmark.refused_runIn ho fun _ _ => ⟨(), rfl⟩
  exact ⟨g, notes, children, o, hs, hsplit, hlength, ho, hover, hlength ▸ hlaunched hover hrefused⟩

theorem fewer_streams_than_asked : ∃ g notes children o,
    ({ rowCount := .int 5, batchSize := .int 5 } : Settings).configure .idle = (.ok g, notes) ∧
      g.split (.int 4) = .ok children ∧ min 4 g.remaining = 4 ∧ children.length = 3 ∧
      ({ parallelism := .int 4 } : Benchmark).run g (Sinks.answering fun _ => 2) () .still .still = .ok o ∧
      o.streams.isOver ∧ o.streams.launched.length = 3 := by
  obtain ⟨g, notes, hs, -, -, hcursor, hstop⟩ := Settings.exists_feasible .null (show 0 < (5 : Int) by decide) (by decide)
    (show 0 < (5 : Int) by decide)
  obtain ⟨table, seed, -, hready⟩ := Settings.configure_eq_ok hs
  have hremaining : g.remaining = 5 := by simp [Generator.remaining, hcursor, hstop]
  have hchunk : g.chunk 4 = 2 := by simp [Generator.chunk, hremaining]
  have hcount : g.pieceCount 4 = 3 := by simp [Generator.pieceCount, hchunk, hremaining]
  obtain ⟨o, ho, -, -, hlaunched⟩ := Benchmark.exists_launched (b := { parallelism := .int 4 }) hready.bounded rfl
    (by decide) (Sinks.answering fun _ => 2) () Streams.inTurn .still .still
  have hover := Benchmark.isOver_run hready.bounded ho
  have hrefused := Benchmark.refused_runIn ho fun _ _ => ⟨(), rfl⟩
  exact ⟨g, notes, g.pieces 4, o, hs, g.split_int (by decide), by rw [hremaining]; decide,
    by rw [g.length_pieces, hcount], ho, hover, hcount ▸ hlaunched hover hrefused⟩

end LogMill
