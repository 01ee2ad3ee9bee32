import LogMill.Proofs.Row.Division
import LogMill.Proofs.Run.Bookkeeping

namespace LogMill

variable {σ : Type}

theorem Generator.Bounded.length_drain {g : Generator} (h : g.Bounded) :
    g.drain.1 = [] ∨ (g.drain.1.length - 1) * g.batchSize < g.remaining := by
  induction g using drain.induct with
  | case1 g g' hn => simp [drain_of_none hn]
  | case2 g f hn => simp [drain_of_error hn]
  | case3 g b g' hn hb => exact absurd hb ((h.reads hn).rows_ne_nil h)
  | case4 g b g' hn hb bs course last hd ih =>
    have hr := h.reads hn
    have hsize := hr.size_eq
    have hunread := hr.unread
    have hpos := h.batchSize_pos
    have hafter := hr.after_eq
    -- A batch that is followed by another one is as large as batches can be.
    rcases ih (hr.bounded h) with hnil | hrest
    · right
      simp only [drain_of_some hn hb, hnil, remaining, List.length_singleton]
      omega
    · right
      subst hafter
      simp only [drain_of_some hn hb, remaining, List.length_cons] at hrest hsize ⊢
      generalize List.length _ = k at hrest ⊢
      have hsum : ((k + 1 : Nat) - 1 : Int) * g.batchSize = (k - 1) * g.batchSize + g.batchSize := by
        push_cast
        ring
      rw [hsum]
      cases k with
      | zero =>
        simp only [Nat.cast_zero] at hrest ⊢
        omega
      | succ k =>
        have hnonneg : 0 ≤ ((k + 1 : Nat) - 1 : Int) * g.batchSize := Int.mul_nonneg (by omega) hpos.le
        omega

namespace Stream

def left (t : Stream) : Nat :=
  match t.phase with
  | .checking => 3 * t.generator.drain.1.length + 4
  | .reading => 3 * t.generator.drain.1.length + 3
  | .writing _ => 3 * t.generator.drain.1.length + 5
  | .failing _ => 2
  | .closing _ => 1
  | .done _ => 0

variable {t : Stream}

theorem left_step (hb : t.generator.Bounded) (h : ¬ t.isDone) (sinks : Sinks σ) (clock : Clock) (i : Nat) (flag : Bool)
    (w : σ) : (t.step sinks clock i flag w).1.left < t.left := by
  obtain ⟨g, phase, rows, handed, accepted, journal⟩ := t
  cases phase with
  | checking => cases flag <;> simp only [step, left] <;> split_ifs <;> simp
  | reading =>
    simp only [step, left]
    cases hn : g.next with
    | error f => simp
    | ok x =>
      obtain ⟨b, g'⟩ := x
      cases b with
      | none => simp
      | some b =>
        have hdrain := Generator.drain_of_some hn ((hb.reads hn).rows_ne_nil hb)
        simp only [hdrain, List.length_cons]
        omega
  | writing b =>
    cases hw : sinks.write i b w with
    | mk answer w' =>
      cases answer with
      | error f => simp [step, left, hw]
      | ok n => cases hr : progress i (rows + n) (accepted + 1) clock <;> simp [step, left, hw, hr]
  | failing f => simp [step, left]
  | closing f =>
    cases hc : sinks.close i w with
    | mk answer w' => cases answer <;> simp [step, left, hc]
  | done f => exact absurd rfl h

theorem step_of_isDone (h : t.isDone) (sinks : Sinks σ) (clock : Clock) (i : Nat) (flag : Bool) (w : σ) :
    t.step sinks clock i flag w = (t, flag, w) := by
  obtain ⟨g, phase, rows, handed, accepted, journal⟩ := t
  cases phase <;> first | rfl | exact absurd h (by simp [isDone])

theorem bounded_step (hb : t.generator.Bounded) (sinks : Sinks σ) (clock : Clock) (i : Nat) (flag : Bool) (w : σ) :
    (t.step sinks clock i flag w).1.generator.Bounded := by
  rcases (t.step_advances sinks clock i flag w).generator with hsame | ⟨b, hnext⟩
  · exact hsame ▸ hb
  · cases b with
    | none =>
      rw [(Generator.next_eq_none hnext).2]
      exact hb
    | some b => exact (hb.reads hnext).bounded hb

end Stream

namespace Streams

variable {s : Streams σ} {sinks : Sinks σ} {clock : Clock}

structure Sound (s : Streams σ) : Prop where
  waiting : ∀ g ∈ s.waiting, g.Bounded
  launched : ∀ t ∈ s.launched, t.generator.Bounded

def left (s : Streams σ) : Nat :=
  (s.waiting.map fun g => 3 * g.drain.1.length + 5).sum + (s.launched.map Stream.left).sum

theorem Sound.step {asked : List Contact} {s' : Streams σ} (h : s.Sound) (hs : Steps sinks clock s asked s') :
    s'.Sound := by
  obtain ⟨hwaiting, hlaunched⟩ := h
  cases hs with
  | idle => exact ⟨hwaiting, hlaunched⟩
  | refused g gs f w hcons hcreate => exact ⟨by simp, hlaunched⟩
  | launched g gs w hcons hcreate =>
    rw [hcons] at hwaiting
    refine ⟨fun c hc => hwaiting c (List.mem_cons_of_mem _ hc), ?_⟩
    intro t ht
    rcases List.mem_append.mp ht with ht | ht
    · exact hlaunched t ht
    · rw [List.mem_singleton.mp ht]
      exact hwaiting g (by simp)
  | advanced i t ht =>
    refine ⟨hwaiting, ?_⟩
    intro u hu
    rcases List.mem_or_eq_of_mem_set hu with hu | rfl
    · exact hlaunched u hu
    · exact Stream.bounded_step (hlaunched t (List.mem_of_getElem? ht)) sinks clock i s.flag s.world

theorem Sound.run (h : s.Sound) (sinks : Sinks σ) (clock : Clock) (events : List Event) :
    (s.run sinks clock events).Sound :=
  @run_keeps _ sinks clock (fun _ s => s.Sound) (fun h hs => h.step hs) [] s h events

theorem left_launch (h : s.waiting ≠ []) : (s.step sinks clock .launch).left < s.left := by
  obtain ⟨waiting, launched, flag, refused, w⟩ := s
  obtain ⟨g, gs, rfl⟩ := List.exists_cons_of_ne_nil h
  simp only [Streams.step, launch]
  split
  · simp [left, Stream.left, Stream.launched]
    omega
  · simp [left]

theorem left_advance (h : s.Sound) {i : Nat} {t : Stream} (ht : s.launched[i]? = some t) (hdone : ¬ t.isDone) :
    (s.step sinks clock (.advance i)).left < s.left := by
  obtain ⟨waiting, launched, flag, refused, w⟩ := s
  have hless := Stream.left_step (h.launched t (List.mem_of_getElem? ht)) hdone sinks clock i flag w
  obtain ⟨hlt, hget⟩ := List.getElem?_eq_some_iff.mp ht
  obtain ⟨pre, post, hbefore, _, hafter⟩ := @List.exists_of_set _ _ (t.step sinks clock i flag w).1 _ hlt
  rw [hget] at hbefore
  simp only [Streams.step, ht, left, hafter]
  subst hbefore
  simp only [List.map_append, List.map_cons, List.sum_append, List.sum_cons]
  omega

theorem Sound.exists_event (h : s.Sound) (hover : ¬ s.isOver) (sinks : Sinks σ) (clock : Clock) :
    ∃ e, (s.step sinks clock e).left < s.left := by
  by_cases hwaiting : s.waiting = []
  · have hall : ¬ ∀ t ∈ s.launched, t.isDone := by
      intro hall
      exact hover (by simpa [isOver, hwaiting] using hall)
    push Not at hall
    obtain ⟨t, ht, hdone⟩ := hall
    obtain ⟨i, hi⟩ := List.mem_iff_getElem?.mp ht
    exact ⟨.advance i, left_advance h hi hdone⟩
  · exact ⟨.launch, left_launch hwaiting⟩

theorem Sound.exists_over (h : s.Sound) (sinks : Sinks σ) (clock : Clock) :
    ∃ more, more.length ≤ s.left ∧ (s.run sinks clock more).isOver := by
  induction hn : s.left using Nat.strongRecOn generalizing s with
  | ind n ih =>
    by_cases hover : s.isOver
    · exact ⟨[], Nat.zero_le _, hover⟩
    · obtain ⟨e, he⟩ := h.exists_event hover sinks clock
      obtain ⟨more, hlength, hmore⟩ := ih _ (hn ▸ he) (h.step (s.steps sinks clock e)) rfl
      refine ⟨e :: more, ?_, hmore⟩
      rw [List.length_cons]
      omega

theorem run_advances (h : s.Sound) {i : Nat} {t : Stream} (ht : s.launched[i]? = some t) {n : Nat} (hn : t.left ≤ n) :
    ∃ t' : Stream, t'.isDone ∧ (s.run sinks clock (List.replicate n (.advance i))).launched = s.launched.set i t' ∧
      (s.run sinks clock (List.replicate n (.advance i))).waiting = s.waiting := by
  induction n generalizing s t with
  | zero =>
    have hdone : t.isDone := by
      obtain ⟨g, phase, rows, handed, accepted, journal⟩ := t
      cases phase <;> first | rfl | simp [Stream.left] at hn
    refine ⟨t, hdone, ?_, rfl⟩
    obtain ⟨hlt, rfl⟩ := List.getElem?_eq_some_iff.mp ht
    exact (List.set_getElem_self hlt).symm
  | succ n ih =>
    have hlt := (List.getElem?_eq_some_iff.mp ht).1
    have hstep : s.step sinks clock (.advance i) = { s with
        launched := s.launched.set i (t.step sinks clock i s.flag s.world).1
        flag := (t.step sinks clock i s.flag s.world).2.1
        world := (t.step sinks clock i s.flag s.world).2.2 } := by
      simp only [step, ht]
    have hless : (t.step sinks clock i s.flag s.world).1.left ≤ n := by
      by_cases hdone : t.isDone
      · rw [Stream.step_of_isDone hdone]
        have hzero : t.left = 0 := by
          obtain ⟨g, phase, rows, handed, accepted, journal⟩ := t
          cases phase <;> first | rfl | simp [Stream.isDone] at hdone
        change t.left ≤ n
        omega
      · have := Stream.left_step (h.launched t (List.mem_of_getElem? ht)) hdone sinks clock i s.flag s.world
        omega
    have hsound := h.step (s.steps sinks clock (.advance i))
    rw [List.replicate_succ]
    change ∃ t', _ ∧ ((s.step sinks clock (.advance i)).run sinks clock _).launched = _ ∧
      ((s.step sinks clock (.advance i)).run sinks clock _).waiting = _
    rw [hstep] at hsound ⊢
    obtain ⟨t', hdone, hlaunched, hwaiting⟩ := ih hsound (List.getElem?_set_self hlt) hless
    exact ⟨t', hdone, by rw [hlaunched, List.set_set], hwaiting⟩

theorem left_launched_le {g : Generator} (h : g.Bounded) : (Stream.launched g).left ≤ stepsFor g := by
  have hmax : max 1 g.batchSize = g.batchSize := by
    have := h.batchSize_pos
    omega
  simp only [Stream.launched, Stream.left, stepsFor, hmax]
  rcases h.length_drain with hnil | hlength
  · simp [hnil]
  · have hceil := (ceilDiv_bounds g.remaining h.batchSize_pos).2
    have hlt := lt_of_mul_lt_mul_right (hlength.trans_le hceil) h.batchSize_pos.le
    omega

theorem run_over (h : s.isOver) (sinks : Sinks σ) (clock : Clock) (events : List Event) :
    s.run sinks clock events = s := by
  have hstep (e : Event) : s.step sinks clock e = s := by
    obtain ⟨waiting, launched, flag, refused, w⟩ := s
    obtain ⟨hwaiting, hall⟩ := Bool.and_eq_true_iff.mp h
    obtain rfl : waiting = [] := by simpa using hwaiting
    cases e with
    | launch => rfl
    | advance i =>
      cases ht : launched[i]? with
      | none => simp only [step, ht]
      | some t =>
        have hdone : t.isDone := List.all_eq_true.mp hall t (List.mem_of_getElem? ht)
        obtain ⟨hlt, rfl⟩ := List.getElem?_eq_some_iff.mp ht
        simp only [step, ht, Stream.step_of_isDone hdone, List.set_getElem_self hlt]
  induction events with
  | nil => rfl
  | cons e es ih =>
    change (s.step sinks clock e).run sinks clock es = s
    rw [hstep, ih]

theorem run_turn (h : s.Sound) {g : Generator} {gs : List Generator} (hwaiting : s.waiting = g :: gs)
    (hdone : ∀ t ∈ s.launched, t.isDone) {s' : Streams σ}
    (hs' : s' = s.run sinks clock (.launch :: List.replicate (stepsFor g) (.advance s.launched.length))) :
    (∀ t ∈ s'.launched, t.isDone) ∧
      (s'.waiting = [] ∨ s'.waiting = gs ∧ s'.launched.length = s.launched.length + 1) := by
  have hg : g.Bounded := h.waiting g (by simp [hwaiting])
  have hsound := h.step (s.steps sinks clock .launch)
  obtain ⟨waiting, launched, flag, refused, w⟩ := s
  obtain rfl : waiting = g :: gs := hwaiting
  change s' = (Streams.step sinks clock _ .launch).run sinks clock _ at hs'
  simp only [step, launch] at hsound hs'
  cases hc : sinks.create launched.length w with
  | mk answer w' =>
    cases answer with
    | error f =>
      simp only [hc] at hs'
      rw [run_over (by simpa [isOver] using hdone)] at hs'
      subst hs'
      exact ⟨hdone, .inl rfl⟩
    | ok _ =>
      simp only [hc] at hsound hs'
      obtain ⟨t, ht, hlaunched, hrest⟩ := run_advances hsound (i := launched.length) (t := Stream.launched g)
        (by simp) (left_launched_le hg)
      rw [← hs'] at hlaunched hrest
      refine ⟨?_, .inr ⟨hrest, by simp [hlaunched]⟩⟩
      intro u hu
      rw [hlaunched, List.set_append_right _ _ (Nat.le_refl _), Nat.sub_self, List.set_cons_zero] at hu
      rcases List.mem_append.mp hu with hu | hu
      · exact hdone u hu
      · rw [List.mem_singleton.mp hu]
        exact ht

theorem isOver_inTurn {gs : List Generator} (h : ∀ g ∈ gs, g.Bounded) (w : σ) :
    ((start gs w).run sinks clock (inTurn gs)).isOver := by
  have hturn (k : Nat) (gs : List Generator) (s : Streams σ) (hs : s.Sound)
      (hwaiting : s.waiting = [] ∨ s.waiting = gs ∧ s.launched.length = k) (hdone : ∀ t ∈ s.launched, t.isDone) :
      (s.run sinks clock ((gs.zipIdx k).flatMap fun x =>
        .launch :: List.replicate (stepsFor x.1) (.advance x.2))).isOver := by
    induction gs generalizing k s with
    | nil =>
      have hnil : s.waiting = [] := hwaiting.elim id And.left
      simpa [run, isOver, hnil] using hdone
    | cons g gs ih =>
      rcases hwaiting with hnil | ⟨hwaiting, rfl⟩
      · have hover : s.isOver := by simpa [isOver, hnil] using hdone
        rw [run_over hover]
        exact hover
      · rw [List.zipIdx_cons, List.flatMap_cons, run_append]
        obtain ⟨hdone', hwaiting'⟩ := run_turn hs hwaiting hdone rfl
        exact ih _ _ (hs.run sinks clock _) hwaiting' hdone'
  exact hturn 0 gs _ ⟨h, by simp [start]⟩ (.inr ⟨rfl, rfl⟩) (by simp [start])

end Streams

theorem Benchmark.isOver_run {b : Benchmark} {g : Generator} (hg : g.Bounded) {sinks : Sinks σ} {w : σ}
    {clock streamClock : Clock} {o : Outcome σ} (h : b.run g sinks w clock streamClock = .ok o) : o.streams.isOver := by
  simp only [run, runIn, Outcome.bind_eq_ok, pure, Except.pure, Except.ok.injEq] at h
  obtain ⟨gs, hsplit, rfl⟩ := h
  obtain ⟨n, _, _, rfl⟩ := Generator.split_eq_ok hsplit
  exact Streams.isOver_inTurn (fun c hc => hg.pieces hc) w

end LogMill
