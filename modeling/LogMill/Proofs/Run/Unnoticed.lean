import LogMill.Proofs.Run.Stopping

namespace LogMill

variable {σ : Type}

def Contact.isSilent (a : Contact) : Bool := a.failure?.isSome && !a.raises

namespace Stream

def ahead (t : Stream) : List Batch := t.pending ++ t.generator.drain.1

variable {c : Generator} {t t' : Stream}

theorem Walks.handed_ahead (h : t.Walks c) (h' : t'.Walks c) {given : List Batch} (hg : t'.handed = t.handed ++ given) :
    given ++ t'.ahead = t.ahead := by
  have hall := h.batches.trans h'.batches.symm
  rw [hg, List.append_assoc, List.append_cancel_left_eq] at hall
  exact hall.symm

theorem ahead_eq_nil (h : t.isEnding) (hs : t.generator.stop ≤ t.generator.cursor) : t.ahead = [] := by
  have hp : t.pending = [] := by
    unfold isEnding at h
    unfold pending
    split at h <;> simp_all
  rw [ahead, hp, Generator.drain_of_none (Generator.next_of_exhausted hs)]
  rfl

theorem step_finishing {flag : Bool} (h : t.isEnding → flag = true ∨ t.generator.stop ≤ t.generator.cursor)
    (sinks : Sinks σ) (clock : Clock) (i : Nat) (w : σ) (hend : (t.step sinks clock i flag w).1.isEnding) :
    (t.step sinks clock i flag w).2.1 = true ∨
      (t.step sinks clock i flag w).1.generator.stop ≤ (t.step sinks clock i flag w).1.generator.cursor := by
  obtain ⟨g, phase, rows, handed, accepted, journal⟩ := t
  cases phase with
  | checking => cases flag <;> simp_all [step, isEnding]
  | reading =>
    simp only [step] at hend ⊢
    cases hn : g.next with
    | error f => simp [hn, isEnding] at hend
    | ok x =>
      obtain ⟨b, g'⟩ := x
      cases b with
      | none =>
        obtain ⟨hs, rfl⟩ := Generator.next_eq_none hn
        exact .inr hs
      | some b => simp [hn, isEnding] at hend
  | writing b =>
    simp only [step] at hend
    split at hend
    · simp [isEnding] at hend
    · split at hend <;> simp [isEnding] at hend
  | failing f => exact .inl rfl
  | closing f =>
    have hbefore := h rfl
    simp only [step]
    split <;> exact hbefore
  | done f => exact h rfl

end Stream

namespace Streams

variable {children : List Generator} {past : List Contact} {s : Streams σ} {sinks : Sinks σ} {clock : Clock}

def Finishing (s : Streams σ) : Prop :=
  ∀ t ∈ s.launched, t.isEnding → s.flag = true ∨ t.generator.stop ≤ t.generator.cursor

theorem Finishing.step {asked : List Contact} {s' : Streams σ} (h : s.Finishing)
    (hs : Steps sinks clock s asked s') : s'.Finishing := by
  cases hs with
  | idle | refused g gs f w hwaiting hcreate => exact h
  | launched g gs w hwaiting hcreate =>
    intro t ht hend
    rcases List.mem_append.mp ht with ht | ht
    · exact h t ht hend
    · simp [List.mem_singleton.mp ht, Stream.isEnding] at hend
  | advanced i t ht =>
    have hold := h t (List.mem_of_getElem? ht)
    intro u hu hend
    rcases List.mem_or_eq_of_mem_set hu with hu | rfl
    · refine (h u hu hend).imp_left fun hflag => ?_
      rw [Stream.step_flag, hflag, Bool.true_or]
    · exact Stream.step_finishing hold sinks clock i s.world hend

theorem Steps.flag_of_asked {asked : List Contact} {s' : Streams σ} (hs : Steps sinks clock s asked s') {a : Contact}
    (ha : a ∈ asked) : s'.flag = s.flag := by
  cases hs with
  | idle | refused g gs f w hwaiting hcreate | launched g gs w hwaiting hcreate => rfl
  | advanced i t ht =>
    have hcalm : t.isFailing = false := by
      unfold Stream.contacts at ha
      unfold Stream.isFailing
      split at ha <;> simp_all
    simp only [Stream.step_flag, hcalm, Bool.or_false]

theorem exists_launched_run {i : Nat} {t : Stream} (ht : s.launched[i]? = some t) (sinks : Sinks σ) (clock : Clock)
    (events : List Event) : ∃ t', (s.run sinks clock events).launched[i]? = some t' := by
  apply @run_keeps _ sinks clock (fun _ s => ∃ t', s.launched[i]? = some t') ?_ [] s ⟨t, ht⟩
  rintro _ asked s s' ⟨t, ht⟩ hs
  have hlt := (List.getElem?_eq_some_iff.mp ht).1
  cases hs with
  | idle | refused g gs f w hwaiting hcreate => exact ⟨t, ht⟩
  | launched g gs w hwaiting hcreate => exact ⟨t, by rw [List.getElem?_append_left hlt, ht]⟩
  | advanced j u hu => exact ⟨_, List.getElem?_eq_getElem (by simpa using hlt)⟩

theorem Kept.handed_ahead (h : s.Kept children past) (hb : ∀ c ∈ children, c.Bounded) {i : Nat} {t : Stream}
    (ht : s.launched[i]? = some t) (sinks : Sinks σ) (clock : Clock) (after : List Event) :
    ∃ t', (s.run sinks clock after).launched[i]? = some t' ∧
      Contact.handedTo i (s.contacts sinks clock after) ++ t'.ahead = t.ahead := by
  have hafter := run_keeps sinks clock (fun h hs => h.step hb hs) h after
  obtain ⟨t', ht'⟩ := exists_launched_run ht sinks clock after
  obtain ⟨c, hc, hwalks⟩ := h.walks i t ht
  obtain ⟨c', hc', hwalks'⟩ := hafter.walks i t' ht'
  obtain rfl : c = c' := Option.some.inj (hc.symm.trans hc')
  refine ⟨t', ht', hwalks.handed_ahead hwalks' ?_⟩
  have hgiven := hafter.handedTo i
  rw [Contact.handedTo_append, h.handedTo, ht, ht'] at hgiven
  exact hgiven.symm

structure Known (children : List Generator) (past : List Contact) (s : Streams σ) : Prop where
  kept : s.Kept children past
  alarmed : s.Alarmed past
  finishing : s.Finishing

theorem Known.start (children : List Generator) (w : σ) : (Streams.start children w).Known children [] :=
  ⟨.start children w, .start children w, by simp [Finishing, Streams.start]⟩

theorem Known.step {asked : List Contact} {s' : Streams σ} (h : s.Known children past) (hb : ∀ c ∈ children, c.Bounded)
    (hs : Steps sinks clock s asked s') : s'.Known children (past ++ asked) :=
  ⟨h.kept.step hb hs, h.alarmed.step hs, h.finishing.step hs⟩

theorem Known.run (h : s.Known children past) (hb : ∀ c ∈ children, c.Bounded) (sinks : Sinks σ) (clock : Clock)
    (events : List Event) : (s.run sinks clock events).Known children (past ++ s.contacts sinks clock events) :=
  run_keeps sinks clock (fun h hs => h.step hb hs) h events

end Streams

/-- A sink that cannot be made, or that fails to close, leaves the flag as it is. If it is raised, the other streams
finish at most one batch; if nothing else raises it, each of them hands over all that was ahead of it. -/
theorem silent_failure_unnoticed {s : Settings} {w₀ : World} {g₀ g : Generator} {notes : Journal}
    (hs : s.configure w₀ = (.ok g₀, notes)) (moves : List Move) (hg : g ∈ Roster.run [g₀] moves) {b : Benchmark}
    {n : Int} (hb : b.parallelism = .int n) (hn : 1 ≤ n) (sinks : Sinks σ) (w : σ)
    (order : List Generator → List Event) (clock streamClock : Clock) :
    ∃ o past, b.runIn order g sinks w clock streamClock = .ok o ∧ past = b.contacts order g sinks w streamClock ∧
      ∀ (e : Event) (failed : Streams σ), (∃ a ∈ o.streams.contactsOf sinks streamClock e, a.isSilent) →
        failed = o.streams.step sinks streamClock e →
        failed.flag = o.streams.flag ∧
          ∀ (i : Nat) (t : Stream) (after : List Event), failed.launched[i]? = some t →
            ∃ later, later = failed.contacts sinks streamClock after ∧ Contact.handedTo i later <+: t.ahead ∧
              (failed.flag = true → (Contact.handedTo i later).length ≤ 1) ∧
              ((failed.run sinks streamClock after).isOver →
                (∀ a ∈ past ++ o.streams.contactsOf sinks streamClock e ++ later, ¬ a.raises) →
                Contact.handedTo i later = t.ahead) := by
  obtain ⟨table, seed, htable, hready⟩ := Settings.configure_eq_ok hs
  have hbounded : ∀ c ∈ g.pieces n, c.Bounded := fun c hc => (hready.akin moves g hg).bounded.pieces hc
  have hsplit : g.split b.parallelism = .ok (g.pieces n) := hb ▸ g.split_int hn
  obtain ⟨o, ho, hstreams, _⟩ := b.exists_runIn hsplit order sinks w clock streamClock
  have hknown := (Streams.Known.start (g.pieces n) w).run hbounded sinks streamClock (order (g.pieces n))
  rw [List.nil_append, ← hstreams] at hknown
  refine ⟨o, _, ho, (Benchmark.contacts_of_split hsplit order sinks w streamClock).symm, ?_⟩
  rintro e failed ⟨a, ha, _⟩ rfl
  refine ⟨(o.streams.steps sinks streamClock e).flag_of_asked ha, ?_⟩
  intro i t after ht
  -- What was known before the failure is known after it, and when the run has gone on.
  have hfailed := hknown.step hbounded (o.streams.steps sinks streamClock e)
  obtain ⟨-, halarmed, hfinishing⟩ := hfailed.run hbounded sinks streamClock after
  obtain ⟨t', ht', hahead⟩ := hfailed.kept.handed_ahead hbounded ht sinks streamClock after
  refine ⟨_, rfl, ⟨t'.ahead, hahead⟩, ?_, ?_⟩
  · intro hflag
    rw [Contact.handedTo_eq]
    exact (Streams.winds_run hflag sinks streamClock after i).length_handed
  · intro hover hcalm
    have hquiet : ¬ ((o.streams.step sinks streamClock e).run sinks streamClock after).flag = true := by
      intro hflag
      obtain ⟨a, ha, hraises, _⟩ := halarmed.cause hflag
      exact hcalm a ha hraises
    have hdone : t'.isDone := by
      simp only [Streams.isOver, Bool.and_eq_true, List.all_eq_true] at hover
      exact hover.2 t' (List.mem_of_getElem? ht')
    have hend : t'.isEnding := by
      unfold Stream.isDone at hdone
      unfold Stream.isEnding
      split at hdone <;> simp_all
    have hleft := hfinishing t' (List.mem_of_getElem? ht') hend
    rwa [Stream.ahead_eq_nil hend (hleft.resolve_left hquiet), List.append_nil] at hahead

theorem Generator.Bounded.next_of_single {g : Generator} (hg : g.Bounded) (hsize : g.batchSize = 1)
    (hs : g.cursor < g.stop) (hrows : ∀ n, g.cursor ≤ n → n < g.stop → ∃ cells, g.producer.row n = .ok cells) :
    ∃ b, g.next = .ok (some b, { g with cursor := g.cursor + 1 }) := by
  have hone : (1 : Int) ≤ Producer.room := by decide
  obtain ⟨b, g', hnext⟩ := hg.exists_next hs (by omega) hrows
  have hr := hg.reads hnext
  have hb : (b.size : Int) = 1 := by
    have := hr.size_eq
    simp only [remaining] at this
    omega
  rw [hr.after_eq, hb] at hnext
  exact ⟨b, hnext⟩

theorem Settings.exists_uneven_pieces : ∃ g notes,
    ({ rowCount := .int 3, batchSize := .int 1 } : Settings).configure .idle = (.ok g, notes) ∧
      ∃ c₀ c₁, g.pieces 2 = [c₀, c₁] ∧
        (∃ x x' d d', c₀.next = .ok (some x, d) ∧ d.next = .ok (some x', d') ∧ d'.next = .ok (none, d')) ∧
        ∃ y d, c₁.next = .ok (some y, d) ∧ d.next = .ok (none, d) := by
  obtain ⟨g, notes, hs, hfeasible, hbatch, hcursor, hstop⟩ := exists_feasible .null (show 0 < (3 : Int) by decide)
    (by decide) (show 0 < (1 : Int) by decide)
  obtain ⟨table, seed, htable, hready⟩ := configure_eq_ok hs
  have hremaining : g.remaining = 3 := by simp [Generator.remaining, hcursor, hstop]
  have hchunk : g.chunk 2 = 2 := by simp [Generator.chunk, hremaining]
  have hcount : g.pieceCount 2 = 2 := by simp [Generator.pieceCount, hchunk, hremaining]
  have hpieces : g.pieces 2 = [g.piece 2 0, g.piece 2 1] := by simp [Generator.pieces_eq, hcount, List.range_succ]
  have hrows (k : Int) (hlow : 0 ≤ k) (hhigh : k < 3) : ∃ cells, g.producer.row k = .ok cells := by
    have hend := hready.range.2.2
    exact hfeasible.exists_row htable hready hlow (by omega)
  have hfirst : g.piece 2 0 = ⟨g.producer, g.pools, 1, 0, 2, 0⟩ := by
    simp [Generator.piece, Generator.ofRange, hchunk, hbatch, hcursor, hstop]
  have hsecond : g.piece 2 1 = ⟨g.producer, g.pools, 1, 2, 3, 2⟩ := by
    simp [Generator.piece, Generator.ofRange, hchunk, hbatch, hcursor, hstop]
  have hbounded : ∀ c ∈ g.pieces 2, c.Bounded := fun c hc => hready.bounded.pieces hc
  rw [hpieces, hfirst, hsecond] at hbounded
  refine ⟨g, notes, hs, _, _, hpieces, ?_, ?_⟩
  · rw [hfirst]
    have hb : Generator.Bounded ⟨g.producer, g.pools, 1, 0, 2, 0⟩ := hbounded _ (by simp)
    obtain ⟨x, hx⟩ := hb.next_of_single rfl (by dsimp only; omega) fun n hlow hhigh =>
      hrows n hlow (by dsimp only at hhigh; omega)
    have hb' := (hb.reads hx).bounded hb
    obtain ⟨x', hx'⟩ := hb'.next_of_single rfl (by dsimp only; omega) fun n hlow hhigh =>
      hrows n (by dsimp only at hlow; omega) (by dsimp only at hhigh; omega)
    exact ⟨x, x', _, _, hx, hx', Generator.next_of_exhausted (by dsimp only; omega)⟩
  · rw [hsecond]
    have hb : Generator.Bounded ⟨g.producer, g.pools, 1, 2, 3, 2⟩ := hbounded _ (by simp)
    obtain ⟨y, hy⟩ := hb.next_of_single rfl (by dsimp only; omega) fun n hlow hhigh =>
      hrows n (by dsimp only at hlow; omega) hhigh
    exact ⟨y, _, hy, Generator.next_of_exhausted (by dsimp only; omega)⟩

def Sinks.secondStuck : Sinks Unit :=
  .fixed (fun _ => .ok ()) (fun _ => .ok 1) fun i => if i = 1 then some (.reported true "delivery" "stuck") else none

def Sinks.secondMissing : Sinks Unit :=
  .fixed (fun i => if i = 1 then .error (.reported true "delivery" "missing") else .ok ()) (fun _ => .ok 1)
    fun _ => none

def Event.secondDrained : List Event := [.launch, .launch] ++ List.replicate 5 (.advance 1)

namespace Streams

variable {c₀ c₁ d d' : Generator} {x x' y : Batch}

theorem run_pair (sinks : Sinks Unit) (hwrite : ∀ b, sinks.write 0 b () = (.ok 1, ()))
    (hclose : sinks.close 0 () = (none, ())) (hx : c₀.next = .ok (some x, d)) (hx' : d.next = .ok (some x', d'))
    (hend : d'.next = .ok (none, d')) (rest : List Stream) (refused : Option Failure) :
    (Streams.mk [] (.launched c₀ :: rest) false refused ()).contacts sinks .still (List.replicate 9 (.advance 0)) =
        [.read 0 none, .write 0 x (.ok 1), .report 0 none, .read 0 none, .write 0 x' (.ok 1), .report 0 none,
          .read 0 none, .close 0 none] ∧
      ∃ t : Stream, t.isDone ∧
        (Streams.mk [] (.launched c₀ :: rest) false refused ()).run sinks .still (List.replicate 9 (.advance 0)) =
          ⟨[], t :: rest, false, refused, ()⟩ := by
  obtain ⟨entry, hentry⟩ := Stream.exists_progress_still 0 1 1 (by decide) (by decide) (by decide)
  obtain ⟨entry', hentry'⟩ := Stream.exists_progress_still 0 2 2 (by decide) (by decide) (by decide)
  constructor
  · simp [List.replicate, hx, hx', hend, hwrite, hclose, hentry, hentry']
  · simp [List.replicate, hx, hx', hend, hwrite, hclose, hentry, hentry']

theorem run_secondDrained (c₀ : Generator) (hy : c₁.next = .ok (some y, d)) (hend : d.next = .ok (none, d)) :
    ∃ s, s = (start [c₀, c₁] ()).run Sinks.secondStuck .still Event.secondDrained ∧
      (start [c₀, c₁] ()).contacts Sinks.secondStuck .still Event.secondDrained =
        [.create 0 none, .create 1 none, .read 1 none, .write 1 y (.ok 1), .report 1 none, .read 1 none] ∧
      s.contactsOf Sinks.secondStuck .still (.advance 1) = [.close 1 (some (.reported true "delivery" "stuck"))] ∧
      ∃ u : Stream, u.isDone ∧
        s.step Sinks.secondStuck .still (.advance 1) = ⟨[], [.launched c₀, u], false, none, ()⟩ := by
  obtain ⟨entry, hentry⟩ := Stream.exists_progress_still 1 1 1 (by decide) (by decide) (by decide)
  refine ⟨_, rfl, ?_, ?_, ?_⟩
  · simp [Event.secondDrained, List.replicate, start, Sinks.secondStuck, Sinks.fixed, hy, hend, hentry]
  · simp [Event.secondDrained, List.replicate, start, Sinks.secondStuck, Sinks.fixed, hy, hend, hentry]
  · simp [Event.secondDrained, List.replicate, start, Sinks.secondStuck, Sinks.fixed, hy, hend, hentry]

end Streams

theorem silent_failure_unnoticed_stuck : ∃ g notes o failed t,
    ({ rowCount := .int 3, batchSize := .int 1 } : Settings).configure .idle = (.ok g, notes) ∧
      ({ parallelism := .int 2 } : Benchmark).runIn (fun _ => Event.secondDrained) g Sinks.secondStuck () .still
        .still = .ok o ∧
      o.streams.contactsOf Sinks.secondStuck .still (.advance 1) =
        [.close 1 (some (.reported true "delivery" "stuck"))] ∧
      failed = o.streams.step Sinks.secondStuck .still (.advance 1) ∧ failed.launched[0]? = some t ∧
      failed.flag = o.streams.flag ∧
      Contact.handedTo 0 (failed.contacts Sinks.secondStuck .still (List.replicate 9 (.advance 0))) = t.ahead := by
  obtain ⟨g, notes, hs, c₀, c₁, hpieces, ⟨x, x', d, d', hx, hx', hend⟩, y, d₁, hy, hend₁⟩ :=
    Settings.exists_uneven_pieces
  have hsplit := g.split_int (show 1 ≤ (2 : Int) by decide)
  obtain ⟨o, past, ho, hpast, hall⟩ := silent_failure_unnoticed hs [] (List.mem_singleton_self g)
    (b := { parallelism := .int 2 }) rfl (by decide) Sinks.secondStuck () (fun _ => Event.secondDrained) .still .still
  obtain ⟨o', ho', hstreams, _⟩ := Benchmark.exists_runIn (b := { parallelism := .int 2 }) hsplit
    (fun _ => Event.secondDrained) Sinks.secondStuck () .still .still
  obtain rfl : o = o' := Except.ok.inj (ho.symm.trans ho')
  rw [Benchmark.contacts_of_split hsplit, hpieces] at hpast
  rw [hpieces] at hstreams
  obtain ⟨s, hreached, hbefore, hasked, u, hu, hfailed⟩ := Streams.run_secondDrained c₀ hy hend₁
  rw [← hreached] at hstreams
  subst hstreams
  obtain ⟨hlater, v, hv, hover⟩ := Streams.run_pair Sinks.secondStuck (fun _ => rfl) rfl hx hx' hend [u] none
  rw [← hfailed] at hlater hover
  have hplace : (o.streams.step Sinks.secondStuck .still (.advance 1)).launched[0]? = some (.launched c₀) := by
    rw [hfailed]
    rfl
  obtain ⟨hflag, hothers⟩ := hall (.advance 1) _ ⟨_, hasked ▸ List.mem_singleton_self _, rfl⟩ rfl
  obtain ⟨later, rfl, _, _, hwhole⟩ := hothers 0 _ (List.replicate 9 (.advance 0)) hplace
  refine ⟨g, notes, o, _, _, hs, ho, hasked, rfl, hplace, hflag, hwhole ?_ ?_⟩
  · rw [hover]
    simp [Streams.isOver, hu, hv]
  · rw [hpast, hbefore, hasked, hlater]
    simp [Contact.raises]

theorem two_batches_after_silent_failure : ∃ g notes,
    ({ rowCount := .int 3, batchSize := .int 1 } : Settings).configure .idle = (.ok g, notes) ∧
      (∃ o failed, ({ parallelism := .int 2 } : Benchmark).runIn (fun _ => Event.secondDrained) g Sinks.secondStuck ()
          .still .still = .ok o ∧
        o.streams.contactsOf Sinks.secondStuck .still (.advance 1) =
          [.close 1 (some (.reported true "delivery" "stuck"))] ∧
        failed = o.streams.step Sinks.secondStuck .still (.advance 1) ∧
        (Contact.handedTo 0 (failed.contacts Sinks.secondStuck .still (List.replicate 9 (.advance 0)))).length = 2) ∧
      ∃ o failed, ({ parallelism := .int 2 } : Benchmark).runIn (fun _ => [.launch]) g Sinks.secondMissing () .still
          .still = .ok o ∧
        o.streams.contactsOf Sinks.secondMissing .still .launch =
          [.create 1 (some (.reported true "delivery" "missing"))] ∧
        failed = o.streams.step Sinks.secondMissing .still .launch ∧
        (Contact.handedTo 0 (failed.contacts Sinks.secondMissing .still (List.replicate 9 (.advance 0)))).length =
          2 := by
  obtain ⟨g, notes, hs, c₀, c₁, hpieces, ⟨x, x', d, d', hx, hx', hend⟩, y, d₁, hy, hend₁⟩ :=
    Settings.exists_uneven_pieces
  have hsplit := g.split_int (show 1 ≤ (2 : Int) by decide)
  refine ⟨g, notes, hs, ?_, ?_⟩
  · obtain ⟨o, ho, hstreams, _⟩ := Benchmark.exists_runIn (b := { parallelism := .int 2 }) hsplit
      (fun _ => Event.secondDrained) Sinks.secondStuck () .still .still
    obtain ⟨s, hreached, _, hasked, u, _, hfailed⟩ := Streams.run_secondDrained c₀ hy hend₁
    rw [hpieces, ← hreached] at hstreams
    subst hstreams
    have hlater := (Streams.run_pair Sinks.secondStuck (fun _ => rfl) rfl hx hx' hend [u] none).1
    refine ⟨o, _, ho, hasked, rfl, ?_⟩
    rw [hfailed, hlater]
    rfl
  · obtain ⟨o, ho, hstreams, _⟩ := Benchmark.exists_runIn (b := { parallelism := .int 2 }) hsplit
      (fun _ => [.launch]) Sinks.secondMissing () .still .still
    have hfailed : o.streams.step Sinks.secondMissing .still .launch =
        ⟨[], [.launched c₀], false, some (.reported true "delivery" "missing"), ()⟩ := by
      rw [hstreams, hpieces]
      rfl
    have hlater := (Streams.run_pair Sinks.secondMissing (fun _ => rfl) rfl hx hx' hend []
      (some (.reported true "delivery" "missing"))).1
    refine ⟨o, _, ho, ?_, rfl, ?_⟩
    · rw [hstreams, hpieces]
      rfl
    · rw [hfailed, hlater]
      rfl

end LogMill
