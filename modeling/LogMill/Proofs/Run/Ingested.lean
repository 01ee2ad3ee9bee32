import LogMill.Proofs.Row.Coverage
import LogMill.Proofs.Run.Ending

namespace LogMill

open Producer (numbers)

variable {σ : Type}

theorem Contact.countP_eq {past : List Contact} (h : ∀ a ∈ past, a.failure? = none) :
    past.countP isAccepted = (handed past).length := by
  induction past with
  | nil => rfl
  | cons a past ih =>
    have hrest := ih fun x hx => h x (List.mem_cons_of_mem _ hx)
    have ha := h a (by simp)
    cases a with
    | write i b answer =>
      cases answer with
      | error f => simp [failure?] at ha
      | ok n => simpa [List.countP_cons, isAccepted, handed, batch?] using hrest
    | _ => simpa [List.countP_cons, isAccepted, handed, List.filterMap_cons, batch?] using hrest

namespace Roster

theorem run_cons_next (g : Generator) (r : Roster) (order : List Nat) :
    Roster.run (g :: r) ((order.map (· + 1)).map .next) = g :: r.run (order.map .next) := by
  induction order generalizing r with
  | nil => rfl
  | cons i order ih =>
    have hstep : Roster.step (g :: r) (.next (i + 1)) = g :: r.step (.next i) := by
      simp only [step, List.getElem?_cons_succ]
      cases r[i]?.map Generator.next with
      | none => rfl
      | some x => cases x <;> rfl
    simp only [List.map_cons, run_cons, hstep, ih]

end Roster

namespace Streams

variable {children : List Generator} {past : List Contact} {s : Streams σ}

theorem raised?_eq {t : Stream} (h : t.isDone) : t.raised? = t.failure? := by
  unfold Stream.isDone at h
  unfold Stream.raised? Stream.failure?
  split at h <;> simp_all

theorem Kept.failure?_eq_none_iff (h : s.Kept children past) (hover : s.isOver) :
    s.failure? = none ↔ ∀ a ∈ past, a.failure? = none := by
  obtain ⟨_, hall⟩ := Bool.and_eq_true_iff.mp hover
  have hdone : ∀ t ∈ s.launched, t.isDone := by simpa using hall
  have hnone : s.failure? = none ↔ ¬(s.refused.isSome ∨ ∃ t ∈ s.launched, t.failure?.isSome) := by
    simp only [failure?]
    cases hr : s.refused with
    | some f => simp
    | none =>
      change s.launched.findSome? Stream.raised? = none ↔ _
      rw [List.findSome?_eq_none_iff]
      constructor
      · rintro hcalm (habsurd | ⟨t, ht, hf⟩)
        · simp at habsurd
        · rw [← raised?_eq (hdone t ht), hcalm t ht] at hf
          simp at hf
      · intro hcalm t ht
        rw [raised?_eq (hdone t ht)]
        by_contra hf
        exact hcalm (.inr ⟨t, ht, Option.isSome_iff_ne_none.mpr hf⟩)
  rw [hnone, h.failure]
  simp

theorem Kept.refused_eq_none (h : s.Kept children past) (hcalm : ∀ a ∈ past, a.failure? = none) :
    s.refused = none := by
  by_contra hr
  obtain ⟨a, ha, hf⟩ := h.failure.mp (.inl (Option.isSome_iff_ne_none.mpr hr))
  simp [hcalm a ha] at hf

theorem Kept.length_le (h : s.Kept children past) : s.launched.length ≤ children.length := by
  by_contra hgt
  obtain ⟨c, hc, _⟩ := h.walks children.length _ (List.getElem?_eq_getElem (Nat.not_le.mp hgt))
  simp at hc

theorem Kept.length_eq (h : s.Kept children past) (hover : s.isOver) (hrefused : s.refused = none) :
    s.launched.length = children.length := by
  apply Nat.le_antisymm h.length_le
  rw [← List.drop_eq_nil_iff, ← h.queue hrefused]
  simpa using (Bool.and_eq_true_iff.mp hover).1

theorem Kept.covers (h : s.Kept children past) (hb : ∀ c ∈ children, c.Bounded) (hover : s.isOver)
    (hcalm : ∀ a ∈ past, a.failure? = none) :
    s.launched.length = children.length ∧
      List.Forall₂ Generator.Covers children (s.launched.map Stream.handed) := by
  have hdone : ∀ t ∈ s.launched, t.isDone := by simpa using (Bool.and_eq_true_iff.mp hover).2
  have hnone : ¬(s.refused.isSome ∨ ∃ t ∈ s.launched, t.failure?.isSome) := by
    rw [h.failure]
    simpa using hcalm
  have hfine : ∀ t ∈ s.launched, t.failure? = none := by
    intro t ht
    by_contra hf
    exact hnone (.inr ⟨t, ht, Option.isSome_iff_ne_none.mpr hf⟩)
  have hflag : s.flag ≠ true := fun hf => hnone (.inr (h.raised hf))
  have hcovers (i : Nat) (t : Stream) (ht : s.launched[i]? = some t) :
      ∃ c, children[i]? = some c ∧ c.Covers t.handed := by
    obtain ⟨c, hc, hw⟩ := h.walks i t ht
    have hmem := List.mem_of_getElem? ht
    have hend : t.isEnding := by
      have hd := hdone t hmem
      unfold Stream.isDone at hd
      unfold Stream.isEnding
      split at hd <;> simp_all
    have hs := (h.ended t hmem hend (hfine t hmem)).resolve_left hflag
    exact ⟨c, hc, hw.covers (hb c (List.mem_of_getElem? hc)) hend hs⟩
  have heq := h.length_eq hover (h.refused_eq_none hcalm)
  refine ⟨heq, List.forall₂_iff_get.mpr ⟨by simp [heq], ?_⟩⟩
  intro i hi hi'
  obtain ⟨c, hc, hcov⟩ := hcovers i _ (List.getElem?_eq_getElem (heq ▸ hi))
  rw [List.getElem?_eq_getElem hi] at hc
  simp only [List.get_eq_getElem, List.getElem_map, Option.some.inj hc]
  exact hcov

theorem Kept.map_handedTo (h : s.Kept children past) {n : Nat} (hn : s.launched.length = n) :
    (List.range n).map (fun i => Contact.handedTo i past) = s.launched.map Stream.handed := by
  apply List.ext_getElem
  · simp [hn]
  · intro i hi hi'
    have hlt : i < s.launched.length := by simpa using hi'
    simp only [List.getElem_map, List.getElem_range, h.handedTo, List.getElem?_eq_getElem hlt]
    rfl

theorem Kept.numbers_perm (h : s.Kept children past) (hb : ∀ c ∈ children, c.Bounded)
    (hc : List.Forall₂ Generator.Covers children (s.launched.map Stream.handed)) :
    ((Contact.handed past).flatMap Batch.numbers).Perm (children.flatMap fun c => numbers c.cursor c.stop) := by
  have heach := map_eq_map_of_forall₂ (f := fun c => numbers c.cursor c.stop) (g := List.flatMap Batch.numbers) hc
    fun c hmem bs hcov => hcov.numbers_eq (hb c hmem).cursor_le_stop
  have hflat : (s.launched.flatMap Stream.handed).flatMap Batch.numbers =
      children.flatMap fun c => numbers c.cursor c.stop := by
    rw [List.flatMap_def (l := children), ← heach, List.flatMap_assoc, List.map_map, ← List.flatMap_def]
    rfl
  rw [← hflat]
  exact (h.handed.flatMap_right _).symm

theorem Kept.length_handed (h : s.Kept children past) (hb : ∀ c ∈ children, c.Bounded)
    (hc : List.Forall₂ Generator.Covers children (s.launched.map Stream.handed)) :
    ((Contact.handed past).length : Int) = (children.map fun c => -Int.fdiv (-c.remaining) c.batchSize).sum := by
  have heach := map_eq_map_of_forall₂ (f := fun c => -Int.fdiv (-c.remaining) c.batchSize)
    (g := fun bs : List Batch => (bs.length : Int)) hc fun c hmem bs hcov => hcov.length_eq (hb c hmem)
  rw [← heach, ← h.handed.length_eq, List.length_flatMap, List.map_map]
  induction s.launched with
  | nil => rfl
  | cons t ts ih => simp [ih]

end Streams

def Benchmark.Outcome.succeeded (o : Benchmark.Outcome σ) : Bool :=
  match o.result with
  | .ok r => r.success
  | .error _ => false

namespace Benchmark

def contacts (b : Benchmark) (order : List Generator → List Event) (g : Generator) (sinks : Sinks σ) (w : σ)
    (streamClock : Clock) : List Contact :=
  match g.split b.parallelism with
  | .ok gs => (Streams.start gs w).contacts sinks streamClock (order gs)
  | .error _ => []

/-- Whether the time of a run is a whole number of milliseconds, and its rows in that time are a rate. -/
def IsTimed (rows : Int) (clock : Clock) : Prop :=
  ∃ ms, elapsedMs clock = .ok ms ∧ fault? (Result.rate rows ms) = none

theorem conclude_eq_ok {b : Benchmark} {expected : Int} {clock : Clock} {s : Streams σ} :
    (∃ r, b.conclude expected clock s = .ok r ∧ r.success) ↔
      s.failure? = none ∧ s.rows = expected ∧ IsTimed expected clock := by
  unfold conclude IsTimed
  cases s.failure? with
  | some f =>
    simp only [reduceCtorEq, false_and, iff_false]
    split_ifs <;> simp [Result.failed]
  | none =>
    simp only [true_and]
    cases elapsedMs clock with
    | error f => simp [bind, Except.bind, Except.mapError]
    | ok ms =>
      by_cases hrows : s.rows = expected
      · cases hr : Result.rate expected ms <;>
          simp [Result.succeeded, hr, hrows, bind, Except.bind, pure, Except.pure, Except.mapError]
      · cases Whole.text expected <;> cases Whole.text s.rows <;>
          simp [hrows, Result.failed, bind, Except.bind, pure, Except.pure, Except.mapError]

theorem conclude_batchCount {b : Benchmark} {expected : Int} {clock : Clock} {s : Streams σ} {r : Result}
    (h : b.conclude expected clock s = .ok r) (hr : r.success) : r.batchCount = .int s.batches := by
  unfold conclude at h
  split at h
  · split_ifs at h
    cases h
    simp [Result.failed] at hr
  · obtain ⟨ms, -, h⟩ := Outcome.bind_eq_ok.mp h
    split_ifs at h
    · simp only [Result.succeeded, Outcome.mapError_eq_ok, Outcome.bind_eq_ok, pure, Except.pure,
        Except.ok.injEq] at h
      obtain ⟨_, _, rfl⟩ := h
      rfl
    · simp only [Outcome.bind_eq_ok, pure, Except.pure, Except.ok.injEq] at h
      obtain ⟨_, -, _, -, rfl⟩ := h
      simp [Result.failed] at hr

theorem exists_runIn {b : Benchmark} {g : Generator} {gs : List Generator} (hsplit : g.split b.parallelism = .ok gs)
    (order : List Generator → List Event) (sinks : Sinks σ) (w : σ) (clock streamClock : Clock) :
    ∃ o, b.runIn order g sinks w clock streamClock = .ok o ∧
      o.streams = (Streams.start gs w).run sinks streamClock (order gs) ∧
      o.result = b.conclude g.remaining clock o.streams := by
  simp only [runIn, hsplit]
  exact ⟨_, rfl, rfl, rfl⟩

theorem Outcome.succeeded_iff {o : Outcome σ} : o.succeeded ↔ ∃ r, o.result = .ok r ∧ r.success := by
  unfold succeeded
  cases o.result <;> simp

end Benchmark

/-- A run in which the streams take any order can be brought to an end, and succeeds exactly if nothing that it asked
failed and the sinks accepted as many rows as were unread. Every unread row was then handed over once, to each sink in
order, in as few batches as it takes, and the generator was not touched. -/
theorem rows_ingested {s : Settings} {w₀ : World} {g₀ g : Generator} {notes : Journal}
    (hs : s.configure w₀ = (.ok g₀, notes)) (moves : List Move) (hg : g ∈ Roster.run [g₀] moves) {b : Benchmark}
    {n : Int} (hb : b.parallelism = .int n) (hn : 1 ≤ n) (sinks : Sinks σ) (w : σ)
    (order : List Generator → List Event) (clock streamClock : Clock) :
    ∃ o asked, b.runIn order g sinks w clock streamClock = .ok o ∧ asked = b.contacts order g sinks w streamClock ∧
      (∃ more, (o.streams.run sinks streamClock more).isOver) ∧
      (o.streams.isOver →
        (o.succeeded ↔ (∀ a ∈ asked, a.failure? = none) ∧ (asked.map Contact.accepted).sum = g.remaining ∧
          Benchmark.IsTimed g.remaining clock) ∧
        (o.succeeded →
          ((Contact.handed asked).flatMap Batch.numbers).Perm (numbers g.cursor g.stop) ∧
          List.Forall₂ Generator.Covers (g.pieces n)
            ((List.range (g.pieces n).length).map fun i => Contact.handedTo i asked) ∧
          (∃ r, o.result = .ok r ∧ r.batchCount = .int (Contact.handed asked).length) ∧
          ((Contact.handed asked).length : Int) =
            ((g.pieces n).map fun c => -Int.fdiv (-c.remaining) c.batchSize).sum ∧
          ∃ reads : List Nat, Roster.run [g] (.split 0 (.int n) :: (reads.map (· + 1)).map .next) =
            g :: o.streams.launched.map Stream.generator)) := by
  obtain ⟨table, seed, htable, hready⟩ := Settings.configure_eq_ok hs
  have hakin := hready.akin moves g hg
  have hsplit : g.split b.parallelism = .ok (g.pieces n) := hb ▸ g.split_int hn
  have hbounded : ∀ c ∈ g.pieces n, c.Bounded := fun c hc => hakin.bounded.pieces hc
  have hkept := Streams.run_keeps sinks streamClock (fun h hs => h.step hbounded hs)
    (Streams.Kept.start (g.pieces n) w) (order (g.pieces n))
  have hasked : b.contacts order g sinks w streamClock =
      (Streams.start (g.pieces n) w).contacts sinks streamClock (order (g.pieces n)) := by
    simp only [Benchmark.contacts, hsplit]
  rw [List.nil_append, ← hasked] at hkept
  obtain ⟨o, ho, hstreams, hresult⟩ := b.exists_runIn hsplit order sinks w clock streamClock
  rw [← hstreams] at hkept
  have hsound : o.streams.Sound := by
    rw [hstreams]
    exact Streams.Sound.run ⟨hbounded, by simp [Streams.start]⟩ sinks streamClock _
  obtain ⟨more, _, hmore⟩ := hsound.exists_over sinks streamClock
  refine ⟨o, _, ho, rfl, ⟨more, hmore⟩, ?_⟩
  intro hover
  have hiff : o.succeeded ↔ (∀ a ∈ b.contacts order g sinks w streamClock, a.failure? = none) ∧
      ((b.contacts order g sinks w streamClock).map Contact.accepted).sum = g.remaining ∧
        Benchmark.IsTimed g.remaining clock := by
    rw [Benchmark.Outcome.succeeded_iff, hresult, Benchmark.conclude_eq_ok, hkept.failure?_eq_none_iff hover,
      hkept.rows]
  refine ⟨hiff, ?_⟩
  intro hsucceeded
  have hcalm := (hiff.mp hsucceeded).1
  obtain ⟨hlength, hcovers⟩ := hkept.covers hbounded hover hcalm
  obtain ⟨r, hr, hsuccess⟩ := Benchmark.Outcome.succeeded_iff.mp hsucceeded
  have htiles := g.tiles_pieces n hakin.bounded.cursor_le_stop
  refine ⟨?_, ?_, ⟨r, hr, ?_⟩, hkept.length_handed hbounded hcovers, ?_⟩
  · rw [← htiles.numbers_eq]
    exact hkept.numbers_perm hbounded hcovers
  · rw [hkept.map_handedTo hlength]
    exact hcovers
  · rw [Benchmark.conclude_batchCount (hresult ▸ hr) hsuccess, hkept.batches, Contact.countP_eq hcalm]
  · obtain ⟨reads, rest, hreads, hrest⟩ := hkept.reads
    have hempty : rest = [] := by
      rw [hrest (hkept.refused_eq_none hcalm)]
      simpa using (Bool.and_eq_true_iff.mp hover).1
    have hfirst : Roster.step [g] (.split 0 (.int n)) = g :: g.pieces n := by simp [Roster.step, g.split_int hn]
    refine ⟨reads, ?_⟩
    rw [Roster.run_cons, hfirst, Roster.run_cons_next, hreads, hempty, List.append_nil]

def Clock.still : Clock := fun _ => .finite 0

namespace Stream

theorem rate_still (rows : Int) (batches : Nat) : rate rows batches .still = .ok (.finite 0) := by
  have hnone : (Double.finite 0).less (.finite 0 - .finite 0) = false := by decide +kernel
  simp [rate, Clock.still, hnone]

theorem exists_progress_still (i batches : Nat) (rows : Int) (hi : i < 10) (hrows : rows.natAbs < 10)
    (hbatches : batches < 10) : ∃ entry, progress i rows batches .still = .ok entry := by
  have hshort {n : Int} (h : n.natAbs < 10) : Whole.text n = .ok (toString n) :=
    Whole.text_of_lt (Whole.lt_limit (k := 1) (by omega) (by decide))
  simp only [progress, rate_still, hshort (n := i) (by omega), hshort (n := batches) (by omega), hshort hrows]
  exact ⟨_, rfl⟩

theorem progress_still_of_vast {i : Nat} {rows : Int} {f : Whole.Fault} (hi : i < 10)
    (hrows : Whole.text rows = .error f) : progress i rows 1 .still = .error (.number f) := by
  have hshort {n : Int} (h : n.natAbs < 10) : Whole.text n = .ok (toString n) :=
    Whole.text_of_lt (Whole.lt_limit (k := 1) (by omega) (by decide))
  rw [progress, rate_still, hshort (n := i) (by omega), hshort (n := (1 : Nat)) (by decide), hrows]
  rfl

end Stream

theorem rows_ingested_single : ∃ g notes o,
    ({ rowCount := .int 1, batchSize := .int 1 } : Settings).configure .idle = (.ok g, notes) ∧
      ({ parallelism := .int 1 } : Benchmark).runIn (fun _ => .launch :: List.replicate 6 (.advance 0)) g
        (Sinks.answering fun _ => 1) () .still .still = .ok o ∧
      o.streams.isOver ∧ o.succeeded := by
  obtain ⟨g, notes, hs, hremaining, hpieces, hnext⟩ := Settings.exists_single_pieces .null (show 0 < (1 : Int) by decide)
    (by decide)
  obtain ⟨b, c, hread, hend⟩ := hnext 0 (by decide)
  obtain ⟨o, asked, ho, hasked, _, hresult⟩ := rows_ingested hs [] (List.mem_singleton_self g)
    (b := { parallelism := .int 1 }) rfl (by decide) (Sinks.answering fun _ => 1) ()
    (fun _ => .launch :: List.replicate 6 (.advance 0)) .still .still
  obtain ⟨o', ho', hstreams, _⟩ := Benchmark.exists_runIn (b := { parallelism := .int 1 })
    (g.split_int (show 1 ≤ (1 : Int) by decide)) (fun _ => .launch :: List.replicate 6 (.advance 0))
    (Sinks.answering fun _ => 1) () .still .still
  obtain rfl : o = o' := Except.ok.inj (ho.symm.trans ho')
  obtain ⟨entry, hentry⟩ := Stream.exists_progress_still 0 1 1 (by decide) (by decide) (by decide)
  have hover : o.streams.isOver := by
    rw [hstreams, hpieces]
    simp [Streams.start, List.replicate, Sinks.answering, hread, hend, hentry, Streams.isOver]
  have hsucceeded : o.succeeded := by
    rw [(hresult hover).1, hasked]
    refine ⟨?_, ?_, 0, by decide +kernel, by rw [hremaining]; decide +kernel⟩
    · simp [Benchmark.contacts, g.split_int, hpieces, Streams.start, List.replicate, Sinks.answering, hread, hend, hentry,
        Contact.failure?]
    · simp [Benchmark.contacts, g.split_int, hpieces, Streams.start, List.replicate, Sinks.answering, hread, hend, hentry,
        Contact.accepted, hremaining]
  exact ⟨g, notes, o, hs, ho, hover, hsucceeded⟩

def Event.abreast : List Event :=
  [.launch, .launch, .advance 0, .advance 0, .advance 1, .advance 1, .advance 0, .advance 1, .advance 0, .advance 1,
    .advance 0, .advance 1]

def Sinks.vast (size : Int) (i : Nat) : Int := if i = 0 then size + 1 else 1 - size

def Benchmark.Falters (size : Int) (clock : Clock) (f : Failure) : Prop :=
  ∃ g notes o asked, ({ rowCount := .int 2, batchSize := .int 1 } : Settings).configure .idle = (.ok g, notes) ∧
    ({ parallelism := .int 2 } : Benchmark).runIn (fun _ => Event.abreast) g (Sinks.answering (Sinks.vast size)) ()
      clock clock = .ok o ∧
    asked = ({ parallelism := .int 2 } : Benchmark).contacts (fun _ => Event.abreast) g
      (Sinks.answering (Sinks.vast size)) () clock ∧
    o.streams.isOver ∧ (∀ a ∈ asked, a.isCall → a.failure? = none) ∧
    (asked.map Contact.accepted).sum = g.remaining ∧ o.result = .error f

theorem Benchmark.falters {size : Int} {clock : Clock} {f : Failure} (hf : ¬ f.isForeseen)
    (hfault : ∀ i < 2, Stream.progress i (Sinks.vast size i) 1 clock = .error f) : Falters size clock f := by
  obtain ⟨g, notes, hs, hremaining, hpieces, hnext⟩ := Settings.exists_single_pieces .null
    (show 0 < (2 : Int) by decide) (by decide)
  obtain ⟨b, c, hread, hend⟩ := hnext 0 (by decide)
  obtain ⟨b', c', hread', hend'⟩ := hnext 1 (by decide)
  obtain ⟨o, ho, hstreams, hresult⟩ := exists_runIn (b := { parallelism := .int 2 })
    (g.split_int (show 1 ≤ (2 : Int) by decide)) (fun _ => Event.abreast) (Sinks.answering (Sinks.vast size)) ()
    clock clock
  have hsum : Sinks.vast size 0 + Sinks.vast size 1 = 2 := by
    simp only [Sinks.vast, ↓reduceIte, one_ne_zero]
    omega
  have hcontacts : ({ parallelism := .int 2 } : Benchmark).contacts (fun _ => Event.abreast) g
      (Sinks.answering (Sinks.vast size)) () clock =
      [.create 0 none, .create 1 none, .read 0 none, .read 1 none, .write 0 b (.ok (Sinks.vast size 0)),
        .report 0 (some f), .write 1 b' (.ok (Sinks.vast size 1)), .report 1 (some f), .close 0 none,
        .close 1 none] := by
    simp [contacts, g.split_int, hpieces, Event.abreast, Streams.start, Sinks.answering, hread, hread',
      List.range_succ, hfault]
  refine ⟨g, notes, o, _, hs, ho, rfl, ?_, ?_, ?_, ?_⟩
  · rw [hstreams, hpieces]
    simp [Event.abreast, Streams.start, Sinks.answering, hread, hread', List.range_succ, hfault, Streams.isOver]
  · simp [hcontacts, Contact.isCall, Contact.failure?]
  · simp [hcontacts, Contact.accepted, hremaining, hsum]
  · have hfailure : o.streams.failure? = some f := by
      rw [hstreams, hpieces]
      simp [Event.abreast, Streams.start, Sinks.answering, hread, hread', List.range_succ, hfault, Streams.failure?]
      rfl
    rw [hresult, conclude, hfailure]
    exact if_neg hf

theorem vast_answers_not_ingested : Benchmark.Falters (10 ^ 400) (fun n => .finite n) (.arithmetic .tooLarge) ∧
    Benchmark.Falters (10 ^ 5000) .still (.number .tooManyDigits) := by
  refine ⟨Benchmark.falters (by decide) fun i hi => ?_, Benchmark.falters (by decide) fun i hi => ?_⟩
  · have hrate : Stream.rate (Sinks.vast (10 ^ 400) i) 1 (fun n => .finite n) = .error .tooLarge := by
      obtain rfl | rfl : i = 0 ∨ i = 1 := by omega
      · decide +kernel
      · decide +kernel
    rw [Stream.progress, hrate]
    rfl
  · have hrows : Whole.text (Sinks.vast (10 ^ 5000) i) = .error .tooManyDigits := by
      obtain rfl | rfl : i = 0 ∨ i = 1 := by omega
      · decide +kernel
      · decide +kernel
    exact Stream.progress_still_of_vast (by omega) hrows

end LogMill
