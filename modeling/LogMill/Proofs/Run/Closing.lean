import LogMill.Proofs.Run.Unnoticed

/-!
Closing: every sink that was made is closed once, behind all that its stream asked. What decides a run is a sink that
could not be made, or else the first stream, by number, that failed.
-/

namespace LogMill

variable {σ : Type}

namespace Contact

def of (i : Nat) (asked : List Contact) : List Contact := asked.filter fun a => a.place = i

def isWork : Contact → Bool
  | read _ _ | write _ _ _ | report _ _ => true
  | create _ _ | close _ _ => false

def unclosed? : Contact → Option Failure
  | close _ f => f
  | create _ _ | read _ _ | write _ _ _ | report _ _ => none

def broken? (a : Contact) : Option Failure := if a.isWork then a.failure? else none

def raised? (i : Nat) (asked : List Contact) : Option Failure :=
  (of i asked).findSome? unclosed? <|> (of i asked).findSome? broken?

structure Works (f : Option Failure) (asked : List Contact) : Prop where
  work : ∀ a ∈ asked, a.isWork
  calm : ∀ a ∈ asked.dropLast, a.failure? = none
  last : asked.findSome? failure? = f

variable {i j : Nat} {f : Option Failure} {a : Contact} {asked : List Contact}

@[simp] theorem of_nil (i : Nat) : of i [] = [] := rfl

theorem of_append (i : Nat) (xs ys : List Contact) : of i (xs ++ ys) = of i xs ++ of i ys := List.filter_append ..

theorem of_own (h : ∀ a ∈ asked, a.place = i) : of i asked = asked := by
  rw [of, List.filter_eq_self]
  simpa using h

theorem of_other (h : ∀ a ∈ asked, a.place = i) (hj : j ≠ i) : of j asked = [] := by
  rw [of, List.filter_eq_nil_iff]
  intro a ha
  simp [h a ha, hj.symm]

theorem of_create_self (i : Nat) (f : Option Failure) : of i [create i f] = [create i f] :=
  of_own (by simp [place])

theorem of_create_ne (h : j ≠ i) (f : Option Failure) : of j [create i f] = [] := of_other (by simp [place]) h

theorem mem_of : a ∈ of i asked ↔ a ∈ asked ∧ a.place = i := by simp [of]

theorem Works.nil : Works none [] := ⟨by simp, by simp, rfl⟩

theorem Works.push (h : Works none asked) (ha : a.isWork) : Works a.failure? (asked ++ [a]) where
  work := by simpa [or_imp, forall_and, ha] using h.work
  calm := by
    rw [List.dropLast_concat]
    exact List.findSome?_eq_none_iff.mp h.last
  last := by simp [List.findSome?_append, h.last]

theorem unclosed?_of_isWork (h : a.isWork) : a.unclosed? = none := by
  cases a <;> first | rfl | simp [isWork] at h

theorem Works.findSome?_broken? (h : Works f asked) : asked.findSome? broken? = f := by
  rw [← h.last]
  have hwork := h.work
  clear h
  induction asked with
  | nil => rfl
  | cons a asked ih =>
    rw [List.findSome?_cons, List.findSome?_cons, ih fun b hb => hwork b (List.mem_cons_of_mem _ hb), broken?,
      if_pos (hwork a (by simp))]

theorem raised?_eq {work : List Contact} {e : Option Failure} (hw : Works f work)
    (h : of i asked = .create i none :: (work ++ [.close i e])) : raised? i asked = (e <|> f) := by
  have hcalm : work.findSome? unclosed? = none :=
    List.findSome?_eq_none_iff.mpr fun a ha => unclosed?_of_isWork (hw.work a ha)
  rw [raised?, h]
  cases e <;> simp [List.findSome?_cons, List.findSome?_append, hcalm, hw.findSome?_broken?, unclosed?, broken?, isWork]

end Contact

namespace Stream

open Contact (Works)

def Told (i : Nat) : Phase → List Contact → Prop
  | .checking, asked | .reading, asked | .writing _, asked => Works none asked
  | .failing f, asked => Works (some f) asked
  | .closing f, asked => Works f asked
  | .done f, asked => ∃ work g e, asked = work ++ [.close i e] ∧ Works g work ∧ f = (e <|> g)

theorem told_step (sinks : Sinks σ) (clock : Clock) (i : Nat) (t : Stream) (flag : Bool) (w : σ) {asked : List Contact}
    (h : Told i t.phase asked) :
    Told i (t.step sinks clock i flag w).1.phase (asked ++ t.contacts sinks clock i w) := by
  obtain ⟨g, phase, rows, handed, accepted, journal⟩ := t
  cases phase with
  | checking =>
    rw [contacts, List.append_nil]
    cases flag <;> exact h
  | reading =>
    have hread (f : Option Failure) := Works.push (a := .read i f) h rfl
    simp only [step, contacts]
    cases g.next with
    | error f => exact hread (some (.producer f))
    | ok x =>
      obtain ⟨b, g'⟩ := x
      cases b <;> exact hread none
  | writing b =>
    simp only [step, contacts]
    cases sinks.write i b w with
    | mk answer w' =>
      have hwritten := Works.push (a := .write i b answer) h rfl
      cases answer with
      | error f => exact hwritten
      | ok n =>
        have htold (f : Option Failure) := Works.push (a := .report i f) hwritten rfl
        rw [List.append_cons asked]
        simp only
        cases progress i (rows + n) (accepted + 1) clock with
        | error f => exact htold (some f)
        | ok entry => exact htold none
  | failing f =>
    rw [contacts, List.append_nil]
    exact h
  | closing f =>
    simp only [step, contacts]
    cases sinks.close i w with
    | mk answer w' => cases answer <;> exact ⟨asked, f, _, rfl, h, rfl⟩
  | done f =>
    rw [contacts, List.append_nil]
    exact h

theorem create_not_mem (sinks : Sinks σ) (clock : Clock) (i j : Nat) (f : Option Failure) (t : Stream) (w : σ) :
    .create j f ∉ t.contacts sinks clock i w := by
  unfold contacts
  split
  · simp
  · split <;> simp
  · simp
  · simp
  · simp
  · simp

end Stream

namespace Streams

variable {past : List Contact} {s : Streams σ}

structure Accounted (past : List Contact) (s : Streams σ) : Prop where
  stopped : s.refused ≠ none → s.waiting = []
  refused : ∀ f, s.refused = some f ↔ ∃ i, .create i (some f) ∈ past
  launched : ∀ (i : Nat) (t : Stream), s.launched[i]? = some t →
    ∃ asked, Contact.of i past = .create i none :: asked ∧ Stream.Told i t.phase asked
  unlaunched : ∀ i, s.launched.length ≤ i →
    Contact.of i past = [] ∨ ∃ f, s.refused = some f ∧ Contact.of i past = [.create i (some f)]

theorem Accounted.start (children : List Generator) (w : σ) : (start children w).Accounted [] where
  stopped := by simp [Streams.start]
  refused := by simp [Streams.start]
  launched := by simp [Streams.start]
  unlaunched := by simp

theorem Accounted.refused_of_waiting (h : s.Accounted past) {g : Generator} {gs : List Generator}
    (hwaiting : s.waiting = g :: gs) : s.refused = none := by
  by_contra hr
  simp [h.stopped hr] at hwaiting

theorem Accounted.unlaunched_of_waiting (h : s.Accounted past) {g : Generator} {gs : List Generator}
    (hwaiting : s.waiting = g :: gs) {i : Nat} (hi : s.launched.length ≤ i) : Contact.of i past = [] := by
  rcases h.unlaunched i hi with hnil | ⟨f, hr, _⟩
  · exact hnil
  · simp [h.refused_of_waiting hwaiting] at hr

theorem Accounted.step {asked : List Contact} {s' : Streams σ} {sinks : Sinks σ} {clock : Clock}
    (h : s.Accounted past) (hs : Steps sinks clock s asked s') : s'.Accounted (past ++ asked) := by
  cases hs with
  | idle => simpa using h
  | refused g gs f w hwaiting hcreate =>
    have hopen := h.refused_of_waiting hwaiting
    refine ⟨fun _ => rfl, ?_, ?_, ?_⟩
    · have hnone : ∀ f i, .create i (some f) ∉ past := by simpa [hopen] using h.refused
      simp [hnone, eq_comm]
    · intro i t ht
      have hi := (List.getElem?_eq_some_iff.mp ht).1
      rw [Contact.of_append, Contact.of_create_ne hi.ne, List.append_nil]
      exact h.launched i t ht
    · intro i hi
      rw [Contact.of_append, h.unlaunched_of_waiting hwaiting hi, List.nil_append]
      by_cases hlast : i = s.launched.length
      · subst hlast
        exact .inr ⟨f, rfl, Contact.of_create_self _ _⟩
      · exact .inl (Contact.of_create_ne hlast _)
  | launched g gs w hwaiting hcreate =>
    refine ⟨fun hr => absurd (h.refused_of_waiting hwaiting) hr, by simpa using h.refused, ?_, ?_⟩
    · intro i t ht
      rw [Contact.of_append]
      rcases getElem?_launch ht with ht | ⟨rfl, rfl⟩
      · have hi := (List.getElem?_eq_some_iff.mp ht).1
        rw [Contact.of_create_ne hi.ne, List.append_nil]
        exact h.launched i t ht
      · rw [h.unlaunched_of_waiting hwaiting le_rfl, List.nil_append, Contact.of_create_self]
        exact ⟨[], rfl, Contact.Works.nil⟩
    · intro i hi
      rw [List.length_append, List.length_singleton] at hi
      rw [Contact.of_append, h.unlaunched_of_waiting hwaiting (by omega),
        Contact.of_create_ne (by omega)]
      exact .inl rfl
  | advanced i t ht =>
    have hown := (t.step_advances sinks clock i s.flag s.world).own
    refine ⟨h.stopped, ?_, ?_, ?_⟩
    · simpa [Stream.create_not_mem] using h.refused
    · intro j u hu
      rw [Contact.of_append]
      rcases getElem?_advance ht hu with ⟨rfl, rfl⟩ | ⟨hj, hu⟩
      · obtain ⟨asked, hasked, htold⟩ := h.launched i t ht
        rw [hasked, Contact.of_own hown]
        exact ⟨_, rfl, t.told_step sinks clock i s.flag s.world htold⟩
      · rw [Contact.of_other hown (Ne.symm hj), List.append_nil]
        exact h.launched j u hu
    · intro j hj
      have hi := (List.getElem?_eq_some_iff.mp ht).1
      rw [List.length_set] at hj
      rw [Contact.of_append, Contact.of_other hown (by omega), List.append_nil]
      exact h.unlaunched j hj

variable {i : Nat} {f : Failure}

theorem Accounted.exists_stream (h : s.Accounted past) (hi : .create i none ∈ past) :
    ∃ t, s.launched[i]? = some t := by
  have hmem : Contact.create i none ∈ Contact.of i past := Contact.mem_of.mpr ⟨hi, rfl⟩
  by_contra hnone
  have hlength : s.launched.length ≤ i := by
    apply List.getElem?_eq_none_iff.mp
    exact Option.eq_none_iff_forall_not_mem.mpr fun t ht => hnone ⟨t, ht⟩
  rcases h.unlaunched i hlength with hnil | ⟨f, _, hone⟩
  · simp [hnil] at hmem
  · simp [hone] at hmem

open Contact (Works)

theorem Accounted.exists_work (h : s.Accounted past) (hover : s.isOver) {t : Stream} (ht : s.launched[i]? = some t) :
    ∃ work g e, Contact.of i past = .create i none :: (work ++ [.close i e]) ∧ Works g work ∧
      t.raised? = (e <|> g) := by
  obtain ⟨asked, hasked, htold⟩ := h.launched i t ht
  have hdone : t.isDone := by
    simp only [isOver, Bool.and_eq_true, List.all_eq_true] at hover
    exact hover.2 t (List.mem_of_getElem? ht)
  obtain ⟨g, phase, rows, handed, accepted, journal⟩ := t
  cases phase with
  | done f =>
    obtain ⟨work, g, e, rfl, hworks, hf⟩ := htold
    exact ⟨work, g, e, hasked, hworks, hf⟩
  | checking | reading | writing b | failing f | closing f => simp [Stream.isDone] at hdone

theorem Accounted.raised?_eq (h : s.Accounted past) (hover : s.isOver) {t : Stream} (ht : s.launched[i]? = some t) :
    Contact.raised? i past = t.raised? := by
  obtain ⟨work, g, e, hof, hworks, hraised⟩ := h.exists_work hover ht
  rw [hraised, Contact.raised?_eq hworks hof]

theorem Accounted.raised?_eq_none (h : s.Accounted past) (hi : s.launched.length ≤ i) :
    Contact.raised? i past = none := by
  rcases h.unlaunched i hi with hnil | ⟨f, _, hone⟩
  · rw [Contact.raised?, hnil]
    rfl
  · rw [Contact.raised?, hone]
    rfl

theorem Accounted.failure?_eq (h : s.Accounted past) (hover : s.isOver) (hmade : ∀ i f, .create i (some f) ∉ past)
    (hi : Contact.raised? i past = some f) (hfirst : ∀ j < i, Contact.raised? j past = none) :
    s.failure? = some f := by
  have hrefused : s.refused = none := by
    apply Option.eq_none_iff_forall_not_mem.mpr
    intro f hf
    obtain ⟨i, hmem⟩ := (h.refused f).mp hf
    exact hmade i f hmem
  have hlt : i < s.launched.length := by
    by_contra hge
    simp [h.raised?_eq_none (Nat.not_lt.mp hge)] at hi
  have hraised := h.raised?_eq hover (List.getElem?_eq_getElem hlt)
  rw [failure?, hrefused]
  change s.launched.findSome? Stream.raised? = some f
  apply List.findSome?_eq_some_iff.mpr
  refine ⟨s.launched.take i, s.launched[i], s.launched.drop (i + 1), ?_, by rw [← hraised, hi], ?_⟩
  · rw [List.getElem_cons_drop, List.take_append_drop]
  · intro t ht
    obtain ⟨j, hj, rfl⟩ := List.mem_iff_getElem.mp ht
    rw [List.length_take] at hj
    have hlow : j < i := by omega
    rw [List.getElem_take, ← h.raised?_eq hover (List.getElem?_eq_getElem (hlow.trans hlt))]
    exact hfirst j hlow

end Streams

/-- A run ends with a failure: as a result that tells of it if it is foreseen, and else as the failure itself. -/
def Benchmark.Outcome.EndsWith (o : Benchmark.Outcome σ) (f : Failure) : Prop :=
  if f.isForeseen then ∃ r, o.result = .ok r ∧ r.success = false ∧ r.error = .text f.message else o.result = .error f

theorem Benchmark.Outcome.endsWith {o : Benchmark.Outcome σ} {b : Benchmark} {expected : Int} {clock : Clock}
    {f : Failure} (ho : o.result = b.conclude expected clock o.streams) (hf : o.streams.failure? = some f) :
    o.EndsWith f := by
  simp only [conclude, hf] at ho
  unfold EndsWith
  split_ifs with hforeseen
  · rw [if_pos hforeseen] at ho
    exact ⟨_, ho, rfl, rfl⟩
  · rw [if_neg hforeseen] at ho
    exact ho

/-- Whatever fails in whatever order, each sink that was made is closed once and last of all that its stream asks before
the run ends. A sink that could not be made decides how the run ends, or else the failed stream with the lowest number,
whose failure to close hides the one before it. -/
theorem sinks_closed_and_lowest_decides {s : Settings} {w₀ : World} {g₀ g : Generator} {notes : Journal}
    (hs : s.configure w₀ = (.ok g₀, notes)) (moves : List Move) (hg : g ∈ Roster.run [g₀] moves) (b : Benchmark)
    (sinks : Sinks σ) (w : σ) (order : List Generator → List Event) (clock streamClock : Clock) :
    ∃ asked, asked = b.contacts order g sinks w streamClock ∧
      ((∃ f, b.runIn order g sinks w clock streamClock = .error f ∧ asked = []) ∨
        ∃ o, b.runIn order g sinks w clock streamClock = .ok o ∧
          (∃ more, (o.streams.run sinks streamClock more).isOver) ∧
          (o.streams.isOver →
            (∀ i, .create i none ∈ asked → ∃ work f,
              Contact.of i asked = .create i none :: (work ++ [.close i f]) ∧ (∀ a ∈ work, a.isWork) ∧
                ∀ a ∈ work.dropLast, a.failure? = none) ∧
            (∀ i f, .create i (some f) ∈ asked → o.EndsWith f) ∧
            ((∀ i f, .create i (some f) ∉ asked) → ∀ i f, Contact.raised? i asked = some f →
              (∀ j < i, Contact.raised? j asked = none) → o.EndsWith f))) := by
  obtain ⟨table, seed, htable, hready⟩ := Settings.configure_eq_ok hs
  refine ⟨_, rfl, ?_⟩
  cases hsplit : g.split b.parallelism with
  | error f =>
    refine .inl ⟨f, ?_, ?_⟩
    · simp only [Benchmark.runIn, hsplit]
      rfl
    · simp only [Benchmark.contacts, hsplit]
  | ok children =>
    have hbounded : ∀ c ∈ children, c.Bounded := fun c hc => ((hready.akin moves g hg).split hsplit hc).bounded
    obtain ⟨o, ho, hstreams, hresult⟩ := b.exists_runIn hsplit order sinks w clock streamClock
    have haccounted := Streams.run_keeps sinks streamClock (fun h hs => h.step hs) (Streams.Accounted.start children w)
      (order children)
    rw [List.nil_append, ← hstreams, ← b.contacts_of_split hsplit] at haccounted
    have hsound : o.streams.Sound := by
      rw [hstreams]
      exact Streams.Sound.run ⟨hbounded, by simp [Streams.start]⟩ sinks streamClock _
    obtain ⟨more, _, hmore⟩ := hsound.exists_over sinks streamClock
    refine .inr ⟨o, ho, ⟨more, hmore⟩, ?_⟩
    intro hover
    refine ⟨?_, ?_, ?_⟩
    · intro i hi
      obtain ⟨t, ht⟩ := haccounted.exists_stream hi
      obtain ⟨work, g, e, hof, hworks, _⟩ := haccounted.exists_work hover ht
      exact ⟨work, e, hof, hworks.work, hworks.calm⟩
    · intro i f hi
      apply Benchmark.Outcome.endsWith hresult
      rw [Streams.failure?, (haccounted.refused f).mpr ⟨i, hi⟩]
      rfl
    · intro hmade i f hi hfirst
      exact Benchmark.Outcome.endsWith hresult (haccounted.failure?_eq hover hmade hi hfirst)

def Sinks.bothFailing : Sinks Unit :=
  .fixed (fun _ => .ok ()) (fun i => if i = 0 then .error (.reported true "delivery" "full") else .ok 1) fun i =>
    if i = 1 then some (.reported false "system" "stuck") else none

def Event.secondFirst : List Event :=
  [.launch, .launch] ++ List.replicate 6 (.advance 1) ++ List.replicate 5 (.advance 0)

theorem sinks_closed_and_lowest_decides_late : ∃ g notes o r,
    ({ rowCount := .int 2, batchSize := .int 1 } : Settings).configure .idle = (.ok g, notes) ∧
      ({ parallelism := .int 2 } : Benchmark).runIn (fun _ => Event.secondFirst) g Sinks.bothFailing () .still .still =
        .ok o ∧
      o.streams.isOver ∧
      Contact.raised? 1 (({ parallelism := .int 2 } : Benchmark).contacts (fun _ => Event.secondFirst) g
        Sinks.bothFailing () .still) = some (.reported false "system" "stuck") ∧
      o.result = .ok r ∧ r.success = false ∧ r.error = .text "full" := by
  obtain ⟨g, notes, hs, _, hpieces, hnext⟩ := Settings.exists_single_pieces .null (show 0 < (2 : Int) by decide) (by decide)
  obtain ⟨x, c, hread, hend⟩ := hnext 0 (by decide)
  obtain ⟨y, c', hread', hend'⟩ := hnext 1 (by decide)
  have hsplit := g.split_int (show 1 ≤ (2 : Int) by decide)
  obtain ⟨asked, hasked, hrun⟩ := sinks_closed_and_lowest_decides hs [] (List.mem_singleton_self g)
    { parallelism := .int 2 } Sinks.bothFailing () (fun _ => Event.secondFirst) .still .still
  obtain ⟨o, ho, hstreams, _⟩ := Benchmark.exists_runIn (b := { parallelism := .int 2 }) hsplit
    (fun _ => Event.secondFirst) Sinks.bothFailing () .still .still
  obtain ⟨entry, hentry⟩ := Stream.exists_progress_still 1 1 1 (by decide) (by decide) (by decide)
  have hcontacts : asked = [.create 0 none, .create 1 none, .read 1 none, .write 1 y (.ok 1), .report 1 none,
      .read 1 none, .close 1 (some (.reported false "system" "stuck")), .read 0 none,
      .write 0 x (.error (.reported true "delivery" "full")), .close 0 none] := by
    rw [hasked, Benchmark.contacts_of_split hsplit, hpieces]
    simp [Event.secondFirst, List.replicate, Streams.start, Sinks.bothFailing, Sinks.fixed, hread, hread', hend',
      List.range_succ, hentry]
  have hover : o.streams.isOver := by
    rw [hstreams, hpieces]
    simp [Event.secondFirst, List.replicate, Streams.start, Sinks.bothFailing, Sinks.fixed, hread, hread', hend',
      List.range_succ, hentry, Streams.isOver]
  obtain ⟨f, hfault, _⟩ | ⟨o', ho', _, hends⟩ := hrun
  · simp [ho] at hfault
  · obtain rfl : o = o' := Except.ok.inj (ho.symm.trans ho')
    obtain ⟨_, _, hlowest⟩ := hends hover
    have hmade : ∀ i f, .create i (some f) ∉ asked := by simp [hcontacts]
    have hfirst : Contact.raised? 0 asked = some (.reported true "delivery" "full") := by
      rw [hcontacts]
      rfl
    obtain ⟨r, hr, hsuccess, herror⟩ := hlowest hmade 0 _ hfirst (by simp)
    refine ⟨g, notes, o, r, hs, ho, hover, ?_, hr, hsuccess, herror⟩
    rw [← hasked, hcontacts]
    rfl

def Benchmark.Succumbs (size : Int) (clock : Clock) (f : Failure) : Prop :=
  ∃ g notes o asked, ({ rowCount := .int 1, batchSize := .int 1 } : Settings).configure .idle = (.ok g, notes) ∧
    ({ parallelism := .int 1 } : Benchmark).runIn (fun _ => .launch :: List.replicate 5 (.advance 0)) g
      (Sinks.answering (Sinks.vast size)) () clock clock = .ok o ∧
    asked = ({ parallelism := .int 1 } : Benchmark).contacts (fun _ => .launch :: List.replicate 5 (.advance 0)) g
      (Sinks.answering (Sinks.vast size)) () clock ∧
    o.streams.isOver ∧ (∀ a ∈ asked, a.isCall → a.failure? = none) ∧ o.result = .error f

theorem Benchmark.succumbs {size : Int} {clock : Clock} {f : Failure} (hf : ¬ f.isForeseen)
    (hfault : Stream.progress 0 (Sinks.vast size 0) 1 clock = .error f) : Succumbs size clock f := by
  obtain ⟨g, notes, hs, _, hpieces, hnext⟩ := Settings.exists_single_pieces .null (show 0 < (1 : Int) by decide)
    (by decide)
  obtain ⟨b, c, hread, _⟩ := hnext 0 (by decide)
  have hsplit := g.split_int (show 1 ≤ (1 : Int) by decide)
  obtain ⟨o, ho, hstreams, hresult⟩ := exists_runIn (b := { parallelism := .int 1 }) hsplit
    (fun _ => .launch :: List.replicate 5 (.advance 0)) (Sinks.answering (Sinks.vast size)) () clock clock
  rw [hpieces] at hstreams
  refine ⟨g, notes, o, _, hs, ho, rfl, ?_, ?_, ?_⟩
  · rw [hstreams]
    simp [List.replicate, Streams.start, Sinks.answering, hread, hfault, Streams.isOver]
  · rw [contacts_of_split hsplit, hpieces]
    simp [List.replicate, Streams.start, Sinks.answering, hread, hfault, Contact.isCall, Contact.failure?]
  · have hfailure : o.streams.failure? = some f := by
      rw [hstreams]
      simp [List.replicate, Streams.start, Sinks.answering, hread, hfault, Streams.failure?]
    rw [hresult, conclude, hfailure]
    exact if_neg hf

theorem progress_decides_without_failed_call :
    Benchmark.Succumbs (10 ^ 400) (fun n => .finite n) (.arithmetic .tooLarge) ∧
      Benchmark.Succumbs (10 ^ 5000) .still (.number .tooManyDigits) := by
  refine ⟨Benchmark.succumbs (by decide) ?_, Benchmark.succumbs (by decide) ?_⟩
  · have hrate : Stream.rate (Sinks.vast (10 ^ 400) 0) 1 (fun n => .finite n) = .error .tooLarge := by decide +kernel
    rw [Stream.progress, hrate]
    rfl
  · exact Stream.progress_still_of_vast (by decide) (by decide +kernel)

end LogMill
