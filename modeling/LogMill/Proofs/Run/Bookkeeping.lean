import LogMill.Proofs.Run.Contacts

/-!
Bookkeeping: what streams have handed over, and what they count, agrees with what was asked of the sinks, in every
order of events.
-/

namespace LogMill

variable {σ : Type}

namespace Stream

def pending (t : Stream) : List Batch :=
  match t.phase with
  | .writing b => [b]
  | _ => []

structure Walks (c : Generator) (t : Stream) : Prop where
  akin : c.Akin t.generator
  batches : t.handed ++ (t.pending ++ t.generator.drain.1) = c.drain.1
  course : t.generator.drain.2.1 = c.drain.2.1

variable {c : Generator} {t : Stream}

theorem Walks.launched (h : c.Bounded) : (launched c).Walks c := ⟨⟨h, rfl, rfl⟩, rfl, rfl⟩

theorem Walks.step (h : t.Walks c) (sinks : Sinks σ) (clock : Clock) (i : Nat) (flag : Bool) (w : σ) :
    (t.step sinks clock i flag w).1.Walks c := by
  obtain ⟨g, phase, rows, handed, accepted, journal⟩ := t
  obtain ⟨hakin, hbatches, hcourse⟩ := h
  cases phase with
  | checking => cases flag <;> exact ⟨hakin, hbatches, hcourse⟩
  | reading =>
    simp only [pending, List.nil_append] at hakin hbatches hcourse
    simp only [Stream.step]
    cases hn : g.next with
    | error f => exact ⟨hakin, hbatches, hcourse⟩
    | ok x =>
      obtain ⟨b, g'⟩ := x
      cases b with
      | none =>
        obtain ⟨hs, rfl⟩ := Generator.next_eq_none hn
        exact ⟨hakin, hbatches, hcourse⟩
      | some b =>
        have hr := hakin.bounded.reads hn
        rw [Generator.drain_of_some hn (hr.rows_ne_nil hakin.bounded)] at hbatches hcourse
        exact ⟨hakin.next hn, hbatches, hcourse⟩
  | writing b =>
    have hmoved : (handed ++ [b]) ++ ([] ++ g.drain.1) = c.drain.1 := by simpa [pending] using hbatches
    simp only [Stream.step]
    split
    · exact ⟨hakin, hmoved, hcourse⟩
    · split <;> exact ⟨hakin, hmoved, hcourse⟩
  | failing f => exact ⟨hakin, hbatches, hcourse⟩
  | closing f =>
    simp only [Stream.step]
    split <;> exact ⟨hakin, hbatches, hcourse⟩
  | done f => exact ⟨hakin, hbatches, hcourse⟩

theorem Walks.covers (h : t.Walks c) (hc : c.Bounded) (hend : t.isEnding) (hs : t.generator.stop ≤ t.generator.cursor) :
    c.Covers t.handed := by
  have hdrain := Generator.drain_of_none (Generator.next_of_exhausted hs)
  have hp : t.pending = [] := by
    unfold isEnding at hend
    unfold pending
    split at hend <;> simp_all
  have hb := h.batches
  have hcourse := h.course
  rw [hdrain] at hb hcourse
  rw [hp, List.append_nil, List.append_nil] at hb
  rw [hb]
  exact hc.covers_drain hcourse.symm

end Stream

namespace Streams

variable {children : List Generator} {past asked : List Contact} {s s' : Streams σ} {sinks : Sinks σ} {clock : Clock}

theorem rows_eq_sum (s : Streams σ) : s.rows = (s.launched.map Stream.rows).sum := by
  simp [rows, List.sum_eq_foldr, List.foldr_map]

theorem batches_eq_sum (s : Streams σ) : s.batches = (s.launched.map Stream.accepted).sum := by
  simp [batches, List.sum_eq_foldr, List.foldr_map]

/-- What streams over some generators have done, and count, after some contacts. -/
structure Kept (children : List Generator) (past : List Contact) (s : Streams σ) : Prop where
  stopped : s.refused ≠ none → s.waiting = []
  queue : s.refused = none → s.waiting = children.drop s.launched.length
  walks : ∀ (i : Nat) (t : Stream), s.launched[i]? = some t → ∃ c, children[i]? = some c ∧ t.Walks c
  handedTo : ∀ i, Contact.handedTo i past = (s.launched[i]?.map Stream.handed).getD []
  handed : (s.launched.flatMap Stream.handed).Perm (Contact.handed past)
  rows : s.rows = (past.map Contact.accepted).sum
  batches : s.batches = past.countP Contact.isAccepted
  failure : (s.refused.isSome ∨ ∃ t ∈ s.launched, t.failure?.isSome) ↔ ∃ a ∈ past, a.failure?.isSome
  raised : s.flag = true → ∃ t ∈ s.launched, t.failure?.isSome
  ended : ∀ t ∈ s.launched, t.isEnding → t.failure? = none →
    s.flag = true ∨ t.generator.stop ≤ t.generator.cursor
  reads : ∃ (order : List Nat) (rest : List Generator),
    Roster.run children (order.map .next) = s.launched.map Stream.generator ++ rest ∧
      (s.refused = none → rest = s.waiting)

theorem getElem?_launch {ts : List Stream} {i : Nat} {t u : Stream} (h : (ts ++ [u])[i]? = some t) :
    ts[i]? = some t ∨ i = ts.length ∧ t = u := by
  by_cases hi : i < ts.length
  · rw [List.getElem?_append_left hi] at h
    exact .inl h
  · rw [List.getElem?_append_right (Nat.not_lt.mp hi), List.getElem?_singleton] at h
    split_ifs at h with hzero
    exact .inr ⟨by omega, (Option.some.inj h).symm⟩

theorem getElem?_advance {ts : List Stream} {i j : Nat} {t t' u : Stream} (ht : ts[i]? = some t)
    (h : (ts.set i t')[j]? = some u) : i = j ∧ u = t' ∨ i ≠ j ∧ ts[j]? = some u := by
  by_cases hj : i = j
  · subst hj
    rw [List.getElem?_set_self (List.getElem?_eq_some_iff.mp ht).1] at h
    exact .inl ⟨rfl, (Option.some.inj h).symm⟩
  · rw [List.getElem?_set_ne hj] at h
    exact .inr ⟨hj, h⟩

theorem exists_parts {ts : List Stream} {i : Nat} {t : Stream} (ht : ts[i]? = some t) (t' : Stream) :
    ∃ pre post, ts = pre ++ t :: post ∧ ts.set i t' = pre ++ t' :: post := by
  obtain ⟨hlt, rfl⟩ := List.getElem?_eq_some_iff.mp ht
  obtain ⟨pre, post, hbefore, _, hafter⟩ := @List.exists_of_set _ _ t' _ hlt
  exact ⟨pre, post, hbefore, hafter⟩

namespace Kept

theorem start (children : List Generator) (w : σ) : (Streams.start children w).Kept children [] where
  stopped := by simp [Streams.start]
  queue := by simp [Streams.start]
  walks := by simp [Streams.start]
  handedTo := by simp [Streams.start, Contact.handedTo, Contact.handed]
  handed := by simp [Streams.start, Contact.handed]
  rows := by simp [rows_eq_sum, Streams.start]
  batches := by simp [batches_eq_sum, Streams.start]
  failure := by simp [Streams.start]
  raised := by simp [Streams.start]
  ended := by simp [Streams.start]
  reads := ⟨[], children, rfl, fun _ => rfl⟩

theorem refused_of_waiting (h : s.Kept children past) {g : Generator} {gs : List Generator}
    (hwaiting : s.waiting = g :: gs) : s.refused = none := by
  by_contra hr
  simp [h.stopped hr] at hwaiting

theorem stopped_step (h : s.Kept children past) (hs : Steps sinks clock s asked s') :
    s'.refused ≠ none → s'.waiting = [] := by
  cases hs with
  | refused g gs f w hwaiting hcreate => exact fun _ => rfl
  | launched g gs w hwaiting hcreate => exact fun hr => absurd (h.refused_of_waiting hwaiting) hr
  | idle | advanced i t ht => exact h.stopped

theorem queue_step (h : s.Kept children past) (hs : Steps sinks clock s asked s') :
    s'.refused = none → s'.waiting = children.drop s'.launched.length := by
  cases hs with
  | idle => exact h.queue
  | refused g gs f w hwaiting hcreate => simp
  | launched g gs w hwaiting hcreate =>
    intro hr
    rw [List.length_append, List.length_singleton, ← List.tail_drop, ← h.queue hr, hwaiting]
    rfl
  | advanced i t ht => simpa using h.queue

theorem walks_step (h : s.Kept children past) (hb : ∀ c ∈ children, c.Bounded) (hs : Steps sinks clock s asked s') :
    ∀ (i : Nat) (t : Stream), s'.launched[i]? = some t → ∃ c, children[i]? = some c ∧ t.Walks c := by
  cases hs with
  | idle | refused g gs f w hwaiting hcreate => exact h.walks
  | launched g gs w hwaiting hcreate =>
    intro i t ht
    rcases getElem?_launch ht with ht | ⟨rfl, rfl⟩
    · exact h.walks i t ht
    · have hg : children[s.launched.length]? = some g := by
        rw [← List.head?_drop, ← h.queue (h.refused_of_waiting hwaiting), hwaiting]
        rfl
      exact ⟨g, hg, .launched (hb g (List.mem_of_getElem? hg))⟩
  | advanced i t ht =>
    intro j u hu
    rcases getElem?_advance ht hu with ⟨rfl, rfl⟩ | ⟨-, hu⟩
    · obtain ⟨c, hc, hwalks⟩ := h.walks i t ht
      exact ⟨c, hc, hwalks.step sinks clock i s.flag s.world⟩
    · exact h.walks j u hu

theorem handedTo_step (h : s.Kept children past) (hs : Steps sinks clock s asked s') (j : Nat) :
    Contact.handedTo j (past ++ asked) = (s'.launched[j]?.map Stream.handed).getD [] := by
  rw [Contact.handedTo_append, h.handedTo]
  cases hs with
  | idle => simp [Contact.handedTo, Contact.handed]
  | refused g gs f w hwaiting hcreate => simp
  | launched g gs w hwaiting hcreate =>
    by_cases hj : j < s.launched.length
    · simp [List.getElem?_append_left hj]
    · rw [List.getElem?_append_right (Nat.not_lt.mp hj), List.getElem?_singleton,
        List.getElem?_eq_none (Nat.not_lt.mp hj)]
      split_ifs <;> simp [Stream.launched]
  | advanced i t ht =>
    have hadv := t.step_advances sinks clock i s.flag s.world
    by_cases hj : i = j
    · subst hj
      rw [Contact.handedTo_own hadv.own, List.getElem?_set_self (List.getElem?_eq_some_iff.mp ht).1, ht]
      exact hadv.handed.symm
    · rw [Contact.handedTo_other hadv.own (Ne.symm hj), List.append_nil, List.getElem?_set_ne hj]

theorem handed_step (h : s.Kept children past) (hs : Steps sinks clock s asked s') :
    (s'.launched.flatMap Stream.handed).Perm (Contact.handed (past ++ asked)) := by
  have hp := h.handed
  rw [Contact.handed_append]
  cases hs with
  | idle => simpa [Contact.handed] using hp
  | refused g gs f w hwaiting hcreate => simpa using hp
  | launched g gs w hwaiting hcreate => simpa [Stream.launched] using hp
  | advanced i t ht =>
    have hadv := t.step_advances sinks clock i s.flag s.world
    obtain ⟨pre, post, hbefore, hafter⟩ := exists_parts ht (t.step sinks clock i s.flag s.world).1
    generalize t.contacts sinks clock i s.world = asked at hadv ⊢
    rw [hbefore] at hp
    simp only [hafter, List.flatMap_append, List.flatMap_cons, hadv.handed, List.append_assoc] at hp ⊢
    have hmoved : (Contact.handed asked ++ post.flatMap Stream.handed).Perm
        (post.flatMap Stream.handed ++ Contact.handed asked) := List.perm_append_comm
    have hshifted := (hmoved.append_left t.handed).append_left (pre.flatMap Stream.handed)
    refine hshifted.trans ?_
    simpa only [List.append_assoc] using hp.append_right (Contact.handed asked)

theorem rows_step (h : s.Kept children past) (hs : Steps sinks clock s asked s') :
    s'.rows = ((past ++ asked).map Contact.accepted).sum := by
  have hrows := h.rows
  rw [rows_eq_sum] at hrows ⊢
  cases hs with
  | idle => simpa using hrows
  | refused g gs f w hwaiting hcreate => simpa [Contact.accepted] using hrows
  | launched g gs w hwaiting hcreate => simpa [Contact.accepted, Stream.launched] using hrows
  | advanced i t ht =>
    have hadv := t.step_advances sinks clock i s.flag s.world
    obtain ⟨pre, post, hbefore, hafter⟩ := exists_parts ht (t.step sinks clock i s.flag s.world).1
    rw [hbefore] at hrows
    simp only [hafter, List.map_append, List.map_cons, List.sum_append, List.sum_cons, hadv.rows] at hrows ⊢
    omega

theorem batches_step (h : s.Kept children past) (hs : Steps sinks clock s asked s') :
    s'.batches = (past ++ asked).countP Contact.isAccepted := by
  have hbatches := h.batches
  rw [batches_eq_sum] at hbatches ⊢
  cases hs with
  | idle => simpa using hbatches
  | refused g gs f w hwaiting hcreate => simpa [Contact.isAccepted] using hbatches
  | launched g gs w hwaiting hcreate => simpa [Contact.isAccepted, Stream.launched] using hbatches
  | advanced i t ht =>
    have hadv := t.step_advances sinks clock i s.flag s.world
    obtain ⟨pre, post, hbefore, hafter⟩ := exists_parts ht (t.step sinks clock i s.flag s.world).1
    rw [hbefore] at hbatches
    simp only [hafter, List.map_append, List.map_cons, List.sum_append, List.sum_cons, List.countP_append,
      hadv.accepted] at hbatches ⊢
    omega

theorem failure_step (h : s.Kept children past) (hs : Steps sinks clock s asked s') :
    (s'.refused.isSome ∨ ∃ t ∈ s'.launched, t.failure?.isSome) ↔ ∃ a ∈ past ++ asked, a.failure?.isSome := by
  have hfailure := h.failure
  cases hs with
  | idle => simpa using hfailure
  | refused g gs f w hwaiting hcreate =>
    exact iff_of_true (.inl rfl) ⟨_, List.mem_append_right _ (List.mem_singleton_self _), rfl⟩
  | launched g gs w hwaiting hcreate =>
    simpa [Contact.failure?, Stream.launched, Stream.failure?] using hfailure
  | advanced i t ht =>
    have hadv := t.step_advances sinks clock i s.flag s.world
    obtain ⟨pre, post, hbefore, hafter⟩ := exists_parts ht (t.step sinks clock i s.flag s.world).1
    rw [hbefore] at hfailure
    simp only [hafter, List.mem_append, List.mem_cons, or_and_right, exists_or, exists_eq_left,
      hadv.failure] at hfailure ⊢
    rw [← hfailure]
    simp only [or_assoc, or_comm, or_left_comm]

theorem raised_step (h : s.Kept children past) (hs : Steps sinks clock s asked s') :
    s'.flag = true → ∃ t ∈ s'.launched, t.failure?.isSome := by
  cases hs with
  | idle | refused g gs f w hwaiting hcreate => exact h.raised
  | launched g gs w hwaiting hcreate =>
    intro hflag
    obtain ⟨t, ht, hfailed⟩ := h.raised hflag
    exact ⟨t, List.mem_append_left _ ht, hfailed⟩
  | advanced i t ht =>
    have hadv := t.step_advances sinks clock i s.flag s.world
    obtain ⟨pre, post, hbefore, hafter⟩ := exists_parts ht (t.step sinks clock i s.flag s.world).1
    intro hflag
    by_cases hnone : t.failure? = none
    · obtain ⟨u, hu, hfailed⟩ := h.raised (hadv.raised hnone ▸ hflag)
      have hne : u ≠ t := by
        rintro rfl
        simp [hnone] at hfailed
      have hrest : u ∈ pre ∨ u ∈ post := by simpa [hbefore, hne] using hu
      refine ⟨u, ?_, hfailed⟩
      rw [hafter, List.mem_append, List.mem_cons]
      tauto
    · refine ⟨_, List.mem_set (List.getElem?_eq_some_iff.mp ht).1 _, ?_⟩
      exact hadv.failure.mpr (.inl (Option.isSome_iff_ne_none.mpr hnone))

theorem ended_step (h : s.Kept children past) (hs : Steps sinks clock s asked s') :
    ∀ t ∈ s'.launched, t.isEnding → t.failure? = none →
      s'.flag = true ∨ t.generator.stop ≤ t.generator.cursor := by
  cases hs with
  | idle | refused g gs f w hwaiting hcreate => exact h.ended
  | launched g gs w hwaiting hcreate =>
    intro t ht
    rcases List.mem_append.mp ht with ht | ht
    · exact h.ended t ht
    · simp [List.mem_singleton.mp ht, Stream.launched, Stream.isEnding]
  | advanced i t ht =>
    have hadv := t.step_advances sinks clock i s.flag s.world
    intro u hu hend hnone
    rcases List.mem_or_eq_of_mem_set hu with hu | rfl
    · exact (h.ended u hu hend hnone).imp_left hadv.stays
    · have hcalm : t.failure? = none := by
        by_contra hsome
        have := hadv.failure.mpr (.inl (Option.isSome_iff_ne_none.mpr hsome))
        simp [hnone] at this
      rcases hadv.ending hend hnone with ⟨hended, hsame⟩ | hflag | hs
      · rw [hsame]
        exact (h.ended t (List.mem_of_getElem? ht) hended hcalm).imp_left hadv.stays
      · exact .inl (hadv.stays hflag)
      · exact .inr hs

theorem reads_step (h : s.Kept children past) (hs : Steps sinks clock s asked s') :
    ∃ (order : List Nat) (rest : List Generator),
      Roster.run children (order.map .next) = s'.launched.map Stream.generator ++ rest ∧
        (s'.refused = none → rest = s'.waiting) := by
  obtain ⟨order, rest, hreads, hrest⟩ := h.reads
  cases hs with
  | idle => exact ⟨order, rest, hreads, hrest⟩
  | refused g gs f w hwaiting hcreate => exact ⟨order, rest, hreads, by simp⟩
  | launched g gs w hwaiting hcreate =>
    have hqueue := hrest (h.refused_of_waiting hwaiting)
    exact ⟨order, gs, by simp [hreads, hqueue, hwaiting, Stream.launched], fun _ => rfl⟩
  | advanced i t ht =>
    have hlt := (List.getElem?_eq_some_iff.mp ht).1
    rcases (t.step_advances sinks clock i s.flag s.world).generator with hsame | ⟨b, hnext⟩
    · refine ⟨order, rest, ?_, hrest⟩
      obtain ⟨pre, post, hbefore, hafter⟩ := exists_parts ht (t.step sinks clock i s.flag s.world).1
      rw [hafter, hreads, hbefore]
      simp only [List.map_append, List.map_cons, hsame]
    · refine ⟨order ++ [i], rest, ?_, hrest⟩
      have hplace : (s.launched.map Stream.generator ++ rest)[i]? = some t.generator := by
        rw [List.getElem?_append_left (by simpa using hlt), List.getElem?_map, ht]
        rfl
      rw [List.map_append, Roster.run_append, hreads]
      change Roster.step _ (.next i) = _
      rw [Roster.step_next_of_ok hplace hnext, List.set_append_left _ _ (by simpa using hlt), ← List.map_set]

theorem step (h : s.Kept children past) (hb : ∀ c ∈ children, c.Bounded) (hs : Steps sinks clock s asked s') :
    s'.Kept children (past ++ asked) where
  stopped := h.stopped_step hs
  queue := h.queue_step hs
  walks := h.walks_step hb hs
  handedTo := h.handedTo_step hs
  handed := h.handed_step hs
  rows := h.rows_step hs
  batches := h.batches_step hs
  failure := h.failure_step hs
  raised := h.raised_step hs
  ended := h.ended_step hs
  reads := h.reads_step hs

end Kept

end Streams

end LogMill
