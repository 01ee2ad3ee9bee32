import LogMill.Proofs.Run.Ingested

/-!
Stopping: the flag is raised by a stream whose reading or writing failed, and by nothing else. Once it is raised, a
stream finishes at most the batch for which it has looked at the flag before, and closes its sink.
-/

namespace LogMill

variable {σ : Type}

namespace Contact

def raises : Contact → Bool
  | read _ f | report _ f => f.isSome
  | write _ _ (.error _) => true
  | write _ _ (.ok _) | create _ _ | close _ _ => false

def isOwn : Contact → Bool
  | read _ _ | write _ _ _ | close _ _ => true
  | create _ _ | report _ _ => false

def callsOf (i : Nat) (asked : List Contact) : List Contact := asked.filter fun a => a.isOwn && a.place = i

def Closes (i : Nat) (asked : List Contact) : Prop := asked = [] ∨ ∃ f, asked = [.close i f]

@[simp] theorem callsOf_nil (i : Nat) : callsOf i [] = [] := rfl

theorem callsOf_append (i : Nat) (xs ys : List Contact) : callsOf i (xs ++ ys) = callsOf i xs ++ callsOf i ys := by
  simp [callsOf]

theorem callsOf_other {i j : Nat} {xs : List Contact} (h : ∀ a ∈ xs, a.place = i) (hj : j ≠ i) : callsOf j xs = [] := by
  rw [callsOf, List.filter_eq_nil_iff]
  intro a ha
  simp [h a ha, hj.symm]

theorem callsOf_create (i j : Nat) (f : Option Failure) : callsOf i [create j f] = [] := rfl

theorem callsOf_read (i : Nat) (f : Option Failure) : callsOf i [read i f] = [read i f] := by
  simp [callsOf, isOwn, place]

theorem callsOf_close (i : Nat) (f : Option Failure) : callsOf i [close i f] = [close i f] := by
  simp [callsOf, isOwn, place]

theorem callsOf_failed (i : Nat) (b : Batch) (f : Failure) :
    callsOf i [write i b (.error f)] = [write i b (.error f)] := by
  simp [callsOf, isOwn, place]

theorem callsOf_told (i : Nat) (b : Batch) (n : Int) (f : Option Failure) :
    callsOf i [write i b (.ok n), report i f] = [write i b (.ok n)] := by
  simp [callsOf, isOwn, place]

@[simp] theorem handed_nil : handed [] = [] := rfl

theorem handed_read (i : Nat) (f : Option Failure) (asked : List Contact) :
    handed (read i f :: asked) = handed asked := rfl

theorem handed_write (i : Nat) (b : Batch) (answer : Except Failure Int) (asked : List Contact) :
    handed (write i b answer :: asked) = b :: handed asked := rfl

theorem handedTo_eq (i : Nat) (asked : List Contact) : handedTo i asked = handed (callsOf i asked) := by
  induction asked with
  | nil => rfl
  | cons a asked ih =>
    have hone : handedTo i [a] = handed (callsOf i [a]) := by
      by_cases hi : a.place = i <;> cases a <;> simp_all [handedTo, callsOf, handed, batch?, isOwn, place]
    rw [← List.singleton_append, handedTo_append, callsOf_append, handed_append, hone, ih]

end Contact

namespace Stream

def isFailing (t : Stream) : Bool :=
  match t.phase with
  | .failing _ => true
  | _ => false

/-- What a stream may still call while the flag is raised. -/
def Winds (i : Nat) : Phase → List Contact → Prop
  | .checking, asked | .failing _, asked | .closing _, asked => Contact.Closes i asked
  | .reading, asked => asked = [] ∨ (∃ f late, asked = .read i f :: late ∧ Contact.Closes i late) ∨
      ∃ b answer late, asked = .read i none :: .write i b answer :: late ∧ Contact.Closes i late
  | .writing b, asked => asked = [] ∨ ∃ answer late, asked = .write i b answer :: late ∧ Contact.Closes i late
  | .done _, asked => asked = []

variable {t : Stream}

theorem winds_nil (i : Nat) (p : Phase) : Winds i p [] := by
  cases p <;> simp [Winds, Contact.Closes]

theorem step_flag (sinks : Sinks σ) (clock : Clock) (i : Nat) (t : Stream) (flag : Bool) (w : σ) :
    (t.step sinks clock i flag w).2.1 = (flag || t.isFailing) := by
  obtain ⟨g, phase, rows, handed, accepted, journal⟩ := t
  cases phase with
  | reading => simp only [step, isFailing]; split <;> simp
  | writing b =>
    simp only [step, isFailing]
    split
    · simp
    · split <;> simp
  | closing f => simp only [step, isFailing]; split <;> simp
  | checking | failing f | done f => simp [step, isFailing]

theorem isFailing_step (sinks : Sinks σ) (clock : Clock) (i : Nat) (t : Stream) (flag : Bool) (w : σ) :
    (t.step sinks clock i flag w).1.isFailing = (t.contacts sinks clock i w).any Contact.raises := by
  obtain ⟨g, phase, rows, handed, accepted, journal⟩ := t
  cases phase with
  | checking => cases flag <;> rfl
  | reading =>
    simp only [step, contacts]
    cases hn : g.next with
    | error f => rfl
    | ok x =>
      obtain ⟨b, g'⟩ := x
      cases b <;> rfl
  | writing b =>
    simp only [step, contacts]
    cases hw : sinks.write i b w with
    | mk answer w' =>
      cases answer with
      | error f => rfl
      | ok n => cases hp : progress i (rows + n) (accepted + 1) clock <;> simp [hp, isFailing, Contact.raises]
  | failing f => rfl
  | closing f =>
    simp only [step, contacts]
    cases hc : sinks.close i w with
    | mk answer w' => cases answer <;> rfl
  | done f => rfl

theorem isEnding_step (h : t.isEnding ∨ t.isFailing) (sinks : Sinks σ) (clock : Clock) (i : Nat) (flag : Bool) (w : σ) :
    (t.step sinks clock i flag w).1.isEnding := by
  obtain ⟨g, phase, rows, handed, accepted, journal⟩ := t
  cases phase with
  | failing f => rfl
  | closing f =>
    simp only [step]
    split <;> rfl
  | done f => rfl
  | checking | reading | writing b => simp [isEnding, isFailing] at h

theorem not_isFailing (h : t.isEnding) : t.isFailing = false := by
  obtain ⟨g, phase, rows, handed, accepted, journal⟩ := t
  cases phase <;> simp_all [isEnding, isFailing]

theorem winds_step (sinks : Sinks σ) (clock : Clock) (i : Nat) (t : Stream) (w : σ) {rest : List Contact}
    (h : Winds i (t.step sinks clock i true w).1.phase rest) :
    Winds i t.phase (Contact.callsOf i (t.contacts sinks clock i w) ++ rest) := by
  obtain ⟨g, phase, rows, handed, accepted, journal⟩ := t
  cases phase with
  | checking => exact h
  | reading =>
    simp only [step, contacts, Contact.callsOf_read] at h ⊢
    cases hn : g.next with
    | error f =>
      simp only [hn] at h
      exact .inr (.inl ⟨_, rest, rfl, h⟩)
    | ok x =>
      obtain ⟨b, g'⟩ := x
      cases b with
      | none =>
        simp only [hn] at h
        exact .inr (.inl ⟨_, rest, rfl, h⟩)
      | some b =>
        simp only [hn] at h
        rcases h with rfl | ⟨answer, late, rfl, hlate⟩
        · exact .inr (.inl ⟨_, [], rfl, .inl rfl⟩)
        · exact .inr (.inr ⟨b, answer, late, rfl, hlate⟩)
  | writing b =>
    simp only [step, contacts] at h ⊢
    cases hw : sinks.write i b w with
    | mk answer w' =>
      cases answer with
      | error f =>
        simp only [hw, Contact.callsOf_failed] at h ⊢
        exact .inr ⟨_, rest, rfl, h⟩
      | ok n =>
        have hlate : Contact.Closes i rest := by
          simp only [hw] at h
          split at h <;> exact h
        rw [Contact.callsOf_told]
        exact .inr ⟨_, rest, rfl, hlate⟩
  | failing f => exact h
  | closing f =>
    have hrest : rest = [] := by
      simp only [step] at h
      split at h <;> exact h
    subst hrest
    simp only [contacts, Contact.callsOf_close]
    exact .inr ⟨_, rfl⟩
  | done f => simpa [step, contacts] using h

theorem Winds.split {i : Nat} {p : Phase} {asked : List Contact} (h : Winds i p asked) :
    ∃ early late, asked = early ++ late ∧ Contact.Closes i late ∧ (early = [] ∨
      p = .reading ∧ ((∃ f, early = [.read i f]) ∨ ∃ b answer, early = [.read i none, .write i b answer]) ∨
      ∃ b answer, p = .writing b ∧ early = [.write i b answer]) := by
  cases p with
  | reading =>
    rcases h with rfl | ⟨f, late, rfl, hlate⟩ | ⟨b, answer, late, rfl, hlate⟩
    · exact ⟨[], [], rfl, .inl rfl, .inl rfl⟩
    · exact ⟨[.read i f], late, rfl, hlate, .inr (.inl ⟨rfl, .inl ⟨f, rfl⟩⟩)⟩
    · exact ⟨[.read i none, .write i b answer], late, rfl, hlate, .inr (.inl ⟨rfl, .inr ⟨b, answer, rfl⟩⟩)⟩
  | writing b =>
    rcases h with rfl | ⟨answer, late, rfl, hlate⟩
    · exact ⟨[], [], rfl, .inl rfl, .inl rfl⟩
    · exact ⟨[.write i b answer], late, rfl, hlate, .inr (.inr ⟨b, answer, rfl, rfl⟩)⟩
  | done f => exact ⟨[], [], h, .inl rfl, .inl rfl⟩
  | checking | failing f | closing f => exact ⟨[], asked, rfl, h, .inl rfl⟩

theorem Winds.length_handed {i : Nat} {p : Phase} {asked : List Contact} (h : Winds i p asked) :
    (Contact.handed asked).length ≤ 1 := by
  have hcloses {late : List Contact} (h : Contact.Closes i late) : Contact.handed late = [] := by
    rcases h with rfl | ⟨f, rfl⟩ <;> rfl
  cases p with
  | reading =>
    rcases h with rfl | ⟨f, late, rfl, hlate⟩ | ⟨b, answer, late, rfl, hlate⟩
    · simp
    · rw [Contact.handed_read, hcloses hlate]
      simp
    · rw [Contact.handed_read, Contact.handed_write, hcloses hlate]
      simp
  | writing b =>
    rcases h with rfl | ⟨answer, late, rfl, hlate⟩
    · simp
    · rw [Contact.handed_write, hcloses hlate]
      simp
  | done f =>
    obtain rfl : asked = [] := h
    simp
  | checking | failing f | closing f =>
    rw [hcloses h]
    simp

end Stream

namespace Streams

variable {past : List Contact} {s : Streams σ}

def phaseAt (s : Streams σ) (i : Nat) : Phase := (s.launched[i]?.map Stream.phase).getD .checking

theorem Steps.flag {asked : List Contact} {s' : Streams σ} {sinks : Sinks σ} {clock : Clock}
    (hs : Steps sinks clock s asked s') (h : s.flag = true) : s'.flag = true := by
  cases hs with
  | advanced i t ht => simp [Stream.step_flag, h]
  | _ => exact h

theorem winds_step (h : s.flag = true) (sinks : Sinks σ) (clock : Clock) (e : Event) (i : Nat) {rest : List Contact}
    (hrest : Stream.Winds i ((s.step sinks clock e).phaseAt i) rest) :
    Stream.Winds i (s.phaseAt i) (Contact.callsOf i (s.contactsOf sinks clock e) ++ rest) := by
  cases e with
  | launch =>
    obtain ⟨waiting, launched, flag, refused, w⟩ := s
    cases waiting with
    | nil => exact hrest
    | cons g gs =>
      simp only [contactsOf, Contact.callsOf_create, List.nil_append]
      simp only [step, launch] at hrest
      split at hrest
      · simp only [phaseAt] at hrest ⊢
        by_cases hi : i < launched.length
        · rwa [List.getElem?_append_left hi] at hrest
        · rw [List.getElem?_eq_none (Nat.not_lt.mp hi)]
          rw [List.getElem?_append_right (Nat.not_lt.mp hi), List.getElem?_singleton] at hrest
          split_ifs at hrest <;> exact hrest
      · exact hrest
  | advance j =>
    simp only [step, contactsOf] at hrest ⊢
    cases ht : s.launched[j]? with
    | none => simpa [ht] using hrest
    | some t =>
      have hlt : j < s.launched.length := (List.getElem?_eq_some_iff.mp ht).1
      simp only [ht, h, phaseAt] at hrest ⊢
      by_cases hi : j = i
      · subst hi
        rw [List.getElem?_set_self hlt] at hrest
        rw [ht]
        exact Stream.winds_step sinks clock j t s.world hrest
      · rw [List.getElem?_set_ne hi] at hrest
        rw [Contact.callsOf_other (t.step_advances sinks clock j true s.world).own (Ne.symm hi), List.nil_append]
        exact hrest

theorem winds_run (h : s.flag = true) (sinks : Sinks σ) (clock : Clock) (events : List Event) (i : Nat) :
    Stream.Winds i (s.phaseAt i) (Contact.callsOf i (s.contacts sinks clock events)) := by
  induction events generalizing s with
  | nil => exact Stream.winds_nil i _
  | cons e es ih =>
    rw [contacts, Contact.callsOf_append]
    exact winds_step h sinks clock e i (ih ((s.steps sinks clock e).flag h))

structure Alarmed (past : List Contact) (s : Streams σ) : Prop where
  cause : s.flag = true → ∃ a ∈ past, a.raises ∧ ∃ t, s.launched[a.place]? = some t ∧ t.isEnding
  failing : ∀ (i : Nat) (t : Stream), s.launched[i]? = some t → t.isFailing → ∃ a ∈ past, a.raises ∧ a.place = i
  effect : ∀ a ∈ past, a.raises → ∃ t, s.launched[a.place]? = some t ∧ (t.isFailing ∨ s.flag = true ∧ t.isEnding)

theorem Alarmed.start (children : List Generator) (w : σ) : (start children w).Alarmed [] where
  cause := by simp [Streams.start]
  failing := by simp [Streams.start]
  effect := by simp

theorem Alarmed.calm {asked : List Contact} {s' : Streams σ} (h : s.Alarmed past) (hflag : s'.flag = s.flag)
    (hasked : ∀ a ∈ asked, ¬ a.raises)
    (hkeeps : ∀ (i : Nat) (t : Stream), s.launched[i]? = some t → s'.launched[i]? = some t)
    (hnew : ∀ (i : Nat) (t : Stream), s'.launched[i]? = some t → t.isFailing → s.launched[i]? = some t) :
    s'.Alarmed (past ++ asked) where
  cause := by
    intro hraised
    obtain ⟨a, ha, hraises, t, ht, hend⟩ := h.cause (hflag ▸ hraised)
    exact ⟨a, List.mem_append_left _ ha, hraises, t, hkeeps _ t ht, hend⟩
  failing := by
    intro i t ht hfails
    obtain ⟨a, ha, hraises⟩ := h.failing i t (hnew i t ht hfails) hfails
    exact ⟨a, List.mem_append_left _ ha, hraises⟩
  effect := by
    intro a ha hraises
    rcases List.mem_append.mp ha with ha | ha
    · obtain ⟨t, ht, hstate⟩ := h.effect a ha hraises
      exact ⟨t, hkeeps _ t ht, hflag ▸ hstate⟩
    · exact absurd hraises (hasked a ha)

theorem Alarmed.step {asked : List Contact} {s' : Streams σ} {sinks : Sinks σ} {clock : Clock} (h : s.Alarmed past)
    (hs : Steps sinks clock s asked s') : s'.Alarmed (past ++ asked) := by
  cases hs with
  | idle => simpa using h
  | refused g gs f w hwaiting hcreate =>
    exact h.calm rfl (by simp [Contact.raises]) (fun _ _ ht => ht) fun _ _ ht _ => ht
  | launched g gs w hwaiting hcreate =>
    refine h.calm rfl (by simp [Contact.raises]) ?_ ?_
    · intro i t ht
      rw [List.getElem?_append_left (List.getElem?_eq_some_iff.mp ht).1, ht]
    · intro i t ht hfails
      rcases getElem?_launch ht with ht | ⟨-, rfl⟩
      · exact ht
      · simp [Stream.isFailing] at hfails
  | advanced i t ht =>
    have hlt : i < s.launched.length := (List.getElem?_eq_some_iff.mp ht).1
    have hown := (t.step_advances sinks clock i s.flag s.world).own
    have hnow := t.isFailing_step sinks clock i s.flag s.world
    have hending := @Stream.isEnding_step σ t
    -- Streams at their places after the step: the one that moved, and the others.
    have hplaces {j : Nat} {u : Stream} (hu : s.launched[j]? = some u) :
        ∃ u', (s.launched.set i (t.step sinks clock i s.flag s.world).1)[j]? = some u' ∧
          ((u.isEnding ∨ u.isFailing) → u' = u ∨ u'.isEnding) ∧ (j = i ∨ u' = u) := by
      by_cases hj : i = j
      · subst hj
        obtain rfl : t = u := by simpa [ht] using hu
        exact ⟨_, List.getElem?_set_self hlt, fun hu => .inr (hending hu sinks clock i s.flag s.world), .inl rfl⟩
      · exact ⟨u, by rw [List.getElem?_set_ne hj, hu], fun _ => .inl rfl, .inr rfl⟩
    refine ⟨?_, ?_, ?_⟩
    · intro hflag
      rw [Stream.step_flag, Bool.or_eq_true] at hflag
      rcases hflag with hflag | hfails
      · obtain ⟨a, ha, hraises, u, hu, hend⟩ := h.cause hflag
        obtain ⟨u', hu', hkeeps, _⟩ := hplaces hu
        refine ⟨a, List.mem_append_left _ ha, hraises, u', hu', ?_⟩
        rcases hkeeps (.inl hend) with rfl | hend'
        · exact hend
        · exact hend'
      · obtain ⟨a, ha, hraises, hplace⟩ := h.failing i t ht hfails
        refine ⟨a, List.mem_append_left _ ha, hraises, _, ?_, hending (.inr hfails) sinks clock i s.flag s.world⟩
        rw [hplace, List.getElem?_set_self hlt]
    · intro j u hu hfails
      rcases getElem?_advance ht hu with ⟨rfl, rfl⟩ | ⟨-, hu⟩
      · rw [hnow, List.any_eq_true] at hfails
        obtain ⟨a, ha, hraises⟩ := hfails
        exact ⟨a, List.mem_append_right _ ha, hraises, hown a ha⟩
      · obtain ⟨a, ha, hraises⟩ := h.failing j u hu hfails
        exact ⟨a, List.mem_append_left _ ha, hraises⟩
    · intro a ha hraises
      rw [Stream.step_flag]
      rcases List.mem_append.mp ha with ha | ha
      · obtain ⟨u, hu, hstate⟩ := h.effect a ha hraises
        obtain ⟨u', hu', hkeeps, hsame⟩ := hplaces hu
        refine ⟨u', hu', ?_⟩
        rcases hstate with hfails | ⟨hflag, hend⟩
        · rcases hkeeps (.inr hfails) with rfl | hend'
          · exact .inl hfails
          · rcases hsame with hi | rfl
            · obtain rfl : t = u := by simpa [hi, ht] using hu
              exact .inr ⟨by simp [hfails], hend'⟩
            · exact .inl hfails
        · refine .inr ⟨by simp [hflag], ?_⟩
          rcases hkeeps (.inl hend) with rfl | hend'
          · exact hend
          · exact hend'
      · refine ⟨_, by rw [hown a ha, List.getElem?_set_self hlt], .inl ?_⟩
        rw [hnow]
        exact List.any_eq_true.mpr ⟨a, ha, hraises⟩

theorem Alarmed.flag_iff (h : s.Alarmed past) :
    s.flag = true ↔ ∃ a ∈ past, a.raises ∧ ∃ t, s.launched[a.place]? = some t ∧ ¬ t.isFailing := by
  constructor
  · intro hflag
    obtain ⟨a, ha, hraises, t, ht, hend⟩ := h.cause hflag
    exact ⟨a, ha, hraises, t, ht, by simp [Stream.not_isFailing hend]⟩
  · rintro ⟨a, ha, hraises, t, ht, hfails⟩
    obtain ⟨u, hu, hstate⟩ := h.effect a ha hraises
    obtain rfl : t = u := by simpa [ht] using hu
    rcases hstate with hfails' | ⟨hflag, _⟩
    · exact absurd hfails' hfails
    · exact hflag

theorem exists_of_phaseAt {i : Nat} {p : Phase} (h : s.phaseAt i = p) (hp : p ≠ .checking) :
    ∃ t, s.launched[i]? = some t ∧ t.phase = p := by
  unfold phaseAt at h
  cases ht : s.launched[i]? with
  | none =>
    rw [ht] at h
    exact absurd h.symm hp
  | some t =>
    rw [ht] at h
    exact ⟨t, rfl, h⟩

end Streams

theorem Benchmark.contacts_of_split {b : Benchmark} {g : Generator} {gs : List Generator}
    (h : g.split b.parallelism = .ok gs) (order : List Generator → List Event) (sinks : Sinks σ) (w : σ)
    (clock : Clock) : b.contacts order g sinks w clock = (Streams.start gs w).contacts sinks clock (order gs) := by
  simp only [contacts, h]

def Sinks.fixed (create : Nat → Except Failure Unit) (write : Nat → Except Failure Int)
    (close : Nat → Option Failure) : Sinks Unit where
  create i w := (create i, w)
  write i _ w := (write i, w)
  close i w := (close i, w)

/-- The flag is raised exactly when a stream that failed to read, to write or to tell its progress has gone on. From then
on a stream makes and hands over no batch but the one for which it has looked at the flag before, and then calls nothing
but the end of its sink. -/
theorem raised_flag_winds_up (g : Generator) {b : Benchmark} {n : Int} (hb : b.parallelism = .int n) (hn : 1 ≤ n)
    (sinks : Sinks σ) (w : σ) (order : List Generator → List Event) (clock streamClock : Clock) (after : List Event) :
    ∃ o past, b.runIn order g sinks w clock streamClock = .ok o ∧ past = b.contacts order g sinks w streamClock ∧
      (o.streams.flag = true ↔
        ∃ a ∈ past, a.raises ∧ ∃ t, o.streams.launched[a.place]? = some t ∧ ¬ t.isFailing) ∧
      (o.streams.flag = true → ∀ i, ∃ early late,
        Contact.callsOf i (o.streams.contacts sinks streamClock after) = early ++ late ∧ Contact.Closes i late ∧
        (early = [] ∨ ∃ t, o.streams.launched[i]? = some t ∧
          (t.phase = .reading ∧
              ((∃ f, early = [.read i f]) ∨ ∃ batch answer, early = [.read i none, .write i batch answer]) ∨
            ∃ batch answer, t.phase = .writing batch ∧ early = [.write i batch answer]))) := by
  have hsplit : g.split b.parallelism = .ok (g.pieces n) := hb ▸ g.split_int hn
  obtain ⟨o, ho, hstreams, _⟩ := b.exists_runIn hsplit order sinks w clock streamClock
  have halarmed := Streams.run_keeps sinks streamClock (fun h hs => h.step hs)
    (Streams.Alarmed.start (g.pieces n) w) (order (g.pieces n))
  rw [List.nil_append, ← hstreams] at halarmed
  refine ⟨o, _, ho, (Benchmark.contacts_of_split hsplit order sinks w streamClock).symm, halarmed.flag_iff, ?_⟩
  intro hflag i
  obtain ⟨early, late, hcalls, hlate, hearly⟩ := (Streams.winds_run hflag sinks streamClock after i).split
  refine ⟨early, late, hcalls, hlate, ?_⟩
  rcases hearly with rfl | ⟨hphase, hreading⟩ | ⟨batch, answer, hphase, hwriting⟩
  · exact .inl rfl
  · obtain ⟨t, ht, hp⟩ := Streams.exists_of_phaseAt hphase (by simp)
    exact .inr ⟨t, ht, .inl ⟨hp, hreading⟩⟩
  · obtain ⟨t, ht, hp⟩ := Streams.exists_of_phaseAt hphase (by simp)
    exact .inr ⟨t, ht, .inr ⟨batch, answer, hp, hwriting⟩⟩

def Sinks.firstRefusing : Sinks Unit :=
  .fixed (fun _ => .ok ()) (fun i => if i = 0 then .error .endless else .ok 1) fun _ => none

def Event.overtaken : List Event :=
  [.launch, .launch, .advance 1, .advance 1, .advance 0, .advance 0, .advance 0, .advance 0]

theorem raised_flag_winds_up_overtaken : ∃ g notes o t batch,
    ({ rowCount := .int 2, batchSize := .int 1 } : Settings).configure .idle = (.ok g, notes) ∧
      ({ parallelism := .int 2 } : Benchmark).runIn (fun _ => Event.overtaken) g Sinks.firstRefusing ()
        (fun _ => .finite 0) (fun _ => .finite 0) = .ok o ∧
      o.streams.flag = true ∧ o.streams.launched[1]? = some t ∧ t.phase = .writing batch ∧
      ∃ early late, Contact.callsOf 1 (o.streams.contacts Sinks.firstRefusing (fun _ => .finite 0)
          (List.replicate 9 (.advance 1))) = early ++ late ∧
        Contact.Closes 1 late ∧ (early = [] ∨ ∃ batch answer, early = [.write 1 batch answer]) := by
  obtain ⟨g, notes, hs, _, hpieces, hnext⟩ := Settings.exists_single_pieces .null (show 0 < (2 : Int) by decide) (by decide)
  obtain ⟨x, c, hread, _⟩ := hnext 0 (by decide)
  obtain ⟨y, c', hread', _⟩ := hnext 1 (by decide)
  obtain ⟨o, past, ho, _, _, hwinds⟩ := raised_flag_winds_up g (b := { parallelism := .int 2 }) rfl (by decide)
    Sinks.firstRefusing () (fun _ => Event.overtaken) (fun _ => .finite 0) (fun _ => .finite 0)
    (List.replicate 9 (.advance 1))
  obtain ⟨o', ho', hstreams, _⟩ := Benchmark.exists_runIn (b := { parallelism := .int 2 })
    (g.split_int (show 1 ≤ (2 : Int) by decide)) (fun _ => Event.overtaken) Sinks.firstRefusing () (fun _ => .finite 0)
    (fun _ => .finite 0)
  obtain rfl : o = o' := Except.ok.inj (ho.symm.trans ho')
  obtain ⟨hflag, t, ht, hphase⟩ : o.streams.flag = true ∧
      ∃ t, o.streams.launched[1]? = some t ∧ t.phase = .writing y := by
    rw [hstreams, hpieces]
    simp [Event.overtaken, Streams.start, Sinks.firstRefusing, Sinks.fixed, hread, hread', List.range_succ]
  refine ⟨g, notes, o, t, y, hs, ho, hflag, ht, hphase, ?_⟩
  obtain ⟨early, late, hcalls, hlate, hearly⟩ := hwinds hflag 1
  refine ⟨early, late, hcalls, hlate, ?_⟩
  rcases hearly with rfl | ⟨u, hu, ⟨hreading, _⟩ | ⟨batch, answer, _, rfl⟩⟩
  · exact .inl rfl
  · obtain rfl : t = u := by simpa [ht] using hu
    simp [hphase] at hreading
  · exact .inr ⟨batch, answer, rfl⟩

end LogMill
