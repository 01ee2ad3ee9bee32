import LogMill.Run.Ingest
import LogMill.Proofs.Run.Unnoticed
import LogMill.Proofs.Sink.Placement

namespace LogMill

open Outcome

theorem Streams.Kept.mem_drain {σ : Type} {children : List Generator} {past : List Contact} {s : Streams σ}
    (h : s.Kept children past) {b : Batch} (hb : b ∈ Contact.handed past) : ∃ c ∈ children, b ∈ c.drain.1 := by
  obtain ⟨t, ht, hb⟩ := List.mem_flatMap.mp (h.handed.mem_iff.mpr hb)
  obtain ⟨i, hi⟩ := List.mem_iff_getElem?.mp ht
  obtain ⟨c, hc, hw⟩ := h.walks i t hi
  refine ⟨c, List.mem_of_getElem? hc, ?_⟩
  rw [← hw.batches]
  exact List.mem_append_left _ hb

namespace Call

def isPut : Call → Bool
  | put _ _ _ _ => true
  | _ => false

def isRefused : Call → Bool
  | put _ _ _ (some _) => true
  | _ => false

end Call

/-- Which calls are made for what a stream of an upload asks. -/
inductive Contact.Sends (bucket : Value) (place : String) : Contact → List Call → Prop where
  | create (i : Nat) : Sends bucket place (.create i none) []
  | read (i : Nat) (f : Option Failure) : Sends bucket place (.read i f) []
  | write (i : Nat) (b : Batch) (outcome : Except Upload.Fault Int) (calls : List Call) :
    Upload.Answers bucket place b outcome calls → Sends bucket place (.write i b (outcome.mapError .upload)) calls
  | report (i : Nat) (f : Option Failure) : Sends bucket place (.report i f) []
  | close (i : Nat) : Sends bucket place (.close i none) []

namespace Contact

variable {bucket : Value} {place : String} {past : List Contact} {parts : List (List Call)}

theorem Sends.exists_put {a : Contact} {calls : List Call} (h : a.Sends bucket place calls) :
    ∀ c ∈ calls, ∃ start text refusal, c = .put bucket (Upload.partKey place start) text refusal := by
  cases h with
  | write i b outcome calls h =>
    intro c hc
    obtain ⟨start, text, refusal, -, hput⟩ := h.exists_put c hc
    exact ⟨start, text, refusal, hput⟩
  | _ => simp

def isRefusal : Contact → Bool
  | write _ _ (.error (.upload (.refused _ _))) => true
  | _ => false

theorem Sends.isRefusal_of_refused {a : Contact} {calls : List Call} (h : a.Sends bucket place calls)
    (hrefused : ∃ c ∈ calls, c.isRefused) : a.isRefusal := by
  obtain ⟨c, hc, hrefused⟩ := hrefused
  cases h with
  | write i b outcome calls h =>
    cases h with
    | granted start text _ =>
      obtain rfl := List.mem_singleton.mp hc
      simp [Call.isRefused] at hrefused
    | refused start text reason _ => rfl
    | _ => simp at hc
  | _ => simp at hc

theorem Sends.exists_refused {a : Contact} {calls : List Call} (h : a.Sends bucket place calls) (ha : a.isRefusal)
    (hwhole : ∀ b, a.batch? = some b → b.halves = none) : ∃ c ∈ calls, c.isRefused := by
  cases h with
  | write i b outcome calls h =>
    cases h with
    | unsent f _ _ hf =>
      have hne := hf (hwhole b rfl)
      cases f <;> simp_all [isRefusal, Except.mapError]
    | refused start text reason _ => exact ⟨_, List.mem_singleton_self _, rfl⟩
    | _ => simp [isRefusal, Except.mapError] at ha
  | _ => simp [isRefusal] at ha

theorem mem_handed_cons {a : Contact} {b : Batch} (h : b ∈ handed past) : b ∈ handed (a :: past) := by
  rw [← List.singleton_append, handed_append]
  exact List.mem_append_right _ h

theorem exists_put_of_sends (h : List.Forall₂ (Sends bucket place) past parts) :
    ∀ c ∈ parts.flatten, ∃ start text refusal, c = .put bucket (Upload.partKey place start) text refusal := by
  induction h with
  | nil => simp
  | cons ha _ ih =>
    rw [List.flatten_cons]
    exact List.forall_mem_append.mpr ⟨ha.exists_put, ih⟩

theorem exists_refused_iff (h : List.Forall₂ (Sends bucket place) past parts)
    (hwhole : ∀ b ∈ handed past, b.halves = none) :
    (∃ c ∈ parts.flatten, c.isRefused) ↔ ∃ a ∈ past, a.isRefusal := by
  induction h with
  | nil => simp
  | @cons a calls past parts ha _ ih =>
    have hrest := ih fun b hb => hwhole b (mem_handed_cons hb)
    have hone : (∃ c ∈ calls, c.isRefused) ↔ a.isRefusal := by
      refine ⟨ha.isRefusal_of_refused, fun hrefusal => ha.exists_refused hrefusal fun b hb => hwhole b ?_⟩
      simp [handed, hb]
    simp only [List.flatten_cons, List.mem_append, or_and_right, exists_or, List.mem_cons, exists_eq_left, hone, hrest]

theorem holds_of_sends (h : List.Forall₂ (Sends bucket place) past parts) (hcalm : ∀ a ∈ past, a.failure? = none)
    (hrows : ∀ b ∈ handed past, b.rows ≠ []) :
    List.Forall₂ (Upload.Holds bucket place) (handed past) parts.flatten := by
  induction h with
  | nil => exact .nil
  | @cons a calls past parts ha _ ih =>
    have hrest := ih (fun b hb => hcalm b (List.mem_cons_of_mem _ hb))
      fun b hb => hrows b (mem_handed_cons hb)
    have hnone := hcalm a (by simp)
    cases ha with
    | write i b outcome calls h =>
      cases h with
      | idle hidle => exact absurd hidle (hrows b (by simp [handed, batch?]))
      | granted start text hmakes => exact .cons (hmakes.holds bucket place) hrest
      | _ => simp [failure?, Except.mapError] at hnone
    | _ => exact hrest

theorem accepted_of_sends (h : List.Forall₂ (Sends bucket place) past parts) (hcalm : ∀ a ∈ past, a.failure? = none) :
    (past.map accepted).sum = (((handed past).map Batch.size).sum : Nat) := by
  induction h with
  | nil => rfl
  | @cons a calls past parts ha _ ih =>
    have hrest := ih fun b hb => hcalm b (List.mem_cons_of_mem _ hb)
    have hnone := hcalm a (by simp)
    cases ha with
    | write i b outcome calls h =>
      cases h with
      | idle hidle => simpa [accepted, handed, batch?, Except.mapError, Batch.size, hidle] using hrest
      | granted c hc => simpa [accepted, handed, batch?, Except.mapError] using hrest
      | _ => simp [failure?, Except.mapError] at hnone
    | _ => simpa [accepted, handed, List.filterMap_cons, batch?] using hrest

end Contact

namespace Stream

variable {σ : Type} {sinks : Sinks σ} {clock : Clock} {i : Nat} {t : Stream} {flag : Bool} {w : σ}

theorem failure?_step {f : Failure} (h : (t.step sinks clock i flag w).1.failure? = some f) :
    t.failure? = some f ∨ ∃ a ∈ t.contacts sinks clock i w, a.failure? = some f := by
  obtain ⟨g, phase, rows, handed, accepted, journal⟩ := t
  cases phase with
  | checking => cases flag <;> simp [failure?] at h
  | reading =>
    cases hn : g.next with
    | error e => simpa [hn, failure?, Contact.failure?] using h
    | ok x =>
      obtain ⟨b, g'⟩ := x
      cases b <;> simp [hn, failure?] at h
  | writing b =>
    cases hw : sinks.write i b w with
    | mk answer w' =>
      cases answer with
      | error e => simpa [hw, failure?, Contact.failure?] using h
      | ok n =>
        cases hr : progress i (rows + n) (accepted + 1) clock with
        | error e => simpa [hw, hr, failure?, Contact.failure?] using h
        | ok entry => simp [hw, hr, failure?] at h
  | failing e => exact .inl h
  | closing e =>
    cases hc : sinks.close i w with
    | mk answer w' => cases answer <;> simp_all [failure?, Contact.failure?]
  | done e => exact .inl h

end Stream

namespace Streams

variable {σ : Type} {past : List Contact} {s : Streams σ}

structure Blames (past : List Contact) (s : Streams σ) : Prop where
  refused : ∀ f, s.refused = some f → ∃ a ∈ past, a.failure? = some f
  launched : ∀ t ∈ s.launched, ∀ f, t.failure? = some f → ∃ a ∈ past, a.failure? = some f

theorem Blames.start (children : List Generator) (w : σ) : (start children w).Blames [] :=
  ⟨by simp [Streams.start], by simp [Streams.start]⟩

theorem Blames.later (h : s.Blames past) (asked : List Contact) : s.Blames (past ++ asked) := by
  have hold {f : Failure} (h : ∃ a ∈ past, a.failure? = some f) : ∃ a ∈ past ++ asked, a.failure? = some f := by
    obtain ⟨a, ha, hf⟩ := h
    exact ⟨a, List.mem_append_left _ ha, hf⟩
  exact ⟨fun f hf => hold (h.refused f hf), fun t ht f hf => hold (h.launched t ht f hf)⟩

theorem Blames.step {asked : List Contact} {s' : Streams σ} {sinks : Sinks σ} {clock : Clock} (h : s.Blames past)
    (hs : Steps sinks clock s asked s') : s'.Blames (past ++ asked) := by
  obtain ⟨hrefused, hlaunched⟩ := h.later asked
  cases hs with
  | idle => exact ⟨hrefused, hlaunched⟩
  | refused g gs f w hwaiting hcreate =>
    refine ⟨?_, hlaunched⟩
    intro f' hf'
    exact ⟨_, List.mem_append_right _ (List.mem_singleton_self _), hf'⟩
  | launched g gs w hwaiting hcreate =>
    refine ⟨hrefused, ?_⟩
    intro t ht f hf
    rcases List.mem_append.mp ht with ht | ht
    · exact hlaunched t ht f hf
    · simp [List.mem_singleton.mp ht, Stream.failure?] at hf
  | advanced i t ht =>
    refine ⟨hrefused, ?_⟩
    intro u hu f hf
    rcases List.mem_or_eq_of_mem_set hu with hu | rfl
    · exact hlaunched u hu f hf
    · rcases Stream.failure?_step hf with hf | ⟨a, ha, hf⟩
      · exact hlaunched t (List.mem_of_getElem? ht) f hf
      · exact ⟨a, List.mem_append_right _ ha, hf⟩

theorem Blames.failure? (h : s.Blames past) {f : Failure} (hf : s.failure? = some f) :
    ∃ a ∈ past, a.failure? = some f := by
  unfold Streams.failure? at hf
  cases hr : s.refused with
  | some f' =>
    rw [hr] at hf
    obtain rfl : f' = f := by simpa using hf
    exact h.refused f' hr
  | none =>
    rw [hr] at hf
    obtain ⟨t, ht, hraised⟩ := List.exists_of_findSome?_eq_some hf
    apply h.launched t ht f
    unfold Stream.raised? at hraised
    unfold Stream.failure?
    split at hraised <;> simp_all

end Streams

namespace Ingest

variable {client : Store.Client} {bucket : Value} {keyPrefix table place : String} {clock : Clock}

structure Uploads.Fits (bucket : Value) (place : String) (streams : Nat) (w : Uploads) : Prop where
  length : w.sinks.length = streams
  sinks : ∀ u ∈ w.sinks, u.bucket = bucket ∧ u.place = place

def Uploads.Sends (bucket : Value) (place : String) (asked : List Contact) (w w' : Uploads) : Prop :=
  ∃ parts, w'.calls = w.calls ++ parts.flatten ∧ List.Forall₂ (Contact.Sends bucket place) asked parts

theorem Uploads.Sends.refl (w : Uploads) : Uploads.Sends bucket place [] w w := ⟨[], by simp, .nil⟩

theorem Uploads.Sends.trans {asked later : List Contact} {w w' w'' : Uploads} (h : w.Sends bucket place asked w')
    (h' : w'.Sends bucket place later w'') : w.Sends bucket place (asked ++ later) w'' := by
  obtain ⟨parts, hcalls, hparts⟩ := h
  obtain ⟨parts', hcalls', hparts'⟩ := h'
  exact ⟨parts ++ parts', by simp [hcalls', hcalls], List.rel_append hparts hparts'⟩

theorem write_sends {streams i : Nat} {w : Uploads} (h : w.Fits bucket place streams) (hi : i < streams)
    (client : Store.Client) (keyPrefix table : String) (b : Batch) :
    ∃ outcome asked, ((sinks client bucket keyPrefix table).write i b w).1 = outcome.mapError .upload ∧
      Upload.Answers bucket place b outcome asked ∧
      ((sinks client bucket keyPrefix table).write i b w).2.calls = w.calls ++ asked ∧
      ((sinks client bucket keyPrefix table).write i b w).2.Fits bucket place streams := by
  have hlt : i < w.sinks.length := h.length ▸ hi
  obtain ⟨hbucket, hplace⟩ := h.sinks _ (List.getElem_mem hlt)
  obtain ⟨asked, hcalls, hanswers, hrecorded, -⟩ := w.sinks[i].write_answers b client w.calls
  rw [hbucket, hplace] at hanswers
  refine ⟨_, asked, ?_, hanswers, ?_, ?_⟩
  · simp only [sinks, List.getElem?_eq_getElem hlt]
  · simpa only [sinks, List.getElem?_eq_getElem hlt] using hcalls
  · simp only [sinks, List.getElem?_eq_getElem hlt]
    refine ⟨by simpa using h.length, ?_⟩
    intro u hu
    rcases List.mem_or_eq_of_mem_set hu with hu | rfl
    · exact h.sinks u hu
    · rw [hrecorded]
      exact ⟨hbucket, hplace⟩

theorem advance_sends {streams i : Nat} {w : Uploads} (h : w.Fits bucket place streams) (hi : i < streams)
    (client : Store.Client) (keyPrefix table : String) (clock : Clock) (t : Stream) (flag : Bool) :
    ∃ w', w' = (t.step (sinks client bucket keyPrefix table) clock i flag w).2.2 ∧ w'.Fits bucket place streams ∧
      w.Sends bucket place (t.contacts (sinks client bucket keyPrefix table) clock i w) w' := by
  obtain ⟨g, phase, rows, handed, accepted, journal⟩ := t
  cases phase with
  | reading =>
    refine ⟨w, ?_, h, [[]], by simp, .cons (.read _ _) .nil⟩
    simp only [Stream.step]
    split <;> rfl
  | writing b =>
    obtain ⟨outcome, asked, hanswer, hanswers, hcalls, hfits⟩ := write_sends h hi client keyPrefix table b
    cases hw : (sinks client bucket keyPrefix table).write i b w with
    | mk answer w' =>
      simp only [hw] at hanswer hcalls hfits
      refine ⟨w', ?_, hfits, ?_⟩
      · simp only [Stream.step, hw]
        cases answer with
        | error f => rfl
        | ok n => dsimp only; split <;> rfl
      · have hsends := Contact.Sends.write i b outcome asked hanswers
        rw [← hanswer] at hsends
        simp only [Stream.contacts, hw]
        cases answer with
        | error f => exact ⟨[asked], by simp [hcalls], .cons hsends .nil⟩
        | ok n => exact ⟨[asked, []], by simp [hcalls], .cons hsends (.cons (.report _ _) .nil)⟩
  | closing f =>
    have hlt : i < w.sinks.length := h.length ▸ hi
    refine ⟨{ w with journal := w.journal ++ [w.sinks[i].closing] }, ?_, ⟨h.length, h.sinks⟩, [[]], by simp, ?_⟩
    · simp only [Stream.step, sinks, List.getElem?_eq_getElem hlt]
    · simp only [Stream.contacts, sinks, List.getElem?_eq_getElem hlt]
      exact .cons (.close _) .nil
  | checking | failing f | done f => exact ⟨w, rfl, h, .refl w⟩

structure Sending (bucket : Value) (place : String) (first : Uploads) (past : List Contact) (s : Streams Uploads) :
    Prop where
  fits : s.world.Fits bucket place s.launched.length
  sends : first.Sends bucket place past s.world

variable {first : Uploads} {past : List Contact} {s : Streams Uploads}

theorem Sending.step {asked : List Contact} {s' : Streams Uploads}
    (h : Sending bucket (tablePrefix keyPrefix table) first past s)
    (hs : Streams.Steps (sinks client bucket keyPrefix table) clock s asked s') :
    Sending bucket (tablePrefix keyPrefix table) first (past ++ asked) s' := by
  obtain ⟨hfits, hsends⟩ := h
  cases hs with
  | idle => exact ⟨hfits, by simpa using hsends⟩
  | refused g gs f w hwaiting hcreate => simp [sinks] at hcreate
  | launched g gs w hwaiting hcreate =>
    obtain rfl := (Prod.ext_iff.mp hcreate).2
    refine ⟨⟨by simp [sinks, hfits.length], ?_⟩, ?_⟩
    · intro u hu
      rcases List.mem_append.mp hu with hu | hu
      · exact hfits.sinks u hu
      · rw [List.mem_singleton.mp hu]
        exact ⟨rfl, Upload.place_opened bucket keyPrefix table⟩
    · exact hsends.trans ⟨[[]], by simp [sinks], .cons (.create _) .nil⟩
  | advanced i t ht =>
    obtain ⟨w', hw', hfits', hsends'⟩ := advance_sends hfits (List.getElem?_eq_some_iff.mp ht).1 client keyPrefix
      table clock t s.flag
    rw [← hw']
    exact ⟨by simpa using hfits', hsends.trans hsends'⟩

theorem Sending.start (bucket : Value) (place : String) (children : List Generator) (calls : List Call) :
    Sending bucket place ⟨[], calls, []⟩ [] (Streams.start children ⟨[], calls, []⟩) :=
  ⟨⟨rfl, by simp [Streams.start]⟩, .refl _⟩

end Ingest

namespace Ingest

open Producer (numbers)

def streams (p : Plan) (client : Store.Client) (keyPrefix : String) (g : Generator)
    (order : List Generator → List Event) (clock : Clock) (calls : List Call) : Streams Uploads :=
  (Streams.start (g.pieces p.parallelism) ⟨[], calls, []⟩).run (sinks client p.bucket keyPrefix p.table.plain) clock
    (order (g.pieces p.parallelism))

def asked (p : Plan) (client : Store.Client) (keyPrefix : String) (g : Generator)
    (order : List Generator → List Event) (clock : Clock) (calls : List Call) : List Contact :=
  (Streams.start (g.pieces p.parallelism) ⟨[], calls, []⟩).contacts (sinks client p.bucket keyPrefix p.table.plain)
    clock (order (g.pieces p.parallelism))

/-- Whether objects hold the rows of a run, each row once. -/
def HoldsAll (g : Generator) (bucket : Value) (place : String) (puts : List Call) : Prop :=
  ∃ batches, List.Forall₂ (Upload.Holds bucket place) batches puts ∧
    (∀ b ∈ batches, b.rows ≠ [] ∧ b.MadeBy g.producer) ∧
    (batches.flatMap Batch.numbers).Perm (numbers 0 g.producer.rowCount)

variable {g : Generator} {bucket : Value} {place : String} {puts : List Call}

theorem HoldsAll.apart (h : HoldsAll g bucket place puts) : Upload.Apart place (Upload.keysOf puts) := by
  obtain ⟨batches, hputs, hmade, hnumbers⟩ := h
  apply Upload.apart_keysOf hputs
  · intro b hb
    obtain ⟨n, hn, hmem⟩ := (hmade b hb).2.exists_start (hmade b hb).1
    have hrange := hnumbers.mem_iff.mp (List.mem_flatMap.mpr ⟨b, hb, hmem⟩)
    exact ⟨n, hn, (Producer.mem_numbers.mp hrange).1, hmem⟩
  · exact hnumbers.nodup_iff.mpr (Producer.nodup_numbers _ _)

theorem exists_over (p : Plan) (client : Store.Client) (keyPrefix : String) (hg : g.Bounded)
    (order : List Generator → List Event) (clock : Clock) (calls : List Call) :
    ∃ more, (streams p client keyPrefix g (fun gs => order gs ++ more) clock calls).isOver := by
  have hstart : (Streams.start (g.pieces p.parallelism) (⟨[], calls, []⟩ : Uploads)).Sound :=
    ⟨fun c hc => hg.pieces hc, by simp [Streams.start]⟩
  obtain ⟨more, _, hmore⟩ := (hstart.run (sinks client p.bucket keyPrefix p.table.plain) clock
    (order (g.pieces p.parallelism))).exists_over (sinks client p.bucket keyPrefix p.table.plain) clock
  refine ⟨more, ?_⟩
  rwa [streams, Streams.run_append]

theorem streams_puts (p : Plan) (client : Store.Client) (keyPrefix : String) {base seed : Value}
    (hg : g.Ready Table.builtin base seed) (order : List Generator → List Event) (clock : Clock) (calls : List Call)
    {s : Streams Uploads} (hs : s = streams p client keyPrefix g order clock calls) {past : List Contact}
    (hpast : past = asked p client keyPrefix g order clock calls) :
    ∃ puts, s.world.calls = calls ++ puts ∧ (∀ c ∈ puts, c.isPut) ∧
      ((∃ c ∈ puts, c.isRefused) ↔ ∃ a ∈ past, a.isRefusal) ∧
      (∀ f, s.failure? = some f → ∃ a ∈ past, a.failure? = some f) ∧
      (s.isOver → (s.failure? = none ↔ ∀ a ∈ past, a.failure? = none) ∧
        (s.failure? = none →
          s.rows = g.remaining ∧ HoldsAll g p.bucket (tablePrefix keyPrefix p.table.plain) puts)) := by
  have hbounded : ∀ c ∈ g.pieces p.parallelism, c.Bounded := fun c hc => hg.bounded.pieces hc
  have hkept := Streams.run_keeps (sinks client p.bucket keyPrefix p.table.plain) clock (fun h hs => h.step hbounded hs)
    (Streams.Kept.start (g.pieces p.parallelism) ⟨[], calls, []⟩) (order (g.pieces p.parallelism))
  have hblames := Streams.run_keeps (sinks client p.bucket keyPrefix p.table.plain) clock (fun h hs => h.step hs)
    (Streams.Blames.start (g.pieces p.parallelism) ⟨[], calls, []⟩) (order (g.pieces p.parallelism))
  have hsending := Streams.run_keeps (sinks client p.bucket keyPrefix p.table.plain) clock (fun h hs => h.step hs)
    (Sending.start p.bucket (tablePrefix keyPrefix p.table.plain) (g.pieces p.parallelism) calls)
    (order (g.pieces p.parallelism))
  rw [List.nil_append, ← streams, ← asked, ← hs, ← hpast] at hkept hblames hsending
  obtain ⟨parts, hcalls, hparts⟩ := hsending.sends
  -- What is handed over was read of a piece, so that it has rows, and its text can be encoded.
  have hread : ∀ b ∈ Contact.handed past, b.rows ≠ [] ∧ b.halves = none := by
    intro b hb
    obtain ⟨c, hc, hb⟩ := hkept.mem_drain hb
    obtain ⟨hrows, hhalves⟩ := Generator.mem_drain hb
    rw [(Generator.mem_pieces hc).1, hg.halves_eq_none] at hhalves
    exact ⟨hrows, hhalves⟩
  have hputs : ∀ c ∈ parts.flatten, c.isPut := by
    intro c hc
    obtain ⟨_, _, _, rfl⟩ := Contact.exists_put_of_sends hparts c hc
    rfl
  refine ⟨parts.flatten, hcalls, hputs, Contact.exists_refused_iff hparts fun b hb => (hread b hb).2,
    fun f => hblames.failure?, ?_⟩
  intro hover
  have hiff := hkept.failure?_eq_none_iff hover
  refine ⟨hiff, ?_⟩
  intro hnone
  have hcalm := hiff.mp hnone
  obtain ⟨_, hcovers⟩ := hkept.covers hbounded hover hcalm
  have hmade : ∀ b ∈ Contact.handed past, b.rows ≠ [] ∧ b.MadeBy g.producer := by
    intro b hb
    obtain ⟨t, ht, hmem⟩ := List.mem_flatMap.mp (hkept.handed.mem_iff.mpr hb)
    obtain ⟨i, hi, rfl⟩ := List.mem_iff_getElem.mp ht
    have hi' : i < (g.pieces p.parallelism).length := by simpa [hcovers.length_eq] using hi
    have hcover := hcovers.get hi' (by simpa using hi)
    simp only [List.get_eq_getElem, List.getElem_map] at hcover
    rw [← (Generator.mem_pieces (List.getElem_mem hi')).1]
    exact ⟨(hread b hb).1, hcover.made b hmem⟩
  have hnumbers : ((Contact.handed past).flatMap Batch.numbers).Perm (numbers 0 g.producer.rowCount) := by
    obtain ⟨_, hcursor, hstop⟩ := hg.range
    rw [← hcursor, ← hstop, ← (g.tiles_pieces p.parallelism hg.bounded.cursor_le_stop).numbers_eq]
    exact hkept.numbers_perm hbounded hcovers
  refine ⟨?_, Contact.handed past, Contact.holds_of_sends hparts hcalm fun b hb => (hread b hb).1, hmade, hnumbers⟩
  -- The answers count the rows of the batches, and these are as many as the numbers that they cover.
  have hsizes : (Contact.handed past).map Batch.size = (Contact.handed past).map fun b => b.numbers.length :=
    List.map_congr_left fun b hb => mapM_length (hmade b hb).2
  have hlength := hnumbers.length_eq
  rw [List.length_flatMap, ← hsizes, Producer.length_numbers] at hlength
  have := hg.rowCount_pos
  rw [hkept.rows, Contact.accepted_of_sends hparts hcalm, hlength, hg.remaining_eq]
  omega

end Ingest

end LogMill
