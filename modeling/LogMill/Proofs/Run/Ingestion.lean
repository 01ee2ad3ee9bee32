import LogMill.Proofs.Report.Summary
import LogMill.Proofs.Run.Delivery
import LogMill.Proofs.Run.Planned

/-!
Ingestion: which calls it makes and in which order, and when it succeeds, whatever the store and the warehouse answer
and in every order of the streams.
-/

namespace LogMill

namespace Ingest

open Warehouse (finished?)

variable {p : Plan} {w : World} {g : Generator} {client : Store.Client}

def place (p : Plan) (text : String) : String := tablePrefix text p.table.plain

/-- That nothing fails but what the store and the warehouse refuse. -/
structure Untroubled (p : Plan) (w : World) (past : List Contact) (runs : List (List Call)) : Prop where
  streams : ∀ a ∈ past, a.failure?.isSome → a.isRefusal
  upload : Benchmark.IsTimed p.rowCount (w.clock.after 2)
  load : Benchmark.IsTimed p.rowCount (w.clock.after 4)
  reports : ∀ asked ∈ runs, ∀ v, finished? asked = some v → (reported v).isWritable

/-- How an ingestion goes on from a place that is clear, when its streams have come to their ends. -/
structure Transferred (p : Plan) (w : World) (g : Generator) (text : String) (past : List Contact) (puts : List Call)
    (runs : List (List Call)) (outcome : Except Failure Result) : Prop where
  refused : (∃ c ∈ puts, c.isRefused) → runs = []
  complete : (∃ r, outcome = .ok r) → HoldsAll g p.bucket (place p text) puts ∧
    Upload.Apart (place p text) (Upload.keysOf puts) ∧ Loaded runs p.rowCount
  kind : Untroubled p w past runs → ∀ f, outcome = .error f → f.kind = .delivery
  begun : Untroubled p w past runs → (∀ c ∈ puts, ¬ c.isRefused) → runs ≠ []
  succeeds : Untroubled p w past runs → (∀ c ∈ puts, ¬ c.isRefused) → Loaded runs p.rowCount → ∃ r, outcome = .ok r

theorem Transferred.of_unsubmitted {text : String} {past : List Contact} {puts : List Call} {f : Failure}
    (hkind : Untroubled p w past [] → f.kind = .delivery)
    (hrefused : Untroubled p w past [] → ∃ c ∈ puts, c.isRefused) : Transferred p w g text past puts [] (.error f) where
  refused _ := rfl
  complete := by simp
  kind h := by
    rintro _ ⟨⟩
    exact hkind h
  begun h hall := by
    obtain ⟨c, hc, hrefused⟩ := hrefused h
    exact absurd hrefused (hall c hc)
  succeeds _ _ hloaded := by
    obtain ⟨hlength, _⟩ := hloaded
    simp at hlength

section

variable {puts : List Call} {bucket : Value} {place : String} {base : Int} {seed : Value}

theorem HoldsAll.not_refused (h : HoldsAll g bucket place puts) : ∀ c ∈ puts, ¬ c.isRefused := by
  obtain ⟨batches, hputs, _⟩ := h
  intro c hc
  obtain ⟨i, hi, rfl⟩ := List.mem_iff_getElem.mp hc
  obtain ⟨_, _, _, _, hcall⟩ := hputs.get (hputs.length_eq ▸ hi) hi
  rw [List.get_eq_getElem] at hcall
  simp [hcall, Call.isRefused]

theorem HoldsAll.exists_row (h : HoldsAll g bucket place puts) (hg : g.Ready Table.builtin (.int base) seed) {n : Int}
    (hlow : 0 ≤ n) (hhigh : n < g.producer.rowCount) :
    ∃ cells, g.producer.row n = .ok cells ∧ List.Forall₂ (fun c v => c.type.Takes v) Schema.columns cells := by
  obtain ⟨batches, hputs, hmade, hnumbers⟩ := h
  obtain ⟨b, hb, hn⟩ := List.mem_flatMap.mp (hnumbers.mem_iff.mpr (Producer.mem_numbers.mpr ⟨hlow, hhigh⟩))
  obtain ⟨hne, hrows⟩ := hmade b hb
  obtain ⟨i, hi, rfl⟩ := List.mem_iff_getElem.mp hb
  obtain ⟨_, text, _, hbody, _⟩ := hputs.get hi (hputs.length_eq ▸ hi)
  rw [List.get_eq_getElem] at hbody
  obtain ⟨frame, hframe⟩ := Upload.exists_frame_of_body hbody
  have htyped : ∀ cells ∈ batches[i].rows, Frame.Typed cells := by
    intro cells hc
    obtain ⟨m, _, hm⟩ := Outcome.exists_of_mem_mapM hrows hc
    exact (hg.plain hm).imp fun _ _ => ColumnType.Plain.admits
  obtain ⟨_, htakes⟩ := Frame.ofRows_eq_ok hne htyped hframe
  obtain ⟨k, hk⟩ := List.mem_iff_getElem?.mp hn
  obtain ⟨cells, hcells, hrow⟩ := Outcome.mapM_getElem? hrows hk
  have hmem := List.mem_of_getElem? hcells
  have hcell := hg.plain hrow
  refine ⟨cells, hrow, List.forall₂_iff_get.mpr ⟨hcell.length_eq, fun j hj hj' => ?_⟩⟩
  rcases hcell.get hj hj' with ⟨htime, _⟩ | htaken
  · exact (htakes cells hmem).get hj hj' (.inl htime)
  · exact htaken

theorem HoldsAll.exists_levels (h : HoldsAll g bucket place puts) (hg : g.Ready Table.builtin (.int base) seed) :
    ∃ b l, g.producer.batch 0 (min summaryRows g.rowCount) = .ok b ∧ b.levels = .ok l := by
  rw [hg.rowCount_eq]
  have hpos := hg.rowCount_pos
  have hfew : summaryRows ≤ Producer.room ∧ summaryRows ≤ Value.maxIndex ∧ 0 < summaryRows := by decide
  obtain ⟨rows, hrows⟩ : ∃ rows, (Producer.numbers 0 (min summaryRows g.producer.rowCount)).mapM g.producer.row =
      .ok rows := Outcome.exists_mapM_ok fun n hn => by
    obtain ⟨hlow, hhigh⟩ := Producer.mem_numbers.mp hn
    obtain ⟨cells, hc, _⟩ := h.exists_row hg hlow (by omega)
    exact ⟨cells, hc⟩
  have hbatch : g.producer.batch 0 (min summaryRows g.producer.rowCount) = .ok ⟨.int 0, rows, g.producer.halves⟩ := by
    refine (Producer.batch_eq_ok (le_refl 0) (by omega)).mpr ⟨rows, ?_, rfl⟩
    rw [zero_add, min_eq_left (min_le_right _ _)]
    exact Producer.rows_eq_ok.mpr ⟨by omega, by omega, hrows⟩
  have hne : rows ≠ [] := by
    have hlength := Outcome.mapM_length hrows
    rw [Producer.length_numbers] at hlength
    exact List.ne_nil_of_length_pos (by omega)
  have htakes : ∀ cells ∈ rows, List.Forall₂ (fun c v => c.type.Takes v) Schema.columns cells := by
    intro cells hc
    obtain ⟨n, hn, hrow⟩ := Outcome.exists_of_mem_mapM hrows hc
    obtain ⟨hlow, hhigh⟩ := Producer.mem_numbers.mp hn
    obtain ⟨_, hrow', htakes⟩ := h.exists_row hg hlow (by omega)
    obtain rfl := Except.ok.inj (hrow.symm.trans hrow')
    exact htakes
  obtain ⟨l, hl⟩ := Batch.exists_levels (b := ⟨.int 0, rows, g.producer.halves⟩) hne htakes
  exact ⟨_, l, hbatch, hl⟩

end

end Ingest

theorem Contact.isForeseen_of_refusal {a : Contact} {f : Failure} (h : a.isRefusal) (hf : a.failure? = some f) :
    f.isForeseen := by
  unfold isRefusal at h
  split at h
  · obtain rfl := Option.some.inj hf
    rfl
  · simp at h

namespace Ingest

variable {p : Plan} {w : World} {g : Generator} {client : Store.Client} {text : String} {base : Int} {seed : Value}

theorem after_transfer (hn : 1 ≤ p.parallelism) (hg : g.Ready Table.builtin (.int base) seed)
    (hcount : g.rowCount = p.rowCount) (client : Store.Client) (text : String) (order : List Generator → List Event)
    (w : World) (streamClock : Clock) (t : Trace) {s : Streams Uploads}
    (hs : s = streams p client text g order streamClock t.calls) {past : List Contact}
    (hpast : past = asked p client text g order streamClock t.calls) :
    ∃ puts runs outcome t', after (upload p client text g order (w.clock.after 2) streamClock >>= fun x =>
          deliver p text g x.2 (w.clock.after 4) >>= summarize g x.1) t = (outcome, t') ∧
      t'.calls = t.calls ++ (puts ++ runs.flatten) ∧ (∀ c ∈ puts, c.isPut) ∧
      Loader.InTurn ⟨p.workgroup, p.database⟩ (statements p text) runs ∧
      (s.isOver → Transferred p w g text past puts runs outcome) := by
  obtain ⟨puts, hcalls, hputs, hrefused, hblames, hends⟩ :=
    streams_puts p client text hg order streamClock t.calls hs hpast
  obtain ⟨outcome, main, workers, hupload, huploaded, _, hkind⟩ :=
    after_upload hn client text g order (w.clock.after 2) streamClock t hs
  rw [hg.remaining_eq, ← hg.rowCount_eq, hcount] at huploaded hkind hends
  cases outcome with
  | error f =>
    refine ⟨puts, [], _, _, after_bind_error hupload, ?_, hputs, ⟨.nil, by simp⟩, fun hover => .of_unsubmitted ?_ ?_⟩
    · rw [List.flatten_nil, List.append_nil]
      exact hcalls
    · intro huntroubled
      refine hkind (fun f hf => ?_) (fun hnone => ((hends hover).2 hnone).1) huntroubled.upload f rfl
      obtain ⟨a, ha, hf⟩ := hblames f hf
      exact Contact.isForeseen_of_refusal (huntroubled.streams a ha (by simp [hf])) hf
    · -- Were nothing refused, nothing would have failed, and all rows would be uploaded.
      intro huntroubled
      by_contra hall
      obtain ⟨hcalm, hwhole⟩ := hends hover
      have hnone : s.failure? = none := by
        refine hcalm.mpr fun a ha => ?_
        by_contra hf
        exact hall (hrefused.mpr ⟨a, ha, huntroubled.streams a ha (Option.isSome_iff_ne_none.mpr hf)⟩)
      obtain ⟨_, habsurd⟩ := huploaded.mpr ⟨hnone, (hwhole hnone).1, huntroubled.upload⟩
      simp at habsurd
  | ok x =>
    obtain ⟨runs, outcome, t', hdelivery, hcalls', hne, hturn, hsound, htotal⟩ := after_delivery p text g x.2 x.1
      (w.clock.after 4) { t.withCalls s.world.calls with main, workers }
    rw [hcount] at hsound htotal
    rw [after_bind_ok hupload, hdelivery]
    refine ⟨puts, runs, _, _, rfl, ?_, hputs, hturn, fun hover => ?_⟩
    · rw [hcalls', ← List.append_assoc, ← hcalls]
      rfl
    · obtain ⟨_, hholds⟩ := (hends hover).2 (huploaded.mp ⟨x, rfl⟩).1
      have hsummary := hcount ▸ hholds.exists_levels hg
      refine ⟨?_, fun hok => ⟨hholds, hholds.apart, hsound hok⟩, ?_, fun _ _ => hne, ?_⟩
      · rintro ⟨c, hc, hrefused⟩
        exact absurd hrefused (hholds.not_refused c hc)
      · intro huntroubled
        exact (htotal huntroubled.reports huntroubled.load hsummary).1
      · intro huntroubled _
        exact (htotal huntroubled.reports huntroubled.load hsummary).2

theorem run_of_clear {notes : Journal} (hbucket : p.bucket.isPresent) (hworkgroup : p.workgroup.isPresent)
    (hs : p.settings.configure w = (.ok g, notes)) (htext : p.keyPrefix = .text text) (client : Store.Client)
    (warehouse : Warehouse.State) {n : Nat} {calls : List Call} {journal : Journal}
    (hclear : Store.clear client p.bucket (.text (place p text)) warehouse.calls = (.ok n, calls, journal))
    (order : List Generator → List Event) (streamClock : Clock) :
    ∃ main, run p w client warehouse order streamClock =
      after (upload p client text g order (w.clock.after 2) streamClock >>= fun x =>
        deliver p text g x.2 (w.clock.after 4) >>= summarize g x.1) ⟨main, [], { warehouse with calls }⟩ := by
  obtain ⟨main, hprepare⟩ := after_prepare hbucket hworkgroup hs htext ⟨[], [], warehouse⟩
  obtain ⟨main', hcleared⟩ := after_clear client p.bucket (place p text) ⟨main, [], warehouse⟩
  simp only [Trace.calls, hclear] at hcleared
  change ∃ main, after (act p w client order streamClock) _ = _
  rw [act, after_bind_ok hprepare]
  change ∃ main, after (clear client p.bucket (place p text) >>= fun _ => report _ >>= fun _ => _) _ = _
  rw [after_bind_ok hcleared, report, after_bind_ok (after_tell _ _)]
  exact ⟨_, rfl⟩

theorem run_of_unclear {notes : Journal} (hbucket : p.bucket.isPresent) (hworkgroup : p.workgroup.isPresent)
    (hs : p.settings.configure w = (.ok g, notes)) (htext : p.keyPrefix = .text text) (client : Store.Client)
    (warehouse : Warehouse.State) {f : Store.Fault} {calls : List Call} {journal : Journal}
    (hclear : Store.clear client p.bucket (.text (place p text)) warehouse.calls = (.error f, calls, journal))
    (order : List Generator → List Event) (streamClock : Clock) :
    ∃ trace, run p w client warehouse order streamClock = (.error (.store f), trace) ∧ trace.calls = calls := by
  obtain ⟨main, hprepare⟩ := after_prepare hbucket hworkgroup hs htext ⟨[], [], warehouse⟩
  obtain ⟨main', hcleared⟩ := after_clear client p.bucket (place p text) ⟨main, [], warehouse⟩
  simp only [Trace.calls, hclear] at hcleared
  change ∃ trace, after (act p w client order streamClock) _ = _ ∧ _
  rw [act, after_bind_ok hprepare]
  exact ⟨_, after_bind_error hcleared, rfl⟩

end Ingest

def Plan.Given.alone (rows batch : Int) : Plan.Given where
  rowCount := .int rows
  batchSize := .int batch
  seed := .int 1
  parallelism := .int 1
  table := .text "t"
  bucket := .text "b"
  keyPrefix := .text "p"
  workgroup := .text "w"

def Plan.alone (rows batch : Int) : Plan where
  rowCount := rows
  batchSize := batch
  poolCap := none
  seed := .int 1
  parallelism := 1
  table := .text "t"
  bucket := .text "b"
  keyPrefix := .text "p"
  workgroup := .text "w"
  database := .text "dev"
  role := .null

theorem Plan.ofGiven_alone {rows batch : Int} (hrows : 0 < rows) (hbatch : 0 < batch) :
    ofGiven (.alone rows batch) = .ok (alone rows batch) := by
  simp [ofGiven, Given.alone, requirePositive, requirePositive?, hrows, hbatch, bind, Except.bind, pure, Except.pure,
    alone]

def Event.single : List Event := .launch :: List.replicate 6 (.advance 0)

theorem Streams.run_single {σ : Type} (sinks : Sinks σ) {c d : Generator} {b : Batch} {w w₁ w₂ w₃ : σ} {n : Int}
    (hb : c.next = .ok (some b, d)) (hend : d.next = .ok (none, d)) (hcreate : sinks.create 0 w = (.ok (), w₁))
    (hwrite : sinks.write 0 b w₁ = (.ok n, w₂)) (hclose : sinks.close 0 w₂ = (none, w₃)) (hn : n.natAbs < 10) :
    ∃ t : Stream, (start [c] w).run sinks .still Event.single = ⟨[], [t], false, none, w₃⟩ ∧ t.isDone ∧
      t.raised? = none := by
  obtain ⟨entry, hentry⟩ := Stream.exists_progress_still 0 1 n (by decide) hn (by decide)
  simp [Event.single, List.replicate, start, hcreate, hb, hend, hwrite, hentry, hclose]

namespace Ingest

def loaded (rows : Int) : Value := .object [("Status", .text "FINISHED"), ("ResultRows", .int rows)]

def prompt (rows : Int) (calls : List Call) : Warehouse.State :=
  ⟨[], [.ok Warehouse.done, .ok Warehouse.done, .ok (loaded rows)], calls, 0⟩

theorem after_deliver_prompt (p : Plan) (text : String) {g : Generator} (hg : g.rowCount = 1) (objects : Nat)
    (main workers : Journal) (calls : List Call) :
    ∃ r t', after (deliver p text g objects .still) ⟨main, workers, prompt 1 calls⟩ = (.ok r, t') ∧ r.success := by
  obtain ⟨calls₁, h₁⟩ := Loader.execute_finished ⟨p.workgroup, p.database⟩ (Schema.createTable p.table.plain)
    Warehouse.done rfl [.ok Warehouse.done, .ok (loaded 1)] calls 0
  obtain ⟨calls₂, h₂⟩ := Loader.execute_finished ⟨p.workgroup, p.database⟩ (Loader.truncateSql p.table.plain)
    Warehouse.done rfl [.ok (loaded 1)] calls₁ 0
  obtain ⟨calls₃, h₃⟩ := Loader.execute_finished ⟨p.workgroup, p.database⟩
    (Loader.copySql p.table.plain p.bucket.plain text p.role) (loaded 1) rfl [] calls₂ 0
  obtain ⟨main₁, hask₁⟩ := after_ask (Loader.createTable ⟨p.workgroup, p.database⟩ p.table.plain)
    ⟨main, workers, prompt 1 calls⟩
  obtain ⟨main₂, hask₂⟩ := after_ask (Loader.truncate ⟨p.workgroup, p.database⟩ p.table.plain)
    ⟨main₁, workers, ⟨[], [.ok Warehouse.done, .ok (loaded 1)], calls₁, 0⟩⟩
  obtain ⟨main₃, hask₃⟩ := after_ask (Loader.copy ⟨p.workgroup, p.database⟩ p.table.plain p.bucket.plain text p.role)
    ⟨main₂, workers, ⟨[], [.ok (loaded 1)], calls₂, 0⟩⟩
  simp only [Loader.createTable, Loader.truncate, Loader.copy, prompt, h₁, h₂, h₃, Except.map] at hask₁ hask₂ hask₃
  have hreported : ((loaded 1).get? "ResultRows").getD (.int 0) = .int 1 := rfl
  have hwritable : (Value.int 1).isWritable := by
    rw [Value.isWritable, decide_eq_true_eq]
    exact Whole.lt_limit (k := 1) (by decide) (by decide)
  have hequal : (Value.int 1).equalsInt 1 = true := by decide +kernel
  have helapsed : Benchmark.elapsedMs .still = .ok 0 := by decide +kernel
  have hrate : Result.rate 1 0 = .ok (.finite 0) := by decide +kernel
  rw [deliver, prompt, after_bind_ok hask₁, after_bind_ok (after_require _ _), after_bind_ok hask₂,
    after_bind_ok (after_require _ _), load, after_bind_ok hask₃]
  simp only [hreported, Value.inText, hwritable, ↓reduceIte, Except.mapError]
  rw [after_bind_ok (after_of_except _ _), report, after_bind_ok (after_tell _ _)]
  simp only [hg, hequal, ↓reduceIte, helapsed]
  rw [after_bind_ok (after_of_except _ _)]
  simp only [Result.succeeded, hrate]
  exact ⟨_, _, rfl, rfl⟩

theorem streams_single {g : Generator} {notes : Journal}
    (hs : (Plan.alone 1 1).settings.configure .idle = (.ok g, notes)) (calls : List Call) {s : Streams Uploads}
    (h : s = streams (.alone 1 1) Upload.willing "p" g (fun _ => Event.single) .still calls) :
    s.isOver ∧ s.failure? = none ∧ g.remaining = 1 := by
  obtain ⟨g', notes', hs', hremaining, hpieces, hnext⟩ := Settings.exists_single_pieces (.int 1)
    (show 0 < (1 : Int) by decide) (by decide)
  obtain rfl : g = g' := by simpa using congrArg Prod.fst (hs.symm.trans hs')
  obtain ⟨b, d, hb, hend⟩ := hnext 0 (by decide)
  obtain ⟨table, seed, htable, hready⟩ := Settings.configure_eq_ok hs
  obtain rfl := Except.ok.inj htable
  have hready : g.Ready Table.builtin (.int 1700000000000) seed := hready
  have hpieces : g.pieces 1 = [g.piece 1 0] := hpieces
  have hmem : g.piece 1 0 ∈ g.pieces 1 := by simp [hpieces]
  have hproducer := (Generator.mem_pieces hmem).1
  have hbounded := hready.bounded.pieces hmem
  have hreads := hbounded.reads hb
  have hstop : (g.piece 1 0).stop ≤ 1 := by
    have hall := hbounded.stop_le_rowCount
    obtain ⟨_, hcursor, hstop⟩ := hready.range
    rw [hproducer] at hall
    simp only [Generator.remaining] at hremaining
    omega
  have hsize := hreads.size_eq
  have hfloor := hbounded.start_nonneg.trans hbounded.start_le_cursor
  simp only [Generator.remaining] at hsize
  have hwhole : b.halves = none := by rw [(Generator.halves_of_next hb).1, hproducer, hready.halves_eq_none]
  have htakes : ∀ cells ∈ b.rows, List.Forall₂ (fun c v => c.type.Takes v) Schema.columns cells := by
    intro cells hc
    obtain ⟨n, hn, hrow⟩ := Outcome.exists_of_mem_mapM hreads.rows_eq hc
    rw [hproducer] at hrow
    obtain ⟨hlow, hhigh⟩ := Producer.mem_numbers.mp hn
    exact (hready.plain hrow).imp fun c v hplain => hplain.takes (by omega) (by omega)
  obtain ⟨text, hput⟩ := Upload.write_of_takes (.opened (.text "b") "p" "t") Upload.willing calls
    (hreads.rows_ne_nil hbounded) htakes hwhole hreads.start_eq rfl
  obtain ⟨t, hrun, hdone, hcalm⟩ := Streams.run_single (sinks Upload.willing (.text "b") "p" "t")
    (w := (⟨[], calls, []⟩ : Uploads)) (n := b.size) hb hend rfl
    (by simp only [sinks, List.nil_append, List.getElem?_cons_zero, hput]; rfl) rfl (by omega)
  rw [← hpieces] at hrun
  obtain rfl := h.trans hrun
  exact ⟨by simp [Streams.isOver, hdone], by simp [Streams.failure?, hcalm], hremaining⟩

theorem run_single : ∃ g notes r trace, (Plan.alone 1 1).settings.configure .idle = (.ok g, notes) ∧
    run (.alone 1 1) .idle Upload.willing (prompt 1 []) (fun _ => Event.single) .still = (.ok r, trace) ∧
    ∀ calls, (streams (.alone 1 1) Upload.willing "p" g (fun _ => Event.single) .still calls).isOver := by
  obtain ⟨g, notes, seed, hs, hg, hproduced⟩ := Plan.exists_configure
    (Plan.ofGiven_alone (show 0 < (1 : Int) by decide) (show 0 < (1 : Int) by decide)) World.ofSeconds_idle
  have hcount : g.rowCount = 1 := hg.rowCount_eq.trans hproduced
  obtain ⟨main, hrun⟩ := run_of_clear (p := .alone 1 1) rfl rfl hs rfl Upload.willing (prompt 1 []) rfl
    (fun _ => Event.single) .still
  generalize hstart : Trace.mk main [] _ = t at hrun
  obtain ⟨s, h⟩ : ∃ s, s = streams (.alone 1 1) Upload.willing "p" g (fun _ => Event.single) .still t.calls := ⟨_, rfl⟩
  obtain ⟨hover, hnone, hremaining⟩ := streams_single hs t.calls h
  obtain ⟨puts, _, _, _, _, hends⟩ := streams_puts (.alone 1 1) Upload.willing "p" hg (fun _ => Event.single) .still
    t.calls h rfl
  obtain ⟨hrows, hholds⟩ := (hends hover).2 hnone
  obtain ⟨outcome, main', workers, hupload, huploaded, _⟩ := after_upload (p := .alone 1 1) (by decide) Upload.willing
    "p" g (fun _ => Event.single) (World.idle.clock.after 2) .still t h
  have htimed : Benchmark.IsTimed 1 (World.idle.clock.after 2) := ⟨0, by decide +kernel, by decide +kernel⟩
  obtain ⟨⟨uploaded, objects⟩, rfl⟩ := huploaded.mpr ⟨hnone, hrows, hremaining ▸ htimed⟩
  have hprompt : (t.withCalls s.world.calls).warehouse = prompt 1 s.world.calls := by
    rw [← hstart]
    rfl
  simp only [hprompt] at hupload
  obtain ⟨loaded, t', hdeliver, hloaded⟩ := after_deliver_prompt (.alone 1 1) "p" hcount objects main' workers
    s.world.calls
  obtain ⟨outcome, t'', hsummarize, _, _, hends⟩ := after_summarize (g := g) uploaded loaded t'
  obtain ⟨r, rfl⟩ := (hends (hholds.exists_levels hg)).2 hloaded
  refine ⟨g, notes, r, t'', hs, ?_, fun calls => (streams_single hs calls rfl).1⟩
  rw [hrun, after_bind_ok hupload, ← hsummarize]
  exact after_bind_ok hdeliver

end Ingest

open Ingest in
/-- An ingestion clears its place, puts its objects and submits its statements, in this order: nothing is put unless the
place is clear, no statement is submitted unless every object was taken, and none before the last one is finished. It
returns only if the objects hold every row once, under keys of their own below the place that was cleared and that is
loaded, and the warehouse reports all rows; whatever else the store and the warehouse answer is raised as a failure to
deliver, unless something else fails. -/
theorem ingestion_in_order {given : Plan.Given} {p : Plan} (hp : Plan.ofGiven given = .ok p)
    (hbucket : p.bucket.isPresent) (hworkgroup : p.workgroup.isPresent) {text : String}
    (htext : p.keyPrefix = .text text) {w : World} {time : Int}
    (htime : Duration.ofSeconds (w.clock 1 - w.clock 0) = .ok time) (client : Store.Client)
    (warehouse : Warehouse.State) (order : List Generator → List Event) (streamClock : Clock) :
    ∃ g notes emptied outcome trace emptying puts runs,
      p.settings.configure w = (.ok g, notes) ∧
      emptied = Store.clear client p.bucket (.text (place p text)) warehouse.calls ∧
      Ingest.run p w client warehouse order streamClock = (outcome, trace) ∧
      trace.calls = warehouse.calls ++ (emptying ++ (puts ++ runs.flatten)) ∧
      (∀ c ∈ emptying, c.Clears p.bucket (place p text)) ∧ (∀ c ∈ puts, c.isPut) ∧
      Loader.InTurn ⟨p.workgroup, p.database⟩ (statements p text) runs ∧
      (∃ front back, Loader.copySql p.table.plain p.bucket.plain text p.role =
        front ++ "'s3://" ++ p.bucket.plain ++ "/" ++ place p text ++ "'" ++ back) ∧
      (∀ f, emptied.1 = .error f →
        puts = [] ∧ runs = [] ∧ outcome = .error (.store f) ∧ (Failure.store f).kind = .delivery) ∧
      (∀ n, emptied.1 = .ok n → .list p.bucket (.text (place p text)) ∈ emptying ∧
        (∃ more, (streams p client text g (fun gs => order gs ++ more) streamClock emptied.2.1).isOver) ∧
        ((streams p client text g order streamClock emptied.2.1).isOver →
          Transferred p w g text (asked p client text g order streamClock emptied.2.1) puts runs outcome)) := by
  obtain ⟨hn, _⟩ := Plan.ofGiven_eq_ok hp
  obtain ⟨g, notes, seed, hs, hg, hproduced⟩ := Plan.exists_configure hp htime
  have hcount : g.rowCount = p.rowCount := hg.rowCount_eq.trans hproduced
  have hsource := Loader.copySql_source p.table.plain p.bucket.plain text p.role
  obtain ⟨emptying, hemptying, hclears, hlisted⟩ := Store.clear_calls client p.bucket (place p text) warehouse.calls
  rcases hclear : Store.clear client p.bucket (.text (place p text)) warehouse.calls with ⟨emptied, calls, journal⟩
  rw [hclear] at hemptying hlisted
  obtain rfl : calls = warehouse.calls ++ emptying := hemptying
  cases emptied with
  | error f =>
    obtain ⟨trace, hrun, hcalls⟩ := run_of_unclear hbucket hworkgroup hs htext client warehouse hclear order streamClock
    refine ⟨g, notes, _, _, trace, emptying, [], [], hs, rfl, hrun, ?_, hclears, by simp, ⟨.nil, by simp⟩, hsource, ?_,
      by simp⟩
    · rw [hcalls, List.flatten_nil, List.append_nil, List.append_nil]
    · rintro _ ⟨⟩
      exact ⟨rfl, rfl, rfl, rfl⟩
  | ok n =>
    obtain ⟨main, hrun⟩ := run_of_clear hbucket hworkgroup hs htext client warehouse hclear order streamClock
    obtain ⟨puts, runs, outcome, trace, htransfer, hcalls, hputs, hturn, htransferred⟩ :=
      after_transfer hn hg hcount client text order w streamClock
        ⟨main, [], { warehouse with calls := warehouse.calls ++ emptying }⟩ rfl rfl
    refine ⟨g, notes, _, outcome, trace, emptying, puts, runs, hs, rfl, hrun.trans htransfer, ?_, hclears, hputs, hturn,
      hsource, by simp, fun _ _ => ⟨hlisted ⟨n, rfl⟩, exists_over p client text hg.bounded order streamClock _,
        htransferred⟩⟩
    rw [hcalls, ← List.append_assoc warehouse.calls]
    rfl

open Ingest in
theorem ingestion_in_order_single : ∃ g r trace emptying puts runs,
    Plan.ofGiven (.alone 1 1) = .ok (.alone 1 1) ∧
      Ingest.run (.alone 1 1) .idle Upload.willing (prompt 1 []) (fun _ => Event.single) .still = (.ok r, trace) ∧
      trace.calls = emptying ++ (puts ++ runs.flatten) ∧ (∀ c ∈ emptying, c.Clears (.text "b") "p/t/") ∧
      HoldsAll g (.text "b") "p/t/" puts ∧ g.producer.rowCount = 1 ∧ Upload.Apart "p/t/" (Upload.keysOf puts) ∧
      Loader.InTurn ⟨.text "w", .text "dev"⟩ (statements (.alone 1 1) "p") runs ∧ Loaded runs 1 := by
  have hp : Plan.ofGiven (.alone 1 1) = .ok (.alone 1 1) := Plan.ofGiven_alone (by decide) (by decide)
  have hplace : place (.alone 1 1) "p" = "p/t/" := by decide
  obtain ⟨g, notes, r, trace, hs, hrun, hover⟩ := run_single
  obtain ⟨g', notes', _, outcome, trace', emptying, puts, runs, hs', rfl, hrun', hcalls, hclears, _, hturn, _, _,
    hon⟩ := ingestion_in_order hp rfl rfl rfl World.ofSeconds_idle Upload.willing (prompt 1 [])
      (fun _ => Event.single) .still
  obtain rfl : g = g' := by simpa using congrArg Prod.fst (hs.symm.trans hs')
  obtain ⟨rfl, rfl⟩ := Prod.mk.inj (hrun.symm.trans hrun')
  obtain ⟨_, _, htransferred⟩ := hon 0 rfl
  obtain ⟨hholds, hapart, hloaded⟩ := (htransferred (hover _)).complete ⟨r, rfl⟩
  rw [hplace] at hclears hholds hapart
  obtain ⟨_, _, _, hs'', _, hproduced⟩ := Plan.exists_configure hp World.ofSeconds_idle
  obtain rfl : g = _ := by simpa using congrArg Prod.fst (hs.symm.trans hs'')
  exact ⟨g, r, trace, emptying, puts, runs, hp, hrun, hcalls, hclears, hholds, hproduced, hapart, hturn, hloaded⟩

theorem ingestion_overflows : ∃ g notes trace,
    Plan.ofGiven (.alone (2 ^ 63) (2 ^ 63)) = .ok (.alone (2 ^ 63) (2 ^ 63)) ∧
      (Plan.alone (2 ^ 63) (2 ^ 63)).settings.configure .idle = (.ok g, notes) ∧
      Ingest.run (.alone (2 ^ 63) (2 ^ 63)) .idle Upload.willing (Ingest.prompt (2 ^ 63) []) (fun _ => Event.single)
        .still = (.error (.producer .tooMany), trace) ∧
      trace.calls = [.paginator "list_objects_v2", .list (.text "b") (.text "p/t/")] ∧
      (Ingest.streams (.alone (2 ^ 63) (2 ^ 63)) Upload.willing "p" g (fun _ => Event.single) .still
        trace.calls).isOver ∧
      (Failure.producer .tooMany).kind ≠ .delivery := by
  have hp : Plan.ofGiven (.alone (2 ^ 63) (2 ^ 63)) = .ok (.alone (2 ^ 63) (2 ^ 63)) :=
    Plan.ofGiven_alone (by decide) (by decide)
  obtain ⟨g, notes, hs, hproduced, hbatch⟩ := Settings.exists_configure (w := .idle) (Plan.ofGiven_eq_ok hp).2 rfl
    World.ofSeconds_idle
  obtain ⟨table, seed, htable, hready⟩ := Settings.configure_eq_ok hs
  obtain ⟨hstart, hcursor, hstop⟩ := hready.range
  have hproduced : g.producer.rowCount = 2 ^ 63 := hproduced
  have hbatch : g.batchSize = 2 ^ 63 := hbatch
  have hremaining : g.remaining = 2 ^ 63 := hready.remaining_eq.trans hproduced
  have hchunk : g.chunk 1 = 2 ^ 63 := by
    rw [Generator.chunk, hremaining]
    decide
  have hcount : g.pieceCount 1 = 1 := by
    rw [Generator.pieceCount, hchunk, hremaining]
    decide
  have hpieces : g.pieces 1 = [g.piece 1 0] := by
    rw [Generator.pieces_eq, hcount]
    rfl
  have hnext : (g.piece 1 0).next = .error .tooMany := by
    simp [Generator.piece, Generator.ofRange, Generator.next, Producer.batch, Producer.rows, Generator.remaining,
      hchunk, hstop, hcursor, hbatch, hproduced, Value.maxIndex, Except.map]
  obtain ⟨s, h⟩ : ∃ s, s = Ingest.streams (.alone (2 ^ 63) (2 ^ 63)) Upload.willing "p" g (fun _ => Event.single) .still
    [.paginator "list_objects_v2", .list (.text "b") (.text "p/t/")] := ⟨_, rfl⟩
  have hstreams : s.isOver ∧ s.failure? = some (.producer .tooMany) ∧
      s.world.calls = [.paginator "list_objects_v2", .list (.text "b") (.text "p/t/")] := by
    have hpieces' : g.pieces (Plan.alone (2 ^ 63) (2 ^ 63)).parallelism = [g.piece 1 0] := hpieces
    rw [h, Ingest.streams, hpieces']
    simp [Event.single, List.replicate, Streams.start, Ingest.sinks, hnext, Streams.isOver, Streams.failure?]
  obtain ⟨hover, hfailure, hcalls⟩ := hstreams
  obtain ⟨main, hrun⟩ := Ingest.run_of_clear (p := .alone (2 ^ 63) (2 ^ 63)) rfl rfl hs rfl Upload.willing
    (Ingest.prompt (2 ^ 63) []) rfl (fun _ => Event.single) .still
  obtain ⟨outcome, main', workers, hupload, _, hraised, _⟩ := Ingest.after_upload (p := .alone (2 ^ 63) (2 ^ 63))
    (by decide) Upload.willing "p" g (fun _ => Event.single) (World.idle.clock.after 2) .still
    ⟨main, [], Ingest.prompt (2 ^ 63) [.paginator "list_objects_v2", .list (.text "b") (.text "p/t/")]⟩ h
  obtain rfl := hraised _ hfailure (by decide)
  refine ⟨g, notes, _, hp, hs, hrun.trans (Ingest.after_bind_error hupload), hcalls, ?_, by decide⟩
  change (Ingest.streams _ _ _ _ _ _ s.world.calls).isOver
  rw [hcalls, ← h]
  exact hover

end LogMill
