import LogMill.Proofs.Run.Statements
import LogMill.Proofs.Run.Uploads

namespace LogMill

namespace Benchmark

variable {σ : Type} {b : Benchmark} {expected : Int} {clock : Clock} {s : Streams σ}

theorem conclude_of_failure {f : Failure} (hf : s.failure? = some f) : b.conclude expected clock s =
    if f.isForeseen then .ok (({ provider := b.provider, table := b.table, totalRows := .int expected } : Result).failed
      (.text f.message)) else .error f := by
  rw [conclude, hf]

theorem exists_conclude (hf : ∀ f, s.failure? = some f → f.isForeseen) (hrows : s.failure? = none → s.rows = expected)
    (htimed : IsTimed expected clock) : ∃ r, b.conclude expected clock s = .ok r := by
  cases hs : s.failure? with
  | some f => exact ⟨_, (conclude_of_failure hs).trans (if_pos (hf f hs))⟩
  | none =>
    obtain ⟨r, hr, -⟩ := conclude_eq_ok.mpr ⟨hs, hrows hs, htimed⟩
    exact ⟨r, hr⟩

end Benchmark

namespace Ingest

section

variable {α β : Type}

def after (x : Act α) (t : Trace) : Except Failure α × Trace := x.run.run t

theorem after_bind_ok {x : Act α} {f : α → Act β} {t t' : Trace} {a : α} (h : after x t = (.ok a, t')) :
    after (x >>= f) t = after (f a) t' := by
  unfold after at h ⊢
  simp only [ExceptT.run_bind, StateT.run_bind, h]
  rfl

theorem after_bind_error {x : Act α} {f : α → Act β} {t t' : Trace} {e : Failure}
    (h : after x t = (.error e, t')) : after (x >>= f) t = (.error e, t') := by
  unfold after at h ⊢
  simp only [ExceptT.run_bind, StateT.run_bind, h]
  rfl

theorem after_tell (j : Journal) (t : Trace) : after (tell j) t = (.ok (), { t with main := t.main ++ j }) := rfl

theorem after_modify (f : Trace → Trace) (t : Trace) : after (modify f : Act Unit) t = (.ok (), f t) := rfl

theorem after_of_except (x : Except Failure α) (t : Trace) : after (liftM x : Act α) t = (x, t) := rfl

theorem after_inText (v : Value) (t : Trace) : after (liftM (v.inText.mapError Failure.number) : Act String) t =
    (if v.isWritable then .ok v.plain else .error (.number .tooManyDigits), t) := by
  rw [after_of_except, Value.inText]
  split <;> rfl

theorem after_require (x : Except Warehouse.Fault α) (t : Trace) :
    after (require x) t = (x.mapError .warehouse, t) := by
  cases x <;> rfl

theorem after_summaryBatch (g : Generator) (t : Trace) : after (summaryBatch g) t =
    ((g.producer.batch 0 (min summaryRows g.rowCount)).mapError .producer, t) := by
  unfold summaryBatch
  cases g.producer.batch 0 (min summaryRows g.rowCount) <;> rfl

theorem after_levels (b : Batch) (t : Trace) : after (levels b) t = (b.levels.mapError .levels, t) := by
  unfold levels
  cases b.levels <;> rfl

end

open Warehouse (finished?)

variable {p : Plan} {w : World} {g : Generator} {client : Store.Client}

theorem after_prepare {notes : Journal} {text : String} (hbucket : p.bucket.isPresent)
    (hworkgroup : p.workgroup.isPresent) (hs : p.settings.configure w = (.ok g, notes))
    (htext : p.keyPrefix = .text text) (t : Trace) :
    ∃ main, after (prepare p w) t = (.ok (g, text), { t with main }) := by
  simp only [prepare, hbucket, hworkgroup, hs, keyPrefix, htext]
  exact ⟨_, rfl⟩

theorem after_clear (client : Store.Client) (bucket : Value) (place : String) (t : Trace) :
    ∃ main, after (clear client bucket place) t =
      (((Store.clear client bucket (.text place) t.calls).1.map fun _ => ()).mapError .store,
        { t.withCalls (Store.clear client bucket (.text place) t.calls).2.1 with main }) := by
  refine ⟨t.main ++ (Store.clear client bucket (.text place) t.calls).2.2, ?_⟩
  rcases hc : Store.clear client bucket (.text place) t.calls with ⟨outcome, calls, journal⟩
  have hget : after (get : Act Trace) t = (.ok t, t) := rfl
  rw [clear, after_bind_ok hget]
  simp only [hc]
  rw [after_bind_ok (after_modify _ t), after_bind_ok (after_tell _ _)]
  cases outcome <;> rfl

def uploadBenchmark (p : Plan) : Benchmark :=
  { provider := .text "S3 upload", table := p.table, parallelism := .int p.parallelism }

theorem after_upload (hn : 1 ≤ p.parallelism) (client : Store.Client) (text : String) (g : Generator)
    (order : List Generator → List Event) (clock streamClock : Clock) (t : Trace) {s : Streams Uploads}
    (hs : s = streams p client text g order streamClock t.calls) :
    ∃ outcome main workers, after (upload p client text g order clock streamClock) t =
        (outcome, { t.withCalls s.world.calls with main, workers }) ∧
      ((∃ x, outcome = .ok x) ↔
        s.failure? = none ∧ s.rows = g.remaining ∧ Benchmark.IsTimed g.remaining clock) ∧
      (∀ f, s.failure? = some f → ¬ f.isForeseen → outcome = .error f) ∧
      ((∀ f, s.failure? = some f → f.isForeseen) → (s.failure? = none → s.rows = g.remaining) →
        Benchmark.IsTimed g.remaining clock → ∀ f, outcome = .error f → f.kind = .delivery) := by
  have hget : after (get : Act Trace) t = (.ok t, t) := rfl
  obtain ⟨o, ho, hstreams, hresult⟩ := (uploadBenchmark p).exists_runIn (g.split_int hn) order
    (sinks client p.bucket text p.table.plain) ⟨[], t.calls, []⟩ clock streamClock
  change o.streams = streams p client text g order streamClock t.calls at hstreams
  rw [← hs] at hstreams
  rw [hstreams] at hresult
  rw [← Benchmark.conclude_eq_ok (b := uploadBenchmark p), upload, ← uploadBenchmark]
  dsimp only
  rw [after_bind_ok hget]
  simp only [ho]
  rw [after_bind_ok (after_modify _ t), after_bind_ok (after_tell _ _), hresult, hstreams]
  cases hconclude : (uploadBenchmark p).conclude g.remaining clock s with
  | error e =>
    refine ⟨.error e, _, _, after_bind_error (after_of_except _ _), by simp, fun f hf hforeseen => ?_,
      fun hf hrows htimed => ?_⟩
    · rw [Benchmark.conclude_of_failure hf, if_neg hforeseen] at hconclude
      rw [Except.error.inj hconclude]
    · obtain ⟨r, hr⟩ := Benchmark.exists_conclude (b := uploadBenchmark p) hf hrows htimed
      simp [hconclude] at hr
  | ok result =>
    have hforeseen : ∀ f, s.failure? = some f → f.isForeseen := by
      intro f hf
      rw [Benchmark.conclude_of_failure hf] at hconclude
      by_contra hforeseen
      simp [hforeseen] at hconclude
    rw [after_bind_ok (after_of_except _ _), after_bind_ok (after_tell _ _)]
    cases hsuccess : result.success with
    | false =>
      refine ⟨.error (.uploading result.error), _, _, rfl, by simp [hsuccess],
        fun f hf hraised => absurd (hforeseen f hf) hraised, fun _ _ _ => ?_⟩
      rintro _ ⟨⟩
      rfl
    | true =>
      refine ⟨.ok _, _, _, rfl, by simp [hsuccess], fun f hf hraised => absurd (hforeseen f hf) hraised, by simp⟩

theorem after_ask {α : Type} (work : Warehouse.State → Except Warehouse.Fault α × Warehouse.State × Journal)
    (t : Trace) : ∃ main, after (ask work) t =
      (.ok (work t.warehouse).1, { t with main, warehouse := (work t.warehouse).2.1 }) := by
  have hget : after (get : Act Trace) t = (.ok t, t) := rfl
  rw [ask, after_bind_ok hget]
  dsimp only
  rw [after_bind_ok (after_modify _ t), after_bind_ok (after_tell _ _)]
  exact ⟨_, rfl⟩

def reported (description : Value) : Value := (description.get? "ResultRows").getD (.int 0)

def Brings (asked : List Call) (rows : Int) : Prop := ∃ v, finished? asked = some v ∧ (reported v).equalsInt rows

theorem after_load (p : Plan) (l : Loader) (text : String) (g : Generator) (objects : Nat) (clock : Clock) (t : Trace) :
    ∃ asked outcome t', after (load p l text g objects clock) t = (outcome, t') ∧ t'.calls = t.calls ++ asked ∧
      l.Submits (Loader.copySql p.table.plain p.bucket.plain text p.role) asked ∧
      (∀ r, outcome = .ok r → r.success → Brings asked g.rowCount) ∧
      ((∀ v, finished? asked = some v → (reported v).isWritable) →
        Benchmark.IsTimed g.rowCount clock →
        ∃ r, outcome = .ok r ∧ (Brings asked g.rowCount → r.success)) := by
  obtain ⟨asked, hcalls, hsubmits, hfinished⟩ :=
    l.execute_calls (Loader.copySql p.table.plain p.bucket.plain text p.role) t.warehouse
  obtain ⟨main, hask⟩ := after_ask (l.copy p.table.plain p.bucket.plain text p.role) t
  rw [load, after_bind_ok hask]
  rcases hexecute : l.execute (.text (Loader.copySql p.table.plain p.bucket.plain text p.role)) t.warehouse with
    ⟨outcome, state, journal⟩
  rw [hexecute] at hcalls hfinished
  simp only [Loader.copy, hexecute]
  cases outcome with
  | error f =>
    refine ⟨asked, _, _, rfl, hcalls, hsubmits, ?_, fun _ _ => ⟨_, rfl, ?_⟩⟩
    · rintro r hr hsuccess
      obtain rfl := Except.ok.inj hr
      simp [Result.failed] at hsuccess
    · rintro ⟨v, hv, _⟩
      simp [hfinished, Except.toOption] at hv
  | ok v =>
    have hbrings : Brings asked g.rowCount ↔ (reported v).equalsInt g.rowCount := by
      simp [Brings, hfinished, Except.toOption]
    simp only [Except.map]
    rw [← reported]
    have htext := after_inText (reported v) { t with main, warehouse := state }
    by_cases hwritable : (reported v).isWritable
    · rw [if_pos hwritable] at htext
      rw [after_bind_ok htext, report, after_bind_ok (after_tell _ _)]
      split_ifs with hequal
      · cases helapsed : Benchmark.elapsedMs clock with
        | error f =>
          refine ⟨asked, _, _, after_bind_error (after_of_except _ _), hcalls, hsubmits, by simp, ?_⟩
          rintro _ ⟨ms, hms, -⟩
          simp [helapsed] at hms
        | ok ms =>
          rw [Except.mapError, after_bind_ok (after_of_except _ _)]
          cases hrate : Result.rate g.rowCount ms with
          | error f =>
            simp only [Result.succeeded, hrate]
            refine ⟨asked, _, _, rfl, hcalls, hsubmits, by simp, ?_⟩
            rintro _ ⟨ms', hms, hrate'⟩
            obtain rfl : ms = ms' := Except.ok.inj (helapsed.symm.trans hms)
            simp [hrate] at hrate'
          | ok speed =>
            simp only [Result.succeeded, hrate]
            exact ⟨asked, _, _, rfl, hcalls, hsubmits, fun _ _ _ => hbrings.mpr hequal,
              fun _ _ => ⟨_, rfl, fun _ => rfl⟩⟩
      · refine ⟨asked, _, _, rfl, hcalls, hsubmits, ?_, fun _ _ => ⟨_, rfl, fun h => absurd (hbrings.mp h) hequal⟩⟩
        rintro r hr hsuccess
        obtain rfl := Except.ok.inj hr
        simp [Result.failed] at hsuccess
    · rw [if_neg hwritable] at htext
      refine ⟨asked, _, _, after_bind_error htext, hcalls, hsubmits, by simp, fun hall => ?_⟩
      exact absurd (hall v (by simp [hfinished, Except.toOption])) hwritable

def statements (p : Plan) (text : String) : List String :=
  [Schema.createTable p.table.plain, Loader.truncateSql p.table.plain,
    Loader.copySql p.table.plain p.bucket.plain text p.role]

/-- Whether all statements are finished, and the last one has brought a number of rows. -/
def Loaded (runs : List (List Call)) (rows : Int) : Prop :=
  runs.length = 3 ∧ (∀ asked ∈ runs, (finished? asked).isSome) ∧ ∃ asked ∈ runs.getLast?, Brings asked rows

theorem after_statement (l : Loader) (sql : String)
    (work : Warehouse.State → Except Warehouse.Fault Unit × Warehouse.State × Journal)
    (hwork : ∀ s, ∃ j, work s = ((l.execute (.text sql) s).1.map fun _ => (), (l.execute (.text sql) s).2.1, j))
    (t : Trace) :
    ∃ asked outcome t', after (ask work) t = (.ok outcome, t') ∧ t'.calls = t.calls ++ asked ∧ l.Submits sql asked ∧
      (finished? asked).isSome = outcome.toOption.isSome := by
  obtain ⟨asked, hcalls, hsubmits, hfinished⟩ := l.execute_calls sql t.warehouse
  obtain ⟨main, hask⟩ := after_ask work t
  obtain ⟨j, hj⟩ := hwork t.warehouse
  rw [hj] at hask
  refine ⟨asked, _, _, hask, hcalls, hsubmits, ?_⟩
  rw [hfinished]
  cases (l.execute (.text sql) t.warehouse).1 <;> rfl

theorem after_deliver (p : Plan) (text : String) (g : Generator) (objects : Nat) (clock : Clock) (t : Trace) :
    ∃ runs outcome t', after (deliver p text g objects clock) t = (outcome, t') ∧
      t'.calls = t.calls ++ runs.flatten ∧ runs ≠ [] ∧
      Loader.InTurn ⟨p.workgroup, p.database⟩ (statements p text) runs ∧
      (∀ r, outcome = .ok r → r.success → Loaded runs g.rowCount) ∧
      ((∀ asked ∈ runs, ∀ v, finished? asked = some v → (reported v).isWritable) →
        Benchmark.IsTimed g.rowCount clock →
        (∀ f, outcome = .error f → f.kind = .delivery) ∧
          (Loaded runs g.rowCount → ∃ r, outcome = .ok r ∧ r.success)) := by
  obtain ⟨made, outcome₁, t₁, h₁, hcalls₁, hmade, hfinished₁⟩ := after_statement ⟨p.workgroup, p.database⟩
    (Schema.createTable p.table.plain) (Loader.createTable ⟨p.workgroup, p.database⟩ p.table.plain)
    (fun _ => ⟨_, rfl⟩) t
  obtain ⟨emptied, outcome₂, t₂, h₂, hcalls₂, hemptied, hfinished₂⟩ := after_statement ⟨p.workgroup, p.database⟩
    (Loader.truncateSql p.table.plain) (Loader.truncate ⟨p.workgroup, p.database⟩ p.table.plain)
    (fun _ => ⟨_, rfl⟩) t₁
  obtain ⟨filled, outcome, t₃, h₃, hcalls₃, hfilled, hsuccess, htotal⟩ :=
    after_load p ⟨p.workgroup, p.database⟩ text g objects clock t₂
  rw [deliver, after_bind_ok h₁]
  cases outcome₁ with
  | error f =>
    refine ⟨[made], _, _, after_bind_error (after_require _ _), by simpa using hcalls₁, by simp,
      ⟨.cons hmade .nil, by simp⟩, by simp, fun _ _ => ⟨?_, ?_⟩⟩
    · rintro _ ⟨⟩
      rfl
    · rintro ⟨hlength, _⟩
      simp at hlength
  | ok _ =>
    have hdone₁ : (finished? made).isSome := hfinished₁
    rw [after_bind_ok (after_require _ _), after_bind_ok h₂]
    cases outcome₂ with
    | error f =>
      refine ⟨[made, emptied], _, _, after_bind_error (after_require _ _), by simp [hcalls₂, hcalls₁], by simp,
        ⟨.cons hmade (.cons hemptied .nil), by simpa using hdone₁⟩, by simp, fun _ _ => ⟨?_, ?_⟩⟩
      · rintro _ ⟨⟩
        rfl
      · rintro ⟨hlength, _⟩
        simp at hlength
    | ok _ =>
      have hdone₂ : (finished? emptied).isSome := hfinished₂
      rw [after_bind_ok (after_require _ _), h₃]
      have hturn : Loader.InTurn ⟨p.workgroup, p.database⟩ (statements p text) [made, emptied, filled] := by
        refine ⟨.cons hmade (.cons hemptied (.cons hfilled .nil)), ?_⟩
        simpa using ⟨hdone₁, hdone₂⟩
      refine ⟨[made, emptied, filled], _, _, rfl, by simp [hcalls₃, hcalls₂, hcalls₁], by simp, hturn, ?_, ?_⟩
      · intro r hr hsuccessful
        obtain ⟨v, hv, hrows⟩ := hsuccess r hr hsuccessful
        refine ⟨rfl, ?_, filled, rfl, v, hv, hrows⟩
        simpa [hv] using ⟨hdone₁, hdone₂⟩
      · intro hwritable hrate
        obtain ⟨r, rfl, hloaded⟩ := htotal (hwritable filled (by simp)) hrate
        refine ⟨by simp, ?_⟩
        rintro ⟨_, _, asked, hlast, hbrings⟩
        obtain rfl : filled = asked := by simpa using hlast
        exact ⟨r, rfl, hloaded hbrings⟩

theorem after_summarize (uploaded result : Result) (t : Trace) :
    ∃ outcome t', after (summarize g uploaded result) t = (outcome, t') ∧ t'.calls = t.calls ∧
      (∀ r, outcome = .ok r → result.success) ∧
      ((∃ b l, g.producer.batch 0 (min summaryRows g.rowCount) = .ok b ∧ b.levels = .ok l) →
        (∀ f, outcome = .error f → f.kind = .delivery) ∧ (result.success → ∃ r, outcome = .ok r)) := by
  rw [summarize, after_bind_ok (after_tell _ _), after_bind_ok (after_tell _ _)]
  cases hsuccess : result.success with
  | false =>
    refine ⟨.error (.loading result.error), _, rfl, rfl, by simp, fun _ => ⟨?_, by simp⟩⟩
    rintro _ ⟨⟩
    rfl
  | true =>
    simp only [Bool.not_true, Bool.false_eq_true, ↓reduceIte]
    cases hbatch : g.producer.batch 0 (min summaryRows g.rowCount) with
    | error f =>
      have hsample := after_summaryBatch g
      rw [hbatch] at hsample
      exact ⟨_, _, after_bind_error (hsample _), rfl, by simp, by simp⟩
    | ok b =>
      have hsample := after_summaryBatch g
      rw [hbatch] at hsample
      rw [after_bind_ok (hsample _)]
      cases hlevels : b.levels with
      | error f =>
        have hfound := after_levels b
        rw [hlevels] at hfound
        refine ⟨_, _, after_bind_error (hfound _), rfl, by simp, ?_⟩
        rintro ⟨_, l, ⟨⟩, hl⟩
        simp [hlevels] at hl
      | ok l =>
        have hfound := after_levels b
        rw [hlevels] at hfound
        rw [after_bind_ok (hfound _)]
        exact ⟨.ok result, _, rfl, rfl, by simp, fun _ => ⟨by simp, fun _ => ⟨_, rfl⟩⟩⟩

theorem after_delivery (p : Plan) (text : String) (g : Generator) (objects : Nat) (uploaded : Result) (clock : Clock)
    (t : Trace) :
    ∃ runs outcome t', after (deliver p text g objects clock >>= summarize g uploaded) t = (outcome, t') ∧
      t'.calls = t.calls ++ runs.flatten ∧ runs ≠ [] ∧
      Loader.InTurn ⟨p.workgroup, p.database⟩ (statements p text) runs ∧
      ((∃ r, outcome = .ok r) → Loaded runs g.rowCount) ∧
      ((∀ asked ∈ runs, ∀ v, Warehouse.finished? asked = some v → (reported v).isWritable) →
        Benchmark.IsTimed g.rowCount clock →
        (∃ b l, g.producer.batch 0 (min summaryRows g.rowCount) = .ok b ∧ b.levels = .ok l) →
        (∀ f, outcome = .error f → f.kind = .delivery) ∧ (Loaded runs g.rowCount → ∃ r, outcome = .ok r)) := by
  obtain ⟨runs, outcome, t', hdeliver, hcalls, hne, hturn, hsound, htotal⟩ := after_deliver p text g objects clock t
  cases outcome with
  | error f =>
    refine ⟨runs, _, _, after_bind_error hdeliver, hcalls, hne, hturn, by simp, fun hwritable hrate _ => ?_⟩
    obtain ⟨hkind, hloaded⟩ := htotal hwritable hrate
    refine ⟨hkind, fun h => ?_⟩
    obtain ⟨r, hr, _⟩ := hloaded h
    exact ⟨r, hr⟩
  | ok result =>
    obtain ⟨outcome, t'', hsummarize, hsame, hsuccess, hends⟩ := after_summarize (g := g) uploaded result t'
    rw [after_bind_ok hdeliver, hsummarize]
    refine ⟨runs, _, _, rfl, hsame.trans hcalls, hne, hturn, ?_, fun hwritable hrate hsummary => ?_⟩
    · rintro ⟨r, hr⟩
      exact hsound result rfl (hsuccess r hr)
    · obtain ⟨_, hloaded⟩ := htotal hwritable hrate
      obtain ⟨hkind, hok⟩ := hends hsummary
      refine ⟨hkind, fun h => hok ?_⟩
      obtain ⟨_, ⟨⟩, hsuccessful⟩ := hloaded h
      exact hsuccessful

end Ingest

end LogMill
