import LogMill.Report.Levels
import LogMill.Report.Ranking
import LogMill.Run.Benchmark
import LogMill.Run.Plan

/-!
Ingestion: old objects are removed, the rows of a plan are uploaded in streams, and the warehouse loads them.
Every part begins only when the one before it has succeeded.
-/

namespace LogMill

namespace Ingest

structure Uploads where
  sinks : List Upload
  calls : List Call
  journal : Journal

/-- What is seen of an ingestion: the journals of the main thread and of the streams, and all calls. -/
structure Trace where
  main : Journal
  workers : Journal
  warehouse : Warehouse.State

def Trace.calls (t : Trace) : List Call := t.warehouse.calls

def Trace.withCalls (t : Trace) (calls : List Call) : Trace :=
  { t with warehouse := { t.warehouse with calls } }

abbrev Act := ExceptT Failure (StateM Trace)

def tell (j : Journal) : Act Unit := modify fun t => { t with main := t.main ++ j }

def report (text : String) : Act Unit := tell [note .program text]

def sinks (client : Store.Client) (bucket : Value) (keyPrefix table : String) : Sinks Uploads where
  create _ w := (.ok (), { w with sinks := w.sinks ++ [Upload.opened bucket keyPrefix table] })
  write i b w :=
    match w.sinks[i]? with
    | none => (.ok 0, w)
    | some u =>
      let (outcome, u, calls, journal) := u.write b client w.calls
      (outcome.mapError .upload, ⟨w.sinks.set i u, calls, w.journal ++ journal⟩)
  close i w :=
    match w.sinks[i]? with
    | none => (none, w)
    | some u => (none, { w with journal := w.journal ++ [u.closing] })

def ask {α : Type} (work : Warehouse.State → Except Warehouse.Fault α × Warehouse.State × Journal) :
    Act (Except Warehouse.Fault α) := do
  let (outcome, state, journal) := work (← get).warehouse
  modify fun t => { t with warehouse := state }
  tell journal
  return outcome

def require {α : Type} (outcome : Except Warehouse.Fault α) : Act α :=
  match outcome with
  | .ok a => return a
  | .error f => throw (.warehouse f)

def clear (client : Store.Client) (bucket : Value) (place : String) : Act Unit := do
  let (outcome, calls, journal) := Store.clear client bucket (.text place) (← get).calls
  modify fun t => t.withCalls calls
  tell journal
  match outcome with
  | .ok _ => return
  | .error f => throw (.store f)

def upload (p : Plan) (client : Store.Client) (keyPrefix : String) (g : Generator)
    (order : List Generator → List Event) (clock streamClock : Clock) : Act (Result × Nat) := do
  let benchmark : Benchmark :=
    { provider := .text "S3 upload", table := p.table, parallelism := .int p.parallelism }
  let uploads : Uploads := ⟨[], (← get).calls, []⟩
  match benchmark.runIn order g (sinks client p.bucket keyPrefix p.table.plain) uploads clock streamClock with
  | .error f => throw (.setting f)
  | .ok outcome =>
    let w := outcome.streams.world
    modify fun t => { t.withCalls w.calls with workers := outcome.streams.journal ++ w.journal }
    tell outcome.journal
    let result ← outcome.result
    tell result.display
    if !result.success then throw (.uploading result.error)
    return (result, w.sinks.foldr (fun u n => u.keys.length + n) 0)

def load (p : Plan) (loader : Loader) (keyPrefix : String) (g : Generator) (objects : Nat)
    (clock : Clock) : Act Result := do
  let fresh : Result := { provider := .text "Redshift COPY", table := p.table, totalRows := .int g.rowCount }
  match ← ask (loader.copy p.table.plain p.bucket.plain keyPrefix p.role) with
  | .error f => return fresh.failed (.text f.message)
  | .ok loaded =>
    let reported ← loaded.inText.mapError Failure.number
    report ("COPY reported " ++ reported ++ " rows")
    if loaded.equalsInt g.rowCount then
      let elapsed ← (Benchmark.elapsedMs clock).mapError Failure.elapsed
      match fresh.succeeded g.rowCount elapsed objects with
      | .ok result => return result
      | .error f => throw (.arithmetic f)
    else
      return fresh.failed
        (.text ("COPY loaded " ++ reported ++ " rows, expected " ++ toString g.rowCount))

def summaryRows : Int := 1000

def summaryBatch (g : Generator) : Act Batch :=
  match g.producer.batch 0 (min summaryRows g.rowCount) with
  | .ok b => return b
  | .error f => throw (.producer f)

def levels (b : Batch) : Act (List LevelSummary) :=
  match b.levels with
  | .ok l => return l
  | .error f => throw (.levels f)

def keyPrefix (p : Plan) : Act String :=
  match p.keyPrefix with
  | .text s => return s
  | v => throw (.misfit (.noMember v.kindName "strip"))

def prepare (p : Plan) (w : World) : Act (Generator × String) := do
  if !p.bucket.isPresent || !p.workgroup.isPresent then throw (.setting .noDestination)
  report "Starting log ingestion benchmark..."
  let (configured, journal) := p.settings.configure w
  tell journal
  let g ← configured
  report ("Pools built in " ++ millisecondsText g.pools.buildTime ++ "ms")
  return (g, ← keyPrefix p)

def deliver (p : Plan) (keyPrefix : String) (g : Generator) (objects : Nat) (clock : Clock) : Act Result := do
  let loader : Loader := ⟨p.workgroup, p.database⟩
  require (← ask (loader.createTable p.table.plain))
  require (← ask (loader.truncate p.table.plain))
  load p loader keyPrefix g objects clock

def summarize (g : Generator) (uploaded result : Result) : Act Result := do
  tell result.display
  tell [rankingEntry [uploaded, result]]
  if !result.success then throw (.loading result.error)
  let sample ← summaryBatch g
  report ("Transformation complete. Level summary of first " ++ toString sample.size ++ " rows:" ++
    LevelSummary.table (← levels sample))
  report "Successfully loaded data into Redshift."
  return result

def act (p : Plan) (w : World) (client : Store.Client) (order : List Generator → List Event)
    (streamClock : Clock) : Act Result := do
  let (g, keyPrefix) ← prepare p w
  clear client p.bucket (tablePrefix keyPrefix p.table.plain)
  report ("Extracting generated rows to s3://" ++ p.bucket.plain ++ "/" ++ keyPrefix)
  let (uploaded, objects) ← upload p client keyPrefix g order (w.clock.after 2) streamClock
  let result ← deliver p keyPrefix g objects (w.clock.after 4)
  summarize g uploaded result

def run (p : Plan) (w : World) (client : Store.Client) (warehouse : Warehouse.State)
    (order : List Generator → List Event) (streamClock : Clock) : Except Failure Result × Trace :=
  (act p w client order streamClock).run.run ⟨[], [], warehouse⟩

end Ingest

end LogMill
