import LogMill.Run.Configure

/-!
Exports: all rows of a run into one file.
-/

namespace LogMill

structure Export where
  path : Value := .text "benchmark_logs.csv"
  rows : Value := .int 100
  batchSize : Value := .int 10000
  seed : Value := .null

namespace Export

def ofFields (fields : List (String × Value)) : Except Misfit Export := do
  Value.onlyNames "generate_logs()" ["filename", "rows", "batch_size", "seed"] fields
  let given := fun name other => (fields.lookup name).getD other
  let fresh : Export := {}
  return {
    path := given "filename" fresh.path
    rows := given "rows" fresh.rows
    batchSize := given "batch_size" fresh.batchSize
    seed := given "seed" fresh.seed }

def batchSizeOf (e : Export) : Except Failure Value :=
  match e.rows.less e.batchSize with
  | .ok isLess => .ok (if isLess then e.rows else e.batchSize)
  | .error f => .error (.misfit f)

def settings (e : Export) : Except Failure Settings := do
  return { rowCount := e.rows, batchSize := ← e.batchSizeOf, seed := e.seed }

def configure (e : Export) (w : World) : Except Failure Generator × Journal :=
  match e.settings with
  | .error f => (.error f, [])
  | .ok s => s.configure w

def writeAll : List Batch → FileSink → Except FileSink.Fault FileSink × FileSink
  | [], s => (.ok s, s)
  | b :: bs, s =>
    match s.write b with
    | (.ok _, s) => writeAll bs s
    | (.error f, s) => (.error f, s)

def fill (batches : List Batch) (course : Generator.Course) : FileSink × Except Failure Unit :=
  let (written, sink) := writeAll batches .opened
  let outcome := match written, course with
    | .error f, _ => .error (.file f)
    | .ok _, .ended => .ok ()
    | .ok _, .failed f => .error (.producer f)
    | .ok _, .stuck => .error .endless
  (sink.close, outcome)

def summary (e : Export) (seed : Value) (rowsWritten : Int) (batches : List Batch) : Except Failure Unit × Journal :=
  let done := note .program ("Generated " ++ toString rowsWritten ++ " rows in " ++ e.path.plain ++ " (seed " ++
    seed.plain ++ ")")
  match batches.head?.elim (.ok []) Batch.levels with
  | .ok first => (.ok (), [done, note .program ("Level mix of first batch:" ++ LevelSummary.table first)])
  | .error f => (.error (.levels f), [done])

def run (e : Export) (w : World) : Except Failure Int × Journal × Directory :=
  match e.configure w with
  | (.error f, journal) => (.error f, journal, w.directory)
  | (.ok g, journal) =>
    match w.directory.target e.path with
    | .error f => (.error (.directory f), journal, w.directory)
    | .ok place =>
      let (batches, course, _) := g.drain
      let (sink, outcome) := fill batches course
      let directory := w.directory.write place (String.ofList sink.text)
      match outcome with
      | .error f => (.error f, journal, directory)
      | .ok _ =>
        let (outcome, notes) := e.summary g.pools.seed sink.rowsWritten batches
        (outcome.map fun _ => sink.rowsWritten, journal ++ notes, directory)

end Export

end LogMill
