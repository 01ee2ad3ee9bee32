import LogMill.Failure

/-!
From settings to a generator. Whatever is wrong with the settings or the templates shows before any row is
made.
-/

namespace LogMill

/-- What a program finds when it starts: the time in milliseconds, a number drawn by the system, a clock and
a directory. -/
structure World where
  now : Int
  drawn : Int
  clock : Clock
  directory : Directory

structure Settings where
  rowCount : Value := .int 2000000
  batchSize : Value := .int 100000
  poolCap : Value := .null
  seed : Value := .null
  baseTime : Value := .null
  templates : Value := .null
  templatesPath : Value := .null

namespace Settings

def names : List String :=
  ["row_count", "batch_size", "pool_cap", "seed", "base_time", "templates", "templates_path"]

def ofFields (fields : List (String × Value)) : Except Misfit Settings := do
  Value.onlyNames "configure()" names fields
  let given := fun name other => (fields.lookup name).getD other
  let fresh : Settings := {}
  return {
    rowCount := given "row_count" fresh.rowCount
    batchSize := given "batch_size" fresh.batchSize
    poolCap := given "pool_cap" fresh.poolCap
    seed := given "seed" fresh.seed
    baseTime := given "base_time" fresh.baseTime
    templates := given "templates" fresh.templates
    templatesPath := given "templates_path" fresh.templatesPath }

def base (s : Settings) (now : Int) : Value :=
  match s.baseTime with
  | .null => .int now
  | v => v

def counts (s : Settings) : Except Setting.Fault (Int × Int × Option Int) := do
  let rows ← requirePositive "row_count" s.rowCount
  let batch ← requirePositive "batch_size" s.batchSize
  let cap ← requirePositive? "pool_cap" s.poolCap
  return (rows, batch, cap)

def table (s : Settings) (d : Directory) : Except Document.Fault Table :=
  match s.templatesPath, s.templates with
  | .null, .null => .ok Table.builtin
  | .null, v => (Table.ofValue v).mapError .table
  | path, _ => Document.load d path

def checked (s : Settings) (d : Directory) : Except Failure ((Int × Int × Option Int) × Table) := do
  return (← s.counts.mapError .setting, ← (s.table d).mapError .document)

/-- A generator of all rows, and the journal of its making, where counts and seeds have at most 4300 digits, as they do
in documents, in the environment and on the command line. The clock is read twice. -/
def configure (s : Settings) (w : World) : Except Failure Generator × Journal :=
  match s.checked w.directory with
  | .error f => (.error f, [])
  | .ok ((rows, batch, cap), table) =>
    let (built, journal) := PoolSet.build rows (cap.getD Pool.defaultCap) s.seed w.drawn w.clock
    match built with
    | .error f => (.error (.duration f), journal)
    | .ok pools =>
      match Feed.all pools table (s.base w.now) with
      | .error f => (.error (.feed f), journal)
      | .ok feeds =>
        let ready := "Generator ready: " ++ toString rows ++ " rows in batches of " ++ toString batch ++
          ", pool size " ++ toString pools.size ++ ", seed " ++ pools.seed.plain
        (.ok (Generator.ofRange ⟨feeds, rows⟩ pools batch 0 none), journal ++ [note .generator ready])

end Settings

end LogMill
