import LogMill.Journal
import LogMill.Number.Shortest
import LogMill.Value.Arithmetic
import LogMill.Value.Display
import LogMill.Value.Order

namespace LogMill

structure Result where
  provider : Value
  table : Value
  totalRows : Value
  durationMs : Value := .int 0
  rowsPerSecond : Double := .finite 0
  batchCount : Value := .int 0
  success : Bool := false
  error : Value := .null

namespace Result

def rate (rows durationMs : Int) : Except Arithmetic.Fault Double :=
  if 0 < durationMs then
    (Double.ofInt? rows).elim (.error .tooLarge) fun x => .ok (x / .ofRat (durationMs / (1000 : Rat)))
  else .ok (.finite 0)

inductive Fault where
  | misfit (f : Misfit)
  | arithmetic (f : Arithmetic.Fault)
  | tooLong
  | noTime
deriving DecidableEq

def Fault.message : Fault → String
  | misfit f => f.message
  | arithmetic f => f.message
  | tooLong => "integer division result too large for a float"
  | noTime => "float division by zero"

def Fault.kind : Fault → Kind
  | misfit f => f.kind
  | arithmetic f => f.kind
  | tooLong => .overflow
  | noTime => .division

instance Fault.explained : Explained Fault := ⟨Fault.kind, Fault.message⟩

def seconds (durationMs : Value) : Except Fault Double :=
  match durationMs with
  | .real x => .ok (x / .finite 1000)
  | v =>
    let x := Double.ofRat ((v.whole?.getD 0) / (1000 : Rat))
    if x.toRat?.isNone then .error .tooLong else .ok x

def rateOf (rows durationMs : Value) : Except Fault Double := do
  discard ((durationMs.before ">" (.int 0)).mapError .misfit)
  if !((Value.int 0).less durationMs matches .ok true) then return .finite 0
  let seconds ← seconds durationMs
  let rows ← (rows.toReal (.operands "/" rows.kindName "float")).mapError .arithmetic
  if seconds.toRat? = some 0 then throw .noTime
  return rows / seconds

def succeededWith (r : Result) (durationMs batchCount : Value) : Except Fault Result := do
  return { r with durationMs, batchCount, rowsPerSecond := ← rateOf r.totalRows durationMs, success := true }

def succeeded (r : Result) (rows durationMs batchCount : Int) : Except Arithmetic.Fault Result := do
  return { r with
    totalRows := .int rows
    durationMs := .int durationMs
    batchCount := .int batchCount
    rowsPerSecond := ← rate rows durationMs
    success := true }

def failed (r : Result) (reason : Value) : Result := { r with error := reason, success := false }

def toFields (r : Result) : List (String × Value) :=
  [("provider_name", r.provider), ("table_name", r.table), ("total_rows", r.totalRows),
    ("duration_ms", r.durationMs), ("rows_per_second", .real r.rowsPerSecond),
    ("batch_count", r.batchCount), ("success", .bool r.success),
    ("error_message", r.error)]

def display (r : Result) : Journal :=
  [note .report ("=== " ++ r.provider.plain ++ " Benchmark Result ==="),
    note .report ("Table: " ++ r.table.plain),
    if r.success then
      note .report ("SUCCESS: " ++ r.totalRows.plain ++ " rows in " ++ r.batchCount.plain ++
        " batches, " ++ r.durationMs.plain ++ "ms, " ++ r.rowsPerSecond.wholeText ++ " rows/sec")
    else alarm .report ("FAILED: " ++ r.error.plain)]

end Result

end LogMill
