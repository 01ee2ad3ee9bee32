import LogMill.Frame.Count
import LogMill.Report.Result

/-!
Rankings: results that were successful, by their speed.
-/

namespace LogMill

def Ranking.leads (x y : Double) : Bool := y = .nan || (x ≠ .nan && !x.less y)

def ranking (results : List Result) : List (Result × Double) :=
  let ranked := (results.filter Result.success).mergeSort fun a b => Ranking.leads a.rowsPerSecond b.rowsPerSecond
  match ranked with
  | [] => []
  | best :: _ => ranked.map fun r => (r, r.rowsPerSecond / best.rowsPerSecond)

namespace Ranking

def column (cells : List Value) : Except Count.Fault (List Int) :=
  let t := SeriesType.ofCells cells
  cells.mapM fun v => Count.numberOf t (t.cell v)

def toFields (ranked : List (Result × Double)) : Except Count.Fault (List (List (String × Value))) := do
  let results := ranked.map Prod.fst
  let totals ← column (results.map Result.totalRows)
  let durations ← column (results.map Result.durationMs)
  let counts ← column (results.map Result.batchCount)
  return (ranked.zip (totals.zip (durations.zip counts))).map fun ((r, relative), total, duration, count) =>
    [("provider_name", r.provider), ("total_rows", .int total), ("duration_ms", .int duration),
      ("batch_count", .int count), ("rows_per_second", .real r.rowsPerSecond), ("relative", .real relative)]

end Ranking

def rankingTable (ranked : List (Result × Double)) : String :=
  let row := fun ((r, relative) : Result × Double) =>
    "\n" ++ String.intercalate " " [r.provider.plain, r.totalRows.plain, r.durationMs.plain,
      r.rowsPerSecond.text, relative.text]
  "\nprovider_name total_rows duration_ms rows_per_second relative" ++ String.join (ranked.map row)

def rankingEntry (results : List Result) : Entry :=
  if (ranking results).isEmpty then note .report "No successful benchmarks to display"
  else note .report ("Benchmark results:" ++ rankingTable (ranking results))

end LogMill
