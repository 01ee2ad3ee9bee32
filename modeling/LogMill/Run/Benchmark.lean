import LogMill.Run.Stream

/-!
Benchmarks: the rows of a generator that are not yet read go through streams into sinks. The order of
events is given; the result depends on what the sinks answer, and a foreseen failure becomes a result too.
-/

namespace LogMill

structure Benchmark where
  provider : Value := .text "LogDataGenerator"
  table : Value := .text "benchmark_logs"
  parallelism : Value := .int 1

structure Benchmark.Outcome (σ : Type) where
  result : Except Failure Result
  streams : Streams σ
  journal : Journal

namespace Benchmark

variable {σ : Type}

def elapsedMs (clock : Clock) : Except Double.Fault Int := ((clock 1 - clock 0) * .finite 1000).truncate

def conclude (b : Benchmark) (expected : Int) (clock : Clock) (s : Streams σ) : Except Failure Result :=
  let fresh : Result := { provider := b.provider, table := b.table, totalRows := .int expected }
  match s.failure? with
  | some f => if f.isForeseen then .ok (fresh.failed (.text f.message)) else .error f
  | none => do
    let elapsed ← (elapsedMs clock).mapError .elapsed
    if s.rows = expected then (fresh.succeeded expected elapsed s.batches).mapError .arithmetic
    else
      let wanted ← (Whole.text expected).mapError .number
      let accepted ← (Whole.text s.rows).mapError .number
      return fresh.failed (.text ("Expected " ++ wanted ++ " rows, sinks accepted " ++ accepted))

/-- Runs the streams in an order of events. The first clock is read before and after the streams, the second
one by each stream. -/
def runIn (b : Benchmark) (order : List Generator → List Event) (g : Generator) (sinks : Sinks σ) (w : σ)
    (clock streamClock : Clock) : Except Setting.Fault (Outcome σ) := do
  let generators ← g.split b.parallelism
  let streams := Streams.run sinks streamClock (Streams.start generators w) (order generators)
  let begin := [note .runner ("Starting benchmark: " ++ b.provider.plain),
    note .runner ("Target rows: " ++ toString g.remaining ++ ", batch size: " ++ toString g.batchSize ++
      ", streams: " ++ toString generators.length)]
  let final := match streams.failure? with
    | some f =>
      if f.isForeseen then [alarm .runner ("Benchmark " ++ b.provider.plain ++ " failed: " ++ f.message)] else []
    | none => []
  return ⟨b.conclude g.remaining clock streams, streams, begin ++ final⟩

def run (b : Benchmark) (g : Generator) (sinks : Sinks σ) (w : σ) (clock streamClock : Clock) :
    Except Setting.Fault (Outcome σ) :=
  b.runIn Streams.inTurn g sinks w clock streamClock

end Benchmark

end LogMill
