import LogMill.Row.Generator

namespace LogMill

structure Walk where
  producer : Producer
  pools : PoolSet
  batchSize : Value
  start : Value
  stop : Value
  cursor : Value

namespace Walk

inductive Fault where
  | producer (f : Producer.Fault)
  | setting (f : Setting.Fault)
  | misfit (f : Misfit)
  | arithmetic (f : Arithmetic.Fault)
deriving DecidableEq

def Fault.message : Fault → String
  | producer f => f.message
  | setting f => f.message
  | misfit f => f.message
  | arithmetic f => f.message

def Fault.kind : Fault → Kind
  | producer f => f.kind
  | setting _ => .setting
  | misfit f => f.kind
  | arithmetic f => f.kind

instance Fault.explained : Explained Fault := ⟨Fault.kind, Fault.message⟩

def ofGenerator (g : Generator) : Walk :=
  ⟨g.producer, g.pools, .int g.batchSize, .int g.start, .int g.stop, .int g.cursor⟩

def ofRange (p : Producer) (pools : PoolSet) (batchSize start stop : Value) : Walk :=
  let stop := match stop with
    | .null => .int p.rowCount
    | stop => stop
  ⟨p, pools, batchSize, start, stop, start⟩

def generator? (w : Walk) : Option Generator :=
  match w.batchSize, w.start, w.stop, w.cursor with
  | .int batchSize, .int start, .int stop, .int cursor => some ⟨w.producer, w.pools, batchSize, start, stop, cursor⟩
  | _, _, _, _ => none

def rowCount (w : Walk) : Except Fault Value := (w.stop.sub w.start).mapError .arithmetic

def remaining (w : Walk) : Except Fault Value := (w.stop.sub w.cursor).mapError .arithmetic

def shown (w : Walk) : String :=
  "LogDataGenerator(range=[" ++ w.start.plain ++ ", " ++ w.stop.plain ++ "), batch_size=" ++ w.batchSize.plain ++ ")"

def reset (w : Walk) : Walk := { w with cursor := w.start }

def next (w : Walk) : Except Fault (Option Batch × Walk) :=
  match w.generator? with
  | some g => (g.next.map fun (b, g) => (b, ofGenerator g)).mapError .producer
  | none => do
    if ← (w.cursor.atLeast w.stop).mapError .misfit then return (none, w)
    let count ← (w.batchSize.lesser (← w.remaining)).mapError .misfit
    let b ← (w.producer.batchOf w.cursor count).mapError .producer
    return (some b, { w with cursor := ← b.stop.mapError .arithmetic })

inductive Course where
  | ended
  | failed (f : Fault)
  | stuck
deriving DecidableEq

def drainFor : Nat → Walk → List Batch × Course × Walk
  | 0, w => ([], .stuck, w)
  | n + 1, w =>
    match w.next with
    | .error f => ([], .failed f, w)
    | .ok (none, w) => ([], .ended, w)
    | .ok (some b, w) =>
      if b.rows = [] then ([], .stuck, w)
      else
        let (bs, course, last) := drainFor n w
        (b :: bs, course, last)

def drain (w : Walk) : List Batch × Course × Walk :=
  match w.generator? with
  | some g =>
    let (bs, course, g) := g.drain
    let course := match course with
      | .ended => .ended
      | .failed f => .failed (.producer f)
      | .stuck => .stuck
    (bs, course, ofGenerator g)
  | none => drainFor ((w.producer.rowCount - (w.cursor.whole?.getD 0)).toNat + 1) w

def split (w : Walk) (streams : Value) : Except Fault (List Walk) :=
  match w.generator? with
  | some g => ((g.split streams).map fun gs => gs.map ofGenerator).mapError .setting
  | none => do
    let n ← (requirePositive "streams" streams).mapError .setting
    let remaining ← w.remaining
    match w.cursor.whole?, w.stop.whole? with
    | some cursor, some stop =>
      let g : Generator := ⟨w.producer, w.pools, 0, cursor, stop, cursor⟩
      (g.pieces n).mapM fun piece => do
        let high ← ((Value.int (piece.start + g.chunk n)).lesser w.stop).mapError .misfit
        return ofRange w.producer w.pools w.batchSize (.int piece.start) high
    | _, _ =>
      discard ((remaining.toReal (.noCount "float")).mapError .arithmetic)
      discard (((Value.int n).toReal (.noCount "float")).mapError .arithmetic)
      throw (.misfit (.noCount "float"))

end Walk

end LogMill
