import LogMill.Row.Batch
import LogMill.Setting

/-!
Generators walk a range of rows in batches. The rows not yet read can be divided among streams, each with a
generator of its own.
-/

namespace LogMill

structure Generator where
  producer : Producer
  pools : PoolSet
  batchSize : Int
  start : Int
  stop : Int
  cursor : Int

namespace Generator

def ofRange (p : Producer) (pools : PoolSet) (batchSize start : Int) (stop : Option Int) : Generator :=
  ⟨p, pools, batchSize, start, stop.getD p.rowCount, start⟩

def rowCount (g : Generator) : Int := g.stop - g.start

def remaining (g : Generator) : Int := g.stop - g.cursor

def shown (g : Generator) : String :=
  "LogDataGenerator(range=[" ++ toString g.start ++ ", " ++ toString g.stop ++ "), batch_size=" ++
    toString g.batchSize ++ ")"

def next (g : Generator) : Except Producer.Fault (Option Batch × Generator) :=
  if g.stop ≤ g.cursor then .ok (none, g)
  else
    match g.producer.batch g.cursor (min g.batchSize g.remaining) with
    | .ok b => .ok (some b, { g with cursor := g.cursor + b.size })
    | .error f => .error f

def reset (g : Generator) : Generator := { g with cursor := g.start }

/-- What iterating comes to. A batch without rows leaves the cursor where it is, so that no end is reached. -/
inductive Course where
  | ended
  | failed (f : Producer.Fault)
  | stuck
deriving DecidableEq

theorem remaining_next {g g' : Generator} {b : Batch} (h : g.next = .ok (some b, g')) (hb : ¬ b.rows = []) :
    g'.remaining.toNat < g.remaining.toNat := by
  simp only [next] at h
  split at h
  · simp at h
  · split at h
    · simp only [Except.ok.injEq, Prod.mk.injEq, Option.some.injEq] at h
      obtain ⟨rfl, rfl⟩ := h
      have : 0 < (Batch.size _) := List.length_pos_iff.mpr hb
      simp only [remaining]
      omega
    · simp at h

def drain (g : Generator) : List Batch × Course × Generator :=
  match _h : g.next with
  | .ok (none, g') => ([], .ended, g')
  | .error f => ([], .failed f, g)
  | .ok (some b, g') =>
    if b.rows = [] then ([], .stuck, g')
    else
      let (bs, course, last) := g'.drain
      (b :: bs, course, last)
termination_by g.remaining.toNat
decreasing_by exact remaining_next _h ‹_›

def chunk (g : Generator) (streams : Int) : Int := max 1 (-Int.fdiv (-g.remaining) streams)

def pieces (g : Generator) (streams : Int) : List Generator :=
  let size := g.chunk streams
  (List.range (-Int.fdiv (-g.remaining) size).toNat).map fun (i : Nat) =>
    let low := g.cursor + i * size
    ofRange g.producer g.pools g.batchSize low (some (min (low + size) g.stop))

def split (g : Generator) (streams : Value) : Except Setting.Fault (List Generator) :=
  (requirePositive "streams" streams).map g.pieces

end Generator

end LogMill
