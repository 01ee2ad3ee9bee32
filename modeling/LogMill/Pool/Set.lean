import LogMill.Clock
import LogMill.Journal
import LogMill.Pool.Values

/-!
The pools of a run, one for each category. Every category has a random state of its own, so that no pool
depends on the others.
-/

namespace LogMill

structure PoolSet where
  pools : List Pool
  seed : Value
  size : Int
  buildTime : Int

namespace PoolSet

inductive Fault where
  | noPool (shown : String)
  | misfit (f : Misfit)
deriving DecidableEq

def Fault.message : Fault → String
  | noPool shown => shown
  | misfit f => f.message

def Fault.kind : Fault → Kind
  | noPool _ => .key
  | misfit f => f.kind

instance Fault.explained : Explained Fault := ⟨Fault.kind, Fault.message⟩

def find? (s : PoolSet) (name : String) : Option Pool := s.pools.find? fun p => p.name = name

def get (s : PoolSet) (category : Value) : Except Fault Pool := do
  match (← category.key?.mapError .misfit).bind s.find? with
  | some p => return p
  | none => throw (.noPool category.shown)

def holds (s : PoolSet) (category : Value) : Except Misfit Bool := do
  return ((← category.key?).bind s.find?).isSome

def stateFor (seed : Value) (c : Category) : Twister := Twister.ofText (seed.plain ++ ":" ++ c.column)

def poolFor (seed : Value) (size : Int) (c : Category) : Pool := (Pool.ofSize c size (stateFor seed c)).1

/-- Builds every pool with a number of values. Without a seed the number drawn by the system is the seed; the
clock is read twice. -/
def ofSize (size : Int) (seed : Value) (drawn : Int) (clock : Clock) : Except Duration.Fault PoolSet × Journal :=
  let (seed, notes) := match seed with
    | .null => (.int drawn, [note .pools ("No pool seed given, using " ++ toString drawn)])
    | seed => (seed, [])
  let begun := notes ++ [note .pools ("Pre-generating " ++ toString size ++ " values per pool for " ++
    toString Category.all.length ++ " pools...")]
  match Duration.ofSeconds (clock 1 - clock 0) with
  | .error f => (.error f, begun)
  | .ok time =>
    (.ok ⟨Category.all.map (poolFor seed size), seed, size, time⟩,
      begun ++ [note .pools ("Pre-generation completed in " ++ millisecondsText time ++ "ms")])

def build (rows cap : Int) (seed : Value) (drawn : Int) (clock : Clock) : Except Duration.Fault PoolSet × Journal :=
  ofSize (Pool.sizeFor rows cap) seed drawn clock

end PoolSet

end LogMill
