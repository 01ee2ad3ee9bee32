import LogMill.Failure
import LogMill.Report.Result

/-!
Streams: each walks a generator of its own and hands the batches to a sink of its own, while all of them
look at one flag before each batch. A run of streams is a sequence of events, in any order that the streams
take: the next stream is launched, or a stream takes its next step.
-/

namespace LogMill

/-- How sinks behave, by the number of the stream, over a state that they share. -/
structure Sinks (σ : Type) where
  create : Nat → σ → Except Failure Unit × σ
  write : Nat → Batch → σ → Except Failure Int × σ
  close : Nat → σ → Option Failure × σ

inductive Phase where
  | checking
  | reading
  | writing (b : Batch)
  | failing (f : Failure)
  | closing (f : Option Failure)
  | done (f : Option Failure)

structure Stream where
  generator : Generator
  phase : Phase
  rows : Int
  handed : List Batch
  accepted : Nat
  journal : Journal

namespace Stream

@[simp]
def launched (g : Generator) : Stream := ⟨g, .checking, 0, [], 0, []⟩

def rate (rows : Int) (batches : Nat) (clock : Clock) : Except Arithmetic.Fault Double :=
  let elapsed := clock batches - clock 0
  if (Double.finite 0).less elapsed then (Double.ofInt? rows).elim (.error .tooLarge) fun x => .ok (x / elapsed)
  else .ok (.finite 0)

def progress (i : Nat) (rows : Int) (batches : Nat) (clock : Clock) : Except Failure Entry := do
  let speed ← (rate rows batches clock).mapError .arithmetic
  let number ← (Whole.text i).mapError .number
  let batch ← (Whole.text batches).mapError .number
  let rows ← (Whole.text rows).mapError .number
  return note .runner ("Stream " ++ number ++ " batch " ++ batch ++ ": " ++ rows ++ " rows processed (" ++
    speed.wholeText ++ " rows/sec)")

/-- One step of stream `i`, with the flag and the shared state after it. -/
def step {σ : Type} (sinks : Sinks σ) (clock : Clock) (i : Nat) (s : Stream) (flag : Bool) (w : σ) :
    Stream × Bool × σ :=
  match s.phase with
  | .checking => ({ s with phase := if flag then .closing none else .reading }, flag, w)
  | .reading =>
    match s.generator.next with
    | .error f => ({ s with phase := .failing (.producer f) }, flag, w)
    | .ok (none, g) => ({ s with generator := g, phase := .closing none }, flag, w)
    | .ok (some b, g) => ({ s with generator := g, phase := .writing b }, flag, w)
  | .writing b =>
    let s := { s with handed := s.handed ++ [b] }
    match sinks.write i b w with
    | (.error f, w) => ({ s with phase := .failing f }, flag, w)
    | (.ok n, w) =>
      let s := { s with rows := s.rows + n, accepted := s.accepted + 1 }
      match progress i s.rows s.accepted clock with
      | .error f => ({ s with phase := .failing f }, flag, w)
      | .ok entry => ({ s with phase := .checking, journal := s.journal ++ [entry] }, flag, w)
  | .failing f => ({ s with phase := .closing (some f) }, true, w)
  | .closing f =>
    match sinks.close i w with
    | (none, w) => ({ s with phase := .done f }, flag, w)
    | (some e, w) => ({ s with phase := .done (some e) }, flag, w)
  | .done _ => (s, flag, w)

section Steps

variable {σ : Type} (sinks : Sinks σ) (clock : Clock) (i : Nat) (g : Generator) (rows : Int) (handed : List Batch)
  (accepted : Nat) (journal : Journal) (flag : Bool) (w : σ)

@[simp] theorem step_checking : step sinks clock i ⟨g, .checking, rows, handed, accepted, journal⟩ flag w =
    (⟨g, if flag then .closing none else .reading, rows, handed, accepted, journal⟩, flag, w) := rfl

@[simp] theorem step_reading : step sinks clock i ⟨g, .reading, rows, handed, accepted, journal⟩ flag w =
    match g.next with
    | .error f => (⟨g, .failing (.producer f), rows, handed, accepted, journal⟩, flag, w)
    | .ok (none, g) => (⟨g, .closing none, rows, handed, accepted, journal⟩, flag, w)
    | .ok (some b, g) => (⟨g, .writing b, rows, handed, accepted, journal⟩, flag, w) := rfl

@[simp] theorem step_writing (b : Batch) :
    step sinks clock i ⟨g, .writing b, rows, handed, accepted, journal⟩ flag w =
      match sinks.write i b w with
      | (.error f, w) => (⟨g, .failing f, rows, handed ++ [b], accepted, journal⟩, flag, w)
      | (.ok n, w) =>
        match progress i (rows + n) (accepted + 1) clock with
        | .error f => (⟨g, .failing f, rows + n, handed ++ [b], accepted + 1, journal⟩, flag, w)
        | .ok entry => (⟨g, .checking, rows + n, handed ++ [b], accepted + 1, journal ++ [entry]⟩, flag, w) := rfl

@[simp] theorem step_failing (f : Failure) : step sinks clock i ⟨g, .failing f, rows, handed, accepted, journal⟩ flag w =
    (⟨g, .closing (some f), rows, handed, accepted, journal⟩, true, w) := rfl

@[simp] theorem step_closing (f : Option Failure) :
    step sinks clock i ⟨g, .closing f, rows, handed, accepted, journal⟩ flag w =
      match sinks.close i w with
      | (none, w) => (⟨g, .done f, rows, handed, accepted, journal⟩, flag, w)
      | (some e, w) => (⟨g, .done (some e), rows, handed, accepted, journal⟩, flag, w) := rfl

@[simp] theorem step_done (f : Option Failure) :
    step sinks clock i ⟨g, .done f, rows, handed, accepted, journal⟩ flag w =
      (⟨g, .done f, rows, handed, accepted, journal⟩, flag, w) := rfl

end Steps

def raised? (s : Stream) : Option Failure :=
  match s.phase with
  | .done f => f
  | _ => none

def isDone (s : Stream) : Bool :=
  match s.phase with
  | .done _ => true
  | _ => false

section Ends

variable (g : Generator) (p : Phase) (rows : Int) (handed : List Batch) (accepted : Nat) (journal : Journal)

@[simp] theorem raised?_mk : raised? ⟨g, p, rows, handed, accepted, journal⟩ =
    match p with
    | .done f => f
    | _ => none := rfl

@[simp] theorem isDone_mk : isDone ⟨g, p, rows, handed, accepted, journal⟩ =
    match p with
    | .done _ => true
    | _ => false := rfl

end Ends

end Stream

structure Streams (σ : Type) where
  waiting : List Generator
  launched : List Stream
  flag : Bool
  refused : Option Failure
  world : σ

inductive Event where
  | launch
  | advance (i : Nat)
deriving DecidableEq

namespace Streams

variable {σ : Type}

def start (generators : List Generator) (w : σ) : Streams σ := ⟨generators, [], false, none, w⟩

def launch (sinks : Sinks σ) (s : Streams σ) : Streams σ :=
  match s.waiting with
  | [] => s
  | g :: gs =>
    match sinks.create s.launched.length s.world with
    | (.ok _, w) => { s with waiting := gs, launched := s.launched ++ [Stream.launched g], world := w }
    | (.error f, w) => { s with waiting := [], refused := some f, world := w }

def step (sinks : Sinks σ) (clock : Clock) (s : Streams σ) : Event → Streams σ
  | .launch => s.launch sinks
  | .advance i =>
    match s.launched[i]? with
    | none => s
    | some stream =>
      let (stream, flag, w) := stream.step sinks clock i s.flag s.world
      { s with launched := s.launched.set i stream, flag, world := w }

def run (sinks : Sinks σ) (clock : Clock) (s : Streams σ) (events : List Event) : Streams σ :=
  events.foldl (step sinks clock) s

section Steps

variable (sinks : Sinks σ) (clock : Clock) (s : Streams σ)

@[simp] theorem launch_nil (launched : List Stream) (flag : Bool) (refused : Option Failure) (w : σ) :
    launch sinks ⟨[], launched, flag, refused, w⟩ = ⟨[], launched, flag, refused, w⟩ := rfl

@[simp] theorem launch_cons (g : Generator) (gs : List Generator) (launched : List Stream) (flag : Bool)
    (refused : Option Failure) (w : σ) :
    launch sinks ⟨g :: gs, launched, flag, refused, w⟩ =
      match sinks.create launched.length w with
      | (.ok _, w) => ⟨gs, launched ++ [Stream.launched g], flag, refused, w⟩
      | (.error f, w) => ⟨[], launched, flag, some f, w⟩ := rfl

@[simp] theorem step_launch : s.step sinks clock .launch = s.launch sinks := rfl

@[simp] theorem step_advance (i : Nat) : s.step sinks clock (.advance i) =
    match s.launched[i]? with
    | none => s
    | some t => { s with
        launched := s.launched.set i (t.step sinks clock i s.flag s.world).1
        flag := (t.step sinks clock i s.flag s.world).2.1
        world := (t.step sinks clock i s.flag s.world).2.2 } := by
  cases h : s.launched[i]? <;> simp only [step, h]

@[simp] theorem run_nil : s.run sinks clock [] = s := rfl

@[simp] theorem run_cons (e : Event) (es : List Event) :
    s.run sinks clock (e :: es) = (s.step sinks clock e).run sinks clock es := rfl

theorem run_append (xs ys : List Event) :
    s.run sinks clock (xs ++ ys) = (s.run sinks clock xs).run sinks clock ys := List.foldl_append

end Steps

def isOver (s : Streams σ) : Bool := s.waiting.isEmpty && s.launched.all Stream.isDone

/-- What decides the run: a sink that could not be made, or else the first stream, by number, that failed. -/
def failure? (s : Streams σ) : Option Failure := s.refused <|> s.launched.findSome? Stream.raised?

def rows (s : Streams σ) : Int := s.launched.foldr (fun t n => t.rows + n) 0

def batches (s : Streams σ) : Nat := s.launched.foldr (fun t n => t.accepted + n) 0

def journal (s : Streams σ) : Journal := s.launched.flatMap Stream.journal

def stepsFor (g : Generator) : Nat := 3 * (-Int.fdiv (-g.remaining) (max 1 g.batchSize)).toNat + 6

/-- The order in which each stream is launched and goes to its end before the next one is launched. -/
def inTurn (generators : List Generator) : List Event :=
  generators.zipIdx.flatMap fun (g, i) => .launch :: List.replicate (stepsFor g) (.advance i)

end Streams

end LogMill
