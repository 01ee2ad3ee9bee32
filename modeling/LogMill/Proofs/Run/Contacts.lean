import LogMill.Run.Benchmark
import LogMill.Proofs.Row.Roster

/-!
Contacts: what a run asks of its sinks and generators, and the reports of its streams, with the answers in the order in
which they come.
-/

namespace LogMill

inductive Contact where
  | create (i : Nat) (failure : Option Failure)
  | read (i : Nat) (failure : Option Failure)
  | write (i : Nat) (b : Batch) (answer : Except Failure Int)
  | report (i : Nat) (failure : Option Failure)
  | close (i : Nat) (failure : Option Failure)

namespace Contact

def failure? : Contact → Option Failure
  | create _ f | read _ f | report _ f | close _ f => f
  | write _ _ (.error f) => some f
  | write _ _ (.ok _) => none

def isCall : Contact → Bool
  | report _ _ => false
  | _ => true

def accepted : Contact → Int
  | write _ _ (.ok n) => n
  | _ => 0

def isAccepted : Contact → Bool
  | write _ _ (.ok _) => true
  | _ => false

def batch? : Contact → Option Batch
  | write _ b _ => some b
  | _ => none

def place : Contact → Nat
  | create i _ | read i _ | write i _ _ | report i _ | close i _ => i

def handed (asked : List Contact) : List Batch := asked.filterMap batch?

def handedTo (i : Nat) (asked : List Contact) : List Batch := handed (asked.filter fun a => a.place = i)

theorem handed_append (xs ys : List Contact) : handed (xs ++ ys) = handed xs ++ handed ys := List.filterMap_append

theorem handedTo_append (i : Nat) (xs ys : List Contact) : handedTo i (xs ++ ys) = handedTo i xs ++ handedTo i ys := by
  simp [handedTo, handed_append]

@[simp] theorem handed_create (i : Nat) (f : Option Failure) : handed [create i f] = [] := rfl

@[simp] theorem handedTo_create (i j : Nat) (f : Option Failure) : handedTo i [create j f] = [] := by
  by_cases h : j = i <;> simp [handedTo, handed, place, batch?, h]

theorem handedTo_own {i : Nat} {xs : List Contact} (h : ∀ a ∈ xs, a.place = i) : handedTo i xs = handed xs := by
  rw [handedTo, List.filter_eq_self.mpr]
  simpa using h

theorem handedTo_other {i j : Nat} {xs : List Contact} (h : ∀ a ∈ xs, a.place = i) (hj : j ≠ i) :
    handedTo j xs = [] := by
  rw [handedTo, List.filter_eq_nil_iff.mpr]
  · rfl
  · intro a ha
    simpa [h a ha] using hj.symm

end Contact

def Sinks.answering (answer : Nat → Int) : Sinks Unit where
  create _ w := (.ok (), w)
  write i _ w := (.ok (answer i), w)
  close _ w := (none, w)

def fault? {ε α : Type} : Except ε α → Option ε
  | .error f => some f
  | .ok _ => none

@[simp] theorem fault?_error {ε α : Type} (f : ε) : fault? (.error f : Except ε α) = some f := rfl

@[simp] theorem fault?_ok {ε α : Type} (a : α) : fault? (.ok a : Except ε α) = none := rfl

variable {σ : Type}

namespace Stream

def contacts (sinks : Sinks σ) (clock : Clock) (i : Nat) (t : Stream) (w : σ) : List Contact :=
  match t.phase with
  | .reading => [.read i ((fault? t.generator.next).map .producer)]
  | .writing b =>
    match (sinks.write i b w).1 with
    | .error f => [.write i b (.error f)]
    | .ok n => [.write i b (.ok n), .report i (fault? (progress i (t.rows + n) (t.accepted + 1) clock))]
  | .closing _ => [.close i (sinks.close i w).1]
  | .checking | .failing _ | .done _ => []

section Phases

variable (sinks : Sinks σ) (clock : Clock) (i : Nat) (g : Generator) (rows : Int) (handed : List Batch) (accepted : Nat)
  (journal : Journal) (w : σ)

@[simp] theorem contacts_checking : contacts sinks clock i ⟨g, .checking, rows, handed, accepted, journal⟩ w = [] := rfl

@[simp] theorem contacts_reading : contacts sinks clock i ⟨g, .reading, rows, handed, accepted, journal⟩ w =
    [.read i ((fault? g.next).map .producer)] := rfl

@[simp] theorem contacts_writing (b : Batch) :
    contacts sinks clock i ⟨g, .writing b, rows, handed, accepted, journal⟩ w =
      match (sinks.write i b w).1 with
      | .error f => [.write i b (.error f)]
      | .ok n => [.write i b (.ok n), .report i (fault? (progress i (rows + n) (accepted + 1) clock))] := rfl

@[simp] theorem contacts_failing (f : Failure) :
    contacts sinks clock i ⟨g, .failing f, rows, handed, accepted, journal⟩ w = [] := rfl

@[simp] theorem contacts_closing (f : Option Failure) :
    contacts sinks clock i ⟨g, .closing f, rows, handed, accepted, journal⟩ w = [.close i (sinks.close i w).1] := rfl

@[simp] theorem contacts_done (f : Option Failure) :
    contacts sinks clock i ⟨g, .done f, rows, handed, accepted, journal⟩ w = [] := rfl

end Phases

def failure? (t : Stream) : Option Failure :=
  match t.phase with
  | .failing f => some f
  | .closing f | .done f => f
  | .checking | .reading | .writing _ => none

def isEnding (t : Stream) : Bool :=
  match t.phase with
  | .closing _ | .done _ => true
  | _ => false

structure Advances (i : Nat) (asked : List Contact) (t t' : Stream) (flag flag' : Bool) : Prop where
  generator : t'.generator = t.generator ∨ ∃ b, t.generator.next = .ok (b, t'.generator)
  own : ∀ a ∈ asked, a.place = i
  handed : t'.handed = t.handed ++ Contact.handed asked
  rows : t'.rows = t.rows + (asked.map Contact.accepted).sum
  accepted : t'.accepted = t.accepted + asked.countP Contact.isAccepted
  failure : t'.failure?.isSome ↔ t.failure?.isSome ∨ ∃ a ∈ asked, a.failure?.isSome
  raised : t.failure? = none → flag' = flag
  stays : flag = true → flag' = true
  ending : t'.isEnding → t'.failure? = none → t.isEnding ∧ t'.generator = t.generator ∨ flag = true ∨
    t'.generator.stop ≤ t'.generator.cursor

theorem step_advances (sinks : Sinks σ) (clock : Clock) (i : Nat) (t : Stream) (flag : Bool) (w : σ) :
    Advances i (t.contacts sinks clock i w) t (t.step sinks clock i flag w).1 flag (t.step sinks clock i flag w).2.1 := by
  obtain ⟨g, phase, rows, handed, accepted, journal⟩ := t
  cases phase with
  | checking => cases flag <;> constructor <;> simp [Contact.handed, failure?, isEnding]
  | reading =>
    cases hn : g.next with
    | error f =>
      constructor <;> simp [hn, Contact.place, Contact.handed, Contact.batch?,
        Contact.accepted, Contact.isAccepted, Contact.failure?, failure?, isEnding]
    | ok x =>
      obtain ⟨b, g'⟩ := x
      cases b with
      | none =>
        obtain ⟨hs, rfl⟩ := Generator.next_eq_none hn
        constructor <;> simp [hn, Contact.place, Contact.handed, Contact.batch?,
          Contact.accepted, Contact.isAccepted, Contact.failure?, failure?, isEnding, hs]
      | some b =>
        constructor <;> simp [hn, Contact.place, Contact.handed, Contact.batch?,
          Contact.accepted, Contact.isAccepted, Contact.failure?, failure?, isEnding]
  | writing b =>
    cases hw : sinks.write i b w with
    | mk answer w' =>
      cases answer with
      | error f =>
        constructor <;> simp [hw, Contact.place, Contact.handed, Contact.batch?,
          Contact.accepted, Contact.isAccepted, Contact.failure?, failure?, isEnding]
      | ok n =>
        cases hr : progress i (rows + n) (accepted + 1) clock <;> constructor <;>
          simp [hw, hr, Contact.place, Contact.handed, Contact.batch?, Contact.accepted, Contact.isAccepted,
            List.countP_cons, Contact.failure?, failure?, isEnding]
  | failing f => constructor <;> simp [Contact.handed, failure?, isEnding]
  | closing f =>
    cases hc : sinks.close i w with
    | mk answer w' =>
      cases answer <;> constructor <;> simp [hc, Contact.place, Contact.handed, Contact.batch?,
        Contact.accepted, Contact.isAccepted, Contact.failure?, failure?, isEnding]
  | done f => constructor <;> simp [Contact.handed, failure?, isEnding]

end Stream

namespace Streams

def contactsOf (sinks : Sinks σ) (clock : Clock) (s : Streams σ) : Event → List Contact
  | .launch =>
    match s.waiting with
    | [] => []
    | _ :: _ => [.create s.launched.length (fault? (sinks.create s.launched.length s.world).1)]
  | .advance i =>
    match s.launched[i]? with
    | none => []
    | some t => t.contacts sinks clock i s.world

def contacts (sinks : Sinks σ) (clock : Clock) (s : Streams σ) : List Event → List Contact
  | [] => []
  | e :: es => s.contactsOf sinks clock e ++ (s.step sinks clock e).contacts sinks clock es

section Events

variable (sinks : Sinks σ) (clock : Clock) (s : Streams σ)

@[simp] theorem contactsOf_launch_cons (g : Generator) (gs : List Generator) (launched : List Stream) (flag : Bool)
    (refused : Option Failure) (w : σ) : contactsOf sinks clock ⟨g :: gs, launched, flag, refused, w⟩ .launch =
      [.create launched.length (fault? (sinks.create launched.length w).1)] := rfl

@[simp] theorem contactsOf_advance (i : Nat) : s.contactsOf sinks clock (.advance i) =
    match s.launched[i]? with
    | none => []
    | some t => t.contacts sinks clock i s.world := rfl

@[simp] theorem contacts_nil : s.contacts sinks clock [] = [] := rfl

@[simp] theorem contacts_cons (e : Event) (es : List Event) : s.contacts sinks clock (e :: es) =
    s.contactsOf sinks clock e ++ (s.step sinks clock e).contacts sinks clock es := rfl

end Events

/-- All that an event can do with streams, and what is asked in it. -/
inductive Steps (sinks : Sinks σ) (clock : Clock) (s : Streams σ) : List Contact → Streams σ → Prop where
  | idle : Steps sinks clock s [] s
  | refused (g : Generator) (gs : List Generator) (f : Failure) (w : σ) (hwaiting : s.waiting = g :: gs)
    (hcreate : sinks.create s.launched.length s.world = (.error f, w)) :
    Steps sinks clock s [.create s.launched.length (some f)] { s with waiting := [], refused := some f, world := w }
  | launched (g : Generator) (gs : List Generator) (w : σ) (hwaiting : s.waiting = g :: gs)
    (hcreate : sinks.create s.launched.length s.world = (.ok (), w)) :
    Steps sinks clock s [.create s.launched.length none]
      { s with waiting := gs, launched := s.launched ++ [Stream.launched g], world := w }
  | advanced (i : Nat) (t : Stream) (ht : s.launched[i]? = some t) :
    Steps sinks clock s (t.contacts sinks clock i s.world)
      { s with
        launched := s.launched.set i (t.step sinks clock i s.flag s.world).1
        flag := (t.step sinks clock i s.flag s.world).2.1
        world := (t.step sinks clock i s.flag s.world).2.2 }

theorem steps (sinks : Sinks σ) (clock : Clock) (s : Streams σ) (e : Event) :
    Steps sinks clock s (s.contactsOf sinks clock e) (s.step sinks clock e) := by
  cases e with
  | launch =>
    obtain ⟨waiting, launched, flag, refused, w⟩ := s
    cases waiting with
    | nil => exact .idle
    | cons g gs =>
      cases hc : sinks.create launched.length w with
      | mk answer w' =>
        cases answer with
        | error f => simpa [hc] using Steps.refused g gs f w' rfl hc
        | ok _ => simpa [hc] using Steps.launched g gs w' rfl hc
  | advance i =>
    cases ht : s.launched[i]? with
    | none => simpa [ht] using Steps.idle
    | some t => simpa [ht] using Steps.advanced i t ht

/-- What every event keeps, of streams and of all that was asked before, a run keeps. -/
theorem run_keeps (sinks : Sinks σ) (clock : Clock) {P : List Contact → Streams σ → Prop}
    (hstep : ∀ {past asked s s'}, P past s → Steps sinks clock s asked s' → P (past ++ asked) s')
    {past : List Contact} {s : Streams σ} (h : P past s) (events : List Event) :
    P (past ++ s.contacts sinks clock events) (s.run sinks clock events) := by
  induction events generalizing past s with
  | nil => simpa using h
  | cons e es ih =>
    rw [contacts_cons, ← List.append_assoc]
    exact ih (hstep h (s.steps sinks clock e))

end Streams

end LogMill
