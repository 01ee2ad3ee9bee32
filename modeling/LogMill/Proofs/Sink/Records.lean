import LogMill.Proofs.Sink.Placement

namespace LogMill.Upload

structure Attempt where
  before : Upload
  earlier : List Call
  batch : Batch
  answer : Except Fault Int
  asked : List Call
  after : Upload

namespace Attempt

def isGranted (a : Attempt) : Bool := !(keysOf a.asked).isEmpty

def calls (a : Attempt) : List Call := a.earlier ++ a.asked

end Attempt

def attempt (u : Upload) (b : Batch) (client : Store.Client) (calls : List Call) : Attempt where
  before := u
  earlier := calls
  batch := b
  answer := (u.write b client calls).1
  asked := (u.write b client calls).2.2.1.drop calls.length
  after := (u.write b client calls).2.1

def writeAll (client : Store.Client) (u : Upload) (calls : List Call) :
    List (List Call × Batch) → List Attempt × Upload
  | [] => ([], u)
  | (others, b) :: turns =>
    let a := u.attempt b client (calls ++ others)
    let (rest, u') := writeAll client a.after a.calls turns
    (a :: rest, u')

structure Attempt.Settled (client : Store.Client) (bucket : Value) (place : String) (a : Attempt) : Prop where
  wrote : ∃ journal, a.before.write a.batch client a.earlier = (a.answer, a.after, a.calls, journal)
  idle : a.batch.rows = [] → a.asked = [] ∧ a.answer = .ok 0 ∧ a.after = a.before
  unsent : a.batch.rows ≠ [] → (∀ start text, ¬ Makes a.batch start text) → a.asked = [] ∧ ∃ f, a.answer = .error f
  sent : ∀ start text, Makes a.batch start text →
    a.asked = [.put bucket (partKey place start) text (client.refusal a.earlier (partKey place start))]
  granted : a.isGranted → a.answer = .ok a.batch.size ∧ a.after.keys = a.before.keys ++ keysOf a.asked ∧
    a.after.rowsWritten = a.before.rowsWritten + a.batch.size
  refused : ∀ key text reason, .put bucket key text (some reason) ∈ a.asked →
    ∃ f, a.answer = .error f ∧ f.kind = .delivery ∧ f.message = "Upload of " ++ key ++ " failed: " ++ reason
  failed : ∀ f, a.answer = .error f → a.after = a.before

structure Records (u : Upload) (past : List Attempt) : Prop where
  keys : u.keys = keysOf (past.flatMap Attempt.asked)
  rowsWritten : u.rowsWritten = ((past.filter Attempt.isGranted).map fun a => (a.batch.size : Int)).sum

variable {u : Upload} {b : Batch} {client : Store.Client} {calls : List Call} {past : List Attempt}

theorem keysOf_append (calls later : List Call) : keysOf (calls ++ later) = keysOf calls ++ keysOf later := by
  simp [keysOf, Call.puts]

section Answers

variable {bucket : Value} {place : String} {answer : Except Fault Int} {asked : List Call} {start : Int}
  {text key reason : String}

theorem Makes.unique {start' : Int} {text' : String} (h : Makes b start text) (h' : Makes b start' text') :
    start = start' ∧ text = text' :=
  ⟨Except.ok.inj (h.start.symm.trans h'.start), Except.ok.inj (h.body.symm.trans h'.body)⟩

theorem Answers.of_nil (h : Answers bucket place b answer asked) (hrows : b.rows = []) : asked = [] ∧ answer = .ok 0 := by
  cases h with
  | idle _ => exact ⟨rfl, rfl⟩
  | unsent f hne _ _ => exact absurd hrows hne
  | granted start text hmakes => exact absurd hrows hmakes.rows
  | refused start text reason hmakes => exact absurd hrows hmakes.rows

theorem Answers.of_not_makes (h : Answers bucket place b answer asked) (hne : b.rows ≠ [])
    (hnone : ∀ start text, ¬ Makes b start text) : asked = [] ∧ ∃ f, answer = .error f := by
  cases h with
  | idle hrows => exact absurd hrows hne
  | unsent f _ _ _ => exact ⟨rfl, f, rfl⟩
  | granted start text hmakes => exact absurd hmakes (hnone start text)
  | refused start text reason hmakes => exact absurd hmakes (hnone start text)

theorem Answers.of_makes (h : Answers bucket place b answer asked) (hmakes : Makes b start text) :
    ∃ refusal, asked = [.put bucket (partKey place start) text refusal] := by
  cases h with
  | idle hrows => exact absurd hrows hmakes.rows
  | unsent f _ hnone _ => exact absurd hmakes (hnone start text)
  | granted start' text' hmakes' =>
    obtain ⟨rfl, rfl⟩ := hmakes.unique hmakes'
    exact ⟨none, rfl⟩
  | refused start' text' reason hmakes' =>
    obtain ⟨rfl, rfl⟩ := hmakes.unique hmakes'
    exact ⟨some reason, rfl⟩

theorem Answers.eq_ok (h : Answers bucket place b answer asked) (hkeys : keysOf asked ≠ []) : answer = .ok b.size := by
  cases h with
  | granted => rfl
  | _ => exact absurd rfl hkeys

theorem Answers.eq_refused (h : Answers bucket place b answer asked)
    (hput : .put bucket key text (some reason) ∈ asked) : answer = .error (.refused key reason) := by
  cases h with
  | refused start text' reason' _ =>
    obtain ⟨-, rfl, -, heq⟩ := Call.put.inj (List.mem_singleton.mp hput)
    cases heq
    rfl
  | _ => simp at hput

theorem Answers.keysOf_eq_nil {f : Fault} (h : Answers bucket place b (.error f) asked) : keysOf asked = [] := by
  cases h <;> rfl

end Answers

theorem attempt_calls (u : Upload) (b : Batch) (client : Store.Client) (calls : List Call) :
    (u.attempt b client calls).calls = (u.write b client calls).2.2.1 := by
  obtain ⟨asked, hcalls, _⟩ := u.write_answers b client calls
  simp [Attempt.calls, attempt, hcalls]

theorem attempt_answers (u : Upload) (b : Batch) (client : Store.Client) (calls : List Call) :
    Answers u.bucket u.place b (u.attempt b client calls).answer (u.attempt b client calls).asked ∧
      (u.attempt b client calls).after = u.recorded b (u.attempt b client calls).asked ∧
      ∀ bucket key text refusal, .put bucket key text refusal ∈ (u.attempt b client calls).asked →
        client.refusal calls key = refusal := by
  obtain ⟨asked, hcalls, hanswers⟩ := u.write_answers b client calls
  have hasked : (u.attempt b client calls).asked = asked := by simp [attempt, hcalls]
  rw [hasked]
  exact hanswers

theorem attempt_settled (u : Upload) (b : Batch) (client : Store.Client) (calls : List Call) :
    (u.attempt b client calls).Settled client u.bucket u.place := by
  obtain ⟨hanswers, hafter, hrefusal⟩ := u.attempt_answers b client calls
  constructor
  case wrote =>
    refine ⟨(u.write b client calls).2.2.2, ?_⟩
    rw [attempt_calls]
    rfl
  case idle =>
    intro hrows
    obtain ⟨hasked, hanswer⟩ := hanswers.of_nil hrows
    refine ⟨hasked, hanswer, ?_⟩
    rw [hafter, hasked]
    exact u.recorded_of_none b rfl
  case unsent => exact hanswers.of_not_makes
  case sent =>
    intro start text hmakes
    obtain ⟨refusal, hasked⟩ := hanswers.of_makes hmakes
    rw [hasked, ← hrefusal _ _ _ refusal (by rw [hasked]; exact List.mem_singleton_self _)]
    rfl
  case granted =>
    intro hgranted
    have hkeys : keysOf (u.attempt b client calls).asked ≠ [] := by simpa [Attempt.isGranted] using hgranted
    refine ⟨hanswers.eq_ok hkeys, ?_, ?_⟩
    · rw [hafter]
      rfl
    · rw [hafter, recorded, if_neg hkeys]
      rfl
  case refused =>
    intro key text reason hput
    exact ⟨.refused key reason, hanswers.eq_refused hput, rfl, rfl⟩
  case failed =>
    intro f hf
    rw [hf] at hanswers
    rw [hafter, u.recorded_of_none b hanswers.keysOf_eq_nil]
    rfl

theorem Records.attempt (h : u.Records past) (b : Batch) (client : Store.Client) (calls : List Call) :
    (u.attempt b client calls).after.Records (past ++ [u.attempt b client calls]) := by
  obtain ⟨-, hafter, -⟩ := u.attempt_answers b client calls
  have hbatch : (u.attempt b client calls).batch = b := rfl
  constructor
  · rw [hafter, List.flatMap_append, List.flatMap_singleton, keysOf_append, ← h.keys]
    rfl
  · rw [hafter, List.filter_append, List.map_append, List.sum_append, ← h.rowsWritten]
    by_cases hkeys : keysOf (u.attempt b client calls).asked = []
    · simp [recorded, Attempt.isGranted, hkeys]
    · simp [recorded, Attempt.isGranted, List.filter_cons, hkeys, hbatch]

structure Ledger (client : Store.Client) (bucket : Value) (place : String) (u : Upload) (past : List Attempt) : Prop where
  target : u.bucket = bucket ∧ u.place = place
  records : u.Records past
  each : ∀ before a, before ++ [a] <+: past → a.before.Records before ∧ a.after.Records (before ++ [a])
  settled : ∀ a ∈ past, a.Settled client bucket place

variable {bucket : Value} {place : String}

theorem Ledger.attempt (h : Ledger client bucket place u past) (b : Batch) (calls : List Call) :
    Ledger client bucket place (u.attempt b client calls).after (past ++ [u.attempt b client calls]) := by
  obtain ⟨-, hafter, -⟩ := u.attempt_answers b client calls
  have hsettled := u.attempt_settled b client calls
  have hrecords := h.records.attempt b client calls
  rw [h.target.1, h.target.2] at hsettled
  constructor
  case target =>
    rw [hafter]
    exact h.target
  case records => exact hrecords
  case each =>
    apply forall_prefix_concat h.each
    exact ⟨h.records, hrecords⟩
  case settled =>
    intro a ha
    rcases List.mem_append.mp ha with ha | ha
    · exact h.settled a ha
    · rw [List.mem_singleton.mp ha]
      exact hsettled

theorem Ledger.writeAll (h : Ledger client bucket place u past) (calls : List Call) (turns : List (List Call × Batch)) :
    Ledger client bucket place (u.writeAll client calls turns).2 (past ++ (u.writeAll client calls turns).1) := by
  induction turns generalizing u calls past with
  | nil => simpa [Upload.writeAll] using h
  | cons turn turns ih =>
    obtain ⟨others, b⟩ := turn
    have hrest := ih (h.attempt b (calls ++ others)) (u.attempt b client (calls ++ others)).calls
    simpa [Upload.writeAll] using hrest

theorem writeAll_batches (u : Upload) (client : Store.Client) (calls : List Call) (turns : List (List Call × Batch)) :
    (u.writeAll client calls turns).1.map Attempt.batch = turns.map Prod.snd := by
  induction turns generalizing u calls with
  | nil => rfl
  | cons turn turns ih => simp [writeAll, ih, attempt]

/-- After any writes, and after each of them, a sink tells the keys of the puts that were granted, in order, and how
many rows these took. A write that fails leaves both as they were; one whose put was refused fails with the reason of
the store, and one without rows calls nothing. -/
theorem writes_recorded (bucket : Value) (keyPrefix table : String) (client : Store.Client) (calls : List Call)
    (turns : List (List Call × Batch)) :
    ∃ attempts u, (opened bucket keyPrefix table).writeAll client calls turns = (attempts, u) ∧
      attempts.map Attempt.batch = turns.map Prod.snd ∧ u.Records attempts ∧
      (∀ before a, before ++ [a] <+: attempts → a.before.Records before ∧ a.after.Records (before ++ [a])) ∧
      ∀ a ∈ attempts, a.Settled client bucket (tablePrefix keyPrefix table) := by
  have hopened : Ledger client bucket (tablePrefix keyPrefix table) (opened bucket keyPrefix table) [] :=
    { target := ⟨rfl, place_opened bucket keyPrefix table⟩
      records := ⟨rfl, rfl⟩
      each := by simp
      settled := by simp }
  have hledger := hopened.writeAll calls turns
  rw [List.nil_append] at hledger
  exact ⟨_, _, rfl, writeAll_batches _ client calls turns, hledger.records, hledger.each, hledger.settled⟩

end LogMill.Upload
