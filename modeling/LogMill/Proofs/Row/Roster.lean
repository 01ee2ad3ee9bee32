import LogMill.Proofs.Row.Division

namespace LogMill

/-- What can be done with one of the generators, by its place. -/
inductive Move where
  | next (i : Nat)
  | reset (i : Nat)
  | drain (i : Nat)
  | split (i : Nat) (streams : Value)

abbrev Roster := List Generator

namespace Roster

/-- The generators after a move. The pieces of a split come behind all others, and a move that fails changes none. -/
def step (r : Roster) : Move → Roster
  | .next i =>
    match r[i]?.map Generator.next with
    | some (.ok (_, g)) => r.set i g
    | _ => r
  | .reset i => r.modify i Generator.reset
  | .drain i => r.modify i fun g => g.drain.2.2
  | .split i streams =>
    match r[i]?.map (Generator.split · streams) with
    | some (.ok gs) => r ++ gs
    | _ => r

def run (r : Roster) (moves : List Move) : Roster := moves.foldl step r

def given (r : Roster) : Move → List (Nat × Batch)
  | .next i =>
    match r[i]?.map Generator.next with
    | some (.ok (some b, _)) => [(i, b)]
    | _ => []
  | .drain i => (r[i]?.map fun g => g.drain.1.map fun b => (i, b)).getD []
  | .reset _ | .split _ _ => []

def readings (r : Roster) : List Move → List (Nat × Batch)
  | [] => []
  | m :: ms => r.given m ++ (r.step m).readings ms

def readOf (i : Nat) (read : List (Nat × Batch)) : List Batch := read.filterMap fun x => if x.1 = i then some x.2 else none

theorem readOf_append (i : Nat) (xs ys : List (Nat × Batch)) : readOf i (xs ++ ys) = readOf i xs ++ readOf i ys := by
  simp [readOf]

@[simp] theorem run_cons (r : Roster) (m : Move) (ms : List Move) : r.run (m :: ms) = (r.step m).run ms := rfl

theorem run_append (r : Roster) (ms ns : List Move) : r.run (ms ++ ns) = (r.run ms).run ns := List.foldl_append

end Roster

namespace Generator

structure Akin (g₀ g : Generator) : Prop where
  bounded : g.Bounded
  producer_eq : g.producer = g₀.producer
  batchSize_eq : g.batchSize = g₀.batchSize

variable {g₀ g : Generator}

theorem Akin.next (h : g₀.Akin g) {b : Option Batch} {g' : Generator} (hn : g.next = .ok (b, g')) : g₀.Akin g' := by
  cases b with
  | none => rw [(next_eq_none hn).2]; exact h
  | some b =>
    have hr := h.bounded.reads hn
    have hafter := hr.after_eq
    exact ⟨hr.bounded h.bounded, by rw [hafter]; exact h.producer_eq, by rw [hafter]; exact h.batchSize_eq⟩

theorem Akin.reset (h : g₀.Akin g) : g₀.Akin g.reset := by
  have hb := h.bounded
  have := hb.start_le_cursor
  have := hb.cursor_le_stop
  refine ⟨⟨hb.start_nonneg, le_refl _, ?_, hb.stop_le_rowCount, hb.batchSize_pos⟩, h.producer_eq, h.batchSize_eq⟩
  simp only [Generator.reset]
  omega

theorem Akin.drain (h : g₀.Akin g) : g₀.Akin g.drain.2.2 := by
  induction g using Generator.drain.induct with
  | case1 g g' hn => rw [drain_of_none hn]; exact h.next hn
  | case2 g f hn => rw [drain_of_error hn]; exact h
  | case3 g b g' hn hb => exact absurd hb ((h.bounded.reads hn).rows_ne_nil h.bounded)
  | case4 g b g' hn hb bs course last hd ih =>
    rw [drain_of_some hn hb]
    exact ih (h.next hn)

theorem split_eq_ok {streams : Value} {gs : List Generator} (h : g.split streams = .ok gs) :
    ∃ n, 1 ≤ n ∧ streams = .int n ∧ gs = g.pieces n := by
  obtain ⟨n, hn, rfl⟩ := Outcome.map_eq_ok.mp h
  cases streams with
  | int m =>
    simp only [requirePositive] at hn
    split_ifs at hn with hpos
    cases hn
    exact ⟨_, by omega, rfl, rfl⟩
  | _ => simp [requirePositive] at hn

theorem split_int (g : Generator) {n : Int} (h : 1 ≤ n) : g.split (.int n) = .ok (g.pieces n) := by
  have : 0 < n := by omega
  simp [split, requirePositive, this, Except.map]

theorem Akin.split (h : g₀.Akin g) {streams : Value} {gs : List Generator} (hs : g.split streams = .ok gs)
    {c : Generator} (hc : c ∈ gs) : g₀.Akin c := by
  obtain ⟨n, _, _, rfl⟩ := split_eq_ok hs
  obtain ⟨hp, _, hb⟩ := mem_pieces hc
  exact ⟨h.bounded.pieces hc, hp.trans h.producer_eq, hb.trans h.batchSize_eq⟩

end Generator

namespace Roster

variable {r : Roster} {g₀ g : Generator}

theorem akin_modify {f : Generator → Generator} (hf : ∀ g, g₀.Akin g → g₀.Akin (f g)) (i : Nat)
    (h : ∀ g ∈ r, g₀.Akin g) : ∀ g ∈ r.modify i f, g₀.Akin g := by
  intro g hg
  obtain ⟨j, hj⟩ := List.mem_iff_getElem?.mp hg
  rw [List.getElem?_modify] at hj
  obtain ⟨c, hc, rfl⟩ := Option.map_eq_some_iff.mp hj
  have := h c (List.mem_of_getElem? hc)
  split_ifs
  · exact hf c this
  · exact this

theorem step_akin (h : ∀ g ∈ r, g₀.Akin g) (m : Move) : ∀ g ∈ r.step m, g₀.Akin g := by
  cases m with
  | next i =>
    intro g hg
    simp only [step] at hg
    split at hg
    · rename_i b g' hn
      obtain ⟨c, hc, hcn⟩ := Option.map_eq_some_iff.mp hn
      rcases List.mem_or_eq_of_mem_set hg with hg | rfl
      · exact h g hg
      · exact (h c (List.mem_of_getElem? hc)).next hcn
    · exact h g hg
  | reset i => exact akin_modify (fun _ hc => hc.reset) i h
  | drain i => exact akin_modify (fun _ hc => hc.drain) i h
  | split i streams =>
    intro g hg
    simp only [step] at hg
    split at hg
    · rename_i gs hs
      obtain ⟨c, hc, hcs⟩ := Option.map_eq_some_iff.mp hs
      rcases List.mem_append.mp hg with hg | hg
      · exact h g hg
      · exact (h c (List.mem_of_getElem? hc)).split hcs hg
    · exact h g hg

theorem run_akin (h : ∀ g ∈ r, g₀.Akin g) (moves : List Move) : ∀ g ∈ r.run moves, g₀.Akin g := by
  induction moves generalizing r with
  | nil => exact h
  | cons m ms ih => exact ih (step_akin h m)

theorem step_next_of_ok {i : Nat} {b : Option Batch} {g' : Generator} (hi : r[i]? = some g)
    (hn : g.next = .ok (b, g')) : r.step (.next i) = r.set i g' := by simp [step, hi, hn]

theorem given_next_of_ok {i : Nat} {b : Option Batch} {g' : Generator} (hi : r[i]? = some g)
    (hn : g.next = .ok (b, g')) : r.given (.next i) = b.toList.map fun b => (i, b) := by
  cases b <;> simp [given, hi, hn]

theorem next_of_error {i : Nat} {f : Producer.Fault} (hi : r[i]? = some g) (hn : g.next = .error f) :
    r.step (.next i) = r ∧ r.given (.next i) = [] := by simp [step, given, hi, hn]

theorem getElem?_step_next_of_ne {i j : Nat} (h : j ≠ i) : (r.step (.next j))[i]? = r[i]? := by
  simp only [step]
  split <;> simp [h]

theorem readOf_given_next_of_ne {i j : Nat} (h : j ≠ i) : readOf i (r.given (.next j)) = [] := by
  simp only [given]
  split <;> simp [readOf, h]

theorem readings_next (order : List Nat) {i : Nat} (hi : r[i]? = some g) (hg : g.Bounded) :
    readOf i (r.readings (order.map .next)) = g.drain.1.take (order.count i) := by
  induction order generalizing r g with
  | nil => simp [readings, readOf]
  | cons j order ih =>
    simp only [List.map_cons, readings, readOf_append]
    by_cases hj : j = i
    · subst hj
      have hlt : j < r.length := (List.getElem?_eq_some_iff.mp hi).1
      rw [List.count_cons_self]
      cases hn : g.next with
      | error f =>
        obtain ⟨hs, hgiven⟩ := next_of_error hi hn
        rw [hs, hgiven, ih hi hg, Generator.drain_of_error hn]
        simp [readOf]
      | ok x =>
        obtain ⟨b, g'⟩ := x
        rw [step_next_of_ok hi hn, given_next_of_ok hi hn]
        have hset : (r.set j g')[j]? = some g' := by simp [hlt]
        cases b with
        | none =>
          have hsame := (Generator.next_eq_none hn).2
          rw [ih hset (hsame ▸ hg), hsame, Generator.drain_of_none hn]
          simp [readOf]
        | some b =>
          have hr := hg.reads hn
          rw [ih hset (hr.bounded hg), Generator.drain_of_some hn (hr.rows_ne_nil hg)]
          simp [readOf]
    · rw [readOf_given_next_of_ne hj, List.nil_append, List.count_cons_of_ne hj]
      exact ih (by rw [getElem?_step_next_of_ne hj]; exact hi) hg

end Roster

end LogMill
