import Mathlib.Data.List.DropRight
import LogMill.Proofs.Number.Padding
import LogMill.Proofs.Row.Drain
import LogMill.Proofs.Sink.ObjectBody

namespace LogMill

open Outcome

theorem Text.trim_trim (p : Char → Bool) (s : List Char) : trim p (trim p s) = trim p s := by
  change ((s.dropWhile p).rdropWhile p |>.dropWhile p).rdropWhile p = (s.dropWhile p).rdropWhile p
  have hfront : ((s.dropWhile p).rdropWhile p).dropWhile p = (s.dropWhile p).rdropWhile p := by
    rw [List.dropWhile_eq_self_iff]
    intro hlength
    have hwhole := List.rdropWhile_prefix p (l := s.dropWhile p)
    rw [hwhole.getElem hlength]
    exact List.dropWhile_get_zero_not p s _
  rw [hfront, List.rdropWhile_idempotent]

theorem Whole.padded_injective {width : Nat} {m n : Int} (hm : 0 ≤ m) (hn : 0 ≤ n)
    (h : padded width m = padded width n) : m = n := by
  obtain ⟨m, rfl⟩ := Int.eq_ofNat_of_zero_le hm
  obtain ⟨n, rfl⟩ := Int.eq_ofNat_of_zero_le hn
  rw [padded_inj.mp (congrArg String.toList h)]

namespace Upload

def partKey (place : String) (start : Int) : String := place ++ "part-" ++ Whole.padded 12 start ++ ".csv"

theorem keyFor_eq (u : Upload) (start : Int) : u.keyFor start = partKey u.place start := rfl

theorem partKey_injective {place : String} {m n : Int} (hm : 0 ≤ m) (hn : 0 ≤ n)
    (h : partKey place m = partKey place n) : m = n := by
  apply Whole.padded_injective hm hn
  have htexts := congrArg String.toList h
  simp only [partKey, String.toList_append, List.append_assoc, List.append_cancel_left_eq,
    List.append_cancel_right_eq] at htexts
  exact String.toList_injective htexts

theorem place_opened (bucket : Value) (keyPrefix table : String) :
    (opened bucket keyPrefix table).place = tablePrefix keyPrefix table := by
  simp only [place, opened, tablePrefix, String.toList_ofList, Text.trim_trim]

def Holds (bucket : Value) (place : String) (b : Batch) (c : Call) : Prop :=
  ∃ start text, b.start.start = .ok start ∧ body b.rows = .ok text ∧ c = .put bucket (partKey place start) text none

structure Makes (b : Batch) (start : Int) (text : String) : Prop where
  rows : b.rows ≠ []
  start : b.start.start = .ok start
  body : body b.rows = .ok text
  bytes : Text.Unencodable.find? b.halves text.toList = none

theorem Makes.holds {b : Batch} {start : Int} {text : String} (h : Makes b start text) (bucket : Value)
    (place : String) : Holds bucket place b (.put bucket (partKey place start) text none) :=
  ⟨start, text, h.start, h.body, rfl⟩

/-- How a batch is answered, and by which calls. -/
inductive Answers (bucket : Value) (place : String) (b : Batch) : Except Fault Int → List Call → Prop where
  | idle : b.rows = [] → Answers bucket place b (.ok 0) []
  | unsent (f : Fault) : b.rows ≠ [] → (∀ start text, ¬ Makes b start text) →
    (b.halves = none → ∀ key reason, f ≠ .refused key reason) → Answers bucket place b (.error f) []
  | granted (start : Int) (text : String) : Makes b start text →
    Answers bucket place b (.ok b.size) [.put bucket (partKey place start) text none]
  | refused (start : Int) (text reason : String) : Makes b start text →
    Answers bucket place b (.error (.refused (partKey place start) reason))
      [.put bucket (partKey place start) text (some reason)]

theorem Answers.exists_put {bucket : Value} {place : String} {b : Batch} {answer : Except Fault Int} {asked : List Call}
    (h : Answers bucket place b answer asked) : ∀ c ∈ asked, ∃ start text refusal,
      Makes b start text ∧ c = .put bucket (partKey place start) text refusal := by
  intro c hc
  cases h with
  | idle | unsent => simp at hc
  | granted start text hmakes => exact ⟨start, text, none, hmakes, List.mem_singleton.mp hc⟩
  | refused start text reason hmakes => exact ⟨start, text, some reason, hmakes, List.mem_singleton.mp hc⟩

def keysOf (calls : List Call) : List String := (Call.puts calls).map fun x => x.2.1

def recorded (u : Upload) (b : Batch) (asked : List Call) : Upload :=
  { u with keys := u.keys ++ keysOf asked, rowsWritten := u.rowsWritten + if keysOf asked = [] then 0 else b.size }

theorem recorded_of_none (u : Upload) (b : Batch) {asked : List Call} (h : keysOf asked = []) :
    u.recorded b asked = u := by simp [recorded, h]

theorem find?_eq_none_of_whole (text : List Char) : Text.Unencodable.find? none text = none :=
  Text.Unencodable.find?_eq_none.mpr fun _ _ => rfl

theorem objectOf_ne_refused (u : Upload) (b : Batch) (key reason : String) :
    u.objectOf b ≠ .error (.refused key reason) := by
  simp [objectOf, body, bind_eq_error, mapError_eq_error, pure, Except.pure]

theorem objectOf_eq_ok {u : Upload} {b : Batch} {text key : String} :
    u.objectOf b = .ok (text, key) ↔
      ∃ start, b.start.start = .ok start ∧ body b.rows = .ok text ∧ key = partKey u.place start := by
  simp only [objectOf, bind_eq_ok, mapError_eq_ok, pure, Except.pure, Except.ok.injEq, Prod.mk.injEq]
  constructor
  · rintro ⟨_, hbody, start, hstart, rfl, rfl⟩
    exact ⟨start, hstart, hbody, rfl⟩
  · rintro ⟨start, hstart, hbody, rfl⟩
    exact ⟨text, hbody, start, hstart, rfl, rfl⟩

theorem write_of_makes (u : Upload) {b : Batch} {start : Int} {text : String} (client : Store.Client)
    (calls : List Call) (h : Makes b start text) :
    u.write b client calls =
      match client.refusal calls (partKey u.place start) with
      | none => (.ok b.size,
          { u with keys := u.keys ++ [partKey u.place start], rowsWritten := u.rowsWritten + b.size },
          calls ++ [.put u.bucket (partKey u.place start) text none], [])
      | some reason => (.error (.refused (partKey u.place start) reason), u,
          calls ++ [.put u.bucket (partKey u.place start) text (some reason)],
          [alarm .delivery
            ("Error uploading s3://" ++ u.bucket.plain ++ "/" ++ partKey u.place start ++ ": " ++ reason)]) := by
  have hobject : u.objectOf b = .ok (text, partKey u.place start) := objectOf_eq_ok.mpr ⟨start, h.start, h.body, rfl⟩
  rw [write, if_neg h.rows]
  simp only [hobject, h.bytes, Store.put]
  cases client.refusal calls (partKey u.place start) <;> rfl

theorem write_answers (u : Upload) (b : Batch) (client : Store.Client) (calls : List Call) :
    ∃ asked, (u.write b client calls).2.2.1 = calls ++ asked ∧
      Answers u.bucket u.place b (u.write b client calls).1 asked ∧
      (u.write b client calls).2.1 = u.recorded b asked ∧
      ∀ bucket key text refusal, .put bucket key text refusal ∈ asked → client.refusal calls key = refusal := by
  have hnone : u = u.recorded b [] := (u.recorded_of_none b rfl).symm
  by_cases hrows : b.rows = []
  · rw [write, if_pos hrows]
    exact ⟨[], by simp, .idle hrows, hnone, by simp⟩
  by_cases hmakes : ∃ start text, Makes b start text
  · obtain ⟨start, text, hmakes⟩ := hmakes
    have hput {refusal} (hrefusal : client.refusal calls (partKey u.place start) = refusal) :
        ∀ bucket key text' refusal', .put bucket key text' refusal' ∈
            [Call.put u.bucket (partKey u.place start) text refusal] → client.refusal calls key = refusal' := by
      rintro _ _ _ _ hput
      obtain ⟨-, rfl, -, rfl⟩ := Call.put.inj (List.mem_singleton.mp hput)
      exact hrefusal
    rw [u.write_of_makes client calls hmakes]
    cases hrefusal : client.refusal calls (partKey u.place start) with
    | none => exact ⟨_, rfl, .granted start text hmakes, rfl, hput hrefusal⟩
    | some reason => exact ⟨_, rfl, .refused start text reason hmakes, (u.recorded_of_none b rfl).symm, hput hrefusal⟩
  · have hmakes start text h := hmakes ⟨start, text, h⟩
    rw [write, if_neg hrows]
    cases hobject : u.objectOf b with
    | error f =>
      refine ⟨[], by simp, .unsent f hrows hmakes fun _ key reason => ?_, hnone, by simp⟩
      rintro rfl
      exact u.objectOf_ne_refused b key reason hobject
    | ok object =>
      obtain ⟨start, hstart, hbody, _⟩ := objectOf_eq_ok.mp hobject
      cases hfind : Text.Unencodable.find? b.halves object.1.toList with
      | some x =>
        simp only [hfind]
        refine ⟨[], by simp, .unsent _ hrows hmakes fun hwhole => ?_, hnone, by simp⟩
        rw [hwhole, find?_eq_none_of_whole] at hfind
        cases hfind
      | none => exact absurd ⟨hrows, hstart, hbody, hfind⟩ (hmakes start object.1)

theorem write_of_takes (u : Upload) {b : Batch} (client : Store.Client) (calls : List Call) {n : Int}
    (hne : b.rows ≠ []) (htakes : ∀ cells ∈ b.rows, List.Forall₂ (fun c v => c.type.Takes v) Schema.columns cells)
    (hwhole : b.halves = none) (hstart : b.start = .int n) (hwilling : client.refusal calls (u.keyFor n) = none) :
    ∃ text, u.write b client calls =
      (.ok b.size, { u with keys := u.keys ++ [u.keyFor n], rowsWritten := u.rowsWritten + b.size },
        calls ++ [.put u.bucket (u.keyFor n) text none], []) := by
  obtain ⟨text, hbody⟩ : ∃ text, body b.rows = .ok text := ⟨_, body_eq (Frame.ofRows_of_takes hne htakes)⟩
  have hmakes : Makes b n text := ⟨hne, by rw [hstart]; rfl, hbody, by rw [hwhole, find?_eq_none_of_whole]⟩
  refine ⟨text, ?_⟩
  rw [u.write_of_makes client calls hmakes, ← keyFor_eq, hwilling]

structure Apart (place : String) (keys : List String) : Prop where
  nodup : keys.Nodup
  below : ∀ key ∈ keys, ∃ name, key = place ++ name

variable {bucket : Value} {place : String} {batches : List Batch} {calls : List Call}

theorem keysOf_of_holds (h : List.Forall₂ (Holds bucket place) batches calls) :
    List.Forall₂ (fun b key => ∃ n, b.start.start = .ok n ∧ key = partKey place n) batches (keysOf calls) := by
  induction h with
  | nil => exact .nil
  | cons hc _ ih =>
    obtain ⟨n, text, hn, _, rfl⟩ := hc
    exact .cons ⟨n, hn, rfl⟩ ih

theorem apart_keysOf (h : List.Forall₂ (Holds bucket place) batches calls)
    (hstart : ∀ b ∈ batches, ∃ n, b.start = .int n ∧ 0 ≤ n ∧ n ∈ b.numbers)
    (hnumbers : (batches.flatMap Batch.numbers).Nodup) : Apart place (keysOf calls) := by
  have hkeys := keysOf_of_holds h
  generalize keysOf calls = keys at hkeys
  clear h
  have hfirst {b : Batch} {m n : Int} (hn : b.start = .int n) (hm : b.start.start = .ok m) : m = n := by
    simpa [hn, Value.start, eq_comm] using hm
  refine ⟨?_, fun key hkey => ?_⟩
  · induction hkeys with
    | nil => exact .nil
    | @cons b key batches keys hb hrest ih =>
      have hafter := fun b hb => hstart b (List.mem_cons_of_mem _ hb)
      rw [List.flatMap_cons, List.nodup_append] at hnumbers
      obtain ⟨_, hnumbers, hapart⟩ := hnumbers
      obtain ⟨n, hn, hlow, hmem⟩ := hstart b (by simp)
      obtain ⟨_, hb, rfl⟩ := hb
      obtain rfl := hfirst hn hb
      refine List.nodup_cons.mpr ⟨fun hkey => ?_, ih hafter hnumbers⟩
      obtain ⟨i, hi, hkey⟩ := List.mem_iff_getElem.mp hkey
      have hi' : i < batches.length := hrest.length_eq ▸ hi
      obtain ⟨m, hm, hlow', hmem'⟩ := hafter _ (List.getElem_mem hi')
      obtain ⟨_, hb', hkey'⟩ := hrest.get hi' hi
      obtain rfl := hfirst hm hb'
      obtain rfl := partKey_injective hlow' hlow (hkey'.symm.trans hkey)
      exact hapart _ hmem _ (List.mem_flatMap.mpr ⟨_, List.getElem_mem hi', hmem'⟩) rfl
  · obtain ⟨i, hi, rfl⟩ := List.mem_iff_getElem.mp hkey
    obtain ⟨n, _, hkey⟩ := hkeys.get (hkeys.length_eq ▸ hi) hi
    exact ⟨"part-" ++ Whole.padded 12 n ++ ".csv", by simpa [partKey, String.append_assoc] using hkey⟩

end Upload

end LogMill
