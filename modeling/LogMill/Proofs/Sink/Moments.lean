import LogMill.Proofs.Calendar.Stamp
import LogMill.Proofs.Frame.Times
import LogMill.Proofs.Row.Coverage
import LogMill.Proofs.Sink.ObjectBody

namespace LogMill

open Outcome

theorem Calendar.field_text (moment : Int) : Csv.field .object (text moment).toList = (text moment).toList := by
  have hplain : ∀ c ∈ (text moment).toList, ¬ (c = ',' ∨ c = '"' ∨ c = '\n') := by
    intro c hc
    have hmark := marks_text moment c hc
    rintro (rfl | rfl | rfl) <;> revert hmark <;> simp [IsMark, Char.isDigit]
  have hbare : Csv.needsQuotes .object (text moment).toList = false := by
    rw [Csv.needsQuotes, List.any_eq_false]
    intro c hc
    simpa [Csv.Dialect.object, or_assoc] using hplain c hc
  rw [Csv.field, hbare]
  rfl

namespace Upload

theorem exists_record {fields : List (List Char)} {s : List Char} (hlength : fields.length = Schema.columns.length)
    (hhead : fields.head? = some s) (hbare : Csv.field .object s = s) :
    ∃ rest, Csv.record .object fields = s ++ ',' :: rest := by
  cases fields with
  | nil => simp at hhead
  | cons s' fields =>
    obtain rfl := Option.some.inj hhead
    have hne : fields ≠ [] := by
      rintro rfl
      rw [List.length_singleton] at hlength
      exact absurd hlength (by decide)
    have hrecord : Csv.record .object (s' :: fields) = Csv.Reading.line .object (s' :: fields) ++ Csv.Dialect.object.lineEnd := by
      rw [Csv.record, if_neg (by simp [hne])]
    rw [hrecord, Csv.Reading.line_cons hne, hbare, List.append_assoc, List.cons_append]
    exact ⟨_, rfl⟩

theorem head_fields {cells : Cells} {n : Int} (hn : cells[0]? = some (.int n)) :
    (List.zipWith cell Schema.columns cells).head? = some (Calendar.text n).toList := by
  cases cells with
  | nil => simp at hn
  | cons v cells =>
    obtain rfl := Option.some.inj hn
    rfl

variable {u : Upload} {b : Batch} {client : Store.Client} {calls : List Call}

theorem body_of_put {bucket : Value} {key text : String} {refusal : Option String}
    (h : (u.write b client calls).2.2.1 = calls ++ [.put bucket key text refusal]) :
    b.rows ≠ [] ∧ body b.rows = .ok text := by
  rw [write] at h
  split_ifs at h with hrows
  · simp at h
  · refine ⟨hrows, ?_⟩
    cases hobject : u.objectOf b with
    | error f => simp [hobject] at h
    | ok object =>
      obtain ⟨text', key'⟩ := object
      have hbody : body b.rows = .ok text' := by
        simp only [objectOf, bind_eq_ok] at hobject
        obtain ⟨_, hbody, _, -, hpair⟩ := hobject
        rw [hbody, (Prod.mk.inj (Except.ok.inj hpair)).1]
      cases hfind : Text.Unencodable.find? b.halves text'.toList with
      | some x => simp [hobject, hfind] at h
      | none =>
        have hcalls : calls ++ [Call.put u.bucket key' text' (client.refusal calls key')] =
            calls ++ [.put bucket key text refusal] := by
          rw [← h]
          simp only [hobject, hfind, Store.put]
          cases client.refusal calls key' <;> rfl
        simp only [List.append_cancel_left_eq, List.cons.injEq, Call.put.injEq] at hcalls
        rw [hbody, hcalls.1.2.2.1]

theorem body_times {rows : List Cells} {text : String} (hne : rows ≠ [])
    (htimes : ∀ cells ∈ rows, ∃ n, cells[0]? = some (.int n)) (h : body rows = .ok text) :
    ∃ records, text.toList = header ++ Csv.records .object records ∧ List.Forall₂ (fun cells fields =>
      fields.length = Schema.columns.length ∧ ∀ n, cells[0]? = some (.int n) → n ≠ SeriesType.minWhole →
        fields.head? = some (Calendar.text n).toList) rows records := by
  simp only [body, bind_eq_ok, mapError_eq_ok] at h
  obtain ⟨rows', hrows, h⟩ := h
  obtain rfl := Except.ok.inj h
  refine ⟨rows'.map (List.zipWith cell Schema.columns), ?_, ?_⟩
  · rw [String.toList_ofList, Csv.records, List.flatMap_map]
    rfl
  · rw [List.forall₂_map_right_iff]
    refine (Frame.ofRows_times hne htimes hrows).imp ?_
    rintro cells cells' ⟨hlength, hframed⟩
    refine ⟨by rw [List.length_zipWith, hlength, Nat.min_self], fun n hn hmoment => ?_⟩
    have htime := hframed n hn
    rw [ColumnType.framed, if_neg hmoment] at htime
    exact head_fields htime

end Upload

/-- A time of which the billionths of a second have 64 bits is written as a stamp that denotes it, of twenty-six characters
with three zeros at the end, and stamps come in the order of their times. Every record below the header of an object begins
with the stamp of its row; and rows that a frame takes are put into one, if none of their characters stands for a half. -/
theorem stamps_denote_times :
    (∀ ts : Int, -9223372036854 < ts → ts < 9223372036854 →
      Calendar.denoted? (Calendar.text ts) = some (1000 * ts) ∧ (Calendar.text ts).length = 26 ∧
        ['0', '0', '0'] <:+ (Calendar.text ts).toList) ∧
    (∀ ts ts' : Int, -9223372036854 < ts → ts < 9223372036854 → -9223372036854 < ts' → ts' < 9223372036854 →
      (Calendar.text ts < Calendar.text ts' ↔ ts < ts')) ∧
    (∀ (u : Upload) (b : Batch) (client : Store.Client) (calls : List Call) (bucket : Value) (key text : String)
        (refusal : Option String), (u.write b client calls).2.2.1 = calls ++ [.put bucket key text refusal] →
      (∀ cells ∈ b.rows, ∃ ts, cells.cell? "ts" = some (.int ts)) →
      ∃ records, text.toList = Upload.header ++ Csv.records .object records ∧ List.Forall₂ (fun cells fields =>
        fields.length = Schema.columns.length ∧
          ∀ ts, cells.cell? "ts" = some (.int ts) → -9223372036854 < ts → ts < 9223372036854 →
            fields.head? = some (Calendar.text ts).toList ∧
              ∃ rest, Csv.record .object fields = (Calendar.text ts).toList ++ ',' :: rest) b.rows records) ∧
    ∀ (u : Upload) (b : Batch) (client : Store.Client) (calls : List Call) (n : Int), b.rows ≠ [] → b.start = .int n →
      (∀ cells ∈ b.rows, List.Forall₂ (fun c v => c.type.Takes v) Schema.columns cells) → b.halves = none →
      ∃ text, (u.write b client calls).2.2.1 =
        calls ++ [.put u.bucket (u.keyFor n) text (client.refusal calls (u.keyFor n))] := by
  have hcell (cells : Cells) : cells.cell? "ts" = cells[0]? := by
    have hindex : Schema.indexOf? "ts" = some 0 := by decide
    rw [Cells.cell?, hindex, Option.bind_some]
  simp only [hcell]
  refine ⟨fun ts hlow hhigh => ?_, fun ts ts' hlow hhigh hlow' hhigh' => ?_, ?_, ?_⟩
  · have hreach := Calendar.inReach_of_bounds hlow hhigh
    refine ⟨hreach.denoted?_text, hreach.length_text, ?_⟩
    rw [Calendar.text, String.toList_append]
    exact List.suffix_append _ _
  · exact (Calendar.inReach_of_bounds hlow hhigh).text_lt_iff (Calendar.inReach_of_bounds hlow' hhigh')
  · intro u b client calls bucket key text refusal hput htimes
    obtain ⟨hne, hbody⟩ := Upload.body_of_put hput
    obtain ⟨records, htext, hrecords⟩ := Upload.body_times hne htimes hbody
    refine ⟨records, htext, hrecords.imp ?_⟩
    rintro cells fields ⟨hlength, hhead⟩
    refine ⟨hlength, fun ts hts hlow hhigh => ?_⟩
    have hstamp := hhead ts hts (by simp only [SeriesType.minWhole]; omega)
    exact ⟨hstamp, Upload.exists_record hlength hstamp (Calendar.field_text ts)⟩
  · intro u b client calls n hne hstart htakes hwhole
    have hbody := Upload.body_eq (Frame.ofRows_of_takes hne htakes)
    refine ⟨_, (Upload.write_puts_iff hne hstart).mpr ⟨hbody, ?_⟩⟩
    rw [hwhole, Text.Unencodable.find?_eq_none]
    exact fun _ _ => rfl

theorem stamps_denote_times_start : ∃ text rest,
    ((Upload.opened (.text "b") "p" "t").write (Upload.noted "a") Upload.willing []).2.2.1 =
        [.put (.text "b") ((Upload.opened (.text "b") "p" "t").keyFor 0) text none] ∧
      text.toList = Upload.header ++ "1970-01-01 00:00:00.000000".toList ++ ',' :: rest ∧
      Calendar.denoted? "1970-01-01 00:00:00.000000" = some 0 ∧ Calendar.text (-1) < "1970-01-01 00:00:00.000000" := by
  have hstart : Calendar.text 0 = "1970-01-01 00:00:00.000000" := by decide
  obtain ⟨htimes, horder, hrecords, hputs⟩ := stamps_denote_times
  obtain ⟨text, hput⟩ := hputs (Upload.opened (.text "b") "p" "t") (Upload.noted "a") Upload.willing [] 0
    (by simp [Upload.noted]) rfl (Upload.noted_takes "a") rfl
  obtain ⟨cells, hrows, hcell⟩ : ∃ cells, (Upload.noted "a").rows = [cells] ∧ cells.cell? "ts" = some (.int 0) := by
    have hindex : Schema.indexOf? "ts" = some 0 := by decide
    exact ⟨_, rfl, by rw [Cells.cell?, hindex]; rfl⟩
  obtain ⟨records, htext, hbegin⟩ := hrecords _ _ _ _ _ _ _ _ hput (by rw [hrows]; simpa using ⟨0, hcell⟩)
  rw [hrows] at hbegin
  obtain ⟨fields, _, hfields, hnone, rfl⟩ := List.forall₂_cons_left_iff.mp hbegin
  obtain rfl := List.forall₂_nil_left_iff.mp hnone
  obtain ⟨-, rest, hrest⟩ := hfields.2 0 hcell (by decide) (by decide)
  refine ⟨text, rest, hput, ?_, ?_, ?_⟩
  · rw [htext, Csv.records, List.flatMap_singleton, hrest, hstart, List.append_assoc]
  · rw [← hstart, (htimes 0 (by decide) (by decide)).1]
    rfl
  · rw [← hstart]
    exact (horder (-1) 0 (by decide) (by decide) (by decide) (by decide)).mpr (by decide)

end LogMill
