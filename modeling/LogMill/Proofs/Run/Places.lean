import LogMill.Proofs.Run.Ingestion
import LogMill.Proofs.Sink.Keys

/-!
Places: all parts of an ingestion, each of which is given the prefix, agree on where the objects of a table lie.
-/

namespace LogMill

namespace Ingest

/-- Whether a call readies a place to be loaded: it clears the place, or puts an object below it. -/
def Readies (bucket : Value) (place : String) : Call → Prop
  | .put b key _ _ => b = bucket ∧ ∃ start, key = Upload.partKey place start
  | c => c.Clears bucket place

def Grows (P : Call → Prop) (t t' : Trace) : Prop := ∃ more, t'.calls = t.calls ++ more ∧ ∀ c ∈ more, P c

section

variable {α β : Type} {P : Call → Prop} {t t' t'' : Trace}

theorem Grows.of_eq (h : t'.calls = t.calls) : Grows P t t' := ⟨[], by simp [h], by simp⟩

theorem Grows.trans (h : Grows P t t') (h' : Grows P t' t'') : Grows P t t'' := by
  obtain ⟨more, hcalls, hmore⟩ := h
  obtain ⟨later, hcalls', hlater⟩ := h'
  exact ⟨more ++ later, by rw [hcalls', hcalls, List.append_assoc], List.forall_mem_append.mpr ⟨hmore, hlater⟩⟩

theorem Grows.bind {x : Act α} {f : α → Act β} (hx : Grows P t (after x t).2)
    (hf : ∀ a t', after x t = (.ok a, t') → Grows P t' (after (f a) t').2) : Grows P t (after (x >>= f) t).2 := by
  rcases h : after x t with ⟨outcome, t'⟩
  rw [h] at hx
  cases outcome with
  | error e => rwa [after_bind_error h]
  | ok a =>
    rw [after_bind_ok h]
    exact hx.trans (hf a t' h)

end

def Asks (p : Plan) (text : String) (x : Act Result) (t : Trace) : Prop :=
  ∃ before runs, (after x t).2.calls = t.calls ++ (before ++ runs.flatten) ∧
    (∀ c ∈ before, Readies p.bucket (place p text) c) ∧
    Loader.InTurn ⟨p.workgroup, p.database⟩ (statements p text) runs ∧
    ∀ r, (after x t).1 = .ok r → runs.length = 3

variable {p : Plan} {text : String} {t : Trace}

theorem after_prepare_eq (p : Plan) (w : World) (t : Trace) : ∃ outcome main,
    after (prepare p w) t = (outcome, { t with main }) ∧ ∀ x, outcome = .ok x → p.keyPrefix = .text x.2 := by
  unfold prepare
  rcases p.settings.configure w with ⟨configured, journal⟩
  cases !p.bucket.isPresent || !p.workgroup.isPresent with
  | true => exact ⟨_, _, rfl, by simp⟩
  | false =>
    cases configured with
    | error f => exact ⟨_, _, rfl, by simp⟩
    | ok g =>
      cases htext : p.keyPrefix with
      | text s =>
        simp only [keyPrefix, htext]
        refine ⟨_, _, rfl, ?_⟩
        rintro x ⟨⟩
        rfl
      | _ =>
        simp only [keyPrefix, htext]
        exact ⟨_, _, rfl, by simp⟩

theorem Asks.bind {α : Type} {x : Act α} {f : α → Act Result}
    (hx : Grows (Readies p.bucket (place p text)) t (after x t).2)
    (hf : ∀ a t', after x t = (.ok a, t') → Asks p text (f a) t') : Asks p text (x >>= f) t := by
  obtain ⟨more, hcalls, hmore⟩ := hx
  unfold Asks
  rcases h : after x t with ⟨outcome, t'⟩
  rw [h] at hcalls
  cases outcome with
  | error e =>
    rw [after_bind_error h]
    exact ⟨more, [], by simpa using hcalls, hmore, ⟨.nil, by simp⟩, by simp⟩
  | ok a =>
    obtain ⟨before, runs, hcalls', hbefore, hturn, hall⟩ := hf a t' h
    rw [after_bind_ok h]
    exact ⟨more ++ before, runs, by simp [hcalls', hcalls], List.forall_mem_append.mpr ⟨hmore, hbefore⟩, hturn, hall⟩

theorem readies_of_clears {bucket : Value} {place : String} {c : Call} (h : c.Clears bucket place) :
    Readies bucket place c := by
  cases c with
  | put => exact h.elim
  | _ => exact h

theorem clear_grows (client : Store.Client) (t : Trace) :
    Grows (Readies p.bucket (place p text)) t (after (clear client p.bucket (place p text)) t).2 := by
  obtain ⟨main, hclear⟩ := after_clear client p.bucket (place p text) t
  obtain ⟨cleared, hcalls, hclears, -⟩ := Store.clear_calls client p.bucket (place p text) t.calls
  rw [hclear]
  exact ⟨cleared, hcalls, fun c hc => readies_of_clears (hclears c hc)⟩

theorem upload_grows (client : Store.Client) (g : Generator) (order : List Generator → List Event)
    (clock streamClock : Clock) (t : Trace) :
    Grows (Readies p.bucket (place p text)) t (after (upload p client text g order clock streamClock) t).2 := by
  have hget : after (get : Act Trace) t = (.ok t, t) := rfl
  rw [upload, ← uploadBenchmark, after_bind_ok hget]
  cases hsplit : g.split (uploadBenchmark p).parallelism with
  | error f =>
    simp only [Benchmark.runIn, hsplit]
    exact .of_eq rfl
  | ok gs =>
    obtain ⟨o, ho, hstreams, -⟩ := Benchmark.exists_runIn hsplit order (sinks client p.bucket text p.table.plain)
      ⟨[], t.calls, []⟩ clock streamClock
    have hsending := Streams.run_keeps (sinks client p.bucket text p.table.plain) streamClock (fun h hs => h.step hs)
      (Sending.start p.bucket (place p text) gs t.calls) (order gs)
    rw [← hstreams] at hsending
    obtain ⟨parts, hcalls, hparts⟩ := hsending.sends
    have hreadies : ∀ c ∈ parts.flatten, Readies p.bucket (place p text) c := by
      intro c hc
      obtain ⟨start, _, _, rfl⟩ := Contact.exists_put_of_sends hparts c hc
      exact ⟨rfl, start, rfl⟩
    simp only [ho]
    apply Grows.bind
    · exact ⟨parts.flatten, hcalls, hreadies⟩
    intro _ t _
    apply Grows.bind (.of_eq rfl)
    intro _ t _
    apply Grows.bind (.of_eq rfl)
    intro result t _
    apply Grows.bind (.of_eq rfl)
    intro _ t _
    cases result.success <;> exact .of_eq rfl

theorem delivery_asks (g : Generator) (uploaded : Result × Nat) (clock : Clock) (t : Trace) :
    Asks p text (deliver p text g uploaded.2 clock >>= summarize g uploaded.1) t := by
  obtain ⟨runs, outcome, t', hdelivery, hcalls, -, hturn, hloaded, -⟩ :=
    after_delivery p text g uploaded.2 uploaded.1 clock t
  rw [Asks, hdelivery]
  exact ⟨[], runs, hcalls, by simp, hturn, fun r hr => (hloaded ⟨r, hr⟩).1⟩

theorem transfer_asks (client : Store.Client) (g : Generator) (order : List Generator → List Event)
    (clock clock' streamClock : Clock) (t : Trace) :
    Asks p text (upload p client text g order clock streamClock >>= fun x =>
      deliver p text g x.2 clock' >>= summarize g x.1) t :=
  .bind (upload_grows client g order clock streamClock t) fun x t' _ => delivery_asks g x clock' t'

theorem run_asks (htext : p.keyPrefix = .text text) (w : World) (client : Store.Client)
    (order : List Generator → List Event) (streamClock : Clock) (t : Trace) :
    Asks p text (act p w client order streamClock) t := by
  obtain ⟨outcome, main, hprepare, htext'⟩ := after_prepare_eq p w t
  rw [act]
  apply Asks.bind
  · rw [hprepare]
    exact .of_eq rfl
  rintro ⟨g, k⟩ t' hprepared
  rw [hprepare] at hprepared
  obtain rfl : text = k := Value.text.inj (htext.symm.trans (htext' _ (congrArg Prod.fst hprepared)))
  apply Asks.bind (clear_grows client t')
  intro _ t' _
  apply Asks.bind (.of_eq rfl)
  intro _ t' _
  exact transfer_asks client g order _ _ streamClock t'

theorem run_lists {g : Generator} {notes : Journal} {w : World} (hbucket : p.bucket.isPresent)
    (hworkgroup : p.workgroup.isPresent) (hs : p.settings.configure w = (.ok g, notes))
    (htext : p.keyPrefix = .text text) {client : Store.Client} (hlisted : client.paginator = none)
    (warehouse : Warehouse.State) (order : List Generator → List Event) (streamClock : Clock) :
    ∃ rest, (run p w client warehouse order streamClock).2.calls = warehouse.calls ++
      .paginator "list_objects_v2" :: .list p.bucket (.text (place p text)) :: rest := by
  obtain ⟨emptied, asked, stop, journal, -, hclear⟩ :=
    Store.clear_of_listed hlisted p.bucket (.text (place p text)) warehouse.calls
  cases stop with
  | some reason =>
    obtain ⟨trace, hrun, hcalls⟩ :=
      run_of_unclear hbucket hworkgroup hs htext client warehouse hclear order streamClock
    rw [hrun, hcalls]
    exact ⟨asked, by simp⟩
  | none =>
    obtain ⟨main, hrun⟩ := run_of_clear hbucket hworkgroup hs htext client warehouse hclear order streamClock
    obtain ⟨before, runs, hcalls, -⟩ := transfer_asks client g order (w.clock.after 2) (w.clock.after 4) streamClock
      ⟨main, [], { warehouse with calls := _ }⟩
    rw [hrun, hcalls]
    exact ⟨asked ++ (before ++ runs.flatten), by simp [Trace.calls]⟩

end Ingest

open Ingest in
/-- Slashes around a prefix change nothing. With them or without, the keys of a table begin with one place, and no key
of another table begins with it. An ingestion lists this place first of all, clears it and puts its objects below it,
and the last of its statements, which a successful one submits, loads it. -/
theorem places_agree {keyPrefix given : String} {m n : Nat} (hgiven : given = slashes m ++ keyPrefix ++ slashes n)
    {table table' : String} (htable : '/' ∉ table.toList) (htable' : '/' ∉ table'.toList) :
    tablePrefix given table = tablePrefix keyPrefix table ∧
      (∀ bucket keys rowsWritten, Upload.Keyed { Upload.opened bucket given table with keys, rowsWritten }
        (tablePrefix keyPrefix table)) ∧
      (table ≠ table' → ∀ bucket start rest,
        (Upload.opened bucket given table').keyFor start ≠ tablePrefix keyPrefix table ++ rest) ∧
      (∀ bucket role, ∃ front back, Loader.copySql table bucket given role =
        front ++ "'s3://" ++ bucket ++ "/" ++ tablePrefix keyPrefix table ++ "'" ++ back) ∧
      ∀ p w client warehouse order streamClock, p.keyPrefix = .text given → p.table = .text table →
        ∃ outcome trace before runs, Ingest.run p w client warehouse order streamClock = (outcome, trace) ∧
          trace.calls = warehouse.calls ++ (before ++ runs.flatten) ∧
          (∀ c ∈ before, Readies p.bucket (tablePrefix keyPrefix table) c) ∧
          (p.bucket.isPresent → p.workgroup.isPresent → (∃ g notes, p.settings.configure w = (.ok g, notes)) →
            client.paginator = none → ∃ rest, trace.calls = warehouse.calls ++
              .paginator "list_objects_v2" :: .list p.bucket (.text (tablePrefix keyPrefix table)) :: rest) ∧
          Loader.InTurn ⟨p.workgroup, p.database⟩ [Schema.createTable table, Loader.truncateSql table,
            Loader.copySql table p.bucket.plain given p.role] runs ∧
          ∀ r, outcome = .ok r → runs.length = 3 := by
  subst hgiven
  have hplace := tablePrefix_slashes m n keyPrefix table
  refine ⟨hplace, ?_, ?_, ?_, ?_⟩
  · intro bucket keys rowsWritten
    rw [← hplace, ← Upload.place_opened bucket]
    exact Upload.keyed _
  · intro hne bucket start rest hkey
    rw [Upload.opened_slashes, Upload.keyFor_opened] at hkey
    exact hne (Upload.table_of_partKey htable htable' hkey)
  · intro bucket role
    rw [← hplace]
    exact Loader.copySql_source table bucket _ role
  · intro p w client warehouse order streamClock htext hnamed
    have hserved : place p (slashes m ++ keyPrefix ++ slashes n) = tablePrefix keyPrefix table := by
      rw [place, hnamed, Value.plain, hplace]
    have hstatements : statements p (slashes m ++ keyPrefix ++ slashes n) = [Schema.createTable table,
        Loader.truncateSql table,
        Loader.copySql table p.bucket.plain (slashes m ++ keyPrefix ++ slashes n) p.role] := by
      rw [statements, hnamed, Value.plain]
    obtain ⟨before, runs, hcalls, hbefore, hturn, hall⟩ :=
      run_asks htext w client order streamClock ⟨[], [], warehouse⟩
    rw [hserved] at hbefore
    rw [hstatements] at hturn
    refine ⟨_, _, before, runs, rfl, hcalls, hbefore, ?_, hturn, hall⟩
    rintro hbucket hworkgroup ⟨g, notes, hs⟩ hlisted
    rw [← hserved]
    exact run_lists hbucket hworkgroup hs htext hlisted warehouse order streamClock

open Ingest in
theorem places_agree_slashed :
    tablePrefix "/p/" "t" = "p/t/" ∧ Upload.Keyed (Upload.opened (.text "b") "/p/" "t") "p/t/" ∧
      (∀ start rest, (Upload.opened (.text "b") "/p/" "t2").keyFor start ≠ "p/t/" ++ rest) ∧
      ∃ r trace before runs rest,
        Ingest.run (.alone 1 1) .idle Upload.willing (prompt 1 []) (fun _ => Event.single) .still = (.ok r, trace) ∧
        trace.calls = before ++ runs.flatten ∧ (∀ c ∈ before, Readies (.text "b") "p/t/" c) ∧
        trace.calls = .paginator "list_objects_v2" :: .list (.text "b") (.text "p/t/") :: rest ∧
        Loader.InTurn ⟨.text "w", .text "dev"⟩
          [Schema.createTable "t", Loader.truncateSql "t", Loader.copySql "t" "b" "p" .null] runs ∧
        runs.length = 3 := by
  have hplace : tablePrefix "p" "t" = "p/t/" := by decide
  have hgiven : "/p/" = slashes 1 ++ "p" ++ slashes 1 := by decide
  have hplain : "p" = slashes 0 ++ "p" ++ slashes 0 := by decide
  have hname : '/' ∉ "t".toList := by decide
  have hother : '/' ∉ "t2".toList := by decide
  obtain ⟨hsame, hkeyed, hapart, -, -⟩ := places_agree hgiven hname hother
  obtain ⟨-, -, -, -, hruns⟩ := places_agree hplain hname hother
  obtain ⟨g, notes, r, trace, hs, hrun, _⟩ := run_single
  obtain ⟨outcome, trace', before, runs, hrun', hcalls, hbefore, hlists, hturn, hall⟩ := hruns (.alone 1 1) .idle
    Upload.willing (prompt 1 []) (fun _ => Event.single) .still rfl rfl
  obtain ⟨rfl, rfl⟩ := Prod.mk.inj (hrun.symm.trans hrun')
  obtain ⟨rest, hrest⟩ := hlists rfl rfl ⟨g, notes, hs⟩ rfl
  rw [hplace] at hsame hkeyed hapart hbefore hrest
  exact ⟨hsame, hkeyed _ [] 0, hapart (by decide) _, r, trace, before, runs, rest, hrun, hcalls, hbefore, hrest, hturn,
    hall r rfl⟩

end LogMill
