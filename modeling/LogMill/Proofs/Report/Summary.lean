import LogMill.Report.Levels
import LogMill.Proofs.Frame.Times
import LogMill.Proofs.Row.Fitting

namespace LogMill

open Outcome

theorem Schema.types : ∀ c ∈ columns, (c.type = .timestamp ↔ c.name = "ts") ∧
    (c.type = .integer ↔ c.name = "response_time_ms") ∧
    ((Category.ofColumn? c.name).isSome → c.name ≠ "ts" ∧ c.name ≠ "response_time_ms") := by
  decide

namespace ColumnType

def Plain (c : ColumnType) (moment : Int) (v : Value) : Prop :=
  (c = .timestamp ∧ ∃ n, v = .int n ∧ moment - Rule.maxShift ≤ n ∧ n ≤ moment + Rule.maxShift) ∨ c.Takes v

theorem Plain.admits {c : ColumnType} {moment : Int} {v : Value} (h : c.Plain moment v) : c.Admits v := by
  rcases h with ⟨rfl, n, rfl, _⟩ | h
  · trivial
  · exact h.admits

theorem Plain.takes {c : ColumnType} {moment : Int} {v : Value} (h : c.Plain moment v)
    (hlow : -9223372036850000 ≤ moment) (hhigh : moment ≤ 9223372036850000) : c.Takes v := by
  rcases h with ⟨rfl, n, rfl, hlow', hhigh'⟩ | h
  · right
    simp only [Moment.Precision.holds, Moment.Precision.perMilli, Rule.maxShift, SeriesType.minWhole,
      SeriesType.maxWhole, Bool.and_eq_true] at *
    exact ⟨decide_eq_true (by omega), decide_eq_true (by omega)⟩
  · exact h

theorem takes_text {c : ColumnType} (h : c ≠ .timestamp) (h' : c ≠ .integer) (s : String) : c.Takes (.text s) := by
  cases c with
  | text width => trivial
  | timestamp => exact absurd rfl h
  | integer => exact absurd rfl h'

theorem takes_responseTime (n : Int) : integer.Takes (.int (Rule.responseTimeOf n)) := by
  have hlow := Int.emod_nonneg n (by decide : (Rule.maxResponseTime : Int) ≠ 0)
  have hhigh := Int.emod_lt_of_pos n (by decide : (0 : Int) < Rule.maxResponseTime)
  simp only [Takes, Rule.responseTimeOf, SeriesType.minWhole, SeriesType.maxWhole, Rule.maxResponseTime] at *
  omega

end ColumnType

namespace Generator.Ready

variable {g : Generator} {table : Table} {seed : Value} {n : Int} {cells : Cells}

theorem takes_fed {base v : Value} (h : g.Ready table base seed) {c : Column} (hmem : c ∈ Schema.columns)
    (htimeless : c.type ≠ .timestamp) {feed : Feed}
    (hf : Feed.forColumn g.pools table base (.int g.pools.size) c.name = .ok feed)
    (hvalue : feed.rule.value n = .ok v) : c.type.Takes v := by
  obtain ⟨htime, hcount, hpool⟩ := Schema.types c hmem
  rw [h.forColumn_eq] at hf
  cases hc : Category.ofColumn? c.name with
  | some category =>
    obtain ⟨-, hresponse⟩ := hpool (by simp [hc])
    simp only [hc, Except.ok.injEq] at hf
    subst hf
    simp only [Rule.value, mapError_eq_ok, map_eq_ok] at hvalue
    obtain ⟨s, _, rfl⟩ := hvalue
    exact ColumnType.takes_text htimeless (mt hcount.mp hresponse) s
  | none =>
    have hown := Schema.own_columns c.name (List.mem_map_of_mem hmem) hc
    have htext (hresponse : c.name ≠ "response_time_ms") (s : String) : c.type.Takes (.text s) :=
      ColumnType.takes_text htimeless (mt hcount.mp hresponse) s
    simp only [hc] at hf
    simp only [List.mem_cons, List.not_mem_nil, or_false] at hown
    rcases hown with hn | hn | hn | hn | hn | hn | hn | hn <;>
      simp only [hn, Rule.own?, List.lookup_cons, String.reduceBEq, Except.ok.injEq] at hf <;> subst hf
    · exact absurd (htime.mpr hn) htimeless
    · obtain ⟨time, rfl⟩ := Rule.forUids_value hvalue
      exact htext (by simp [hn]) _
    · simp only [Rule.value, Rule.messageOf, mapError_eq_ok, map_eq_ok] at hvalue
      obtain ⟨s, _, rfl⟩ := hvalue
      exact htext (by simp [hn]) s
    · obtain rfl := Except.ok.inj hvalue
      exact htext (by simp [hn]) _
    · obtain rfl := Except.ok.inj hvalue
      exact htext (by simp [hn]) _
    · obtain rfl := Except.ok.inj hvalue
      rw [hcount.mpr hn]
      exact ColumnType.takes_responseTime n
    all_goals
      obtain rfl := Except.ok.inj hvalue
      exact htext (by simp [hn]) _

theorem timeless {base : Value} (h : g.Ready table base seed) (hrow : g.producer.row n = .ok cells) :
    List.Forall₂ (fun c v => c.type = .timestamp ∨ c.type.Takes v) Schema.columns cells := by
  apply (h.cells_eq hrow).imp
  rintro c v ⟨hmem, feed, hf, hvalue⟩
  exact or_iff_not_imp_left.mpr fun htimeless => h.takes_fed hmem htimeless hf hvalue

theorem plain {base : Int} (h : g.Ready table (.int base) seed) (hrow : g.producer.row n = .ok cells) :
    List.Forall₂ (fun c v => c.type.Plain (base + n) v) Schema.columns cells := by
  apply (h.cells_eq hrow).imp
  rintro c v ⟨hmem, feed, hf, hvalue⟩
  by_cases htime : c.type = .timestamp
  · have hname := (Schema.types c hmem).1.mp htime
    have hpool : Category.ofColumn? "ts" = none := by decide
    simp only [h.forColumn_eq, hname, hpool, Rule.own?, List.lookup_cons, String.reduceBEq, Except.ok.injEq] at hf
    subst hf
    obtain ⟨shift, rfl, hlow, hhigh⟩ := Rule.timestamp_value hvalue
    refine .inl ⟨htime, _, rfl, ?_⟩
    simp only [Rule.maxShift]
    omega
  · exact .inr (h.takes_fed hmem htime hf hvalue)

end Generator.Ready

structure Sample.Clear (s : Sample) : Prop where
  level : ∃ l, s.level = .text l
  responseTime : ∃ n, s.responseTime = .int n ∧ SeriesType.minWhole ≤ n ∧ n ≤ SeriesType.maxWhole
  message : ∃ m, s.message = .text m

theorem Sample.clear_framed {cells : Cells} (h : List.Forall₂ (fun c v => c.type.Takes v) Schema.columns cells) :
    (ofCells (Frame.framed Schema.columns cells)).Clear := by
  have hcell (name : String) (i : Nat) {c : Column} (hindex : Schema.indexOf? name = some i)
      (hc : Schema.columns[i]? = some c) : ∃ v, c.type.Takes v ∧
        ((Schema.indexOf? name).bind fun i => (Frame.framed Schema.columns cells)[i]?).getD .null =
          c.type.framed v := by
    obtain ⟨hi, rfl⟩ := List.getElem?_eq_some_iff.mp hc
    have hi' : i < cells.length := h.length_eq ▸ hi
    refine ⟨cells[i], h.get hi hi', ?_⟩
    have hframed : (Frame.framed Schema.columns cells)[i]? = some (Schema.columns[i].type.framed cells[i]) := by
      rw [Frame.framed, List.getElem?_zipWith_eq_some]
      exact ⟨_, _, List.getElem?_eq_getElem hi, List.getElem?_eq_getElem hi', rfl⟩
    rw [hindex, Option.bind_some, hframed]
    rfl
  obtain ⟨level, hlevel, hlevel'⟩ := hcell "log_level" 3 (by decide) rfl
  obtain ⟨time, htime, htime'⟩ := hcell "response_time_ms" 19 (by decide) rfl
  obtain ⟨message, hmessage, hmessage'⟩ := hcell "log_message" 2 (by decide) rfl
  refine ⟨?_, ?_, ?_⟩
  · cases level <;> first | exact hlevel.elim | exact ⟨_, hlevel'⟩
  · cases time <;> first | exact htime.elim | skip
    rename_i n
    obtain ⟨hlow, hhigh⟩ := htime
    refine ⟨n, htime'.trans ?_, hlow, hhigh⟩
    simp only [ColumnType.framed, Int.not_lt.mpr hhigh, ↓reduceIte]
  · cases message <;> first | exact hmessage.elim | exact ⟨_, hmessage'⟩

theorem LevelSummary.exists_all {samples : List Sample} (hne : samples ≠ []) (h : ∀ s ∈ samples, s.Clear) :
    ∃ l, all samples = .ok l := by
  have hnested : (samples.find? fun s => SeriesType.isNested s.level) = none := by
    rw [List.find?_eq_none]
    intro s hs
    obtain ⟨l, hl⟩ := (h s hs).level
    simp [hl, SeriesType.isNested]
  have htimes : SeriesType.ofCells (samples.map Sample.responseTime) = .whole := by
    have htakes : ∀ v ∈ samples.map Sample.responseTime, ColumnType.integer.Takes v := by
      rintro v hv
      obtain ⟨s, hs, rfl⟩ := List.mem_map.mp hv
      obtain ⟨n, hn, hbounds⟩ := (h s hs).responseTime
      exact hn ▸ hbounds
    obtain ⟨ns, hns⟩ := ColumnType.exists_ints (.inr rfl) fun v hv => (htakes v hv).admits
    rw [hns] at htakes ⊢
    have hne' : ns ≠ [] := by
      rintro rfl
      simp [hne] at hns
    exact SeriesType.ofCells_bounds hne' fun n hn => htakes _ (List.mem_map_of_mem hn)
  have hmessages : SeriesType.ofCells (samples.map Sample.message) = .text := by
    have hadmits : ∀ v ∈ samples.map Sample.message, (ColumnType.text 0).Admits v := by
      rintro v hv
      obtain ⟨s, hs, rfl⟩ := List.mem_map.mp hv
      obtain ⟨m, hm⟩ := (h s hs).message
      exact hm ▸ trivial
    obtain ⟨ms, hms⟩ := ColumnType.exists_texts hadmits
    have hne' : ms ≠ [] := by
      rintro rfl
      simp [hne] at hms
    rw [hms]
    exact SeriesType.ofCells_texts hne'
  obtain ⟨means, hmeans⟩ : ∃ means, ((levels samples).map fun v => (v, ofLevel samples v)).mapM (fun x =>
      meanTime .whole (if isGrouped samples && !(samples.any fun s => SeriesType.isMissing s.responseTime)
        then Double.leadSum else Double.carriedSum) (x.2.map Sample.responseTime)) = .ok means :=
    exists_mapM_ok fun _ _ => ⟨_, rfl⟩
  obtain ⟨lengths, hlengths⟩ : ∃ lengths, ((levels samples).map fun v => (v, ofLevel samples v)).mapM (fun x =>
      meanLength .text (x.2.map Sample.message)) = .ok lengths := exists_mapM_ok fun _ _ => ⟨_, rfl⟩
  unfold all
  simp only [hnested, htimes, hmessages, reduceCtorEq, ↓reduceIte, hmeans, hlengths]
  exact ⟨_, rfl⟩

theorem Batch.exists_levels {b : Batch} (hne : b.rows ≠ [])
    (h : ∀ cells ∈ b.rows, List.Forall₂ (fun c v => c.type.Takes v) Schema.columns cells) : ∃ l, b.levels = .ok l := by
  obtain ⟨l, hl⟩ : ∃ l, LevelSummary.all ((b.rows.map (Frame.framed Schema.columns)).map Sample.ofCells) = .ok l := by
    apply LevelSummary.exists_all
    · simpa using hne
    · simp only [List.map_map, List.mem_map, forall_exists_index, and_imp, forall_apply_eq_imp_iff₂]
      exact fun cells hc => Sample.clear_framed (h cells hc)
  refine ⟨l, ?_⟩
  rw [levels, Frame.ofRows_of_takes hne h]
  exact hl

def Cells.Datable (cells : Cells) : Prop := ∀ t, cells.cell? "ts" = some (.int t) → ColumnType.timestamp.Takes (.int t)

theorem Cells.cell?_ts (v : Value) (cells : Cells) : cell? (v :: cells) "ts" = some v := by
  have hindex : Schema.indexOf? "ts" = some 0 := by decide
  rw [cell?, hindex]
  rfl

theorem Generator.Ready.not_datable {g : Generator} {table : Table} {base n : Int} {seed : Value} {cells : Cells}
    (h : g.Ready table (.int base) seed) (hrow : g.producer.row n = .ok cells) (hfar : 9223372036856000 < base + n) :
    ¬ cells.Datable := by
  intro hdatable
  obtain ⟨v, hcell, hvalue⟩ := h.exists_own_cell hrow (c := ⟨"ts", .timestamp⟩) (by decide) (by decide) rfl
  obtain ⟨shift, rfl, hlow, hhigh⟩ := Rule.timestamp_value hvalue
  obtain hleast | hholds := hdatable _ hcell
  · simp only [SeriesType.minWhole] at hleast
    omega
  · simp only [Moment.Precision.holds, Moment.Precision.perMilli, SeriesType.maxWhole, Bool.and_eq_true] at hholds
    have hbound := of_decide_eq_true hholds.2
    omega

theorem Cells.takes_iff {moment : Int} {cells : Cells}
    (h : List.Forall₂ (fun c v => c.type.Plain moment v) Schema.columns cells) :
    List.Forall₂ (fun c v => c.type.Takes v) Schema.columns cells ↔ cells.Datable := by
  obtain ⟨rest, hcolumns, hrest⟩ := Schema.head_columns
  rw [hcolumns] at h ⊢
  cases h with
  | @cons _ v _ cells hv hcells =>
    have hcell := Cells.cell?_ts v cells
    constructor
    · intro htakes t ht
      cases htakes with
      | cons hfirst _ => rwa [← Option.some.inj (hcell.symm.trans ht)]
    · intro hdatable
      refine .cons ?_ ?_
      · rcases hv with ⟨-, n, rfl, -⟩ | hv
        · exact hdatable n hcell
        · exact hv
      · exact Frame.takes_of_timeless hrest (hcells.imp fun _ _ hv => hv.imp_left And.left)

theorem Batch.exists_levels_iff {b : Batch} (hne : b.rows ≠ []) (h : ∀ cells ∈ b.rows, ∃ moment,
    List.Forall₂ (fun c v => c.type.Plain moment v) Schema.columns cells) :
    (∃ l, b.levels = .ok l) ↔ ∀ cells ∈ b.rows, cells.Datable := by
  constructor
  · rintro ⟨l, hl⟩ cells hcells
    simp only [Batch.levels, bind_eq_ok, mapError_eq_ok] at hl
    obtain ⟨rows, hrows, -⟩ := hl
    have htyped : ∀ cells ∈ b.rows, Frame.Typed cells := by
      intro cells hcells
      obtain ⟨moment, hplain⟩ := h cells hcells
      exact hplain.imp fun c v hv => hv.admits
    have htakes := (Frame.ofRows_eq_ok hne htyped hrows).2 cells hcells
    obtain ⟨rest, hcolumns, -⟩ := Schema.head_columns
    rw [hcolumns] at htakes
    cases htakes with
    | @cons _ v _ cells hv _ =>
      intro t ht
      rw [← Option.some.inj ((Cells.cell?_ts v cells).symm.trans ht)]
      exact hv (.inl rfl)
  · intro hdatable
    apply Batch.exists_levels hne
    intro cells hcells
    obtain ⟨moment, hplain⟩ := h cells hcells
    exact (Cells.takes_iff hplain).mpr (hdatable cells hcells)

end LogMill
