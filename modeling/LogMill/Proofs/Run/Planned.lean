import LogMill.Proofs.Number.Numeral
import LogMill.Proofs.Row.Roster
import LogMill.Proofs.Run.Configured
import LogMill.Run.Plan

namespace LogMill

open Outcome

theorem requirePositive_iff {name : String} {v : Value} {n : Int} :
    requirePositive name v = .ok n ↔ 0 < n ∧ v = .int n := by
  refine ⟨requirePositive_eq_ok, ?_⟩
  rintro ⟨hn, rfl⟩
  exact if_pos hn

theorem requirePositive?_iff {name : String} {v : Value} {cap : Option Int} :
    requirePositive? name v = .ok cap ↔ (∀ n ∈ cap, 0 < n) ∧ v = (cap.map .int).getD .null := by
  have hsome (hv : v ≠ .null) : (requirePositive name v).map some = .ok cap ↔
      (∀ n ∈ cap, 0 < n) ∧ v = (cap.map .int).getD .null := by
    simp only [map_eq_ok, requirePositive_iff]
    cases cap with
    | none => simp [hv]
    | some n => simp
  cases v with
  | null => cases cap <;> simp [requirePositive?]
  | _ => exact hsome (by simp)

namespace Plan

def given (p : Plan) : Given where
  rowCount := .int p.rowCount
  batchSize := .int p.batchSize
  poolCap := (p.poolCap.map .int).getD .null
  seed := p.seed
  parallelism := .int p.parallelism
  table := p.table
  bucket := p.bucket
  keyPrefix := p.keyPrefix
  workgroup := p.workgroup
  database := p.database
  role := p.role

structure Positive (p : Plan) : Prop where
  rowCount : 0 < p.rowCount
  batchSize : 0 < p.batchSize
  poolCap : ∀ cap ∈ p.poolCap, 0 < cap
  parallelism : 0 < p.parallelism

variable {p : Plan} {g : Given}

theorem ofGiven_iff : ofGiven g = .ok p ↔ g = p.given ∧ p.Positive := by
  simp only [ofGiven, bind_eq_ok, requirePositive_iff, requirePositive?_iff, pure, Except.pure, Except.ok.injEq]
  constructor
  · rintro ⟨rows, ⟨hrows, hr⟩, batch, ⟨hbatch, hb⟩, streams, ⟨hstreams, hs⟩, cap, ⟨hcap, hc⟩, rfl⟩
    exact ⟨by rw [given, ← hr, ← hb, ← hs, ← hc], hrows, hbatch, hcap, hstreams⟩
  · rintro ⟨rfl, hrows, hbatch, hcap, hstreams⟩
    exact ⟨_, ⟨hrows, rfl⟩, _, ⟨hbatch, rfl⟩, _, ⟨hstreams, rfl⟩, _, ⟨hcap, rfl⟩, rfl⟩

theorem Positive.counts (h : p.Positive) : p.settings.counts = .ok (p.rowCount, p.batchSize, p.poolCap) := by
  simp only [Settings.counts, bind_eq_ok, requirePositive_iff, requirePositive?_iff, pure, Except.pure, Except.ok.injEq]
  exact ⟨_, ⟨h.rowCount, rfl⟩, _, ⟨h.batchSize, rfl⟩, _, ⟨h.poolCap, rfl⟩, rfl⟩

theorem ofGiven_eq_ok (h : ofGiven g = .ok p) :
    0 < p.parallelism ∧ p.settings.counts = .ok (p.rowCount, p.batchSize, p.poolCap) :=
  ⟨(ofGiven_iff.mp h).2.parallelism, (ofGiven_iff.mp h).2.counts⟩

theorem exists_configure (h : ofGiven g = .ok p) {w : World} {time : Int}
    (htime : Duration.ofSeconds (w.clock 1 - w.clock 0) = .ok time) :
    ∃ g notes seed, p.settings.configure w = (.ok g, notes) ∧ g.Ready Table.builtin (.int w.now) seed ∧
      g.producer.rowCount = p.rowCount := by
  obtain ⟨g, notes, hs, hrows, _⟩ := Settings.exists_configure (w := w) (ofGiven_eq_ok h).2 rfl htime
  obtain ⟨table, seed, htable, hg⟩ := Settings.configure_eq_ok hs
  obtain rfl := Except.ok.inj htable
  exact ⟨g, notes, seed, hs, hg, hrows⟩

theorem Positive.configure (h : p.Positive) (w : World) :
    (∃ g notes gs, p.settings.configure w = (.ok g, notes) ∧ g.batchSize = p.batchSize ∧
      g.remaining = p.rowCount ∧ g.split (.int p.parallelism) = .ok gs) ∨
    ∃ f notes, Duration.ofSeconds (w.clock 1 - w.clock 0) = .error f ∧
      p.settings.configure w = (.error (.duration f), notes) := by
  cases htime : Duration.ofSeconds (w.clock 1 - w.clock 0) with
  | ok time =>
    obtain ⟨g, notes, hs, hrows, hbatch⟩ := Settings.exists_configure (w := w) h.counts rfl htime
    obtain ⟨_, _, _, hg⟩ := Settings.configure_eq_ok hs
    exact .inl ⟨g, notes, _, hs, hbatch, hg.remaining_eq.trans hrows, g.split_int h.parallelism⟩
  | error f =>
    obtain ⟨notes, hs⟩ := Settings.configure_eq_error (w := w) h.counts rfl htime
    exact .inr ⟨f, notes, rfl, hs⟩

theorem ofFields_generatorFields (p : Plan) : Settings.ofFields p.generatorFields = .ok p.settings := by
  have hnames : Value.onlyNames "configure()" Settings.names p.generatorFields = .ok () := by
    simp [Value.onlyNames, generatorFields, Settings.names]
  rw [Settings.ofFields, hnames]
  rfl

/-- What a setting comes to: the other value if its variable is absent or empty, and otherwise the number that its text
is a numeral of, where underscores do not count. -/
inductive Comes (env : String → Option String) (name : String) (other : Value) : Value → Prop where
  | absent (h : env name = none) : Comes env name other other
  | empty (h : env name = some "") : Comes env name other other
  | written {raw : String} (m : Whole.Numeral) (h : env name = some raw) (hne : raw ≠ "")
      (htext : m.text = raw.toList.filter (· ≠ '_')) (hlength : m.digits.length ≤ 4300) :
      Comes env name other (.int m.value)

variable {env : String → Option String} {name : String} {other v : Value}

theorem number_of_present {raw : String} (henv : env name = some raw) (hne : raw ≠ "") :
    number env name other = .ok v ↔ ∃ m : Whole.Numeral, m.text = raw.toList.filter (· ≠ '_') ∧
      m.digits.length ≤ 4300 ∧ v = .int m.value := by
  have hunder : '_' ∉ raw.toList.filter (· ≠ '_') := by simp
  have hpresent : (env name).filter (· ≠ "") = some raw := by simp [henv, hne]
  have hnumber : number env name other = .ok v ↔
      ∃ n, Whole.read (raw.toList.filter (· ≠ '_')) = some n ∧ v = .int n := by
    simp only [number, hpresent]
    cases Whole.read (raw.toList.filter (· ≠ '_')) <;> simp [eq_comm]
  simp only [hnumber, Whole.read_eq_some hunder]
  constructor
  · rintro ⟨_, ⟨m, htext, hlength, rfl⟩, rfl⟩
    exact ⟨m, htext, hlength, rfl⟩
  · rintro ⟨m, htext, hlength, rfl⟩
    exact ⟨_, ⟨m, htext, hlength, rfl⟩, rfl⟩

theorem number_of_short {raw : String} (henv : env name = some raw) (hne : raw ≠ "") (hshort : raw.length < 4300) :
    number env name other = .ok v ↔
      ∃ m : Whole.Numeral, m.text = raw.toList.filter (· ≠ '_') ∧ v = .int m.value := by
  rw [number_of_present henv hne]
  constructor
  · rintro ⟨m, htext, -, hv⟩
    exact ⟨m, htext, hv⟩
  · rintro ⟨m, htext, hv⟩
    have hfilter := List.length_filter_le (· ≠ '_') raw.toList
    have hdigits := m.length_digits_le
    rw [htext] at hdigits
    rw [String.length_toList] at hfilter
    exact ⟨m, htext, by omega, hv⟩

theorem number_eq_ok : number env name other = .ok v ↔ Comes env name other v := by
  constructor
  · intro h
    cases henv : env name with
    | none =>
      simp only [number, henv, Option.filter_none, Except.ok.injEq] at h
      exact h ▸ .absent henv
    | some raw =>
      by_cases hne : raw = ""
      · subst hne
        simp only [number, henv, Option.filter_some, ne_eq, not_true_eq_false, decide_false, Bool.false_eq_true,
          ↓reduceIte, Except.ok.injEq] at h
        exact h ▸ .empty henv
      · obtain ⟨m, htext, hlength, rfl⟩ := (number_of_present henv hne).mp h
        exact .written m henv hne htext hlength
  · rintro (henv | henv | ⟨m, henv, hne, htext, hlength⟩)
    · simp [number, henv]
    · simp [number, henv, Option.filter_some]
    · exact (number_of_present henv hne).mpr ⟨m, htext, hlength, rfl⟩

structure OfEnvironment (env : String → Option String) (p : Plan) : Prop where
  rowCount : Comes env "TABLE_ROW_COUNT" (.int 2000000) (.int p.rowCount)
  batchSize : Comes env "BATCH_SIZE" (.int 100000) (.int p.batchSize)
  poolCap : Comes env "POOL_CAP" .null ((p.poolCap.map .int).getD .null)
  seed : Comes env "SEED" .null p.seed
  parallelism : Comes env "PARALLELISM" (.int 8) (.int p.parallelism)
  table : p.table = ((env "TABLE_NAME").map .text).getD (.text "benchmark_logs")
  bucket : p.bucket = ((env "S3_BUCKET").map .text).getD .null
  keyPrefix : p.keyPrefix = ((env "S3_PREFIX").map .text).getD (.text "raw")
  workgroup : p.workgroup = ((env "REDSHIFT_WORKGROUP").map .text).getD .null
  database : p.database = ((env "DB_NAME").map .text).getD (.text "dev")
  role : p.role = ((env "REDSHIFT_IAM_ROLE").map .text).getD .null
  positive : p.Positive

theorem ofEnvironment_iff : ofEnvironment env = .ok p ↔ OfEnvironment env p := by
  simp only [ofEnvironment, bind_eq_ok, number_eq_ok, ofGiven_iff]
  constructor
  · rintro ⟨_, hrows, _, hbatch, _, hcap, _, hseed, _, hstreams, hgiven, hpositive⟩
    obtain ⟨rfl, rfl, rfl, rfl, rfl, htable, hbucket, hprefix, hworkgroup, hdatabase, hrole⟩ :=
      (Given.mk.injEq ..).mp hgiven
    exact ⟨hrows, hbatch, hcap, hseed, hstreams, htable.symm, hbucket.symm, hprefix.symm, hworkgroup.symm,
      hdatabase.symm, hrole.symm, hpositive⟩
  · intro h
    refine ⟨_, h.rowCount, _, h.batchSize, _, h.poolCap, _, h.seed, _, h.parallelism, ?_, h.positive⟩
    rw [given, h.table, h.bucket, h.keyPrefix, h.workgroup, h.database, h.role]

end Plan

/-- The environment either gives a plan, whose counts are positive and whose numbers are those that are written there,
or it has a setting that is refused; and a plan that it gives makes a generator, which is split among its streams,
unless the clock goes beyond all durations while the pools are built. -/
theorem environment_read (env : String → Option String) :
    (∀ p, Plan.ofEnvironment env = .ok p ↔ Plan.OfEnvironment env p) ∧
    (∀ f, Plan.ofEnvironment env = .error f → Explained.kind f = .setting) ∧
    (∀ name other raw, env name = some raw → raw ≠ "" → raw.length < 4300 → ∀ v,
      Plan.number env name other = .ok v ↔
        ∃ m : Whole.Numeral, m.text = raw.toList.filter (· ≠ '_') ∧ v = .int m.value) ∧
    ∀ p, Plan.ofEnvironment env = .ok p → Settings.ofFields p.generatorFields = .ok p.settings ∧ ∀ w : World,
      (∃ g notes gs, p.settings.configure w = (.ok g, notes) ∧ g.batchSize = p.batchSize ∧
        g.remaining = p.rowCount ∧ g.split (.int p.parallelism) = .ok gs) ∨
      ∃ f notes, Duration.ofSeconds (w.clock 1 - w.clock 0) = .error f ∧
        p.settings.configure w = (.error (.duration f), notes) := by
  refine ⟨fun p => Plan.ofEnvironment_iff, fun f _ => rfl, ?_, fun p hp => ?_⟩
  · intro name other raw henv hne hshort v
    exact Plan.number_of_short henv hne hshort
  · exact ⟨p.ofFields_generatorFields, (Plan.ofEnvironment_iff.mp hp).positive.configure⟩

end LogMill
