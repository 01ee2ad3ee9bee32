import LogMill.Proofs.Calendar.Days

namespace LogMill.Date

def yearDay (year : Nat) : Nat := 365 * year + year / 4 - year / 100

def plainDay (day : Nat) : Nat := day - day / 1460 + day / 36524 - day / 146096

def marchStart (year : Int) : Int := year / 400 * periodDays + yearDay (year % 400).toNat - epoch

theorem plainDay_mono {m n : Nat} (h : m ≤ n) (hn : n < 146097) : plainDay m ≤ plainDay n := by
  unfold plainDay
  omega

theorem exists_parts {year : Nat} (h : year < 400) : ∃ c s r, year = 100 * c + 4 * s + r ∧ c < 4 ∧ s < 25 ∧ r < 4 ∧
    yearDay year = 36524 * c + 1461 * s + 365 * r := by
  refine ⟨year / 100, year % 100 / 4, year % 4, ?_⟩
  unfold yearDay
  omega

theorem plainDay_yearDay {year : Nat} (h : year < 400) : plainDay (yearDay year) = 365 * year := by
  obtain ⟨c, s, r, rfl, hc, hs, hr, hday⟩ := exists_parts h
  have hfours : yearDay (100 * c + 4 * s + r) / 1460 = 25 * c + s := by omega
  have hcenturies : yearDay (100 * c + 4 * s + r) / 36524 = c := by omega
  have hperiod : yearDay (100 * c + 4 * s + r) / 146096 = 0 := by omega
  rw [plainDay, hfours, hcenturies, hperiod, hday]
  omega

theorem plainDay_before {year : Nat} (hpos : 0 < year) (h : year < 400) : plainDay (yearDay year - 1) < 365 * year := by
  obtain ⟨c, s, r, rfl, hc, hs, hr, hday⟩ := exists_parts h
  have hfours : (yearDay (100 * c + 4 * s + r) - 1) / 1460 = 25 * c + s := by omega
  have hcenturies : (yearDay (100 * c + 4 * s + r) - 1) / 36524 ≤ c := by omega
  rw [plainDay, hfours]
  omega

theorem le_plainDay_div_iff {day year : Nat} (hday : day < 146097) (h : year < 400) :
    year ≤ plainDay day / 365 ↔ yearDay year ≤ day := by
  rw [Nat.le_div_iff_mul_le (by decide), Nat.mul_comm]
  constructor
  · intro hle
    by_contra hbefore
    have hpos : 0 < year := Nat.pos_of_ne_zero fun hzero => by simp [hzero, yearDay] at hbefore
    have hmono := plainDay_mono (show day ≤ yearDay year - 1 by omega) (by unfold yearDay; omega)
    have := plainDay_before hpos h
    omega
  · intro hle
    rw [← plainDay_yearDay h]
    exact plainDay_mono hle hday

theorem plainDay_div_lt {day : Nat} (h : day < 146097) : plainDay day / 365 < 400 := by
  have hmono := plainDay_mono (Nat.le_of_lt_succ h) (by decide)
  have hlast : plainDay 146096 = 145999 := by decide
  omega

theorem marchStart_eq (year : Int) : marchStart year = marchStart (year - 1) + yearLength (isLeap year) := by
  simp only [marchStart, yearDay, yearLength_eq, isLeap, periodDays]
  split_ifs with hleap <;> simp only [decide_eq_true_eq] at hleap <;> omega

theorem yearStart_eq (year : Int) : yearStart year = marchStart (year - 1) + 306 := by
  -- From 1970 on either way, as the days to a year are a sum from there.
  induction year using Int.inductionOn' (b := 1970) with
  | zero => decide
  | succ year _ ih =>
    rw [yearStart_succ, ih, Int.add_sub_cancel, marchStart_eq year]
    omega
  | pred year _ ih =>
    have hnext := yearStart_succ (year - 1)
    have hmarch := marchStart_eq (year - 1)
    rw [Int.sub_add_cancel] at hnext
    omega

theorem monthStart_eq : ∀ leap, ∀ month < 13, 3 ≤ month →
    monthStart leap month + 306 = yearLength leap + (153 * (month - 3) + 2) / 5 := by
  decide

variable {d : Date}

theorem toDay_of_early (hday : 1 ≤ d.day) (h : d.month ≤ 2) :
    d.toDay = marchStart (d.year - 1) + ((153 * (d.month + 9) + 2) / 5 + (d.day - 1) : Nat) := by
  simp only [toDay, h, ↓reduceIte, marchStart, yearDay]
  omega

theorem toDay_of_late (hday : 1 ≤ d.day) (h : ¬ d.month ≤ 2) :
    d.toDay = marchStart d.year + ((153 * (d.month - 3) + 2) / 5 + (d.day - 1) : Nat) := by
  simp only [toDay, h, ↓reduceIte, marchStart, yearDay]
  omega

theorem Valid.toDay_eq (h : d.Valid) : d.toDay = d.number := by
  by_cases hmonth : d.month ≤ 2
  · rw [toDay_of_early h.day_pos hmonth, number, yearStart_eq]
    have hstart : monthStart (isLeap d.year) d.month = 31 * (d.month - 1) := by
      have := h.month_pos
      obtain hfirst | hsecond : d.month = 1 ∨ d.month = 2 := by omega
      · rw [hfirst]
        rfl
      · rw [hsecond]
        cases isLeap d.year <;> decide
    have := h.month_pos
    have := h.day_pos
    omega
  · rw [toDay_of_late h.day_pos hmonth, number]
    have hstart := monthStart_eq (isLeap d.year) d.month (Nat.lt_succ_of_le h.month_le) (by omega)
    have hyear := yearStart_eq (d.year + 1)
    have := h.day_pos
    rw [yearStart_succ, Int.add_sub_cancel] at hyear
    omega

def monthAfter (months : Nat) : Nat := if months < 10 then months + 3 else months - 9

def ofMarch (year : Int) (inYear : Nat) : Date :=
  let months := (5 * inYear + 2) / 153
  ⟨year + (if monthAfter months ≤ 2 then 1 else 0), monthAfter months, inYear - (153 * months + 2) / 5 + 1⟩

theorem monthLength_monthAfter : ∀ leap, ∀ months < 12,
    (153 * months + 2) / 5 + monthLength leap (monthAfter months) =
      if months = 11 then yearLength leap else (153 * (months + 1) + 2) / 5 := by
  decide

theorem monthLength_congr (leap leap' : Bool) {month : Nat} (h : month ≠ 2) :
    monthLength leap month = monthLength leap' month := by
  simp [monthLength, h]

variable {year : Int} {inYear : Nat}

theorem valid_ofMarch (h : inYear < yearLength (isLeap (year + 1))) : (ofMarch year inYear).Valid := by
  have hshort := yearLength_le (isLeap (year + 1))
  have hmonths : (5 * inYear + 2) / 153 < 12 := by omega
  have hmonth : 1 ≤ monthAfter ((5 * inYear + 2) / 153) ∧ monthAfter ((5 * inYear + 2) / 153) ≤ 12 := by
    unfold monthAfter
    split <;> omega
  refine ⟨hmonth.1, hmonth.2, Nat.succ_le_succ (Nat.zero_le _), ?_⟩
  have hlength := monthLength_monthAfter (isLeap (year + 1)) _ hmonths
  -- Only the length of February depends on its year, which is the one that follows.
  have hleap : monthLength (isLeap (ofMarch year inYear).year) (ofMarch year inYear).month =
      monthLength (isLeap (year + 1)) (monthAfter ((5 * inYear + 2) / 153)) := by
    by_cases hfebruary : monthAfter ((5 * inYear + 2) / 153) = 2
    · simp [ofMarch, hfebruary]
    · exact monthLength_congr _ _ hfebruary
  rw [hleap]
  simp only [ofMarch]
  split_ifs at hlength <;> omega

theorem toDay_ofMarch (h : inYear < 366) : (ofMarch year inYear).toDay = marchStart year + inYear := by
  have hday : 1 ≤ (ofMarch year inYear).day := Nat.succ_le_succ (Nat.zero_le _)
  have hmonths : (ofMarch year inYear).month ≤ 2 ↔ ¬ (5 * inYear + 2) / 153 < 10 := by
    simp only [ofMarch, monthAfter]
    split <;> omega
  by_cases hmonth : (ofMarch year inYear).month ≤ 2
  · have hlate := hmonths.mp hmonth
    have hyear : (ofMarch year inYear).year - 1 = year := by
      simp only [ofMarch] at hmonth ⊢
      rw [if_pos hmonth, Int.add_sub_cancel]
    rw [toDay_of_early hday hmonth, hyear]
    simp only [ofMarch, monthAfter, if_neg hlate]
    omega
  · have hearly := Decidable.not_not.mp (hmonths.not.mp hmonth)
    have hyear : (ofMarch year inYear).year = year := by
      simp only [ofMarch] at hmonth ⊢
      rw [if_neg hmonth, Int.add_zero]
    rw [toDay_of_late hday hmonth, hyear]
    simp only [ofMarch, monthAfter, if_pos hearly]
    omega

theorem marchStart_add (q : Int) {year : Nat} (h : year < 400) :
    marchStart (q * 400 + year) = q * periodDays + yearDay year - epoch := by
  have hquotient : (q * 400 + year) / 400 = q := by omega
  have hrest : ((q * 400 + year) % 400).toNat = year := by omega
  rw [marchStart, hquotient, hrest]

theorem ofDay_eq (n : Int) {day year : Nat} (hday : ((n + epoch) % periodDays).toNat = day)
    (hyear : plainDay day / 365 = year) :
    ofDay n = ofMarch ((n + epoch) / periodDays * 400 + year) (day - yearDay year) := by
  subst hday hyear
  rfl

theorem lt_marchStart_next (q : Int) {day year : Nat} (hday : day < 146097) (hyear : plainDay day / 365 = year) :
    q * periodDays + day - epoch < marchStart (q * 400 + year + 1) := by
  have hlt : year < 400 := hyear ▸ plainDay_div_lt hday
  by_cases hlast : year + 1 < 400
  · have hnext := marchStart_add q hlast
    have hbefore := (le_plainDay_div_iff hday hlast).not.mp (by omega)
    have hsucc : q * 400 + (year + 1 : Nat) = q * 400 + year + 1 := by omega
    rw [hsucc] at hnext
    omega
  · have hperiods : q * 400 + year + 1 = (q + 1) * 400 + (0 : Nat) := by omega
    rw [hperiods, marchStart_add (q + 1) (show 0 < 400 by decide)]
    simp only [periodDays, yearDay]
    omega

theorem exists_ofMarch (n : Int) : ∃ year inYear, ofDay n = ofMarch year inYear ∧ n = marchStart year + inYear ∧
    inYear < yearLength (isLeap (year + 1)) := by
  obtain ⟨q, day, hday, hn, hperiod⟩ : ∃ (q : Int) (day : Nat), ((n + epoch) / periodDays = q ∧
      ((n + epoch) % periodDays).toNat = day) ∧ n = q * periodDays + day - epoch ∧ day < 146097 := by
    refine ⟨_, _, ⟨rfl, rfl⟩, ?_⟩
    simp only [periodDays]
    omega
  obtain ⟨year, hyear⟩ : ∃ year, plainDay day / 365 = year := ⟨_, rfl⟩
  have hlt : year < 400 := hyear ▸ plainDay_div_lt hperiod
  have hle : yearDay year ≤ day := (le_plainDay_div_iff hperiod hlt).mp hyear.ge
  have hstart := marchStart_add q hlt
  have hnext := lt_marchStart_next q hperiod hyear
  rw [marchStart_eq, Int.add_sub_cancel] at hnext
  refine ⟨q * 400 + year, day - yearDay year, ?_, by omega, by omega⟩
  rw [ofDay_eq n hday.2 hyear, hday.1]

theorem ofDay_valid (n : Int) : (ofDay n).Valid := by
  obtain ⟨year, inYear, hdate, -, hlt⟩ := exists_ofMarch n
  exact hdate ▸ valid_ofMarch hlt

theorem toDay_ofDay (n : Int) : (ofDay n).toDay = n := by
  obtain ⟨year, inYear, hdate, hn, hlt⟩ := exists_ofMarch n
  rw [hdate, toDay_ofMarch (hlt.trans_le (yearLength_le _)), hn]

theorem number_ofDay (n : Int) : (ofDay n).number = n := by
  rw [← (ofDay_valid n).toDay_eq, toDay_ofDay]

end LogMill.Date
