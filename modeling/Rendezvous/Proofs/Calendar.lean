/-
  The calendar, and the stamps of its instants.

  * `Date.isValid_ofDays`: the days of the years 1 to 9999 have dates that exist;
  * `Stamp.isInstant_assemble`: a stamp put together of its parts is read part by
    part;
  * `Stamp.check_stampText`: the stamp of an instant of these years is a stamp.
-/
import Mathlib.Tactic
import Rendezvous.Instant
import Rendezvous.Proofs.Decimal
import Rendezvous.Stamp

namespace Rendezvous

namespace Date

/-! ## Years

An era of 400 years has 146097 days, and starts in March. -/

/-- The year of an era in which a day of the era lies. -/
def yearOfEra (d : Nat) : Nat := (d - d / 1460 + d / 36524 - d / 146096) / 365

/-- The first day of a year of an era. -/
def firstDay (y : Nat) : Nat := 365 * y + y / 4 - y / 100

theorem yearOfEra_mono {d e : Nat} (h : d ≤ e) : yearOfEra d ≤ yearOfEra e := by
  induction h with
  | refl => exact le_rfl
  | @step e _ ih =>
    refine ih.trans (Nat.div_le_div_right ?_)
    change _ ≤ e + 1 - (e + 1) / 1460 + (e + 1) / 36524 - (e + 1) / 146096
    omega

theorem yearOfEra_firstDay : ∀ y < 400, yearOfEra (firstDay y) = y := by decide +kernel

theorem yearOfEra_lastDay : ∀ y < 399, yearOfEra (firstDay (y + 1) - 1) = y := by
  decide +kernel

theorem yearOfEra_lt {d : Nat} (h : d < 146097) : yearOfEra d < 400 := by
  unfold yearOfEra; omega

/-- A day of an era lies between the first days of its year and of the next one. -/
theorem firstDay_yearOfEra {d : Nat} (h : d < 146097) :
    firstDay (yearOfEra d) ≤ d ∧ (yearOfEra d < 399 → d < firstDay (yearOfEra d + 1)) := by
  have hy := yearOfEra_lt h
  constructor
  · by_contra hd
    obtain ⟨y, hy'⟩ : ∃ y, yearOfEra d = y + 1 := by
      rcases Nat.eq_zero_or_pos (yearOfEra d) with h0 | h0
      · rw [h0] at hd; exact absurd (Nat.zero_le d) hd
      · exact ⟨yearOfEra d - 1, by omega⟩
    rw [hy'] at hd
    have := yearOfEra_mono (show d ≤ firstDay (y + 1) - 1 by omega)
    rw [yearOfEra_lastDay y (by omega)] at this; omega
  · intro hlt
    by_contra hd
    have := yearOfEra_mono (show firstDay (yearOfEra d + 1) ≤ d by omega)
    rw [yearOfEra_firstDay _ (by omega)] at this; omega

/-- The day of its year that a day of an era is. -/
def dayOfYear (d : Nat) : Nat := d - firstDay (yearOfEra d)

/-- Only a year that ends in a leap year has a day more. -/
theorem dayOfYear_lt {d : Nat} (h : d < 146097) : dayOfYear d < 366 ∧
    (dayOfYear d = 365 → (yearOfEra d + 1) % 4 = 0 ∧
      ((yearOfEra d + 1) % 100 ≠ 0 ∨ yearOfEra d + 1 = 400)) := by
  obtain ⟨h1, h2⟩ := firstDay_yearOfEra h
  have hy := yearOfEra_lt h
  generalize hyd : yearOfEra d = y at h1 h2 hy
  simp only [dayOfYear, firstDay, hyd] at *
  rcases Nat.lt_or_ge y 399 with hlt | hge
  · have hnext := h2 hlt
    have hfour : (y + 1) / 4 = y / 4 ∧ (y + 1) % 4 ≠ 0 ∨
        (y + 1) / 4 = y / 4 + 1 ∧ (y + 1) % 4 = 0 := by omega
    have hcent : (y + 1) / 100 = y / 100 ∧ (y + 1) % 100 ≠ 0 ∨
        (y + 1) / 100 = y / 100 + 1 ∧ (y + 1) % 100 = 0 := by omega
    rcases hfour with ⟨hq, hr⟩ | ⟨hq, hr⟩ <;> rcases hcent with ⟨hc, hs⟩ | ⟨hc, hs⟩ <;> omega
  · obtain rfl : y = 399 := by omega
    omega

/-! ## Months -/

/-- The number of the month, counted from March, in which a day of a year lies. -/
def monthIndex (day : Nat) : Nat := (5 * day + 2) / 153

/-- The month in which a day of a year lies. -/
def monthOf (day : Nat) : Nat :=
  if monthIndex day < 10 then monthIndex day + 3 else monthIndex day - 9

/-- The day of its month that a day of a year is. -/
def dayOfMonth (day : Nat) : Nat := day - (153 * monthIndex day + 2) / 5 + 1

theorem monthOf_bounds : ∀ day < 366, 1 ≤ monthOf day ∧ monthOf day ≤ 12 ∧
    (monthOf day ≤ 2 ↔ 306 ≤ day) := by
  decide +kernel

theorem dayOfMonth_bounds : ∀ day < 366, 1 ≤ dayOfMonth day ∧ dayOfMonth day ≤ 31 ∧
    (monthOf day = 4 ∨ monthOf day = 6 ∨ monthOf day = 9 ∨ monthOf day = 11 →
      dayOfMonth day ≤ 30) ∧
    (monthOf day = 2 → dayOfMonth day ≤ 29 ∧ (dayOfMonth day = 29 → day = 365)) := by
  decide +kernel

theorem isLeap_iff {year : Int} : Stamp.isLeap year = true ↔
    year % 4 = 0 ∧ (year % 100 ≠ 0 ∨ year % 400 = 0) := by
  simp [Stamp.isLeap]

theorem le_daysIn {year month day : Int} (hday : day ≤ 31)
    (hfeb : month = 2 → day ≤ 28 ∨ day = 29 ∧ Stamp.isLeap year = true)
    (h30 : month = 4 ∨ month = 6 ∨ month = 9 ∨ month = 11 → day ≤ 30) :
    day ≤ Stamp.daysIn year month := by
  unfold Stamp.daysIn
  split
  · rename_i hm
    rcases hfeb hm with h | ⟨rfl, h⟩
    · split <;> omega
    · simp [h]
  · split
    · rename_i hm
      simp only [Bool.or_eq_true, decide_eq_true_eq, or_assoc] at hm
      exact h30 hm
    · exact hday

/-! ## Dates -/

/-- The date of a day of a year of an era. -/
def ofYearDay (era : Int) (y day : Nat) : Date :=
  let year : Int := y + era * 400
  ⟨if monthOf day ≤ 2 then year + 1 else year, monthOf day, dayOfMonth day⟩

theorem ofDays_eq (days : Int) : Date.ofDays days =
    ofYearDay ((days + 719468) / 146097) (yearOfEra ((days + 719468) % 146097).toNat)
      (dayOfYear ((days + 719468) % 146097).toNat) := by
  rw [← Int.fdiv_eq_ediv_of_nonneg _ (by decide), ← Int.fmod_eq_emod_of_nonneg _ (by decide)]
  rfl

theorem day_le_daysIn {era : Int} {y day : Nat} (h : day < 366)
    (hleap : day = 365 → (y + 1) % 4 = 0 ∧ ((y + 1) % 100 ≠ 0 ∨ y + 1 = 400)) :
    ((ofYearDay era y day).day : Int) ≤
      Stamp.daysIn (ofYearDay era y day).year (ofYearDay era y day).month := by
  obtain ⟨d1, d2, d3, d4⟩ := dayOfMonth_bounds day h
  simp only [ofYearDay]
  refine le_daysIn (by omega) (fun hm => ?_) fun hm => ?_
  · obtain ⟨e1, e2⟩ := d4 (by omega)
    rcases Nat.lt_or_ge (dayOfMonth day) 29 with hn | hn
    · left; omega
    -- the leap day is the last of its year, so the year is one day longer
    · obtain ⟨l1, l2⟩ := hleap (e2 (by omega))
      have hm2 : monthOf day ≤ 2 := by omega
      refine Or.inr ⟨by omega, isLeap_iff.2 ?_⟩
      rw [if_pos hm2]
      omega
  · have := d3 (by omega)
    omega

/-- The dates of the years 1 to 9999. -/
structure IsValid (date : Date) : Prop where
  year_pos : 1 ≤ date.year
  year_le : date.year ≤ 9999
  month_pos : 1 ≤ date.month
  month_le : date.month ≤ 12
  day_pos : 1 ≤ date.day
  day_le : (date.day : Int) ≤ Stamp.daysIn date.year date.month

theorem isValid_ofDays {days : Int} (h : -719162 ≤ days) (h' : days ≤ 2932896) :
    (Date.ofDays days).IsValid := by
  rw [ofDays_eq]
  generalize hd : ((days + 719468) % 146097).toNat = d
  generalize hera : (days + 719468) / 146097 = era
  have hlt : d < 146097 := by omega
  obtain ⟨hday, hleap⟩ := dayOfYear_lt hlt
  have hy := yearOfEra_lt hlt
  have hfirst := (firstDay_yearOfEra hlt).1
  have hdef : dayOfYear d = d - firstDay (yearOfEra d) := rfl
  have hle : ((ofYearDay era (yearOfEra d) (dayOfYear d)).day : Int) ≤
      Stamp.daysIn (ofYearDay era (yearOfEra d) (dayOfYear d)).year
        (ofYearDay era (yearOfEra d) (dayOfYear d)).month := day_le_daysIn hday hleap
  generalize yearOfEra d = y at *
  generalize dayOfYear d = day at *
  obtain ⟨m1, m2, m3⟩ := monthOf_bounds day hday
  obtain ⟨d1, -⟩ := dayOfMonth_bounds day hday
  simp only [firstDay] at hfirst hdef
  refine ⟨?_, ?_, m1, m2, d1, hle⟩
  · simp only [ofYearDay]; split <;> omega
  · simp only [ofYearDay]; split <;> omega

theorem IsValid.day_le_31 {date : Date} (h : date.IsValid) : date.day ≤ 31 := by
  have hle := h.day_le
  have : Stamp.daysIn date.year date.month ≤ 31 := by
    unfold Stamp.daysIn
    split
    · split <;> omega
    · split <;> omega
  omega

end Date

namespace Stamp

/-! ## Stamps -/

/-- The text of a stamp with the given parts. -/
def assemble (year month day hour minute second micros : Text) : Text :=
  year ++ "-" ++ month ++ "-" ++ day ++ "T" ++ hour ++ ":" ++ minute ++ ":" ++ second ++
    "." ++ micros ++ "+0000"

theorem part_append_right {a b : Text} {start count : Nat} (h : a.length ≤ start) :
    part start count (a ++ b) = part (start - a.length) count b := by
  rw [part, part, List.drop_append, List.drop_eq_nil_of_le h, List.nil_append]

theorem part_append_left {a b : Text} {count : Nat} (h : a.length = count) :
    part 0 count (a ++ b) = a := by
  rw [part, List.drop_zero, List.take_left' h]

theorem part_self {a : Text} {count : Nat} (h : a.length = count) : part 0 count a = a := by
  rw [part, List.drop_zero, List.take_of_length_le h.le]

section
variable {y m d h n s f : Text} (hy : y.length = 4) (hm : m.length = 2) (hd : d.length = 2)
  (hh : h.length = 2) (hn : n.length = 2) (hs : s.length = 2) (hf : f.length = 6)
include hy hm hd hh hn hs hf

theorem length_assemble : (assemble y m d h n s f).length = length := by
  simp [assemble, hy, hm, hd, hh, hn, hs, hf, Text.ofString, length]

/-- A stamp put together of its parts is read part by part. -/
theorem isInstant_assemble : isInstant (assemble y m d h n s f) =
    ([y, m, d, h, n, s, f].mapM Text.readInt?).any isMoment := by
  have hyphen : (Text.ofString "-").length = 1 := rfl
  have colon : (Text.ofString ":").length = 1 := rfl
  have letter : (Text.ofString "T").length = 1 := rfl
  have point : (Text.ofString ".").length = 1 := rfl
  have zone : (Text.ofString "+0000").length = 5 := rfl
  have marked : isMarked (assemble y m d h n s f) = true := by
    rw [isMarked, length_assemble hy hm hd hh hn hs hf]
    simp [marks, assemble, part_append_right, part_append_left, part_self, *]
  have places : numberPlaces.map (fun p => part p.1 p.2 (assemble y m d h n s f)) =
      [y, m, d, h, n, s, f] := by
    simp [numberPlaces, assemble, part_append_right, part_append_left, *]
  rw [isInstant, marked, Bool.true_and, ← places, List.mapM_map]
  rfl

end

/-- A text of full length is filled with nothing. -/
theorem filled_of_length {t : Text} (h : t.length = length) : filled t = t := by
  cases t with
  | nil => simp [length] at h
  | cons c rest => simp [filled, h]

end Stamp

namespace Instant

/-- The instants of the years 1 to 9999. -/
def IsDated (t : Instant) : Prop :=
  -62135596800000000 ≤ t.micros ∧ t.micros < 253402300800000000

instance (t : Instant) : Decidable t.IsDated := by unfold IsDated; infer_instance

/-- The date of an instant. -/
def date (t : Instant) : Date := Date.ofDays (Int.fdiv (Int.fdiv t.micros microsPerSecond) 86400)

/-- The second of its day that an instant is in. -/
def second (t : Instant) : Nat := (Int.fmod (Int.fdiv t.micros microsPerSecond) 86400).toNat

theorem stampText_eq (t : Instant) : t.stampText =
    Stamp.assemble (Text.ofNatPadded 4 t.date.year.toNat) (Text.ofNatPadded 2 t.date.month)
      (Text.ofNatPadded 2 t.date.day) (Text.ofNatPadded 2 (t.second / 3600))
      (Text.ofNatPadded 2 (t.second / 60 % 60)) (Text.ofNatPadded 2 (t.second % 60))
      (Text.ofNatPadded 6 t.fraction) := by
  simp [stampText, secondText, fractionText, Stamp.assemble]
  rfl

theorem isValid_date {t : Instant} (h : t.IsDated) : t.date.IsValid := by
  obtain ⟨h1, h2⟩ := h
  have hday : Int.fdiv (Int.fdiv t.micros microsPerSecond) 86400 =
      t.micros / 1000000 / 86400 := by
    rw [microsPerSecond, Int.fdiv_eq_ediv_of_nonneg _ (by decide),
      Int.fdiv_eq_ediv_of_nonneg _ (by decide)]
  rw [date, hday]
  exact Date.isValid_ofDays (by omega) (by omega)

theorem second_lt (t : Instant) : t.second < 86400 := by
  rw [second, Int.fmod_eq_emod_of_nonneg _ (by decide)]; omega

theorem fraction_lt (t : Instant) : t.fraction < 1000000 := by
  rw [fraction, microsPerSecond, Int.fmod_eq_emod_of_nonneg _ (by decide)]; omega

end Instant

/-- The stamp of an instant of the years 1 to 9999 is a stamp. -/
theorem Stamp.isInstant_stampText {t : Instant} (h : t.IsDated) :
    t.stampText.length = length ∧ isInstant t.stampText = true := by
  have hv := t.isValid_date h
  have hs := t.second_lt
  have hday := hv.day_le_31
  have limit : 6 ≤ Integer.maxDigits := by decide
  have h1 := hv.year_pos; have h2 := hv.year_le; have h3 := hv.month_le; have hle := hv.day_le
  obtain ⟨ly, ry⟩ := Text.readInt?_ofNatPadded (w := 4) (n := t.date.year.toNat) (by omega)
    (by omega) (by omega)
  obtain ⟨lm, rm⟩ := Text.readInt?_ofNatPadded (w := 2) (n := t.date.month) (by omega)
    (by omega) (by omega)
  obtain ⟨ld, rd⟩ := Text.readInt?_ofNatPadded (w := 2) (n := t.date.day) (by omega)
    (by omega) (by omega)
  obtain ⟨lh, rh⟩ := Text.readInt?_ofNatPadded (w := 2) (n := t.second / 3600) (by omega)
    (by omega) (by omega)
  obtain ⟨ln, rn⟩ := Text.readInt?_ofNatPadded (w := 2) (n := t.second / 60 % 60) (by omega)
    (by omega) (by omega)
  obtain ⟨ls, rs⟩ := Text.readInt?_ofNatPadded (w := 2) (n := t.second % 60) (by omega)
    (by omega) (by omega)
  obtain ⟨lf, rf⟩ := Text.readInt?_ofNatPadded (w := 6) (n := t.fraction) (by omega)
    limit t.fraction_lt
  rw [t.stampText_eq]
  refine ⟨length_assemble ly lm ld lh ln ls lf, ?_⟩
  rw [isInstant_assemble ly lm ld lh ln ls lf]
  have hyear : ((t.date.year.toNat : Nat) : Int) = t.date.year := by omega
  have hfrac := t.fraction_lt
  have hm := hv.month_pos; have hd := hv.day_pos
  simp only [List.mapM_cons, List.mapM_nil, ry, rm, rd, rh, rn, rs, rf, hyear]
  simp only [pure, bind, Option.bind, Option.any, isMoment, within, Bool.and_eq_true,
    decide_eq_true_eq]
  omega

/-- Reading the stamp of an instant of the years 1 to 9999 succeeds. -/
theorem Stamp.check_stampText {t : Instant} (h : t.IsDated) :
    check (some t.stampText) = .ok () := by
  obtain ⟨hlen, hinst⟩ := isInstant_stampText h
  rw [check, filled_of_length hlen, if_pos hinst]

end Rendezvous
