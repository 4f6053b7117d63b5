/-
  Floating-point numbers, rounded and read back.

  A number is written with the fewest digits that are read back as it.  Reading rounds an exact
  value, so what is written of a number has to be nearer to it than to all others.

  * `Binary64.IsRepresentable`: a finite number is small enough, and has no more digits than are
    kept; rounding yields nothing else (`isRepresentable_ofUnits`) and leaves such numbers alone
    (`ofUnits_one`);
  * `Text.ofNat_eq_digits`: a number is written with its digits in base ten;
  * `Decimal.toBinary_mul_pow`: zeros at the end of a decimal may be moved into its exponent;
  * `Decimal.toBinary_shortest`: the shortest decimal of a number is read back as it.
-/
import Mathlib.Data.Nat.Digits.Lemmas
import Rendezvous.Number.Decimal
import Rendezvous.Proofs.Decimal

namespace Rendezvous

/-! ## Rounding -/

namespace Binary64

/-- A finite number is a multiple of the unit that is small enough, and has no more digits than are
    kept. -/
inductive IsRepresentable : Binary64 → Prop
  | nan : IsRepresentable .nan
  | infinite (s : Bool) : IsRepresentable (.infinite s)
  | finite {units : Nat} (s : Bool) : units < unitsLimit → spacing units ∣ units →
      IsRepresentable (.finite s units)

theorem divideToEven_mul {k : Nat} (hk : 0 < k) (n d : Nat) :
    divideToEven (k * n) (k * d) = divideToEven n d := by
  have below : 2 * (k * (n % d)) < k * d ↔ 2 * (n % d) < d := by
    rw [Nat.mul_left_comm]
    exact Nat.mul_lt_mul_left hk
  have above : k * d < 2 * (k * (n % d)) ↔ d < 2 * (n % d) := by
    rw [Nat.mul_left_comm]
    exact Nat.mul_lt_mul_left hk
  simp only [divideToEven, Nat.mul_div_mul_left n d hk, Nat.mul_mod_mul_left, below, above]

theorem divideToEven_le (n d : Nat) : divideToEven n d ≤ n / d + 1 := by
  unfold divideToEven
  dsimp only
  split_ifs <;> omega

/-- A fraction may be expanded before it is rounded. -/
theorem ofUnits_mul {k : Nat} (hk : 0 < k) (s : Bool) (n d : Nat) :
    ofUnits s (k * n) (k * d) = ofUnits s n d := by
  simp only [ofUnits, Nat.mul_div_mul_left n d hk, Nat.mul_assoc k d, divideToEven_mul hk]

theorem ofRatio_mul {k : Nat} (hk : 0 < k) (s : Bool) (n d : Nat) :
    ofRatio s (k * n) (k * d) = ofRatio s n d := by
  rw [ofRatio, ofRatio, Nat.mul_assoc, ofUnits_mul hk]

/-- A number is the number nearest to itself. -/
theorem ofUnits_one {s : Bool} {units : Nat} (h : (finite s units).IsRepresentable) :
    ofUnits s units 1 = .finite s units := by
  cases h with | finite _ hlt hdvd =>
  have hpos : 0 < spacing units := Nat.pow_pos (by decide)
  have hexact : divideToEven units (1 * spacing units) * spacing units = units := by
    have hq : divideToEven units (1 * spacing units) = units / spacing units := by
      simp [divideToEven, Nat.mod_eq_zero_of_dvd hdvd, hpos]
    rw [hq, Nat.div_mul_cancel hdvd]
  simp only [ofUnits, Nat.div_one, hexact]
  rw [if_pos hlt]

/-- A quotient is rounded to as many digits as are kept. -/
theorem spacing_dvd (n d : Nat) :
    spacing (divideToEven n (d * spacing (n / d)) * spacing (n / d)) ∣
      divideToEven n (d * spacing (n / d)) * spacing (n / d) := by
  obtain ⟨k, hk⟩ : ∃ k, k = (n / d).log2 - 52 := ⟨_, rfl⟩
  have hstep : spacing (n / d) = 2 ^ k := by rw [spacing, ← hk]; rfl
  rw [hstep]
  obtain ⟨q, hq⟩ : ∃ q, q = divideToEven n (d * 2 ^ k) := ⟨_, rfl⟩
  rw [← hq]
  -- the quotient has at most 53 digits, unless it is rounded up to the first number with one more
  have hle : q ≤ 2 ^ 53 := by
    have hquotient : n / d < 2 ^ (53 + k) :=
      Nat.lt_of_lt_of_le Nat.lt_log2_self (Nat.pow_le_pow_right (by decide) (by omega))
    have hdigits : n / (d * 2 ^ k) < 2 ^ 53 := by
      rw [← Nat.div_div_eq_div_mul]
      exact Nat.div_lt_of_lt_mul (by rwa [← Nat.pow_add, Nat.add_comm])
    have := divideToEven_le n (d * 2 ^ k)
    omega
  have hspacing : spacing (q * 2 ^ k) = 2 ^ ((q * 2 ^ k).log2 - 52) := rfl
  rw [hspacing]
  rcases Nat.lt_or_ge q (2 ^ 53) with hsmall | hlarge
  · have hlog : (q * 2 ^ k).log2 - 52 ≤ k := by
      rcases Nat.eq_zero_or_pos q with hzero | hpos
      · simp [hzero]
      · have hlt : (q * 2 ^ k).log2 < 53 + k := by
          rw [Nat.log2_lt (by positivity), Nat.pow_add]
          exact Nat.mul_lt_mul_of_pos_right hsmall (Nat.pow_pos (by decide))
        omega
    exact (Nat.pow_dvd_pow 2 hlog).mul_left q
  · obtain rfl : q = 2 ^ 53 := by omega
    rw [← Nat.pow_add, Nat.log2_two_pow]
    exact Nat.pow_dvd_pow 2 (by omega)

/-- The sign does not matter to how a number is rounded. -/
theorem ofUnits_of_false {s : Bool} {n d units : Nat}
    (h : ofUnits false n d = .finite false units) : ofUnits s n d = .finite s units := by
  unfold ofUnits at h ⊢
  dsimp only at h ⊢
  split_ifs at h with hlt
  rw [if_pos hlt, (Binary64.finite.inj h).2]

/-- What is rounded is representable. -/
theorem isRepresentable_ofUnits (s : Bool) (n d : Nat) : (ofUnits s n d).IsRepresentable := by
  unfold ofUnits
  dsimp only
  split_ifs with hlt
  · exact .finite s hlt (spacing_dvd n d)
  · exact .infinite s

theorem isRepresentable_roundHundredths (x : Binary64) : x.roundHundredths.IsRepresentable := by
  cases x with
  | nan => exact .nan
  | infinite s => exact .infinite s
  | finite s units =>
    rw [roundHundredths, ofRatio]
    exact isRepresentable_ofUnits _ _ _

end Binary64

/-! ## Digits -/

namespace Text

/-- All code points are digits. -/
def IsDigits (t : Text) : Prop := ∀ c ∈ t, c.isDigit = true

theorem isDigits_ofDecimals {ds : List Nat} (h : ∀ d ∈ ds, d < 10) : IsDigits (ofDecimals ds) := by
  intro c hc
  obtain ⟨d, hd, rfl⟩ := List.mem_map.1 hc
  have hall : ∀ e : Fin 10, (CodePoint.digit e.val).isDigit = true := by decide
  exact hall ⟨d, h d hd⟩

theorem ofDigits_reverse (ds : List Nat) : ofDigits ds.reverse = Nat.ofDigits 10 ds := by
  induction ds with
  | nil => rfl
  | cons d ds ih =>
    rw [List.reverse_cons, ofDigits_append, ih, Nat.ofDigits_cons]
    simp [Nat.add_comm]

theorem digitsRev_eq_digits {n : Nat} (hn : n ≠ 0) {fuel : Nat} (h : n ≤ fuel) :
    digitsRev fuel n = ofDecimals (Nat.digits 10 n) := by
  induction fuel generalizing n with
  | zero => omega
  | succ fuel ih =>
    rw [Nat.digits_def' (by decide) (Nat.pos_of_ne_zero hn), digitsRev]
    split
    next hsmall =>
      rw [Nat.div_eq_of_lt hsmall, Nat.mod_eq_of_lt hsmall]
      rfl
    next hlarge =>
      rw [ih (by omega) (by omega)]
      rfl

theorem ofNat_eq_digits {n : Nat} (hn : n ≠ 0) :
    ofNat n = ofDecimals (Nat.digits 10 n).reverse := by
  rw [ofNat, digitsRev_eq_digits hn (Nat.le_refl n), reverse_ofDecimals]

theorem isDigits_ofNat (n : Nat) : IsDigits (ofNat n) := by
  by_cases hn : n = 0
  · subst hn
    have hzero : ∀ d ∈ [0], d < 10 := by decide
    exact isDigits_ofDecimals hzero
  · rw [ofNat_eq_digits hn]
    exact isDigits_ofDecimals fun d hd => Nat.digits_lt_base (by decide) (List.mem_reverse.1 hd)

theorem ofNat_ne_nil (n : Nat) : ofNat n ≠ [] := by
  by_cases hn : n = 0
  · subst hn
    decide
  · rw [ofNat_eq_digits hn]
    simpa [ofDecimals, Nat.digits_eq_nil_iff_eq_zero] using hn

/-- Only zero is written with a zero in front. -/
theorem head?_ofNat {n : Nat} (hn : n ≠ 0) : (ofNat n).head? ≠ some ('0' : CodePoint) := by
  have hne : Nat.digits 10 n ≠ [] := Nat.digits_ne_nil_iff_ne_zero.2 hn
  have hlast : (Nat.digits 10 n).reverse.head? = some ((Nat.digits 10 n).getLast hne) := by
    rw [List.head?_reverse, List.getLast?_eq_some_getLast hne]
  have hlt := Nat.digits_lt_base (b := 10) (by decide) (List.getLast_mem hne)
  have hall : ∀ e : Fin 10, e ≠ 0 → CodePoint.digit e.val ≠ '0' := by decide
  rw [ofNat_eq_digits hn, ofDecimals, List.head?_map, hlast]
  intro h
  exact hall ⟨_, hlt⟩ (fun h0 => Nat.getLast_digit_ne_zero 10 hn (congrArg Fin.val h0))
    (Option.some.inj h)

theorem length_ofNat_le {n width : Nat} (hw : 0 < width) (h : n < Nat.pow 10 width) :
    (ofNat n).length ≤ width := by
  obtain ⟨ds, hds, -, -, hlength⟩ := digitsRev_eq n n (Nat.le_refl n)
  have hle := hlength width hw h
  rwa [ofNat, hds, List.length_reverse, ofDecimals, List.length_map]

theorem length_ofNat {n : Nat} (hn : n ≠ 0) : (ofNat n).length = (Nat.digits 10 n).length := by
  rw [ofNat_eq_digits hn, ofDecimals, List.length_map, List.length_reverse]

end Text

/-! ## Decimals -/

namespace Decimal

theorem digitCount_eq (n : Nat) : digitCount n = (Nat.digits 10 n).length := by
  unfold digitCount
  split
  next h => simp [h]
  next h => exact Text.length_ofNat h

theorem digitCount_ten_mul {n : Nat} (hn : n ≠ 0) : digitCount (10 * n) = digitCount n + 1 := by
  rw [digitCount_eq, digitCount_eq, Nat.digits_base_mul (by decide) (Nat.pos_of_ne_zero hn),
    List.length_cons]

/-- A zero at the end may be moved into the exponent. -/
theorem toBinary_ten_mul (s : Bool) (m : Nat) (e : Int) :
    toBinary s ⟨10 * m, e⟩ = toBinary s ⟨m, e + 1⟩ := by
  by_cases hm : m = 0
  · simp [toBinary, hm]
  have hcount : ((digitCount (10 * m) : Int) + e) = digitCount m + (e + 1) := by
    rw [digitCount_ten_mul hm]
    push_cast
    ring
  have hm' : 10 * m ≠ 0 := by omega
  simp only [toBinary, hm, hm', if_false, hcount]
  split_ifs with hlarge hsmall hwhole hnext hnext
  · rfl
  · rfl
  · obtain ⟨k, rfl⟩ : ∃ k : Nat, e = k := ⟨e.toNat, by omega⟩
    have hk : ((k : Int) + 1).toNat = k + 1 := by omega
    rw [Int.toNat_natCast, hk]
    congr 1
    simp [Nat.pow_succ]
    ring
  · omega
  · obtain rfl : e = -1 := by omega
    have hten : Nat.pow 10 (-(-1 : Int)).toNat = 10 * 1 := rfl
    have hone : Nat.pow 10 (-1 + 1 : Int).toNat = 1 := rfl
    rw [hten, hone, Nat.mul_one m, Binary64.ofRatio_mul (by decide)]
  · obtain ⟨k, rfl⟩ : ∃ k : Nat, e = -(k + 1 : Int) - 1 := ⟨(-e - 2).toNat, by omega⟩
    have hk : (-(-(k + 1 : Int) - 1)).toNat = k + 2 := by omega
    have hk' : (-(-(k + 1 : Int) - 1 + 1)).toNat = k + 1 := by omega
    have hpow : Nat.pow 10 (k + 2) = 10 * Nat.pow 10 (k + 1) := Nat.mul_comm ..
    rw [hk, hk', hpow]
    exact Binary64.ofRatio_mul (by decide) s m _

theorem toBinary_mul_pow (s : Bool) (m k : Nat) (e : Int) :
    toBinary s ⟨m * 10 ^ k, e⟩ = toBinary s ⟨m, e + k⟩ := by
  induction k generalizing e with
  | zero => simp
  | succ k ih =>
    have hpow : m * 10 ^ (k + 1) = 10 * (m * 10 ^ k) := by ring
    rw [hpow, toBinary_ten_mul, ih]
    congr 2
    push_cast
    ring

theorem toBinary_trimmed (s : Bool) (fuel : Nat) (d : Decimal) :
    toBinary s (trimmed fuel d) = toBinary s d := by
  induction fuel generalizing d with
  | zero => rfl
  | succ fuel ih =>
    rw [trimmed]
    split
    next h =>
      have hzero : d.significand % 10 = 0 := by simp at h; exact h.1
      have hten : 10 * (d.significand / 10) = d.significand := by omega
      rw [ih, ← toBinary_ten_mul, hten]
    next => rfl

/-- The sign of a decimal is that of the number it is read as. -/
theorem toBinary_of_false {s : Bool} {d : Decimal} {units : Nat}
    (h : toBinary false d = .finite false units) : toBinary s d = .finite s units := by
  simp only [toBinary, Binary64.ofRatio] at h ⊢
  split_ifs at h ⊢
  · rw [(Binary64.finite.inj h).2]
  · rw [(Binary64.finite.inj h).2]
  · exact Binary64.ofUnits_of_false h
  · exact Binary64.ofUnits_of_false h

theorem onGrid?_reads {units : Nat} {e : Int} {d : Decimal} (h : onGrid? units e = some d) :
    toBinary false d = .finite false units := by
  unfold onGrid? at h
  dsimp only at h
  split at h <;> rename_i hlow hhigh
  · obtain rfl := Option.some.inj h
    split
    · exact of_decide_eq_true hlow
    · exact of_decide_eq_true hhigh
  · obtain rfl := Option.some.inj h
    exact of_decide_eq_true hlow
  · obtain rfl := Option.some.inj h
    exact of_decide_eq_true hhigh
  · cases h

/-- The exact value of a number is read back. -/
theorem toBinary_exact {units : Nat} (hne : units ≠ 0)
    (h : (Binary64.finite false units).IsRepresentable) :
    toBinary false (exact units) = .finite false units := by
  have hpow : Nat.pow 10 (-(-1074 : Int)).toNat = Nat.pow 5 1074 * Binary64.unitsPerOne * 1 := by
    decide +kernel
  have hlow : 10 ^ 673 ≤ Nat.pow 5 1074 := by decide +kernel
  have hhigh : Binary64.unitsLimit * Nat.pow 5 1074 ≤ 10 ^ 1474 := by decide +kernel
  have hunits : 0 < Binary64.unitsPerOne := by decide +kernel
  -- nothing else matters of the power of five, which is too large to be computed here
  unfold exact
  generalize Nat.pow 5 1074 = five at hpow hlow hhigh ⊢
  have hfive : 0 < five := Nat.lt_of_lt_of_le (Nat.pow_pos (by decide)) hlow
  have hsignificand : units * five ≠ 0 := Nat.mul_ne_zero hne (Nat.ne_of_gt hfive)
  have hmany : 673 < digitCount (units * five) := by
    rw [digitCount_eq, Nat.lt_digits_length_iff (by decide)]
    exact Nat.le_trans hlow (Nat.le_mul_of_pos_left five (Nat.pos_of_ne_zero hne))
  have hfew : digitCount (units * five) ≤ 1474 := by
    cases h with | finite _ hlt _ =>
    rw [digitCount_eq, Nat.digits_length_le_iff (by decide)]
    exact Nat.lt_of_lt_of_le (Nat.mul_lt_mul_of_pos_right hlt hfive) hhigh
  have hexpand : units * five * Binary64.unitsPerOne = five * Binary64.unitsPerOne * units := by
    ring
  simp only [toBinary]
  rw [if_neg hsignificand, if_neg (by omega), if_neg (by omega), if_neg (by omega), hpow,
    Binary64.ofRatio, hexpand, Binary64.ofUnits_mul, Binary64.ofUnits_one h]
  exact Nat.mul_pos hfive hunits

theorem toBinary_search {units : Nat} (hne : units ≠ 0)
    (h : (Binary64.finite false units).IsRepresentable) (point : Int) (digits fuel : Nat) :
    toBinary false (search units point digits fuel) = .finite false units := by
  induction fuel generalizing digits with
  | zero => exact toBinary_exact hne h
  | succ fuel ih =>
    rw [search]
    split
    next d hd => exact onGrid?_reads hd
    next => exact ih _

/-- The shortest decimal of a number is read back as it. -/
theorem toBinary_shortest {units : Nat} (hne : units ≠ 0)
    (h : (Binary64.finite false units).IsRepresentable) :
    toBinary false (shortest units) = .finite false units := by
  rw [shortest, toBinary_trimmed, toBinary_search hne h]

end Decimal

end Rendezvous
