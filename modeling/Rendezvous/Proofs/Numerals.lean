/-
  Numbers in JSON text.

  A number is written as one word: a whole number with its digits, and a floating-point number as the
  numeral that spells its shortest decimal, or by its name if it is none.

  * `Numeral.IsProper`: there are digits wherever there may be some, and no zero before others;
    `longest?_text`: a proper numeral is read as it is written;
  * `Numeral.exists_spells`: every decimal but zero is written as a numeral that spells it;
  * `Token.IsWordOf`: a text is one word that stands for a value; `isWordOf_ofInt` and
    `isWordOf_printBinary`: so are numbers of both kinds.
-/
import Rendezvous.Json.Parser
import Rendezvous.Json.Printer
import Rendezvous.Proofs.Rounding

namespace Rendezvous

/-! ## Numerals -/

namespace Json

namespace Numeral

/-- The point and the digits after it. -/
def fractionText : Option Text → Text
  | none => []
  | some digits => ('.' : CodePoint) :: digits

/-- The exponent, always with a sign. -/
def exponentText : Option (Bool × Text) → Text
  | none => []
  | some (negative, digits) => (if negative then "e-" else "e+") ++ digits

/-- A numeral as it is written. -/
def text (n : Numeral) : Text :=
  (if n.negative then "-" else "") ++ (n.whole ++ (fractionText n.fraction ++ exponentText n.exponent))

/-- A numeral has digits wherever there may be some, and no zero before others. -/
structure IsProper (n : Numeral) : Prop where
  whole : n.whole.IsDigits
  some_whole : n.whole ≠ []
  leading : n.whole.head? = some ('0' : CodePoint) → n.whole = "0"
  fraction : ∀ digits, n.fraction = some digits → digits.IsDigits ∧ digits ≠ []
  exponent : ∀ negative digits, n.exponent = some (negative, digits) →
    digits.IsDigits ∧ digits ≠ []

theorem digitRun_append {digits : Text} (h : digits.IsDigits) {rest : Text}
    (hrest : ∀ c ∈ rest.head?, c.isDigit = false) : digitRun (digits ++ rest) = (digits, rest) := by
  rw [digitRun, List.span_eq_takeWhile_dropWhile, List.takeWhile_append_of_pos h,
    List.dropWhile_append_of_pos h]
  cases rest with
  | nil => simp
  | cons c rest => simp [hrest c rfl]

theorem digitRun_digits {digits : Text} (h : digits.IsDigits) : digitRun digits = (digits, []) := by
  have hnone : ∀ c ∈ ([] : Text).head?, c.isDigit = false := nofun
  simpa using digitRun_append h hnone

theorem wholePart?_append {digits : Text} (h : digits.IsDigits) (hne : digits ≠ [])
    (hlead : digits.head? = some ('0' : CodePoint) → digits = "0") {rest : Text}
    (hrest : ∀ c ∈ rest.head?, c.isDigit = false) :
    wholePart? (digits ++ rest) = some (digits, rest) := by
  obtain ⟨c, digits, rfl⟩ := List.exists_cons_of_ne_nil hne
  rw [List.cons_append, wholePart?]
  split
  next hzero =>
    obtain ⟨rfl, rfl⟩ := List.cons.inj (hlead (congrArg some hzero))
    rfl
  next =>
    have hdigits : Text.IsDigits digits := fun d hd => h d (List.mem_cons_of_mem _ hd)
    rw [if_pos (h c List.mem_cons_self), digitRun_append hdigits hrest]

theorem fractionPart_of_ne {c : CodePoint} (hc : c ≠ '.') (t : Text) :
    fractionPart (c :: t) = (none, c :: t) := by
  unfold fractionPart
  dsimp only
  split
  · rfl
  · rw [if_neg hc]

theorem head?_exponentText (exponent : Option (Bool × Text)) :
    ∀ c ∈ (exponentText exponent).head?, c = 'e' := by
  cases exponent with
  | none => simp [exponentText]
  | some e =>
    obtain ⟨negative, digits⟩ := e
    cases negative <;> simp [exponentText, Text.ofString]

theorem fractionPart_text {fraction : Option Text}
    (h : ∀ digits, fraction = some digits → digits.IsDigits ∧ digits ≠ [])
    (exponent : Option (Bool × Text)) :
    fractionPart (fractionText fraction ++ exponentText exponent) =
      (fraction, exponentText exponent) := by
  have hhead := head?_exponentText exponent
  cases fraction with
  | none =>
    rw [fractionText, List.nil_append]
    cases ht : exponentText exponent with
    | nil => rfl
    | cons c t =>
      rw [ht] at hhead
      rw [hhead c rfl]
      exact fractionPart_of_ne (by decide) t
  | some digits =>
    obtain ⟨hdigits, hne⟩ := h digits rfl
    have hrun : digitRun (digits ++ exponentText exponent) = (digits, exponentText exponent) :=
      digitRun_append hdigits fun c hc => hhead c hc ▸ rfl
    rw [fractionText, List.cons_append, fractionPart, hrun]
    obtain ⟨c, digits, rfl⟩ := List.exists_cons_of_ne_nil hne
    rfl

theorem exponentPart_text {exponent : Option (Bool × Text)}
    (h : ∀ negative digits, exponent = some (negative, digits) →
      digits.IsDigits ∧ digits ≠ []) :
    exponentPart (exponentText exponent) = (exponent, []) := by
  cases exponent with
  | none => rfl
  | some e =>
    obtain ⟨negative, digits⟩ := e
    obtain ⟨hdigits, hne⟩ := h negative digits rfl
    obtain ⟨c, rest, rfl⟩ := List.exists_cons_of_ne_nil hne
    have hrun := digitRun_digits hdigits
    cases negative with
    | true =>
      have hsign : exponentSign (('-' : CodePoint) :: c :: rest) = (true, c :: rest) := rfl
      show exponentPart (('e' : CodePoint) :: ('-' : CodePoint) :: c :: rest) = _
      rw [exponentPart, if_pos (by decide), hsign]
      simp only [hrun]
    | false =>
      have hsign : exponentSign (('+' : CodePoint) :: c :: rest) = (false, c :: rest) := rfl
      show exponentPart (('e' : CodePoint) :: ('+' : CodePoint) :: c :: rest) = _
      rw [exponentPart, if_pos (by decide), hsign]
      simp only [hrun]

/-- A proper numeral is read as it is written. -/
theorem longest?_text {n : Numeral} (h : n.IsProper) : longest? n.text = some (n, []) := by
  have hrest : ∀ c ∈ (fractionText n.fraction ++ exponentText n.exponent).head?,
      c.isDigit = false := by
    cases hf : n.fraction with
    | none => exact fun c hc => head?_exponentText n.exponent c hc ▸ rfl
    | some digits =>
      intro c hc
      obtain rfl := Option.some.inj hc
      rfl
  have hunsigned : unsigned? n.negative
      (n.whole ++ (fractionText n.fraction ++ exponentText n.exponent)) = some (n, []) := by
    simp only [unsigned?, wholePart?_append h.whole h.some_whole h.leading hrest,
      fractionPart_text h.fraction, exponentPart_text h.exponent]
  unfold text
  cases hs : n.negative with
  | true =>
    rw [hs] at hunsigned
    exact hunsigned
  | false =>
    obtain ⟨c, rest, hw⟩ := List.exists_cons_of_ne_nil h.some_whole
    have hdigit : c.isDigit = true := h.whole c (hw ▸ List.mem_cons_self)
    have hminus : c ≠ '-' := by
      rintro rfl
      cases hdigit
    rw [hs, hw] at hunsigned
    rw [hw]
    show longest? (c :: (rest ++ (fractionText n.fraction ++ exponentText n.exponent))) = _
    rw [longest?, if_neg hminus]
    exact hunsigned

/-! ### Values -/

theorem valueOf_ofDecimals {ds : List Nat} (h : ∀ d ∈ ds, d < 10) :
    valueOf (Text.ofDecimals ds) = Text.ofDigits ds := by
  have hall : ∀ e : Fin 10, (CodePoint.digit e.val).val - 0x30 = e.val := by decide
  have hmap : (Text.ofDecimals ds).map (fun c => c.val - 0x30) = ds := by
    rw [Text.ofDecimals, List.map_map]
    exact (List.map_congr_left fun d hd => hall ⟨d, h d hd⟩).trans (List.map_id ds)
  rw [valueOf, hmap]

theorem valueOf_ofNat (n : Nat) : valueOf (Text.ofNat n) = n := by
  by_cases hn : n = 0
  · subst hn
    rfl
  · have hlt : ∀ d ∈ (Nat.digits 10 n).reverse, d < 10 := fun d hd =>
      Nat.digits_lt_base (by decide) (List.mem_reverse.1 hd)
    rw [Text.ofNat_eq_digits hn, valueOf_ofDecimals hlt, Text.ofDigits_reverse,
      Nat.ofDigits_digits]

theorem valueOf_append (a b : Text) :
    valueOf (a ++ b) = valueOf a * 10 ^ b.length + valueOf b := by
  induction b using List.reverseRecOn with
  | nil => simp [valueOf, Text.ofDigits]
  | append_singleton b c ih =>
    have hlast (t : Text) : valueOf (t ++ [c]) = 10 * valueOf t + (c.val - 0x30) := by
      rw [valueOf, List.map_append]
      exact Text.ofDigits_append _ _
    rw [← List.append_assoc, hlast, hlast, ih, List.length_append, List.length_singleton]
    ring

theorem valueOf_zeroDigits (k : Nat) : valueOf (Decimal.zeroDigits k) = 0 := by
  induction k with
  | zero => rfl
  | succ k ih =>
    have hsplit : Decimal.zeroDigits (k + 1) = "0" ++ Decimal.zeroDigits k := rfl
    have hzero : valueOf "0" = 0 := rfl
    rw [hsplit, valueOf_append, hzero, ih, Nat.zero_mul]

theorem valueOf_ofNatPadded (width n : Nat) : valueOf (Text.ofNatPadded width n) = n := by
  have hpad : Text.ofNatPadded width n =
      Decimal.zeroDigits (width - (Text.ofNat n).length) ++ Text.ofNat n := rfl
  rw [hpad, valueOf_append, valueOf_zeroDigits, valueOf_ofNat, Nat.zero_mul, Nat.zero_add]

theorem isDigits_zeroDigits (k : Nat) : (Decimal.zeroDigits k).IsDigits := by
  intro c hc
  rw [List.eq_of_mem_replicate hc]
  rfl

theorem isDigits_append {a b : Text} (ha : a.IsDigits) (hb : b.IsDigits) : (a ++ b).IsDigits :=
  List.forall_mem_append.2 ⟨ha, hb⟩

/-! ### Decimals as numerals -/

/-- A numeral that spells a decimal with a point or an exponent, whatever sign is put before it. -/
structure Spells (n : Numeral) (d : Decimal) : Prop where
  proper : n.IsProper
  positive : n.negative = false
  text : n.text = d.text
  broken : n.isWhole = false
  value : ∀ s, ({ n with negative := s } : Numeral).toBinary = d.toBinary s

variable {d : Decimal}

/-- The exponent that a numeral is written with. -/
def exponentValue : Option (Bool × Text) → Int
  | none => 0
  | some (negative, digits) => if negative then -(valueOf digits : Int) else valueOf digits

theorem toBinary_eq (n : Numeral) : n.toBinary = Decimal.toBinary n.negative
    ⟨valueOf (n.whole ++ n.fraction.getD []),
      exponentValue n.exponent - (n.fraction.getD []).length⟩ := by
  obtain ⟨negative, whole, fraction, _ | ⟨_ | _, digits⟩⟩ := n <;> rfl

/-- A numeral spells a decimal if its digits do, zeros at their end allowed for in the exponent. -/
theorem Spells.of_digits {n : Numeral} (proper : n.IsProper) (positive : n.negative = false)
    (text : n.text = d.text) (broken : n.isWhole = false) (k : Nat)
    (digits : valueOf (n.whole ++ n.fraction.getD []) = d.significand * 10 ^ k)
    (exponent : exponentValue n.exponent - (n.fraction.getD []).length + k = d.exponent) :
    n.Spells d := by
  refine ⟨proper, positive, text, broken, fun s => ?_⟩
  rw [toBinary_eq]
  dsimp only
  rw [digits, Decimal.toBinary_mul_pow, exponent]

theorem isDigits_zero : Text.IsDigits "0" := isDigits_zeroDigits 1

theorem isDigits_take {digits : Text} (h : digits.IsDigits) (k : Nat) :
    Text.IsDigits (digits.take k) := fun c hc => h c (List.mem_of_mem_take hc)

theorem isDigits_drop {digits : Text} (h : digits.IsDigits) (k : Nat) :
    Text.IsDigits (digits.drop k) := fun c hc => h c (List.mem_of_mem_drop hc)

/-- The digits of the significand of a decimal, without zeros before them. -/
structure AreDigitsOf (d : Decimal) (digits : Text) : Prop where
  isDigits : digits.IsDigits
  ne_nil : digits ≠ []
  leading : digits.head? ≠ some ('0' : CodePoint)
  value : valueOf digits = d.significand

theorem areDigitsOf_ofNat (hd : d.significand ≠ 0) :
    AreDigitsOf d (Text.ofNat d.significand) :=
  ⟨Text.isDigits_ofNat _, Text.ofNat_ne_nil _, Text.head?_ofNat hd, valueOf_ofNat _⟩

section
variable {digits : Text} (h : AreDigitsOf d digits) {point : Int}
  (hpoint : point = digits.length + d.exponent)
include h hpoint

/-- A zero before the point, and zeros after it. -/
theorem spells_small (hsmall : point ≤ 0)
    (htext : d.text = "0." ++ Decimal.zeroDigits (-point).toNat ++ digits) :
    Spells ⟨false, "0", some (Decimal.zeroDigits (-point).toNat ++ digits), none⟩ d := by
  have hzero : valueOf "0" = 0 := rfl
  have hlength : (Decimal.zeroDigits (-point).toNat).length = (-point).toNat :=
    List.length_replicate
  refine .of_digits ⟨isDigits_zero, List.cons_ne_nil _ _, fun _ => rfl, ?_, nofun⟩ rfl ?_ rfl 0 ?_ ?_
  · rintro _ ⟨⟩
    exact ⟨isDigits_append (isDigits_zeroDigits _) h.isDigits, by simp [h.ne_nil]⟩
  · rw [htext]
    simp [Numeral.text, fractionText, exponentText, Text.ofString]
  · rw [Option.getD_some, valueOf_append, hzero, valueOf_append, valueOf_zeroDigits, h.value]
    ring
  · rw [Option.getD_some, List.length_append, hlength, exponentValue]
    push_cast
    omega

/-- Zeros before the point, and one after it. -/
theorem spells_large (hlarge : digits.length ≤ point.toNat)
    (htext : d.text = digits ++ Decimal.zeroDigits (point.toNat - digits.length) ++ ".0") :
    Spells ⟨false, digits ++ Decimal.zeroDigits (point.toNat - digits.length), some "0", none⟩
      d := by
  have hzero : valueOf "0" = 0 := rfl
  have hone : List.length (Text.ofString "0") = 1 := rfl
  have hlength : (Decimal.zeroDigits (point.toNat - digits.length)).length =
      point.toNat - digits.length := List.length_replicate
  have hpos : 0 < digits.length := List.length_pos_iff.2 h.ne_nil
  refine .of_digits ⟨isDigits_append h.isDigits (isDigits_zeroDigits _), by simp [h.ne_nil],
    fun hhead => ?_, ?_, nofun⟩ rfl ?_ rfl (point.toNat - digits.length + 1) ?_ ?_
  · rw [List.head?_append_of_ne_nil _ h.ne_nil] at hhead
    exact absurd hhead h.leading
  · rintro _ ⟨⟩
    exact ⟨isDigits_zero, List.cons_ne_nil _ _⟩
  · rw [htext]
    simp [Numeral.text, fractionText, exponentText, Text.ofString]
  · rw [Option.getD_some, valueOf_append, valueOf_append, valueOf_zeroDigits, h.value, hzero,
      hlength, hone]
    ring
  · rw [Option.getD_some, hone, exponentValue]
    push_cast
    omega

/-- The point among the digits. -/
theorem spells_between (hsmall : ¬point ≤ 0) (hlarge : ¬digits.length ≤ point.toNat)
    (htext : d.text = digits.take point.toNat ++ "." ++ digits.drop point.toNat) :
    Spells ⟨false, digits.take point.toNat, some (digits.drop point.toNat), none⟩ d := by
  refine .of_digits ⟨isDigits_take h.isDigits _, ?_, fun hhead => ?_, ?_, nofun⟩ rfl ?_ rfl 0 ?_ ?_
  · simp [h.ne_nil]
    omega
  · rw [List.head?_take, if_neg (by omega)] at hhead
    exact absurd hhead h.leading
  · rintro _ ⟨⟩
    exact ⟨isDigits_drop h.isDigits _, by simp; omega⟩
  · rw [htext]
    simp [Numeral.text, fractionText, exponentText, Text.ofString]
  · rw [Option.getD_some, List.take_append_drop, h.value, Nat.pow_zero, Nat.mul_one]
  · rw [Option.getD_some, List.length_drop, exponentValue]
    push_cast
    omega

/-- A decimal in positional notation is a numeral. -/
theorem exists_positional (htext : d.text = Decimal.positional digits point) :
    ∃ n : Numeral, n.Spells d := by
  unfold Decimal.positional at htext
  split_ifs at htext with hsmall hlarge
  · exact ⟨_, spells_small h hpoint hsmall htext⟩
  · exact ⟨_, spells_large h hpoint hlarge htext⟩
  · exact ⟨_, spells_between h hpoint hsmall hlarge htext⟩

/-- A decimal with an exponent is a numeral. -/
theorem exists_scientific (htext : d.text = Decimal.scientific digits point) :
    ∃ n : Numeral, n.Spells d := by
  have hpos : 0 < digits.length := List.length_pos_iff.2 h.ne_nil
  -- one digit stands alone before the exponent
  obtain ⟨fraction, hfraction⟩ : ∃ fraction : Option Text,
    fraction = if digits.length ≤ 1 then none else some (digits.drop 1) := ⟨_, rfl⟩
  have hrest : fraction.getD [] = digits.drop 1 := by
    rw [hfraction]
    split
    next h => exact (List.drop_eq_nil_of_le h).symm
    next => rfl
  refine ⟨⟨false, digits.take 1, fraction,
      some (point - 1 < 0, Text.ofNatPadded 2 (point - 1).natAbs)⟩,
    .of_digits ⟨isDigits_take h.isDigits _, by simp [h.ne_nil], fun hhead => ?_, fun rest heq => ?_,
      fun negative rest heq => ?_⟩ rfl ?_ ?_ 0 ?_ ?_⟩
  · rw [List.head?_take, if_neg (by omega)] at hhead
    exact absurd hhead h.leading
  · have heq : fraction = some rest := heq
    rw [hfraction] at heq
    split at heq
    next => cases heq
    next hlong =>
      obtain rfl := Option.some.inj heq
      exact ⟨isDigits_drop h.isDigits 1, fun hnil => hlong (List.drop_eq_nil_iff.1 hnil)⟩
  · obtain ⟨-, rfl⟩ := Prod.mk.inj (Option.some.inj heq)
    exact ⟨isDigits_append (isDigits_zeroDigits _) (Text.isDigits_ofNat _),
      by simp [Text.ofNatPadded, Text.ofNat_ne_nil]⟩
  · have hfractionText : fractionText fraction =
        if digits.length ≤ 1 then [] else ('.' : CodePoint) :: digits.drop 1 := by
      rw [hfraction]
      split <;> rfl
    rw [htext, Numeral.text, hfractionText]
    simp [Decimal.scientific, exponentText, Text.ofString]
  · simp [isWhole]
  · rw [hrest, List.take_append_drop, h.value, Nat.pow_zero, Nat.mul_one]
  · rw [hrest, List.length_drop, exponentValue, valueOf_ofNatPadded]
    split_ifs with hnegative
    · have hnegative : point - 1 < 0 := of_decide_eq_true hnegative
      omega
    · have hnegative : ¬point - 1 < 0 := fun h => hnegative (decide_eq_true h)
      omega

end

/-- Every decimal but zero is written as a numeral that spells it. -/
theorem exists_spells (hd : d.significand ≠ 0) : ∃ n : Numeral, n.Spells d := by
  have hdigits := areDigitsOf_ofNat hd
  obtain ⟨point, hpoint⟩ :
    ∃ point : Int, point = (Text.ofNat d.significand).length + d.exponent := ⟨_, rfl⟩
  by_cases hplace : (-4 < point && point ≤ 16) = true
  · refine exists_positional hdigits hpoint ?_
    rw [Decimal.text, ← hpoint, if_pos hplace]
  · refine exists_scientific hdigits hpoint ?_
    rw [Decimal.text, ← hpoint, if_neg hplace]

end Numeral

/-! ## Words -/

namespace Token

/-- Whether a code point may stand inside a word: it is printable, and neither a blank nor a mark. -/
def isWordPoint (c : CodePoint) : Bool :=
  0x20 ≤ c.val && c.val ≤ 0x7e && !isGap c && c ≠ CodePoint.quotationMark && (mark? c).isNone

/-- A text is one word, which stands for a value. -/
structure IsWordOf (word : Text) (v : Value) : Prop where
  some_point : word ≠ []
  points : ∀ c ∈ word, isWordPoint c = true
  read : ∃ token, ofWord word = [token] ∧ ∀ stack, startValue stack token = .ok (.next v, stack)

theorem isWordPoint_digit {c : CodePoint} (h : c.isDigit = true) : isWordPoint c = true := by
  have hall : ∀ e : Fin 10, isWordPoint (CodePoint.ofNat (0x30 + e.val)) = true := by decide
  obtain ⟨hlow, hhigh⟩ : 0x30 ≤ c.val ∧ c.val ≤ 0x39 := by simpa [CodePoint.isDigit] using h
  have hc : c = CodePoint.ofNat (0x30 + (c.val - 0x30)) := by
    rw [Nat.add_sub_cancel' hlow]
    simp [CodePoint.ofNat]
  rw [hc]
  exact hall ⟨c.val - 0x30, by omega⟩

theorem isWordPoint_text {n : Numeral} (h : n.IsProper) : ∀ c ∈ n.text, isWordPoint c = true := by
  have hdigits {digits : Text} (hd : digits.IsDigits) : ∀ c ∈ digits, isWordPoint c = true :=
    fun c hc => isWordPoint_digit (hd c hc)
  have hfraction : ∀ c ∈ Numeral.fractionText n.fraction, isWordPoint c = true := by
    cases hf : n.fraction with
    | none => exact List.forall_mem_nil _
    | some digits => exact List.forall_mem_cons.2 ⟨rfl, hdigits (h.fraction digits hf).1⟩
  have hexponent : ∀ c ∈ Numeral.exponentText n.exponent, isWordPoint c = true := by
    cases he : n.exponent with
    | none => exact List.forall_mem_nil _
    | some e =>
      obtain ⟨negative, digits⟩ := e
      refine List.forall_mem_append.2 ⟨?_, hdigits (h.exponent negative digits he).1⟩
      cases negative <;> exact List.all_eq_true.1 rfl
  refine List.forall_mem_append.2 ⟨?_, List.forall_mem_append.2 ⟨hdigits h.whole,
    List.forall_mem_append.2 ⟨hfraction, hexponent⟩⟩⟩
  cases n.negative <;> exact List.all_eq_true.1 rfl

/-- A numeral is no constant. -/
theorem ofWord_text {n : Numeral} (h : n.IsProper) : ofWord n.text = [.number n] := by
  have hconstants : ∀ entry ∈ constants, Numeral.longest? entry.1 = none := by decide
  have hlookup : constants.lookup n.text = none := by
    rw [List.lookup_eq_none_iff]
    intro entry hentry
    have hnone := hconstants entry hentry
    simp only [bne_iff_ne]
    rintro heq
    rw [← heq, Numeral.longest?_text h] at hnone
    cases hnone
  rw [ofWord, hlookup]
  simp only [Numeral.longest?_text h]

theorem isWordOf_text {n : Numeral} (h : n.IsProper) {v : Value} (hv : n.value = .ok v) :
    IsWordOf n.text v where
  some_point := by simp [Numeral.text, h.some_whole]
  points := isWordPoint_text h
  read := ⟨.number n, ofWord_text h, fun stack => by rw [startValue, hv]; rfl⟩

/-- A constant is one word. -/
theorem isWordOf_constant {word : Text} {v : Value} (hv : ofWord word = [.constant v])
    (hne : word ≠ []) (hpoints : word.all isWordPoint = true) : IsWordOf word v where
  some_point := hne
  points := List.all_eq_true.1 hpoints
  read := ⟨.constant v, hv, fun _ => rfl⟩

/-- A whole number is written as one word. -/
theorem isWordOf_ofInt {n : Int} (h : Integer.isWritable n = true) :
    IsWordOf (Text.ofInt n) (.int n) := by
  rw [Integer.isWritable, decide_eq_true_eq] at h
  have hlength := Text.length_ofNat_le (by decide) h
  have hword (negative : Bool) :
      IsWordOf ((if negative then "-" else "") ++ Text.ofNat n.natAbs)
        (.int (if negative then -(n.natAbs : Int) else n.natAbs)) := by
    obtain ⟨m, hm⟩ : ∃ m : Numeral, m = ⟨negative, Text.ofNat n.natAbs, none, none⟩ := ⟨_, rfl⟩
    have hproper : m.IsProper := by
      subst hm
      refine ⟨Text.isDigits_ofNat _, Text.ofNat_ne_nil _, fun hhead => ?_, nofun, nofun⟩
      by_cases hzero : n.natAbs = 0
      · rw [hzero]
        rfl
      · exact absurd hhead (Text.head?_ofNat hzero)
    have hvalue : m.value = .ok (.int (if negative then -(n.natAbs : Int) else n.natAbs)) := by
      have hwhole : m.isWhole = true := by rw [hm]; rfl
      have hdigits : m.whole = Text.ofNat n.natAbs := by rw [hm]
      have hsign : m.negative = negative := by rw [hm]
      rw [Numeral.value, if_pos hwhole, if_pos (hdigits ▸ hlength)]
      simp only [Numeral.toInt, hdigits, hsign, Numeral.valueOf_ofNat]
    have htext : m.text = (if negative then "-" else "") ++ Text.ofNat n.natAbs := by
      rw [hm]
      simp [Numeral.text, Numeral.fractionText, Numeral.exponentText]
    rw [← htext]
    exact isWordOf_text hproper hvalue
  cases n with
  | ofNat k => exact hword false
  | negSucc k => exact hword true

/-- The text of a finite number is a numeral after its sign. -/
theorem exists_magnitude {negative : Bool} {units : Nat}
    (h : (Binary64.finite negative units).IsRepresentable) : ∃ n : Numeral, n.IsProper ∧
      n.text = Binary64.text (.finite negative units) ∧ n.isWhole = false ∧
      n.toBinary = .finite negative units := by
  -- a numeral does for both signs
  suffices hboth : ∃ n : Numeral, n.IsProper ∧ n.negative = false ∧
      n.text = Binary64.text (.finite false units) ∧ n.isWhole = false ∧
      ({ n with negative := negative } : Numeral).toBinary = .finite negative units by
    obtain ⟨n, hproper, hpositive, htext, hbroken, hvalue⟩ := hboth
    refine ⟨{ n with negative := negative }, ⟨hproper.1, hproper.2, hproper.3, hproper.4, hproper.5⟩,
      ?_, hbroken, hvalue⟩
    simp only [Numeral.text, hpositive, Binary64.text] at htext ⊢
    cases negative with
    | false => simpa using htext
    | true => simpa [Text.ofString] using htext
  by_cases hzero : units = 0
  · subst hzero
    refine ⟨⟨false, "0", some "0", none⟩, ⟨Numeral.isDigits_zero, List.cons_ne_nil _ _,
      fun _ => rfl, ?_, nofun⟩, rfl, rfl, rfl, rfl⟩
    rintro _ ⟨⟩
    exact ⟨Numeral.isDigits_zero, List.cons_ne_nil _ _⟩
  · have hrepresentable : (Binary64.finite false units).IsRepresentable := by
      cases h with
      | finite _ hlt hdvd => exact .finite false hlt hdvd
    have hread := Decimal.toBinary_shortest hzero hrepresentable
    have hd : (Decimal.shortest units).significand ≠ 0 := by
      intro hd
      rw [Decimal.toBinary, if_pos hd] at hread
      exact hzero (Binary64.finite.inj hread).2.symm
    obtain ⟨n, hn⟩ := Numeral.exists_spells hd
    refine ⟨n, hn.proper, hn.positive, ?_, hn.broken, ?_⟩
    · rw [hn.text]
      simp [Binary64.text, hzero]
    · rw [hn.value, Decimal.toBinary_of_false hread]

/-- A floating-point number is written as one word. -/
theorem isWordOf_printBinary {x : Binary64} (h : x.IsRepresentable) :
    IsWordOf (printBinary x) (.float x) := by
  cases x with
  | nan => exact isWordOf_constant rfl (List.cons_ne_nil _ _) rfl
  | infinite negative =>
    cases negative <;> exact isWordOf_constant rfl (List.cons_ne_nil _ _) rfl
  | finite negative units =>
    obtain ⟨n, hproper, htext, hbroken, hvalue⟩ := exists_magnitude h
    have hread : n.value = .ok (.float (.finite negative units)) := by
      rw [Numeral.value, hbroken, hvalue]
      rfl
    rw [printBinary, ← htext]
    · exact isWordOf_text hproper hread
    · exact nofun
    · exact nofun

end Token

end Json

end Rendezvous
