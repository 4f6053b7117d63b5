/-
  Numbers in decimal: what is written is read back.

  * `Text.IsDecimal`: a list of digits is a number, zeros before it allowed;
  * `Text.ofNatPadded_eq_ofDecimals`: a number that fits a width is written with
    exactly so many digits;
  * `Text.readInt?_ofNatPadded`: and these are read as the number.
-/
import Mathlib.Tactic
import Rendezvous.Text.Digit

namespace Rendezvous

theorem CodePoint.decimalValue?_digit {d : Nat} (h : d < 10) :
    (CodePoint.digit d).decimalValue? = some d := by
  have : ∀ e : Fin 10, (CodePoint.digit e.val).decimalValue? = some e.val := by decide
  exact this ⟨d, h⟩

theorem CodePoint.digit_ne {d : Nat} (h : d < 10) :
    (CodePoint.digit d).isNumberBlank = false ∧ CodePoint.digit d ≠ '-' ∧
      CodePoint.digit d ≠ '+' := by
  have : ∀ e : Fin 10, (CodePoint.digit e.val).isNumberBlank = false ∧
      CodePoint.digit e.val ≠ '-' ∧ CodePoint.digit e.val ≠ '+' := by decide
  exact this ⟨d, h⟩

namespace Text

/-- The code points of decimal digits. -/
def ofDecimals (ds : List Nat) : Text := ds.map CodePoint.digit

/-- A list of digits is a number written in decimal, zeros before it allowed. -/
structure IsDecimal (ds : List Nat) (n : Nat) : Prop where
  lt : ∀ d ∈ ds, d < 10
  value : ofDigits ds = n

theorem ofDigits_append (ds : List Nat) (d : Nat) :
    ofDigits (ds ++ [d]) = 10 * ofDigits ds + d := by
  simp [ofDigits]

theorem ofDigits_zeros (k : Nat) (ds : List Nat) :
    ofDigits (List.replicate k 0 ++ ds) = ofDigits ds := by
  induction k with
  | zero => rfl
  | succ k ih => simpa [List.replicate_succ, ofDigits] using ih

theorem reverse_ofDecimals (ds : List Nat) : (ofDecimals ds).reverse = ofDecimals ds.reverse := by
  rw [ofDecimals, ofDecimals, List.map_reverse]

/-! ## Writing -/

theorem digitsRev_eq (fuel n : Nat) (h : n ≤ fuel) :
    ∃ ds, digitsRev fuel n = ofDecimals ds ∧ IsDecimal ds.reverse n ∧ ds ≠ [] ∧
      ∀ w, 0 < w → n < 10 ^ w → ds.length ≤ w := by
  induction fuel generalizing n with
  | zero =>
    obtain rfl : n = 0 := by omega
    exact ⟨[0], rfl, ⟨by simp, rfl⟩, by simp, fun w hw _ => hw⟩
  | succ fuel ih =>
    rcases Nat.lt_or_ge n 10 with hn | hn
    · exact ⟨[n], by simp [digitsRev, hn, ofDecimals], ⟨by simpa using hn, by simp [ofDigits]⟩,
        by simp, fun w hw _ => hw⟩
    · obtain ⟨ds, hds, ⟨hlt, hval⟩, -, hlen⟩ := ih (n / 10) (by omega)
      refine ⟨n % 10 :: ds, ?_, ⟨?_, ?_⟩, by simp, ?_⟩
      · simp [digitsRev, Nat.not_lt.2 hn, hds, ofDecimals]
      · intro d hd
        rcases List.mem_cons.1 (List.mem_reverse.1 hd) with rfl | hd
        exacts [Nat.mod_lt _ (by omega), hlt d (List.mem_reverse.2 hd)]
      · rw [List.reverse_cons, ofDigits_append, hval]; omega
      · intro w hw hnw
        obtain ⟨v, rfl⟩ : ∃ v, w = v + 1 := ⟨w - 1, by omega⟩
        have hv : v ≠ 0 := by rintro rfl; omega
        have := hlen v (by omega) (by rw [Nat.pow_succ] at hnw; omega)
        simp only [List.length_cons]; omega

/-- A number that fits a width is written with exactly so many digits. -/
theorem ofNatPadded_eq_ofDecimals {w n : Nat} (hw : 0 < w) (h : n < 10 ^ w) :
    ∃ ds, IsDecimal ds n ∧ ofNatPadded w n = ofDecimals ds ∧ ds.length = w := by
  obtain ⟨ds, hds, ⟨hlt, hval⟩, -, hlen⟩ := digitsRev_eq n n (Nat.le_refl n)
  have hle := hlen w hw h
  refine ⟨List.replicate (w - ds.length) 0 ++ ds.reverse, ⟨?_, ?_⟩, ?_, ?_⟩
  · intro d hd
    rcases List.mem_append.1 hd with hd | hd
    · rw [List.eq_of_mem_replicate hd]; omega
    · exact hlt d hd
  · rw [ofDigits_zeros, hval]
  · have hzero : ('0' : CodePoint) = CodePoint.digit 0 := by decide
    rw [ofNatPadded, ofNat, hds, reverse_ofDecimals, hzero]
    simp only [ofDecimals, List.map_append, List.map_replicate, List.length_map,
      List.length_reverse]
  · simp only [List.length_append, List.length_replicate, List.length_reverse]; omega

/-! ## Reading -/

theorem groupedDigits?_ofDecimals {ds : List Nat} (h : ∀ d ∈ ds, d < 10) :
    groupedDigits? false (ofDecimals ds) = some ds := by
  induction ds with
  | nil => rfl
  | cons d ds ih =>
    have hd := CodePoint.decimalValue?_digit (h d (by simp))
    have ih := ih fun e he => h e (by simp [he])
    simp only [ofDecimals, List.map_cons, groupedDigits?, hd] at ih ⊢
    rw [ih]; rfl

theorem readNat?_ofDecimals {ds : List Nat} {n : Nat} (h : IsDecimal ds n) (hne : ds ≠ [])
    (hl : ds.length ≤ Integer.maxDigits) : readNat? (ofDecimals ds) = some n := by
  obtain ⟨d, ds, rfl⟩ := List.exists_cons_of_ne_nil hne
  have hd := CodePoint.decimalValue?_digit (h.lt d (by simp))
  have ht := groupedDigits?_ofDecimals fun e (he : e ∈ ds) => h.lt e (by simp [he])
  have hg : groupedDigits? true (ofDecimals (d :: ds)) = some (d :: ds) := by
    simp only [ofDecimals, List.map_cons, groupedDigits?, hd] at ht ⊢
    rw [ht]; rfl
  simp only [readNat?, hg, hl, if_true, h.value]

theorem dropStart_ofDecimals {ds : List Nat} (h : ∀ d ∈ ds, d < 10) :
    dropStart CodePoint.isNumberBlank (ofDecimals ds) = ofDecimals ds := by
  refine dropStart_of_head fun c hc => ?_
  obtain ⟨d, hd, rfl⟩ := List.mem_map.1 (List.mem_of_mem_head? hc)
  exact (CodePoint.digit_ne (h d hd)).1

theorem dropEnd_ofDecimals {ds : List Nat} (h : ∀ d ∈ ds, d < 10) :
    dropEnd CodePoint.isNumberBlank (ofDecimals ds) = ofDecimals ds := by
  rw [dropEnd_eq, reverse_ofDecimals,
    dropStart_ofDecimals fun d hd => h d (List.mem_reverse.1 hd), reverse_ofDecimals,
    List.reverse_reverse]

/-- What is written in decimal is read back. -/
theorem readInt?_ofDecimals {ds : List Nat} {n : Nat} (h : IsDecimal ds n) (hne : ds ≠ [])
    (hl : ds.length ≤ Integer.maxDigits) : readInt? (ofDecimals ds) = some (n : Int) := by
  have hread := readNat?_ofDecimals h hne hl
  rw [readInt?, dropStart_ofDecimals h.lt, dropEnd_ofDecimals h.lt]
  obtain ⟨d, ds, rfl⟩ := List.exists_cons_of_ne_nil hne
  -- a digit is no sign
  obtain ⟨-, hminus, hplus⟩ := CodePoint.digit_ne (h.lt d (by simp))
  simp only [ofDecimals, List.map_cons] at hread ⊢
  rw [if_neg hminus, if_neg hplus, hread]
  rfl

theorem readInt?_ofNatPadded {w n : Nat} (hw : 0 < w) (hl : w ≤ Integer.maxDigits)
    (h : n < 10 ^ w) :
    (ofNatPadded w n).length = w ∧ readInt? (ofNatPadded w n) = some (n : Int) := by
  obtain ⟨ds, hds, heq, hlen⟩ := ofNatPadded_eq_ofDecimals hw h
  have hne : ds ≠ [] := by rintro rfl; simp at hlen; omega
  rw [heq]
  exact ⟨by rw [ofDecimals, List.length_map, hlen], readInt?_ofDecimals hds hne (by omega)⟩

end Text

end Rendezvous
