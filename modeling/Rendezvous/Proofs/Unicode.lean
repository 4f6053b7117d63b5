/-
  The UTF-8 form of texts, and the text form of nicknames.

  A text without surrogates has a UTF-8 form, and is read back of it.  Of all other bytes some text
  is read, too, but nothing that has these bytes as its form: what is read never has a surrogate in
  it, so that its form is valid UTF-8.

  * `CodePoint.utf8_ofChar`: characters are encoded as the standard has it; `Text.isValidUTF8_iff`:
    valid UTF-8 is the form of a text without surrogates;
  * `Text.ofUtf8_utf8`: such a text is read back;
  * `Utf8Pending.Sound`: a sequence under way cannot become a surrogate, and `Text.isScalar_ofUtf8`:
    none is ever read;
  * `Bytes.trim_utf8`: trailing zero bytes are trailing zeros of the text, since no other code point
    has a zero byte in its form;
  * `Field.nickname_text`: a nickname has a faithful text just if its bytes are valid UTF-8.
-/
import Mathlib.Data.List.DropRight
import Mathlib.Tactic
import Rendezvous.Field.Nickname
import Rendezvous.Proofs.Reading
import Rendezvous.Proofs.Spelling

namespace Rendezvous

/-! ## Encoding -/

namespace CodePoint
variable {c : CodePoint}

/-- A code point that is no surrogate is that of a character. -/
theorem exists_char (h : c.isSurrogate = false) : ∃ x : Char, ofChar x = c := by
  have hvalid : c.val.isValidChar := by
    simp only [isSurrogate, Bool.and_eq_false_iff, decide_eq_false_iff_not] at h
    have := c.isLt
    rw [Nat.isValidChar]
    omega
  refine ⟨Char.ofNatAux c.val hvalid, ?_⟩
  rfl

theorem val_ofChar (x : Char) : (ofChar x).val = x.val.toNat := rfl

theorem isSurrogate_ofChar (x : Char) : (ofChar x).isSurrogate = false := by
  have h : (ofChar x).val < 0xd800 ∨ 0xdfff < (ofChar x).val ∧ (ofChar x).val < 0x110000 := x.valid
  rw [Bool.eq_false_iff]
  simp only [isSurrogate, ne_eq, Bool.and_eq_true, decide_eq_true_eq]
  omega

/-- A character is encoded as the standard has it. -/
theorem utf8_ofChar (x : Char) : (ofChar x).utf8 = String.utf8EncodeChar x := by
  have hval := val_ofChar x
  generalize ofChar x = c at hval ⊢
  have hlt := c.isLt
  rw [utf8, String.utf8EncodeChar, ← hval]
  by_cases h1 : c.val < 0x80
  · rw [if_pos h1, if_pos (by omega)]
  by_cases h2 : c.val < 0x800
  · rw [if_neg h1, if_pos h2, if_neg (by omega), if_pos (by omega),
      Nat.mod_eq_of_lt (show c.val / 64 < 32 by omega), Nat.add_comm, Nat.add_comm 128]
  by_cases h3 : c.val < 0x10000
  · rw [if_neg h1, if_neg h2, if_pos h3, if_neg (by omega), if_neg (by omega), if_pos (by omega),
      Nat.mod_eq_of_lt (show c.val / 4096 < 16 by omega), Nat.add_comm, Nat.add_comm 128,
      Nat.add_comm 128]
  · rw [if_neg h1, if_neg h2, if_neg h3, if_neg (by omega), if_neg (by omega), if_neg (by omega),
      Nat.mod_eq_of_lt (show c.val / 262144 < 8 by omega), Nat.add_comm, Nat.add_comm 128,
      Nat.add_comm 128, Nat.add_comm 128]

/-- Only the zero has a zero byte at the end of its form. -/
theorem exists_utf8_append (h : c ≠ 0) : ∃ init b, c.utf8 = init ++ [b] ∧ b ≠ 0 := by
  have hpos : c.val ≠ 0 := fun h0 => h (Fin.ext h0)
  have hb {n : ℕ} (h0 : n ≠ 0) (hn : n < 256) : n.toUInt8 ≠ 0 := by
    intro hzero
    have := congrArg UInt8.toNat hzero
    rw [UInt8.toNat_ofNat', UInt8.toNat_zero] at this
    omega
  have hlt := c.isLt
  rw [utf8]
  split_ifs
  · exact ⟨[], _, rfl, hb hpos (by omega)⟩
  · exact ⟨[_], _, rfl, hb (by omega) (by omega)⟩
  · exact ⟨[_, _], _, rfl, hb (by omega) (by omega)⟩
  · exact ⟨[_, _, _], _, rfl, hb (by omega) (by omega)⟩

end CodePoint

namespace Text
variable {t : Text} {bytes : Bytes}

/-- The texts without surrogates are those that have no first run of them. -/
theorem surrogateRunFrom?_eq_none_iff (start : ℕ) :
    surrogateRunFrom? start t = none ↔ t.IsScalar := by
  induction t generalizing start with
  | nil => exact iff_of_true rfl (List.forall_mem_nil _)
  | cons c t ih =>
    rw [surrogateRunFrom?, IsScalar, List.forall_mem_cons]
    by_cases hc : c.isSurrogate = true
    · simp [hc]
    · rw [if_neg hc, ih]
      simp [hc, IsScalar]

/-- Just the texts without surrogates have a UTF-8 form. -/
theorem utf8?_eq_ok_iff : t.utf8? = .ok bytes ↔ t.IsScalar ∧ t.flatMap CodePoint.utf8 = bytes := by
  rw [utf8?, surrogateRun?]
  cases h : surrogateRunFrom? 0 t with
  | none => simp [(surrogateRunFrom?_eq_none_iff 0).1 h]
  | some run =>
    have hnot : ¬t.IsScalar := fun hs => by
      rw [(surrogateRunFrom?_eq_none_iff 0).2 hs] at h
      cases h
    simp [hnot]

theorem isScalar_map_ofChar (chars : List Char) : IsScalar (chars.map CodePoint.ofChar) := by
  intro c hc
  obtain ⟨x, -, rfl⟩ := List.mem_map.1 hc
  exact CodePoint.isSurrogate_ofChar x

theorem isScalar_ofString (s : String) : IsScalar (ofString s) := isScalar_map_ofChar s.toList

theorem isScalar_append_iff {s t : Text} : IsScalar (s ++ t) ↔ s.IsScalar ∧ t.IsScalar :=
  List.forall_mem_append

theorem IsScalar.append {s t : Text} (hs : s.IsScalar) (ht : t.IsScalar) : IsScalar (s ++ t) :=
  isScalar_append_iff.2 ⟨hs, ht⟩

/-- Bytes are valid UTF-8 just if they are the form of a text without surrogates. -/
theorem isValidUTF8_iff :
    bytes.toByteArray.IsValidUTF8 ↔ ∃ t : Text, t.IsScalar ∧ t.flatMap CodePoint.utf8 = bytes := by
  have hmap (chars : List Char) :
      (chars.map CodePoint.ofChar).flatMap CodePoint.utf8 =
        chars.flatMap String.utf8EncodeChar := by
    rw [List.flatMap_map]
    exact List.flatMap_congr fun x _ => CodePoint.utf8_ofChar x
  constructor
  · rintro ⟨chars, h⟩
    refine ⟨chars.map CodePoint.ofChar, isScalar_map_ofChar chars, ?_⟩
    have hdata := congrArg (fun b => b.data.toList) h
    rw [hmap]
    simpa [List.utf8Encode] using hdata.symm
  · rintro ⟨t, ht, rfl⟩
    obtain ⟨chars, rfl⟩ : t ∈ Set.range (List.map CodePoint.ofChar) := by
      rw [Set.range_list_map]
      exact fun c hc => CodePoint.exists_char (ht c hc)
    exact ⟨chars, by rw [hmap, List.utf8Encode]⟩

end Text

/-! ## Decoding -/

namespace Text

section
variable {n : ℕ}

theorem toNat_toUInt8 (h : n < 0x100) : n.toUInt8.toNat = n := by
  rw [UInt8.toNat_ofNat', Nat.mod_eq_of_lt h]

theorem utf8Start_single (h : n < 0x80) :
    utf8Start n.toUInt8 = .single (CodePoint.ofNat n) := by
  simp only [utf8Start, toNat_toUInt8 (show n < 0x100 by omega), if_pos h]

theorem utf8Start_two (hlow : 2 ≤ n) (hhigh : n < 32) :
    utf8Start (0xc0 + n).toUInt8 = .lead ⟨n, 1, 0x80, 0xbf⟩ := by
  interval_cases n <;> rfl

theorem utf8Start_three (h : n < 16) : utf8Start (0xe0 + n).toUInt8 =
    .lead ⟨n, 2, if n = 0 then 0xa0 else 0x80, if n = 13 then 0x9f else 0xbf⟩ := by
  interval_cases n <;> rfl

theorem utf8Start_four (h : n < 5) : utf8Start (0xf0 + n).toUInt8 =
    .lead ⟨n, 3, if n = 0 then 0x90 else 0x80, if n = 4 then 0x8f else 0xbf⟩ := by
  interval_cases n <;> rfl

/-- A sequence goes on with a byte that brings six more bits. -/
theorem ofUtf8From_more {bits missing low high : ℕ} (hlow : low ≤ 0x80 + n)
    (hhigh : 0x80 + n ≤ high) (hn : n < 0x40) (rest : Bytes) :
    ofUtf8From (some ⟨bits, missing + 2, low, high⟩) ((0x80 + n).toUInt8 :: rest) =
      ofUtf8From (some ⟨bits * 0x40 + n, missing + 1, 0x80, 0xbf⟩) rest := by
  have hin : (decide (low ≤ 0x80 + n) && decide (0x80 + n ≤ high)) = true := by simp [hlow, hhigh]
  rw [ofUtf8From, toNat_toUInt8 (show 0x80 + n < 0x100 by omega), if_pos hin,
    if_neg (show ¬missing + 2 ≤ 1 by omega), Nat.add_sub_cancel_left]
  rfl

/-- A sequence ends with a byte that brings the last six bits. -/
theorem ofUtf8From_last {bits low high : ℕ} (hlow : low ≤ 0x80 + n) (hhigh : 0x80 + n ≤ high)
    (hn : n < 0x40) (rest : Bytes) :
    ofUtf8From (some ⟨bits, 1, low, high⟩) ((0x80 + n).toUInt8 :: rest) =
      CodePoint.ofNat (bits * 0x40 + n) :: ofUtf8From none rest := by
  have hin : (decide (low ≤ 0x80 + n) && decide (0x80 + n ≤ high)) = true := by simp [hlow, hhigh]
  rw [ofUtf8From, toNat_toUInt8 (show 0x80 + n < 0x100 by omega), if_pos hin, if_pos le_rfl,
    Nat.add_sub_cancel_left]

end

/-- What is encoded is read back, whatever follows. -/
theorem ofUtf8From_utf8 {c : CodePoint} (h : c.isSurrogate = false) (rest : Bytes) :
    ofUtf8From none (c.utf8 ++ rest) = c :: ofUtf8From none rest := by
  have hlt := c.isLt
  have hrange : ¬(0xd800 ≤ c.val ∧ c.val < 0xe000) := by
    simpa [CodePoint.isSurrogate] using h
  rw [CodePoint.utf8]
  split_ifs with h1 h2 h3
  · simp only [List.cons_append, List.nil_append, ofUtf8From, utf8Start_single h1,
      CodePoint.ofNat_val]
  · simp only [List.cons_append, List.nil_append]
    rw [ofUtf8From, utf8Start_two (by omega) (by omega)]
    dsimp only
    rw [ofUtf8From_last (by omega) (by omega) (by omega), Nat.div_add_mod', CodePoint.ofNat_val]
  · have hbits : c.val / 0x1000 * 0x40 + c.val / 0x40 % 0x40 = c.val / 0x40 := by omega
    simp only [List.cons_append, List.nil_append]
    rw [ofUtf8From, utf8Start_three (by omega)]
    dsimp only
    rw [ofUtf8From_more (by split_ifs <;> omega) (by split_ifs <;> omega) (by omega),
      ofUtf8From_last (by omega) (by omega) (by omega), hbits, Nat.div_add_mod',
      CodePoint.ofNat_val]
  · have hbits : c.val / 0x40000 * 0x40 + c.val / 0x1000 % 0x40 = c.val / 0x1000 := by omega
    have hbits' : c.val / 0x1000 * 0x40 + c.val / 0x40 % 0x40 = c.val / 0x40 := by omega
    simp only [List.cons_append, List.nil_append]
    rw [ofUtf8From, utf8Start_four (by omega)]
    dsimp only
    rw [ofUtf8From_more (by split_ifs <;> omega) (by split_ifs <;> omega) (by omega),
      ofUtf8From_more (by omega) (by omega) (by omega),
      ofUtf8From_last (by omega) (by omega) (by omega), hbits, hbits', Nat.div_add_mod',
      CodePoint.ofNat_val]

/-- A text without surrogates is read back of its UTF-8 form. -/
theorem ofUtf8_utf8 {t : Text} (h : t.IsScalar) : ofUtf8 (t.flatMap CodePoint.utf8) = t := by
  induction t with
  | nil => rfl
  | cons c t ih =>
    obtain ⟨hc, ht⟩ := List.forall_mem_cons.1 h
    rw [List.flatMap_cons, ofUtf8, ofUtf8From_utf8 hc, ← ofUtf8, ih ht]

end Text

/-! ## Broken sequences -/

namespace Text

/-- How many code points there are for each next byte, with so many bytes missing. -/
def Utf8Pending.span (p : Utf8Pending) : ℕ :=
  if p.missing = 1 then 1 else if p.missing = 2 then 0x40 else 0x1000

theorem Utf8Pending.span_one (bits low high : ℕ) : span ⟨bits, 1, low, high⟩ = 1 := rfl

theorem Utf8Pending.span_two (bits low high : ℕ) : span ⟨bits, 2, low, high⟩ = 0x40 := rfl

theorem Utf8Pending.span_three (bits low high : ℕ) : span ⟨bits, 3, low, high⟩ = 0x1000 := rfl

/-- A sequence under way that cannot become a surrogate: whatever its missing bytes bring, it ends
    up below the surrogates or above them. -/
structure Utf8Pending.Sound (p : Utf8Pending) : Prop where
  missing : p.missing = 1 ∨ p.missing = 2 ∨ p.missing = 3
  low : 0x80 ≤ p.low
  high : p.high ≤ 0xbf
  apart : (p.bits * 0x40 + (p.high - 0x80) + 1) * p.span ≤ 0xd800 ∨
    0xe000 ≤ (p.bits * 0x40 + (p.low - 0x80)) * p.span

variable {p : Utf8Pending} {b : UInt8} {c : CodePoint} {n : ℕ}

theorem isSurrogate_ofNat_eq_false (h : n < 0xd800 ∨ 0xe000 ≤ n) :
    (CodePoint.ofNat n).isSurrogate = false := by
  rw [CodePoint.ofNat]
  split
  · simp only [CodePoint.isSurrogate, Bool.and_eq_false_iff, decide_eq_false_iff_not]
    omega
  · rfl

/-- A first byte that stands for no surrogate, and starts no sequence that could become one. -/
def Utf8Start.Sound : Utf8Start → Prop
  | .single c => c.isSurrogate = false
  | .lead p => p.Sound
  | .broken => True

/-- The surrogates are kept out by the bounds of the second byte. -/
theorem utf8Start_sound (b : UInt8) : (utf8Start b).Sound := by
  have hlead {bits missing low high : ℕ} (h : Utf8Pending.Sound ⟨bits, missing, low, high⟩) :
      Utf8Start.Sound (.lead ⟨bits, missing, low, high⟩) := h
  unfold utf8Start
  dsimp only
  split_ifs
  · exact isSurrogate_ofNat_eq_false (by omega)
  any_goals exact trivial
  all_goals
    refine hlead ⟨by simp, by simp, by simp, ?_⟩
    simp only [Utf8Pending.span_one, Utf8Pending.span_two, Utf8Pending.span_three]
    omega

theorem isSurrogate_of_single (h : utf8Start b = .single c) : c.isSurrogate = false := by
  have hsound := utf8Start_sound b
  rwa [h] at hsound

theorem sound_of_lead (h : utf8Start b = .lead p) : p.Sound := by
  have hsound := utf8Start_sound b
  rwa [h] at hsound

/-- A sequence that goes on stays clear of the surrogates. -/
theorem Utf8Pending.Sound.more (h : p.Sound) (hlow : p.low ≤ b.toNat) (hhigh : b.toNat ≤ p.high)
    (hm : ¬p.missing ≤ 1) :
    Utf8Pending.Sound ⟨p.bits * 0x40 + (b.toNat - 0x80), p.missing - 1, 0x80, 0xbf⟩ := by
  obtain ⟨bits, missing, low, high⟩ := p
  obtain ⟨hmissing, -, -, hapart⟩ := h
  dsimp only at *
  have hspan : Utf8Pending.span ⟨bits, missing, low, high⟩ =
      0x40 * Utf8Pending.span ⟨bits * 0x40 + (b.toNat - 0x80), missing - 1, 0x80, 0xbf⟩ := by
    obtain rfl | rfl : missing = 2 ∨ missing = 3 := by omega
    · rfl
    · rfl
  rw [hspan, ← Nat.mul_assoc, ← Nat.mul_assoc] at hapart
  refine ⟨by dsimp only; omega, by simp, by simp, ?_⟩
  refine hapart.imp (le_trans ?_) fun habove => le_trans habove ?_
  · exact Nat.mul_le_mul_right _ (by dsimp only; omega)
  · exact Nat.mul_le_mul_right _ (by dsimp only; omega)

/-- A sequence that ends is no surrogate. -/
theorem Utf8Pending.Sound.last (h : p.Sound) (hlow : p.low ≤ b.toNat) (hhigh : b.toNat ≤ p.high)
    (hm : p.missing ≤ 1) :
    (CodePoint.ofNat (p.bits * 0x40 + (b.toNat - 0x80))).isSurrogate = false := by
  obtain ⟨bits, missing, low, high⟩ := p
  obtain ⟨hmissing, hl, hh, hapart⟩ := h
  dsimp only at *
  obtain rfl : missing = 1 := by omega
  rw [Utf8Pending.span_one] at hapart
  exact isSurrogate_ofNat_eq_false (by omega)

theorem isSurrogate_replacement : replacement.isSurrogate = false := rfl

theorem IsScalar.cons {t : Text} (hc : c.isSurrogate = false) (ht : t.IsScalar) :
    IsScalar (c :: t) := List.forall_mem_cons.2 ⟨hc, ht⟩

theorem isScalar_ofUtf8From (pending : Option Utf8Pending) (bytes : Bytes)
    (h : ∀ p ∈ pending, p.Sound) : (ofUtf8From pending bytes).IsScalar := by
  induction pending, bytes using ofUtf8From.induct with
  | case1 => exact List.forall_mem_nil _
  | case2 p => exact .cons isSurrogate_replacement (List.forall_mem_nil _)
  | case3 b bytes c hb ih =>
    rw [ofUtf8From, hb]
    exact .cons (isSurrogate_of_single hb) (ih (by simp))
  | case4 b bytes p hb ih =>
    rw [ofUtf8From, hb]
    exact ih (by simpa using sound_of_lead hb)
  | case5 b bytes hb ih =>
    rw [ofUtf8From, hb]
    exact .cons isSurrogate_replacement (ih (by simp))
  | case6 p b bytes hin hm ih =>
    rw [ofUtf8From, if_pos hin, if_pos hm]
    simp only [Bool.and_eq_true, decide_eq_true_eq] at hin
    exact .cons ((h p rfl).last hin.1 hin.2 hm) (ih (by simp))
  | case7 p b bytes hin bits hm ih =>
    rw [ofUtf8From, if_pos hin, if_neg hm]
    simp only [Bool.and_eq_true, decide_eq_true_eq] at hin
    exact ih (by simpa using (h p rfl).more hin.1 hin.2 hm)
  | case8 p b bytes hout c hb ih =>
    rw [ofUtf8From, if_neg hout, hb]
    exact .cons isSurrogate_replacement (.cons (isSurrogate_of_single hb) (ih (by simp)))
  | case9 p b bytes hout next hb ih =>
    rw [ofUtf8From, if_neg hout, hb]
    exact .cons isSurrogate_replacement (ih (by simpa using sound_of_lead hb))
  | case10 p b bytes hout hb ih =>
    rw [ofUtf8From, if_neg hout, hb]
    exact .cons isSurrogate_replacement (.cons isSurrogate_replacement (ih (by simp)))

/-- Whatever the bytes are, no surrogate is read of them. -/
theorem isScalar_ofUtf8 (bytes : Bytes) : (ofUtf8 bytes).IsScalar :=
  isScalar_ofUtf8From none bytes (by simp)

end Text

/-! ## Trailing zeros -/

namespace Bytes

/-- Bytes lose at their end what their text loses: the zero byte is the form of the zero, and no
    part of any other form. -/
theorem trim_utf8 (t : Text) :
    trim (t.flatMap CodePoint.utf8) = (t.rdropWhile (· == 0)).flatMap CodePoint.utf8 := by
  induction t using List.reverseRecOn with
  | nil => rfl
  | append_singleton t c ih =>
    rw [List.flatMap_append, List.flatMap_singleton]
    by_cases hc : c = 0
    · subst hc
      have hzero : CodePoint.utf8 0 = zeros 1 := rfl
      rw [hzero, trim_append_zeros, ih, List.rdropWhile_concat_pos _ _ _ rfl]
    · obtain ⟨init, b, hform, hb⟩ := CodePoint.exists_utf8_append hc
      rw [hform, ← List.append_assoc, trim, ← List.rdropWhile,
        List.rdropWhile_concat_neg _ _ _ (by simpa using hb),
        List.rdropWhile_concat_neg _ _ _ (by simpa using hc), List.flatMap_append,
        List.flatMap_singleton, hform, List.append_assoc]

theorem trim_fill (width : Int) (bytes : Bytes) : trim (fill width bytes) = trim bytes :=
  trim_append_zeros _ _

end Bytes

theorem Text.IsScalar.rdropWhile {t : Text} (h : t.IsScalar) (p : CodePoint → Bool) :
    Text.IsScalar (t.rdropWhile p) :=
  fun c hc => h c ((List.rdropWhile_prefix p t).subset hc)

/-! ## Nicknames -/

namespace Field
variable {t : Text} {n : Bytes} {label : Value}

/-- A text without surrogates is brought to its bytes. -/
theorem encodeNickname_of_isScalar (h : t.IsScalar) (label : Value) :
    encodeNickname label (.str t) = pad Field.nickname.width label (t.flatMap CodePoint.utf8) := by
  rw [encodeNickname, nicknameBytes, Text.utf8?_eq_ok_iff.2 ⟨h, rfl⟩, Except.bind]

/-- What is shown of a nickname is brought to some bytes, which are its own just if they are valid
    UTF-8. -/
theorem encodeNickname_decodeNickname_iff (h : n.length = Field.nickname.width) :
    encodeNickname label (.str (decodeNickname n)) = .ok n ↔
      (Bytes.trim n).toByteArray.IsValidUTF8 := by
  have hscalar : (decodeNickname n).IsScalar := Text.isScalar_ofUtf8 _
  rw [encodeNickname_of_isScalar hscalar, pad_eq_ok_iff, Text.isValidUTF8_iff]
  constructor
  · rintro ⟨-, hn⟩
    refine ⟨_, hscalar.rdropWhile (· == 0), ?_⟩
    rw [← Bytes.trim_utf8, ← Bytes.trim_fill Field.nickname.width, ← hn]
  · rintro ⟨t, ht, htrim⟩
    have hshown : decodeNickname n = t := by rw [decodeNickname, ← htrim, Text.ofUtf8_utf8 ht]
    have hlength : (Bytes.trim n).length ≤ n.length := (List.rdropWhile_prefix _ n).length_le
    rw [hshown, htrim]
    refine ⟨by omega, ?_⟩
    rw [Bytes.fill_trim (by omega), Bytes.fill_of_length_eq h]

/-- **The text of a nickname.**  A text without surrogates that has room in a nickname is shown of
    it again, without the zeros at its end.  What is shown of a nickname stands for the very same
    bytes just if they are valid UTF-8, up to the zeros at their end; of all others it stands for
    other bytes, or for too many. -/
theorem nickname_text (label : Value) :
    (∀ t : Text, t.IsScalar → (t.flatMap CodePoint.utf8).length ≤ Field.nickname.width →
      ∃ n, encodeNickname label (.str t) = .ok n ∧ n.length = Field.nickname.width ∧
        decodeNickname n = t.rdropWhile (· == 0)) ∧
    ∀ n : Bytes, n.length = Field.nickname.width →
      (encodeNickname label (.str (decodeNickname n)) = .ok n ↔
        (Bytes.trim n).toByteArray.IsValidUTF8) ∧
      ∀ e, encodeNickname label (.str (decodeNickname n)) = .error e →
        ∃ bytes, (decodeNickname n).utf8? = .ok bytes ∧ Field.nickname.width < bytes.length ∧
          e = refuse label (" must be at most 21 bytes, got " ++ Text.ofNat bytes.length) := by
  refine ⟨fun t ht hlength => ?_,
    fun n hn => ⟨encodeNickname_decodeNickname_iff hn, fun e he => ?_⟩⟩
  · refine ⟨_, ?_, Bytes.length_fill hlength, ?_⟩
    · rw [encodeNickname_of_isScalar ht]
      exact pad_eq_ok_iff.2 ⟨by exact_mod_cast hlength, rfl⟩
    · rw [decodeNickname, Bytes.trim_fill, Bytes.trim_utf8, Text.ofUtf8_utf8 (ht.rdropWhile _)]
  · have hscalar : (decodeNickname n).IsScalar := Text.isScalar_ofUtf8 _
    refine ⟨_, Text.utf8?_eq_ok_iff.2 ⟨hscalar, rfl⟩, ?_⟩
    rw [encodeNickname_of_isScalar hscalar, pad] at he
    split_ifs at he with hlong
    exact ⟨by exact_mod_cast hlong, (Except.error.inj he).symm⟩

/-- A letter of two bytes is shown again, half of it is not, and what is shown of bytes that are no
    UTF-8 at all has no room in a nickname. -/
theorem nickname_letters :
    (Text.IsScalar "é" ∧ ((Text.ofString "é").flatMap CodePoint.utf8).length ≤ 21 ∧
      ∃ n, encodeNickname (.str "nickname") (.str "é") = .ok n ∧ decodeNickname n = "é") ∧
    ((Bytes.fill 21 [0xc3]).length = 21 ∧
      ¬(Bytes.trim (Bytes.fill 21 [0xc3])).toByteArray.IsValidUTF8) ∧
    ∃ bytes, (decodeNickname (List.replicate 21 0xff)).utf8? = .ok bytes ∧ 21 < bytes.length := by
  have hscalar : Text.IsScalar "é" := Text.isScalar_map_ofChar _
  obtain ⟨n, hn, -, hshown⟩ := (nickname_text (.str "nickname")).1 "é" hscalar (by decide)
  have hhalf := (nickname_text (.str "nickname")).2 (Bytes.fill 21 [0xc3]) rfl
  have hbroken := (nickname_text (.str "nickname")).2 (List.replicate 21 0xff) rfl
  obtain ⟨bytes, hbytes, hlong, -⟩ := hbroken.2 _ rfl
  refine ⟨⟨hscalar, by decide, n, hn, hshown⟩, ⟨rfl, fun hvalid => ?_⟩, bytes, hbytes, hlong⟩
  have hback := hhalf.1.2 hvalid
  cases hback

end Field

end Rendezvous
