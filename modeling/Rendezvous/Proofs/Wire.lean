/-
  Which texts are byte fields on the wire.

  A wire value is a row of digit pairs.  A mark may stand before it and blanks around it, and
  nothing else is read.

  * `Hex.Denotes`: digits in pairs, and the bytes that they denote; `Hex.decode_eq_ok_iff`: just
    these are read;
  * `Text.strip_around`, `Text.exists_around`: what is stripped of a text;
  * `Field.IsWritten`: a text is written with digits; `Field.wireDigits_eq`: they are what is left
    of it without its mark and its blanks;
  * `Field.decodeHex_grammar`: a text is read just if it is written with digits for no more bytes
    than there is room for, and every other value is refused in the name of its field.
-/
import Mathlib.Data.List.TakeWhile
import Mathlib.Tactic
import Rendezvous.Field.Fit

namespace Rendezvous

/-! ## Digits -/

namespace Hex

/-- The digits in the order of their values. -/
def lowercase : Text := "0123456789abcdef"

/-- The digits with capital letters. -/
def uppercase : Text := "0123456789ABCDEF"

/-- A code point is the digit of a value, in either case. -/
def IsDigitOf (n : Nat) (c : CodePoint) : Prop :=
  lowercase[n]? = some c ∨ uppercase[n]? = some c

/-- A code point is a digit. -/
def IsDigit (c : CodePoint) : Prop := ∃ n, IsDigitOf n c

/-- Digits in pairs, the higher one first, and the bytes that they denote. -/
inductive Denotes : Text → Bytes → Prop
  | nil : Denotes [] []
  | pair {high low : Nat} {a b : CodePoint} {digits : Text} {bytes : Bytes} :
      IsDigitOf high a → IsDigitOf low b → Denotes digits bytes →
        Denotes (a :: b :: digits) (UInt8.ofNat (16 * high + low) :: bytes)

variable {n : Nat} {c : CodePoint} {t : Text} {bytes : Bytes}

theorem IsDigitOf.lt (h : IsDigitOf n c) : n < 16 := by
  rcases h with h | h <;> exact (List.getElem?_eq_some_iff.1 h).1

theorem hexValue?_digits : ∀ n < 16,
    (lowercase[n]?.bind CodePoint.hexValue?) = some n ∧
      (uppercase[n]?.bind CodePoint.hexValue?) = some n := by
  decide

theorem isDigitOf_hexValue? : ∀ c < 0x67, ∀ n < 16,
    (CodePoint.ofNat c).hexValue? = some n →
      lowercase[n]? = some (CodePoint.ofNat c) ∨ uppercase[n]? = some (CodePoint.ofNat c) := by
  decide +kernel

theorem hexValue?_range (h : c.hexValue? = some n) :
    (0x30 ≤ c.val ∧ c.val ≤ 0x39 ∨ 0x61 ≤ c.val ∧ c.val ≤ 0x66 ∨ 0x41 ≤ c.val ∧ c.val ≤ 0x46) ∧
      n < 16 := by
  unfold CodePoint.hexValue? at h
  simp only [Bool.and_eq_true, decide_eq_true_eq] at h
  split_ifs at h <;> simp only [Option.some.injEq] at h <;> omega

/-- The digits are read as their values, and nothing else is. -/
theorem hexValue?_eq_some_iff : c.hexValue? = some n ↔ IsDigitOf n c := by
  constructor
  · intro h
    obtain ⟨hrange, hn⟩ := hexValue?_range h
    have hc : CodePoint.ofNat c.val = c := by simp [CodePoint.ofNat]
    have hdigit := isDigitOf_hexValue? c.val (by omega) n hn
    rw [hc] at hdigit
    exact hdigit h
  · intro h
    obtain ⟨hlower, hupper⟩ := hexValue?_digits n h.lt
    rcases h with h | h
    · simpa [h] using hlower
    · simpa [h] using hupper

/-- A digit is ASCII, not blank, and not the letter of a mark. -/
theorem IsDigit.plain (h : IsDigit c) :
    c.isAscii = true ∧ c.isBlank = false ∧ c ≠ 'x' ∧ c ≠ 'X' := by
  obtain ⟨n, hn⟩ := h
  obtain ⟨hrange, -⟩ := hexValue?_range (hexValue?_eq_some_iff.2 hn)
  refine ⟨decide_eq_true (by omega), ?_, ?_, ?_⟩
  · simp only [CodePoint.isBlank, Bool.or_eq_false_iff, Bool.and_eq_false_iff, decide_eq_false_iff_not,
      beq_eq_false_iff_ne]
    omega
  · rintro rfl
    have hx : (CodePoint.ofChar 'x').val = 0x78 := rfl
    omega
  · rintro rfl
    have hx : (CodePoint.ofChar 'X').val = 0x58 := rfl
    omega

namespace Denotes

theorem length (h : Denotes t bytes) : t.length = 2 * bytes.length := by
  induction h with
  | nil => rfl
  | pair _ _ _ ih =>
    simp only [List.length_cons, ih]
    omega

theorem isDigit (h : Denotes t bytes) : ∀ c ∈ t, IsDigit c := by
  induction h with
  | nil => exact List.forall_mem_nil _
  | pair ha hb _ ih =>
    exact List.forall_mem_cons.2 ⟨⟨_, ha⟩, List.forall_mem_cons.2 ⟨⟨_, hb⟩, ih⟩⟩

end Denotes

/-- Digits in pairs denote some bytes. -/
theorem exists_denotes {k : Nat} (hlength : t.length = 2 * k) (h : ∀ c ∈ t, IsDigit c) :
    ∃ bytes, Denotes t bytes := by
  induction k generalizing t with
  | zero =>
    obtain rfl := List.length_eq_zero_iff.1 hlength
    exact ⟨[], .nil⟩
  | succ k ih =>
    match t, hlength with
    | a :: b :: t, hlength =>
      obtain ⟨⟨high, ha⟩, h⟩ := List.forall_mem_cons.1 h
      obtain ⟨⟨low, hb⟩, h⟩ := List.forall_mem_cons.1 h
      simp only [List.length_cons] at hlength
      obtain ⟨bytes, hbytes⟩ := ih (by omega) h
      exact ⟨_, .pair ha hb hbytes⟩

theorem byte?_eq_some_iff {a b : CodePoint} {byte : UInt8} : byte? a b = some byte ↔
    ∃ high low, IsDigitOf high a ∧ IsDigitOf low b ∧ byte = UInt8.ofNat (16 * high + low) := by
  unfold byte?
  split
  next high low ha hb =>
    rw [hexValue?_eq_some_iff] at ha hb
    constructor
    · intro h
      exact ⟨high, low, ha, hb, (Option.some.inj h).symm⟩
    · rintro ⟨high', low', ha', hb', rfl⟩
      rw [← hexValue?_eq_some_iff] at ha ha' hb hb'
      rw [Option.some.inj (ha.symm.trans ha'), Option.some.inj (hb.symm.trans hb')]
  next hnone =>
    constructor
    · intro h
      cases h
    · rintro ⟨high, low, ha, hb, -⟩
      exact (hnone high low (hexValue?_eq_some_iff.2 ha) (hexValue?_eq_some_iff.2 hb)).elim

theorem pairs?_eq_some_iff : pairs? t = some bytes ↔ Denotes t bytes := by
  constructor
  · intro h
    induction t using pairs?.induct generalizing bytes with
    | case1 =>
      obtain rfl := Option.some.inj h
      exact .nil
    | case2 => cases h
    | case3 a b rest byte read hread hbyte ih =>
      rw [pairs?, hbyte, hread] at h
      obtain rfl := Option.some.inj h
      obtain ⟨high, low, ha, hb, rfl⟩ := byte?_eq_some_iff.1 hbyte
      exact .pair ha hb (ih hread)
    | case4 a b rest hnone =>
      rw [pairs?] at h
      split at h
      next byte read hbyte hread => exact (hnone byte read hbyte hread).elim
      next => cases h
  · intro h
    induction h with
    | nil => rfl
    | pair ha hb _ ih => rw [pairs?, byte?_eq_some_iff.2 ⟨_, _, ha, hb, rfl⟩, ih]

/-- Just the digits in pairs are read, as what they denote. -/
theorem decode_eq_ok_iff : decode t = .ok bytes ↔ Denotes t bytes := by
  rw [← pairs?_eq_some_iff]
  constructor
  · intro h
    unfold decode decodePairs at h
    split_ifs at h
    split at h
    next read hread => rw [hread, Except.ok.inj h]
    next => cases h
  · intro h
    have hd := pairs?_eq_some_iff.1 h
    have hascii : t.all CodePoint.isAscii = true :=
      List.all_eq_true.2 fun c hc => (hd.isDigit c hc).plain.1
    have heven : ¬t.length % 2 = 1 := by
      rw [hd.length]
      omega
    rw [decode, if_pos hascii, decodePairs, if_neg heven, h]

/-- Bytes are what their own digits denote. -/
theorem denotes_encode (bytes : Bytes) : Denotes (encode bytes) bytes :=
  decode_eq_ok_iff.1 (decode_encode bytes)

end Hex

/-! ## Blanks and marks -/

namespace Text

/-- Blanks around a text are stripped with those that it has itself. -/
theorem strip_around {before after : Text} (hb : ∀ c ∈ before, c.isBlank = true)
    (ha : ∀ c ∈ after, c.isBlank = true) (t : Text) : (before ++ t ++ after).strip = t.strip := by
  have hdrop {p : CodePoint → Bool} {blanks : Text} (h : ∀ c ∈ blanks, p c = true) (t : Text) :
      dropStart p (blanks ++ t) = dropStart p t := List.dropWhile_append_of_pos h
  have hend (t : Text) : dropEnd CodePoint.isBlank (t ++ after) = dropEnd CodePoint.isBlank t := by
    have hreverse : ∀ c ∈ after.reverse, c.isBlank = true := fun c hc =>
      ha c (List.mem_reverse.1 hc)
    rw [dropEnd_eq, List.reverse_append, hdrop hreverse, dropEnd_eq]
  rw [List.append_assoc, strip, hdrop hb, dropStart, List.dropWhile_append, strip, dropStart]
  split
  next hnone =>
    have hblank : after.dropWhile CodePoint.isBlank = [] := List.dropWhile_eq_nil_iff.2 ha
    rw [hblank, List.isEmpty_iff.1 hnone]
  next => exact hend _

/-- A text is what is left of it with blanks around. -/
theorem exists_around (t : Text) : ∃ before after : Text, t = before ++ t.strip ++ after ∧
    (∀ c ∈ before, c.isBlank = true) ∧ ∀ c ∈ after, c.isBlank = true := by
  let rest := dropStart CodePoint.isBlank t
  refine ⟨t.takeWhile CodePoint.isBlank, (rest.reverse.takeWhile CodePoint.isBlank).reverse, ?_,
    fun c hc => List.mem_takeWhile_imp hc,
    fun c hc => List.mem_takeWhile_imp (List.mem_reverse.1 hc)⟩
  have hrest : rest = t.strip ++ (rest.reverse.takeWhile CodePoint.isBlank).reverse := by
    rw [strip, dropEnd, ← List.reverse_append, List.takeWhile_append_dropWhile,
      List.reverse_reverse]
  rw [List.append_assoc, ← hrest]
  exact List.takeWhile_append_dropWhile.symm

/-- Text without a blank is left alone. -/
theorem strip_of_nonblank {t : Text} (h : ∀ c ∈ t, c.isBlank = false) : t.strip = t := by
  have hstart : dropStart CodePoint.isBlank t = t :=
    dropStart_of_head fun c hc => h c (List.mem_of_head? hc)
  have hend : dropStart CodePoint.isBlank t.reverse = t.reverse :=
    dropStart_of_head fun c hc => h c (List.mem_reverse.1 (List.mem_of_head? hc))
  rw [strip, hstart, dropEnd_eq, hend, List.reverse_reverse]

end Text

namespace Field

/-- The marks that may stand before digits. -/
def hexMarks : List Text := ["", "0x", "0X"]

/-- A text is written with digits: blanks around them, a mark before them or none, and nothing
    else. -/
structure IsWritten (t digits : Text) : Prop where
  around : ∃ before mark after : Text, t = before ++ (mark ++ digits) ++ after ∧
    mark ∈ hexMarks ∧ (∀ c ∈ before, c.isBlank = true) ∧ ∀ c ∈ after, c.isBlank = true
  digits : ∀ c ∈ digits, Hex.IsDigit c

variable {t digits mark : Text} {label value : Value} {width : Int} {bytes result : Bytes}

/-- Digits do not start with a mark, since its letter is none. -/
theorem dropHexMark_digits (h : ∀ c ∈ digits, Hex.IsDigit c) : dropHexMark digits = digits := by
  unfold dropHexMark
  split
  · rfl
  · rfl
  · rename_i c d rest
    obtain ⟨-, -, hx, hX⟩ := (h d (by simp)).plain
    simp [hx, hX]

theorem dropHexMark_mark (hm : mark ∈ hexMarks) (h : ∀ c ∈ digits, Hex.IsDigit c) :
    dropHexMark (mark ++ digits) = digits := by
  have hm : mark = Text.ofString "" ∨ mark = Text.ofString "0x" ∨ mark = Text.ofString "0X" := by
    simpa only [hexMarks, List.mem_cons, List.not_mem_nil, or_false] using hm
  rcases hm with rfl | rfl | rfl
  · exact dropHexMark_digits h
  · rfl
  · rfl

/-- What is dropped of a text is a mark. -/
theorem exists_mark (t : Text) : ∃ mark ∈ hexMarks, t = mark ++ dropHexMark t := by
  unfold dropHexMark
  split
  · exact ⟨[], by decide, rfl⟩
  · exact ⟨[], by decide, rfl⟩
  · rename_i c d rest
    split
    next h =>
      simp only [Bool.and_eq_true, Bool.or_eq_true, decide_eq_true_eq] at h
      obtain ⟨rfl, rfl | rfl⟩ := h
      · exact ⟨"0x", by decide, rfl⟩
      · exact ⟨"0X", by decide, rfl⟩
    next => exact ⟨[], by decide, rfl⟩

/-- The digits that a text is written with are what is left of it without its mark and its
    blanks. -/
theorem IsWritten.wireDigits_eq (h : IsWritten t digits) : wireDigits t = digits := by
  obtain ⟨⟨before, mark, after, rfl, hm, hb, ha⟩, hdigits⟩ := h
  have hmark : ∀ mark ∈ hexMarks, (mark.any fun c => c.isBlank) = false := by decide
  have hplain : ∀ c ∈ mark ++ digits, c.isBlank = false := by
    intro c hc
    rcases List.mem_append.1 hc with hc | hc
    · exact Bool.eq_false_iff.2 (List.any_eq_false.1 (hmark mark hm) c hc)
    · exact (hdigits c hc).plain.2.1
  rw [wireDigits, Text.strip_around hb ha, Text.strip_of_nonblank hplain,
    dropHexMark_mark hm hdigits]

/-- A text is written with what is left of it, if these are digits. -/
theorem isWritten_wireDigits (h : ∀ c ∈ wireDigits t, Hex.IsDigit c) :
    IsWritten t (wireDigits t) := by
  obtain ⟨before, after, ht, hb, ha⟩ := t.exists_around
  obtain ⟨mark, hm, hstrip⟩ := exists_mark t.strip
  exact ⟨⟨before, mark, after, by rw [wireDigits, ← hstrip]; exact ht, hm, hb, ha⟩, h⟩

/-- A text is read as the bytes that the digits left of it denote. -/
theorem wireBytes_eq_ok_iff :
    wireBytes label (.str t) = .ok bytes ↔ Hex.Denotes (wireDigits t) bytes := by
  rw [← Hex.decode_eq_ok_iff]
  constructor
  · intro h
    simp only [wireBytes] at h
    split_ifs at h
    split at h
    next read hread => rw [hread, Except.ok.inj h]
    next => cases h
  · intro h
    have heven : ¬(wireDigits t).length % 2 = 1 := by
      rw [(Hex.decode_eq_ok_iff.1 h).length]
      omega
    simp only [wireBytes, if_neg heven, h]

theorem decodeHex_eq_ok_iff : decodeHex width label (.str t) = .ok result ↔
    ∃ bytes, Hex.Denotes (wireDigits t) bytes ∧ (bytes.length : Int) ≤ width ∧
      result = Bytes.fill width bytes := by
  rw [decodeHex]
  cases hread : wireBytes label (.str t) with
  | error e =>
    constructor
    · intro h
      cases h
    · rintro ⟨bytes, hd, -⟩
      rw [wireBytes_eq_ok_iff.2 hd] at hread
      cases hread
  | ok bytes =>
    have hd := wireBytes_eq_ok_iff.1 hread
    constructor
    · intro h
      exact ⟨bytes, hd, pad_eq_ok_iff.1 h⟩
    · rintro ⟨bytes', hd', h⟩
      obtain rfl : bytes' = bytes := by
        rw [wireBytes_eq_ok_iff.2 hd'] at hread
        exact Except.ok.inj hread
      exact pad_eq_ok_iff.2 h

/-- Bytes are read of all that is written with digits that denote them. -/
theorem IsWritten.decodeHex (h : IsWritten t digits) (hd : Hex.Denotes digits bytes)
    (hw : (bytes.length : Int) ≤ width) :
    decodeHex width label (.str t) = .ok (Bytes.fill width bytes) :=
  decodeHex_eq_ok_iff.2 ⟨bytes, h.wireDigits_eq.symm ▸ hd, hw, rfl⟩

/-- The wire form of bytes is written with their digits, after a mark. -/
theorem isWritten_encodeHex (bytes : Bytes) : IsWritten (encodeHex bytes) (Hex.encode bytes) := by
  refine ⟨⟨[], "0x", [], ?_, by decide, List.forall_mem_nil _, List.forall_mem_nil _⟩,
    (Hex.denotes_encode bytes).isDigit⟩
  rw [List.nil_append, List.append_nil]
  rfl

/-- The stored form of bytes is written with their digits alone. -/
theorem isWritten_storageHex (bytes : Bytes) :
    IsWritten (storageHex bytes) (Hex.encode bytes) := by
  refine ⟨⟨[], "", [], ?_, by decide, List.forall_mem_nil _, List.forall_mem_nil _⟩,
    (Hex.denotes_encode bytes).isDigit⟩
  rw [List.nil_append, List.append_nil]
  rfl

/-- Whatever is refused is refused in the name of its field. -/
theorem decodeHex_refuses {e : Failure} (h : decodeHex width label value = .error e) :
    ∃ message, e = .atField message label := by
  have hpad {bytes : Bytes} (h : pad width label bytes = .error e) :
      ∃ message, e = .atField message label := by
    unfold pad at h
    split_ifs at h
    exact ⟨_, (Except.error.inj h).symm⟩
  have hwire (h : wireBytes label value = .error e) : ∃ message, e = .atField message label := by
    unfold wireBytes at h
    split at h
    · cases h
    · dsimp only at h
      split_ifs at h
      · exact ⟨_, (Except.error.inj h).symm⟩
      · split at h
        · cases h
        · exact ⟨_, (Except.error.inj h).symm⟩
    · exact ⟨_, (Except.error.inj h).symm⟩
  rw [decodeHex] at h
  cases hread : wireBytes label value with
  | error e' =>
    rw [hread] at h
    exact hwire (hread.trans h)
  | ok bytes =>
    rw [hread] at h
    exact hpad h

/-- Where there is room for the width, a wire value is read alike whether the width is a number or a
    value. -/
theorem decodeHexAt_eq (room : width < 2 ^ 32) (label value : Value) :
    decodeHexAt (.int width) label value = decodeHex width label value := by
  have hfit (bytes : Bytes) : fit (.int width) label (.bytes bytes) = pad width label bytes :=
    fit_bytes room
  simp only [decodeHexAt, decodeHex, hfit]

/-- Nothing but texts and bytes is read. -/
theorem decodeHex_eq_ok (hv : ∀ bytes, value ≠ .bytes bytes)
    (h : decodeHex width label value = .ok result) : ∃ t, value = .str t := by
  cases value with
  | str t => exact ⟨t, rfl⟩
  | bytes bytes => exact (hv bytes rfl).elim
  | _ => cases h

/-- **What is read of a wire value.**  Other than bytes, a value is read just if it is a text that
    is written with an even number of digits, for no more bytes than the width.  These bytes are
    read, with zeros after them up to the width.  Everything else is refused as a fault in the
    field.  So it is, too, where the width is any value, if that is a number there is room for. -/
theorem decodeHex_grammar (width : Int) (label : Value) {value : Value}
    (hv : ∀ bytes, value ≠ .bytes bytes) :
    ((∃ result, decodeHex width label value = .ok result) ↔
      ∃ t digits k, value = .str t ∧ IsWritten t digits ∧ digits.length = 2 * k ∧
        (k : Int) ≤ width) ∧
    (∀ result, decodeHex width label value = .ok result →
      (result.length : Int) = width ∧ ∃ t digits bytes, value = .str t ∧ IsWritten t digits ∧
        Hex.Denotes digits bytes ∧
          result = bytes ++ List.replicate (width - bytes.length).toNat 0) ∧
    (∀ e, decodeHex width label value = .error e → ∃ message, e = .atField message label) ∧
    (width < 2 ^ 32 → decodeHexAt (.int width) label value = decodeHex width label value) := by
  refine ⟨⟨?_, ?_⟩, ?_, fun e => decodeHex_refuses, fun room => decodeHexAt_eq room label value⟩
  · rintro ⟨result, h⟩
    obtain ⟨t, rfl⟩ := decodeHex_eq_ok hv h
    obtain ⟨bytes, hd, hlength, -⟩ := decodeHex_eq_ok_iff.1 h
    exact ⟨t, wireDigits t, bytes.length, rfl, isWritten_wireDigits hd.isDigit, hd.length, hlength⟩
  · rintro ⟨t, digits, k, rfl, hw, hlength, hk⟩
    obtain ⟨bytes, hd⟩ := Hex.exists_denotes hlength hw.digits
    have hsize : bytes.length = k := by
      have := hd.length
      omega
    exact ⟨_, decodeHex_eq_ok_iff.2 ⟨bytes, hw.wireDigits_eq ▸ hd, by omega, rfl⟩⟩
  · intro result h
    obtain ⟨t, rfl⟩ := decodeHex_eq_ok hv h
    obtain ⟨bytes, hd, hlength, rfl⟩ := decodeHex_eq_ok_iff.1 h
    refine ⟨?_, t, wireDigits t, bytes, rfl, isWritten_wireDigits hd.isDigit, hd, rfl⟩
    rw [Bytes.fill, Bytes.zeros, List.length_append, List.length_replicate]
    omega

/-- Two bytes in digits of both cases, after a capital mark and among blanks, fill a width of
    four. -/
theorem mixed_read : (∀ bytes, Value.str " 0X0a1B\t" ≠ .bytes bytes) ∧
    decodeHex 4 (.str "address") (.str " 0X0a1B\t") = .ok [0x0a, 0x1b, 0, 0] ∧
    ∃ t digits k, Value.str " 0X0a1B\t" = .str t ∧ IsWritten t digits ∧ digits.length = 2 * k ∧
      (k : Int) ≤ 4 := by
  have hv : ∀ bytes, Value.str " 0X0a1B\t" ≠ .bytes bytes := fun _ h => by cases h
  have hread : decodeHex 4 (.str "address") (.str " 0X0a1B\t") = .ok [0x0a, 0x1b, 0, 0] := rfl
  exact ⟨hv, hread, (decodeHex_grammar 4 (.str "address") hv).1.1 ⟨_, hread⟩⟩

end Field

end Rendezvous
