/-
  Spellings of the same bytes.

  Bytes at a width are spelled by many texts: with blanks and a mark or without, in digits of
  either case, and with pairs of zeros at the end or without.  Texts that differ in anything else
  spell different bytes.

  * `Bytes.fill_eq_fill_iff`: byte strings that are the same at a width are the same without the
    zeros at their ends;
  * `Hex.withoutZeros`: digits without the pairs of zeros at their end;
    `withoutZeros_encode`: they are those of the bytes without the zeros;
  * `Hex.Denotes.foldWord`: digits in small letters are the canonical ones of their bytes;
  * `Field.spellings`: what is written is read back by each reader, and just when two texts spell
    the same.
-/
import Mathlib.Data.List.DropRight
import Rendezvous.Proofs.Wire
import Rendezvous.Text.Case

namespace Rendezvous

/-! ## Zeros -/

namespace Bytes
variable {a b : Bytes} {width : Int}

theorem trim_append_zeros (bytes : Bytes) (n : Int) : trim (bytes ++ zeros n) = trim bytes := by
  have hzeros : ∀ x ∈ (zeros n).reverse, (x == 0) = true := by
    intro x hx
    rw [zeros, List.reverse_replicate] at hx
    rw [List.eq_of_mem_replicate hx]
    rfl
  rw [trim, List.reverse_append, List.dropWhile_append_of_pos hzeros, trim]

theorem trim_cons (x : UInt8) (bytes : Bytes) :
    trim (x :: bytes) = if trim bytes = [] ∧ x = 0 then [] else x :: trim bytes := by
  have hnil : trim bytes = [] ↔ bytes.reverse.dropWhile (· == 0) = [] := by
    rw [trim, List.reverse_eq_nil_iff]
  have htrim : trim (x :: bytes) = (if (bytes.reverse.dropWhile (· == 0)).isEmpty then
      [x].dropWhile (· == 0) else bytes.reverse.dropWhile (· == 0) ++ [x]).reverse := by
    rw [trim, List.reverse_cons, List.dropWhile_append]
  by_cases hrest : trim bytes = []
  · rw [htrim, hnil.1 hrest]
    by_cases hx : x = 0 <;> simp [hrest, hx]
  · rw [htrim, if_neg (by rwa [List.isEmpty_iff, ← hnil]), if_neg fun h => hrest h.1,
      List.reverse_append, trim]
    rfl

/-- What is taken away of a byte string is put back by filling it up. -/
theorem fill_trim (h : (a.length : Int) ≤ width) : fill width (trim a) = fill width a := by
  induction a generalizing width with
  | nil => rfl
  | cons x a ih =>
    simp only [List.length_cons, Nat.cast_add, Nat.cast_one] at h
    have hrest : fill (width - 1) (trim a) = fill (width - 1) a := ih (by omega)
    have hfill (x : UInt8) (bytes : Bytes) :
        fill width (x :: bytes) = x :: fill (width - 1) bytes := by
      simp only [fill, zeros, List.length_cons, List.cons_append]
      congr 4
      omega
    rw [trim_cons]
    split
    next hzero =>
      obtain ⟨hnil, rfl⟩ := hzero
      rw [hfill, ← hrest, hnil]
      simp only [fill, zeros, List.nil_append, List.length_nil]
      rw [← List.replicate_succ]
      congr 1
      omega
    next => rw [hfill, hfill, hrest]

/-- At a width, byte strings are the same just if they are without the zeros at their ends. -/
theorem fill_eq_fill_iff (ha : (a.length : Int) ≤ width) (hb : (b.length : Int) ≤ width) :
    fill width a = fill width b ↔ trim a = trim b := by
  constructor
  · intro h
    have htrim := congrArg trim h
    rwa [fill, fill, trim_append_zeros, trim_append_zeros] at htrim
  · intro h
    rw [← fill_trim ha, h, fill_trim hb]

end Bytes

/-! ## Digits -/

namespace Hex
variable {n : Nat} {c : CodePoint} {digits : Text} {bytes : Bytes}

/-- Digits without the pairs of zeros at their end. -/
def withoutZeros : Text → Text
  | a :: b :: digits =>
    if withoutZeros digits = [] ∧ a = '0' ∧ b = '0' then [] else a :: b :: withoutZeros digits
  | digits => digits

theorem encode_cons (x : UInt8) (bytes : Bytes) : encode (x :: bytes) =
    CodePoint.hexDigit (x.toNat / 16) :: CodePoint.hexDigit (x.toNat % 16) :: encode bytes := rfl

/-- The digits of a byte are zeros just if the byte is. -/
theorem pair_eq_zeros_iff (x : UInt8) :
    CodePoint.hexDigit (x.toNat / 16) = '0' ∧ CodePoint.hexDigit (x.toNat % 16) = '0' ↔ x = 0 := by
  constructor
  · rintro ⟨hhigh, hlow⟩
    have hread := byte?_pair x
    rw [hhigh, hlow] at hread
    exact (Option.some.inj hread).symm
  · rintro rfl
    exact ⟨rfl, rfl⟩

/-- The digits of bytes are without zeros at their end where the bytes are. -/
theorem withoutZeros_encode (bytes : Bytes) :
    withoutZeros (encode bytes) = encode (Bytes.trim bytes) := by
  induction bytes with
  | nil => rfl
  | cons x bytes ih =>
    have hnil : encode (Bytes.trim bytes) = [] ↔ Bytes.trim bytes = [] := by
      rw [← List.length_eq_zero_iff, length_encode, ← List.length_eq_zero_iff]
      omega
    rw [encode_cons, withoutZeros, ih, Bytes.trim_cons]
    simp only [hnil, pair_eq_zeros_iff]
    split <;> rfl

theorem foldLetter_digits : ∀ n < 16,
    lowercase[n]?.map CodePoint.foldLetter = some (CodePoint.hexDigit n) ∧
      uppercase[n]?.map CodePoint.foldLetter = some (CodePoint.hexDigit n) := by
  decide

/-- In small letters, a digit is the one that its value is written with. -/
theorem IsDigitOf.foldLetter (h : IsDigitOf n c) : c.foldLetter = CodePoint.hexDigit n := by
  obtain ⟨hlower, hupper⟩ := foldLetter_digits n h.lt
  rcases h with h | h
  · simpa [h] using hlower
  · simpa [h] using hupper

/-- In small letters, digits are the ones that their bytes are written with. -/
theorem Denotes.foldWord (h : Denotes digits bytes) : digits.foldWord = encode bytes := by
  induction h with
  | nil => rfl
  | @pair high low a b digits bytes ha hb _ ih =>
    have hhigh := ha.lt
    have hlow := hb.lt
    have hbyte : (UInt8.ofNat (16 * high + low)).toNat = 16 * high + low := by
      rw [UInt8.toNat_ofNat']
      omega
    have hdiv : (16 * high + low) / 16 = high := by omega
    have hmod : (16 * high + low) % 16 = low := by omega
    rw [encode_cons, hbyte, hdiv, hmod, ← ha.foldLetter, ← hb.foldLetter, ← ih]
    rfl

/-- Digits in small letters are the same without the zeros at their ends just if their bytes
    are. -/
theorem Denotes.withoutZeros_eq_iff {digits' : Text} {bytes' : Bytes} (h : Denotes digits bytes)
    (h' : Denotes digits' bytes') :
    withoutZeros digits.foldWord = withoutZeros digits'.foldWord ↔ bytes.trim = bytes'.trim := by
  rw [h.foldWord, h'.foldWord, withoutZeros_encode, withoutZeros_encode]
  exact ⟨encode_injective, congrArg encode⟩

end Hex

/-! ## Spellings -/

namespace Field
variable {width : Int} {label : Value} {s t : Text} {a b bytes : Bytes}

/-- The ways in which bytes are written and read back: by the wire form and the stored one as a wire
    value, and by the stored form as a stored value. -/
def readings (width : Int) (label : Value) (bytes : Bytes) : List (Except Failure Bytes) :=
  [decodeHex width label (.str (encodeHex bytes)), decodeHex width label (.str (storageHex bytes)),
   fromStorageHex width (.str (storageHex bytes))]

/-- Bytes that are read back are brought to the width. -/
theorem eq_pad_of_mem_readings {read : Except Failure Bytes}
    (h : read ∈ readings width label bytes) : ∃ label, read = pad width label bytes := by
  have hwritten {t : Text} (ht : IsWritten t (Hex.encode bytes)) :
      decodeHex width label (.str t) = pad width label bytes := by
    have hread : wireBytes label (.str t) = .ok bytes :=
      wireBytes_eq_ok_iff.2 (ht.wireDigits_eq.symm ▸ Hex.denotes_encode bytes)
    rw [decodeHex, hread, Except.bind]
  simp only [readings, List.mem_cons, List.not_mem_nil, or_false] at h
  rcases h with rfl | rfl | rfl
  · exact ⟨label, hwritten (isWritten_encodeHex bytes)⟩
  · exact ⟨label, hwritten (isWritten_storageHex bytes)⟩
  · exact ⟨.null, by rw [fromStorageHex, storedBytes_storageHex, Except.bind]⟩

/-- Where there is room for the width, a stored value is read alike whether the width is a number or
    a value. -/
theorem fromStorageHexAt_eq (room : width < 2 ^ 32) (stored : Value) :
    fromStorageHexAt (.int width) stored = fromStorageHex width stored := by
  have hfit (bytes : Bytes) : fit (.int width) .null (.bytes bytes) = pad width .null bytes :=
    fit_bytes room
  simp only [fromStorageHexAt, fromStorageHex, hfit]

/-- Whatever is read is written with digits. -/
theorem exists_isWritten (h : decodeHex width label (.str s) = .ok a) :
    ∃ digits, IsWritten s digits := by
  obtain ⟨bytes, hd, -⟩ := decodeHex_eq_ok_iff.1 h
  exact ⟨_, isWritten_wireDigits hd.isDigit⟩

/-- Two texts spell the same bytes just if the digits that they are written with, in small letters,
    are the same without the pairs of zeros at their ends. -/
theorem decodeHex_eq_iff {digits digits' : Text} (hs : decodeHex width label (.str s) = .ok a)
    (ht : decodeHex width label (.str t) = .ok b) (hw : IsWritten s digits)
    (hw' : IsWritten t digits') :
    a = b ↔ Hex.withoutZeros digits.foldWord = Hex.withoutZeros digits'.foldWord := by
  obtain ⟨bytes, hd, hlength, rfl⟩ := decodeHex_eq_ok_iff.1 hs
  obtain ⟨bytes', hd', hlength', rfl⟩ := decodeHex_eq_ok_iff.1 ht
  rw [hw.wireDigits_eq] at hd
  rw [hw'.wireDigits_eq] at hd'
  rw [Bytes.fill_eq_fill_iff hlength hlength', hd.withoutZeros_eq_iff hd']

/-- What was read is read again of its wire form. -/
theorem decodeHex_encodeHex_of_read (h : decodeHex width label (.str s) = .ok a) :
    decodeHex width label (.str (encodeHex a)) = .ok a := by
  obtain ⟨bytes, -, hlength, rfl⟩ := decodeHex_eq_ok_iff.1 h
  obtain ⟨n, rfl⟩ : ∃ n : ℕ, width = n := ⟨width.toNat, by omega⟩
  have hsize : (Bytes.fill n bytes).length = n := Bytes.length_fill (by omega)
  rw [(isWritten_encodeHex _).decodeHex (Hex.denotes_encode _) (by omega),
    Bytes.fill_of_length_eq hsize]

/-- **One codec, and nothing is lost in it.**  Bytes are read back of each of their written forms,
    with zeros up to the width, and are refused if they are longer.  Texts that are read spell the
    same bytes just if they differ in blanks, marks, the case of digits and pairs of zeros at the
    end only; the wire form of what is read is one spelling for all of them, and is read as that.
    Different bytes are stored differently.  The width may be any value that is a number there is
    room for. -/
theorem spellings (width : Int) (label : Value) :
    (∀ bytes, ∀ read ∈ readings width label bytes,
      ((bytes.length : Int) ≤ width →
        read = .ok (bytes ++ List.replicate (width - bytes.length).toNat 0)) ∧
      (width < bytes.length → ∃ message field, read = .error (.atField message field))) ∧
    (∀ s t a b, decodeHex width label (.str s) = .ok a → decodeHex width label (.str t) = .ok b →
      (∃ digits, IsWritten s digits) ∧
      (∀ digits digits', IsWritten s digits → IsWritten t digits' →
        (a = b ↔ Hex.withoutZeros digits.foldWord = Hex.withoutZeros digits'.foldWord)) ∧
      (a = b ↔ encodeHex a = encodeHex b) ∧
      decodeHex width label (.str (encodeHex a)) = .ok a) ∧
    Function.Injective storageHex ∧
    (width < 2 ^ 32 → ∀ value,
      decodeHexAt (.int width) label value = decodeHex width label value ∧
      fromStorageHexAt (.int width) value = fromStorageHex width value) := by
  refine ⟨fun bytes read hmem => ?_, fun s t a b hs ht => ?_, fun _ _ => Hex.encode_injective,
    fun room value => ⟨decodeHexAt_eq room label value, fromStorageHexAt_eq room value⟩⟩
  · obtain ⟨label', rfl⟩ := eq_pad_of_mem_readings hmem
    refine ⟨fun hle => pad_eq_ok_iff.2 ⟨hle, rfl⟩, fun hlt => ?_⟩
    exact ⟨_, label', if_pos hlt⟩
  · refine ⟨exists_isWritten hs, fun digits digits' => decodeHex_eq_iff hs ht,
      ⟨congrArg encodeHex, fun h => ?_⟩, decodeHex_encodeHex_of_read hs⟩
    exact Hex.encode_injective (List.append_cancel_left h)

/-- Two spellings of the byte ten at a width of two. -/
theorem ten_spellings :
    decodeHex 2 .null (.str " 0a") = .ok [10, 0] ∧ decodeHex 2 .null (.str "0X0A00") = .ok [10, 0] ∧
    IsWritten " 0a" "0a" ∧ IsWritten "0X0A00" "0A00" ∧
      Hex.withoutZeros (Text.foldWord "0a") = Hex.withoutZeros (Text.foldWord "0A00") := by
  have hshort : decodeHex 2 .null (.str " 0a") = .ok [10, 0] := rfl
  have hlong : decodeHex 2 .null (.str "0X0A00") = .ok [10, 0] := rfl
  obtain ⟨bytes, hd, -⟩ := decodeHex_eq_ok_iff.1 hshort
  obtain ⟨bytes', hd', -⟩ := decodeHex_eq_ok_iff.1 hlong
  have hs : IsWritten " 0a" "0a" := isWritten_wireDigits hd.isDigit
  have ht : IsWritten "0X0A00" "0A00" := isWritten_wireDigits hd'.isDigit
  obtain ⟨-, hiff, -⟩ := (spellings 2 .null).2.1 _ _ _ _ hshort hlong
  exact ⟨hshort, hlong, hs, ht, (hiff _ _ hs ht).1 rfl⟩

end Field

end Rendezvous
