/-
  JSON text read back.

  A text is written with every code point escaped that is not printable ASCII,
  and a pair of surrogates is read as the one code point that it encodes.  So what
  is read is the text with its halves joined (`Text.joined`), which is the text
  itself unless a first half stands right before a second one (`Text.IsWhole`).

  * `scanFrom_printText`: a written text is scanned as one token;
  * `printText_inj`: two texts are written alike exactly if they are the same with
    their halves joined;
  * `parse_print_texts`: an object whose values are texts is read back;
  * `parse_whole`: what is read from a text without surrogates holds whole texts
    only, at any depth.
-/
import Mathlib.Data.List.Chain
import Rendezvous.Json.Parser
import Rendezvous.Json.Printer

namespace Rendezvous

open Json Json.Token

/-! ## Halves of surrogate pairs -/

namespace Text

/-- A text in which each first half of a surrogate pair that stands right before a second half is
    joined to it, from left to right. -/
def joined : Text → Text
  | [] => []
  | [c] => [c]
  | high :: low :: t =>
    if high.isHighSurrogate && low.isLowSurrogate then joinHalves high low :: joined t
    else high :: joined (low :: t)

/-- No first half of a surrogate pair stands right before a second half. -/
def IsWhole (t : Text) : Prop :=
  t.IsChain fun high low => ¬(high.isHighSurrogate = true ∧ low.isLowSurrogate = true)

instance (t : Text) : Decidable (IsWhole t) :=
  inferInstanceAs (Decidable (t.IsChain fun high low =>
    ¬(high.isHighSurrogate = true ∧ low.isLowSurrogate = true)))

/-- No code point is half of a surrogate pair. -/
def IsScalar (t : Text) : Prop := ∀ c ∈ t, c.isSurrogate = false

theorem joined_cons {c : CodePoint} (h : c.isHighSurrogate = false) (t : Text) :
    joined (c :: t) = c :: joined t := by
  cases t with
  | nil => rfl
  | cons low t => simp [joined, h]

theorem joined_pair {high low : CodePoint} (hh : high.isHighSurrogate = true)
    (hl : low.isLowSurrogate = true) (t : Text) :
    joined (high :: low :: t) = joinHalves high low :: joined t := by
  simp [joined, hh, hl]

theorem joined_of_isWhole {t : Text} (h : IsWhole t) : joined t = t := by
  induction t using joined.induct with
  | case1 => rfl
  | case2 c => rfl
  | case3 high low t pair ih =>
    have := (List.isChain_cons_cons.1 h).1
    simp_all
  | case4 high low t apart ih =>
    simp only [joined, apart, ih (List.isChain_cons_cons.1 h).2]
    simp

theorem length_joined_le (t : Text) : (joined t).length ≤ t.length := by
  induction t using joined.induct with
  | case1 => exact le_rfl
  | case2 c => exact le_rfl
  | case3 high low t pair ih => simp only [joined, pair, if_true, List.length_cons]; omega
  | case4 high low t apart ih => simpa [joined, apart] using ih

/-- Nothing is joined just where no halves stand side by side. -/
theorem joined_eq_self_iff {t : Text} : joined t = t ↔ IsWhole t := by
  refine ⟨fun h => ?_, joined_of_isWhole⟩
  induction t using joined.induct with
  | case1 => exact List.isChain_nil
  | case2 c => exact List.isChain_singleton c
  | case3 high low t pair ih =>
    -- one code point stands for two, so the text got shorter
    have hlength := congrArg List.length h
    simp only [joined, pair, if_true, List.length_cons] at hlength
    have := length_joined_le t
    omega
  | case4 high low t apart ih =>
    simp only [joined, apart, Bool.false_eq_true, if_false, List.cons.injEq, true_and] at h
    exact List.isChain_cons_cons.2 ⟨by simpa using apart, ih h⟩

end Text

/-- A value with the halves joined of surrogate pairs that stand side by side, if it is a text. -/
def Value.joined : Value → Value
  | .str t => .str t.joined
  | v => v

/-- An object with the halves joined in the values of its fields. -/
def Object.joined (o : Object) : Object := o.map fun (name, v) => (name, v.joined)

namespace CodePoint

theorem not_low_of_high {c : CodePoint} (h : c.isHighSurrogate = true) :
    c.isLowSurrogate = false := by
  simp [isHighSurrogate, isLowSurrogate] at *
  omega

theorem not_high_of_not_surrogate {c : CodePoint} (h : c.isSurrogate = false) :
    c.isHighSurrogate = false := by
  simp [isHighSurrogate, isSurrogate] at *
  omega

theorem not_low_of_not_surrogate {c : CodePoint} (h : c.isSurrogate = false) :
    c.isLowSurrogate = false := by
  simp [isLowSurrogate, isSurrogate] at *
  omega

theorem ofNat_val (c : CodePoint) : ofNat c.val = c := by simp [ofNat]

end CodePoint

theorem Text.IsScalar.isWhole {t : Text} (h : t.IsScalar) : t.IsWhole := by
  induction t with
  | nil => exact List.isChain_nil
  | cons high t ih =>
    have ih := ih fun c hc => h c (List.mem_cons_of_mem _ hc)
    cases t with
    | nil => exact List.isChain_singleton high
    | cons low t =>
      refine List.isChain_cons_cons.2 ⟨fun hpair => ?_, ih⟩
      rw [CodePoint.not_high_of_not_surrogate (h high List.mem_cons_self)] at hpair
      exact Bool.false_ne_true hpair.1

/-! ## Strings as they are scanned -/

namespace Json.Token

theorem scanFrom_unitEscape (rev : Text) (half : Bool) {n : Nat} (hn : n < 0x10000)
    (rest : Text) :
    scanFrom (.text rev half) (unitEscape n ++ rest) =
      scanFrom (Scan.afterEscape rev half (.ofNat n)) rest := by
  have units : unitEscape n = [CodePoint.backslash, 'u', .hexDigit (n / 16 / 16 / 16 % 16),
      .hexDigit (n / 16 / 16 % 16), .hexDigit (n / 16 % 16), .hexDigit (n % 16)] := rfl
  have digits (m : Nat) : (CodePoint.hexDigit (m % 16)).hexValue? = some (m % 16) :=
    CodePoint.hexValue?_hexDigit (Nat.mod_lt m (by omega))
  have sum : 16 * (16 * (16 * (n / 16 / 16 / 16 % 16) + n / 16 / 16 % 16) + n / 16 % 16) +
      n % 16 = n := by omega
  rw [units]
  simp only [List.cons_append, List.nil_append]
  rw [scanFrom, if_neg (by decide), if_pos rfl, scanFrom, if_pos rfl]
  simp [scanFrom, digits]
  rw [sum]

theorem afterEscape_of_not_low (rev : Text) (half : Bool) {c : CodePoint}
    (h : c.isLowSurrogate = false) :
    Scan.afterEscape rev half c = .text (c :: rev) c.isHighSurrogate := by
  simp [Scan.afterEscape, h]

theorem afterEscape_of_scalar (rev : Text) (half : Bool) {c : CodePoint}
    (h : c.isSurrogate = false) : Scan.afterEscape rev half c = .text (c :: rev) false := by
  rw [afterEscape_of_not_low rev half (CodePoint.not_low_of_not_surrogate h),
    CodePoint.not_high_of_not_surrogate h]

/-- The halves that a code point above the first plane is written as. -/
theorem halves {c : CodePoint} (h : ¬c.val < 0x10000) :
    ∃ high low : CodePoint, high.isHighSurrogate = true ∧ low.isLowSurrogate = true ∧
      joinHalves high low = c ∧ c.isSurrogate = false ∧
      high.val = 0xd800 + (c.val - 0x10000) / 0x400 ∧
      low.val = 0xdc00 + (c.val - 0x10000) % 0x400 := by
  have hc : c.val < 0x110000 := c.isLt
  refine ⟨⟨0xd800 + (c.val - 0x10000) / 0x400, by omega⟩,
    ⟨0xdc00 + (c.val - 0x10000) % 0x400, by omega⟩, ?_, ?_, ?_, ?_, rfl, rfl⟩
  · simp [CodePoint.isHighSurrogate]
    omega
  · simp [CodePoint.isLowSurrogate]
    omega
  · have sum : 0x10000 + (0xd800 + (c.val - 0x10000) / 0x400 - 0xd800) * 0x400 +
        (0xdc00 + (c.val - 0x10000) % 0x400 - 0xdc00) = c.val := by omega
    rw [joinHalves, sum, CodePoint.ofNat_val]
  · simp [CodePoint.isSurrogate]
    omega

theorem scanFrom_pointEscape (rev : Text) (half : Bool) (c : CodePoint) (rest : Text) :
    scanFrom (.text rev half) (pointEscape c ++ rest) =
      scanFrom (Scan.afterEscape rev half c) rest := by
  rw [pointEscape]
  split
  next h => rw [scanFrom_unitEscape rev half h, CodePoint.ofNat_val]
  next h =>
    obtain ⟨high, low, hh, hl, joins, scalar, eh, el⟩ := halves h
    have bh : high.val < 0x10000 := by omega
    have bl : low.val < 0x10000 := by omega
    rw [← eh, ← el, List.append_assoc, scanFrom_unitEscape rev half bh, CodePoint.ofNat_val,
      afterEscape_of_not_low rev half (CodePoint.not_low_of_high hh), hh,
      scanFrom_unitEscape _ _ bl, CodePoint.ofNat_val, afterEscape_of_scalar rev half scalar]
    simp [Scan.afterEscape, hl, joins]

/-- A code point after a backslash is read back where the two escape another one. -/
theorem scanFrom_letterEscape (rev : Text) (half : Bool) {c d : CodePoint}
    (hd : letterEscape? d = some c) (hu : d ≠ 'u') (hc : c.isSurrogate = false) (rest : Text) :
    scanFrom (.text rev half) (CodePoint.backslash :: d :: rest) =
      scanFrom (Scan.afterEscape rev half c) rest := by
  rw [scanFrom, if_neg (by decide), if_pos rfl, scanFrom, if_neg hu, hd,
    afterEscape_of_scalar rev half hc]

/-- However a code point is written, it is read as if it had been escaped. -/
theorem scanFrom_printPoint (rev : Text) (half : Bool) (c : CodePoint) (rest : Text) :
    scanFrom (.text rev half) (printPoint c ++ rest) =
      scanFrom (Scan.afterEscape rev half c) rest := by
  rw [printPoint]
  split
  next h =>
    obtain rfl | rfl : c = CodePoint.quotationMark ∨ c = CodePoint.backslash := by simpa using h
    · exact scanFrom_letterEscape rev half rfl (by decide) (by decide) rest
    · exact scanFrom_letterEscape rev half rfl (by decide) (by decide) rest
  next notQuoted =>
  split
  next h => exact scanFrom_letterEscape rev half (h ▸ rfl) (by decide) (h ▸ by decide) rest
  next =>
  split
  next h => exact scanFrom_letterEscape rev half (h ▸ rfl) (by decide) (h ▸ by decide) rest
  next =>
  split
  next h => exact scanFrom_letterEscape rev half (h ▸ rfl) (by decide) (h ▸ by decide) rest
  next =>
  split
  next h =>
    obtain rfl : c = 0x0c := Fin.ext h
    exact scanFrom_letterEscape rev half rfl (by decide) (by decide) rest
  next =>
  split
  next h =>
    obtain rfl : c = 0x08 := Fin.ext h
    exact scanFrom_letterEscape rev half rfl (by decide) (by decide) rest
  next =>
  split
  next h =>
    obtain ⟨low, high⟩ : 0x20 ≤ c.val ∧ c.val ≤ 0x7e := by simpa using h
    have scalar : c.isSurrogate = false := by
      simp [CodePoint.isSurrogate]
      omega
    obtain ⟨hq, hb⟩ : c ≠ CodePoint.quotationMark ∧ c ≠ CodePoint.backslash := by
      simpa using notQuoted
    rw [List.singleton_append, scanFrom, if_neg hq, if_neg hb, if_neg (by omega),
      afterEscape_of_scalar rev half scalar]
  next => exact scanFrom_pointEscape rev half c rest

/-- A string after a quotation mark is read to its end: as it is where nothing has been read of
    it that waits for a second half, and with the half that waits before it otherwise. -/
theorem scanFrom_points (t : Text) (rest : Text) :
    (∀ rev, scanFrom (.text rev false) (t.flatMap printPoint ++ CodePoint.quotationMark :: rest) =
      .text (rev.reverse ++ t.joined) :: scanFrom .gap rest) ∧
    (∀ rev high, high.isHighSurrogate = true →
      scanFrom (.text (high :: rev) true)
          (t.flatMap printPoint ++ CodePoint.quotationMark :: rest) =
        .text (rev.reverse ++ Text.joined (high :: t)) :: scanFrom .gap rest) := by
  induction t with
  | nil =>
    constructor
    · intro rev
      simp [scanFrom, Text.joined]
    · intro rev high hh
      simp [scanFrom, Text.joined]
  | cons c t ih =>
    obtain ⟨apart, waiting⟩ := ih
    have fresh (rev : Text) :
        scanFrom (.text (c :: rev) c.isHighSurrogate)
            (t.flatMap printPoint ++ CodePoint.quotationMark :: rest) =
          .text (rev.reverse ++ Text.joined (c :: t)) :: scanFrom .gap rest := by
      cases hc : c.isHighSurrogate with
      | true => exact waiting rev c hc
      | false => simp [apart, Text.joined_cons hc]
    constructor
    · intro rev
      rw [List.flatMap_cons, List.append_assoc, scanFrom_printPoint]
      exact fresh rev
    · intro rev high hh
      rw [List.flatMap_cons, List.append_assoc, scanFrom_printPoint]
      cases hc : c.isLowSurrogate with
      | true => simp [Scan.afterEscape, hc, apart, Text.joined_pair hh hc]
      | false =>
        rw [afterEscape_of_not_low _ _ hc, fresh]
        simp [Text.joined, hc]

/-- A written text is scanned as one token. -/
theorem scanFrom_printText (t rest : Text) :
    scanFrom .gap (printText t ++ rest) = .text t.joined :: scanFrom .gap rest := by
  rw [printText, List.cons_append, List.cons_append, scanFrom, if_neg (by decide), if_pos rfl,
    List.append_assoc]
  exact (scanFrom_points t rest).1 []

end Json.Token

/-! ## Texts that are written alike -/

namespace Json

theorem printPoint_eq_pointEscape {c : CodePoint} (h : 0x7f ≤ c.val) :
    printPoint c = pointEscape c := by
  have apart (d : CodePoint) (hd : d.val < 0x7f) : c ≠ d := by
    rintro rfl
    omega
  have quoted : ¬((decide (c = CodePoint.quotationMark) || decide (c = CodePoint.backslash)) =
      true) := by
    simp [apart CodePoint.quotationMark (by decide), apart CodePoint.backslash (by decide)]
  rw [printPoint, if_neg quoted, if_neg (apart _ (by decide)), if_neg (apart _ (by decide)),
    if_neg (apart _ (by decide)), if_neg (by omega), if_neg (by omega), if_neg]
  simp
  omega

/-- The halves of a pair are written like the code point that they make up. -/
theorem printPoint_joinHalves {high low : CodePoint} (hh : high.isHighSurrogate = true)
    (hl : low.isLowSurrogate = true) :
    printPoint (joinHalves high low) = printPoint high ++ printPoint low := by
  obtain ⟨h₁, h₂⟩ : 0xd800 ≤ high.val ∧ high.val < 0xdc00 := by
    simpa [CodePoint.isHighSurrogate] using hh
  obtain ⟨l₁, l₂⟩ : 0xdc00 ≤ low.val ∧ low.val < 0xe000 := by
    simpa [CodePoint.isLowSurrogate] using hl
  have joins : (joinHalves high low).val =
      0x10000 + (high.val - 0xd800) * 0x400 + (low.val - 0xdc00) := by
    rw [joinHalves, CodePoint.ofNat, dif_pos (by omega)]
  have eh : 0xd800 + ((joinHalves high low).val - 0x10000) / 0x400 = high.val := by omega
  have el : 0xdc00 + ((joinHalves high low).val - 0x10000) % 0x400 = low.val := by omega
  rw [printPoint_eq_pointEscape (by omega), printPoint_eq_pointEscape (by omega),
    printPoint_eq_pointEscape (by omega), pointEscape, if_neg (by omega), eh, el, pointEscape,
    if_pos (by omega), pointEscape, if_pos (by omega)]

theorem printText_joined (t : Text) : printText t.joined = printText t := by
  have points : t.joined.flatMap printPoint = t.flatMap printPoint := by
    induction t using Text.joined.induct with
    | case1 => rfl
    | case2 c => rfl
    | case3 high low t pair ih =>
      obtain ⟨hh, hl⟩ : high.isHighSurrogate = true ∧ low.isLowSurrogate = true := by
        simpa using pair
      simp [Text.joined_pair hh hl, printPoint_joinHalves hh hl, ih]
    | case4 high low t apart ih => simp [Text.joined, apart, ih]
  rw [printText, printText, points]

/-- Two texts are written alike exactly if joining their halves makes them the same. -/
theorem printText_inj {s t : Text} : printText s = printText t ↔ s.joined = t.joined := by
  constructor
  · intro h
    have read := scanFrom_printText s []
    rw [h, scanFrom_printText] at read
    simpa using read.symm
  · intro h
    rw [← printText_joined s, h, printText_joined]

end Json

/-! ## Objects of texts, read back -/

namespace Object

/-- The fields with texts as values. -/
def ofTexts (texts : List (Text × Text)) : Object := texts.map fun (k, t) => (k, .str t)

/-- Named texts with the halves of surrogate pairs joined, in the names too. -/
def joinedTexts (texts : List (Text × Text)) : List (Text × Text) :=
  texts.map fun (k, t) => (k.joined, t.joined)

end Object

namespace Json

open Object

/-- The tokens of a field with a text as value. -/
def fieldTokens (field : Text × Text) : List Token :=
  [.text field.1.joined, .colon, .text field.2.joined]

/-- The tokens of an object of texts after its opening brace. -/
def objectTokens : List (Text × Text) → List Token
  | [] => [.closeObject]
  | [field] => fieldTokens field ++ [.closeObject]
  | field :: fields => fieldTokens field ++ .comma :: objectTokens fields

theorem scanFrom_field (field : Text × Text) (rest : Text) :
    scanFrom .gap (printText field.1 ++ ": " ++ print (.str field.2) ++ rest) =
      fieldTokens field ++ scanFrom .gap rest := by
  have colon (t : Text) : scanFrom .gap (Text.ofString ": " ++ t) = .colon :: scanFrom .gap t := rfl
  rw [List.append_assoc, List.append_assoc, scanFrom_printText, colon, print, scanFrom_printText]
  rfl

theorem scanFrom_fields (texts : List (Text × Text)) :
    scanFrom .gap (Text.joinWith ", " (printFields (ofTexts texts)) ++ [CodePoint.ofNat 0x7d]) =
      objectTokens texts := by
  have close : scanFrom .gap [CodePoint.ofNat 0x7d] = [.closeObject] := rfl
  have comma (t : Text) : scanFrom .gap (Text.ofString ", " ++ t) = .comma :: scanFrom .gap t := rfl
  induction texts with
  | nil => exact close
  | cons field texts ih =>
    cases texts with
    | nil =>
      simp only [ofTexts, List.map_cons, List.map_nil, printFields, Text.joinWith]
      rw [scanFrom_field, close]
      rfl
    | cons next texts =>
      simp only [ofTexts, List.map_cons, printFields, Text.joinWith] at ih ⊢
      rw [List.append_assoc, List.append_assoc, scanFrom_field, comma, ih]
      rfl

theorem run_of_step {expected next : Expectation} {stack stack' : List Frame} {token : Token}
    (h : step expected stack token = .ok (next, stack')) (tokens : List Token) :
    run expected stack (token :: tokens) = run next stack' tokens := by
  simp only [run, h]

theorem run_fieldTokens {expected : Expectation} {before : Object} (field : Text × Text)
    (here : ∀ key, step expected [] (.text key) = .ok (.colon before key, []))
    (tokens : List Token) :
    run expected [] (fieldTokens field ++ tokens) =
      run (.next (.str field.2.joined)) [.field before field.1.joined] tokens := by
  rw [fieldTokens, List.cons_append, run_of_step (here _)]
  rfl

theorem run_objectTokens {expected : Expectation} {before : Object} (field : Text × Text)
    (fields : List (Text × Text))
    (here : ∀ key, step expected [] (.text key) = .ok (.colon before key, [])) :
    run expected [] (objectTokens (field :: fields)) =
      .ok (.obj (Object.merge before (ofTexts (joinedTexts (field :: fields))))) := by
  induction fields generalizing expected before field with
  | nil =>
    rw [objectTokens, run_fieldTokens field here]
    rfl
  | cons next fields ih =>
    have comma : step (.next (.str field.2.joined)) [.field before field.1.joined] .comma =
        .ok (.key (Object.put field.1.joined (.str field.2.joined) before), []) := rfl
    rw [objectTokens, run_fieldTokens field here, run_of_step comma, ih next fun _ => rfl]
    · rfl
    · simp

/-- An object of texts is read back, field by field in its order, with the halves of surrogate
    pairs joined. -/
theorem parse_print_texts (texts : List (Text × Text)) :
    parse (print (.obj (ofTexts texts))) =
      .ok (.obj (Object.merge [] (ofTexts (joinedTexts texts)))) := by
  have start (t : Text) : Token.scan (CodePoint.ofNat 0x7b :: t) =
      .openObject :: scanFrom .gap t := rfl
  rw [parse, print, List.cons_append, start, scanFrom_fields]
  cases texts with
  | nil => rfl
  | cons field fields => exact run_objectTokens field fields fun _ => rfl

end Json

end Rendezvous
