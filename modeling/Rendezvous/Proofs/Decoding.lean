/-
  Which field of a body is at fault.

  The fields that are asked for are read in order, and the first one that cannot be read is told.
  It is told by its name, the exact nickname by a name of its own, with one exception: a nickname
  given as a text that has no UTF-8 form is refused without a word about the field.

  * `Field.named?`: the fields by their names; `Field.culprit`: the name by which a field is told;
  * `mapM_eq_error_iff`: what fails in a row of readings is the first that fails;
  * `Field.IsUnencodable`: a body gives its nickname as a text with half of a surrogate pair;
  * `Field.faults_named`: the fields are read with their widths, or the first at fault is named
    unless it is such a nickname.
-/
import Rendezvous.Proofs.Effects
import Rendezvous.Proofs.Unicode
import Rendezvous.Proofs.Wire

namespace Rendezvous

/-! ## Readings in a row -/

section
variable {ε α β : Type} {f : α → Except ε β} {l : List α}

/-- All readings in a row succeed just if each does. -/
theorem mapM_eq_ok_iff {results : List β} :
    l.mapM f = .ok results ↔ List.Forall₂ (fun a b => f a = .ok b) l results := by
  induction l generalizing results with
  | nil =>
    rw [List.mapM_nil, List.forall₂_nil_left_iff]
    exact ⟨fun h => (Except.ok.inj h).symm, fun h => congrArg Except.ok h.symm⟩
  | cons a l ih =>
    rw [List.mapM_cons, List.forall₂_cons_left_iff]
    cases ha : f a with
    | error e => simp [bind, Except.bind]
    | ok b =>
      simp only [Except.ok.injEq, ← ih]
      cases l.mapM f with
      | error e => simp [bind, Except.bind]
      | ok bs => simp [bind, Except.bind, pure, Except.pure, eq_comm]

/-- The first reading in a row that fails makes all of them fail. -/
theorem mapM_eq_error_iff {e : ε} : l.mapM f = .error e ↔
    ∃ before a after, l = before ++ a :: after ∧ (∀ x ∈ before, ∃ b, f x = .ok b) ∧
      f a = .error e := by
  induction l with
  | nil => simp [pure, Except.pure]
  | cons a l ih =>
    rw [List.mapM_cons]
    cases ha : f a with
    | error e' =>
      constructor
      · rintro ⟨⟩
        exact ⟨[], a, l, rfl, by simp, ha⟩
      · rintro ⟨before, x, after, hl, hbefore, hx⟩
        cases before with
        | nil =>
          obtain ⟨rfl, -⟩ := List.cons.inj hl
          rw [ha] at hx
          cases hx
          rfl
        | cons y before =>
          obtain ⟨rfl, -⟩ := List.cons.inj hl
          obtain ⟨b, hb⟩ := hbefore a List.mem_cons_self
          rw [ha] at hb
          cases hb
    | ok b =>
      have htail : (do let bs ← l.mapM f; pure (b :: bs) : Except ε (List β)) = .error e ↔
          l.mapM f = .error e := by
        cases l.mapM f <;> simp [bind, Except.bind, pure, Except.pure]
      refine htail.trans (ih.trans ⟨?_, ?_⟩)
      · rintro ⟨before, x, after, rfl, hbefore, hx⟩
        exact ⟨a :: before, x, after, rfl, List.forall_mem_cons.2 ⟨⟨b, ha⟩, hbefore⟩, hx⟩
      · rintro ⟨before, x, after, hl, hbefore, hx⟩
        cases before with
        | nil =>
          obtain ⟨rfl, -⟩ := List.cons.inj hl
          rw [ha] at hx
          cases hx
        | cons y before =>
          obtain ⟨rfl, rfl⟩ := List.cons.inj hl
          exact ⟨before, x, after, rfl, (List.forall_mem_cons.1 hbefore).2, hx⟩

end

/-! ## Named fields -/

/-- A failed validation that tells a client of one field, and of nothing else. -/
def Failure.NamesField (label : Text) : Failure → Prop
  | .service e => e.name = "ValidationError" ∧ e.details = .obj [("field", .str label)]
  | _ => False

theorem Failure.namesField_atField {label : Text} (h : label ≠ []) (message : Text) :
    (Failure.atField message (.str label)).NamesField label := by
  cases label with
  | nil => exact absurd rfl h
  | cons c label => exact ⟨rfl, rfl⟩

namespace Field
variable {body : Object} {name : Text} {names : List Text} {label value : Value} {e : Failure}

/-- The field of a name in a request. -/
def named? (name : Text) : Option Field :=
  if name = "nickname" then some .nickname else wireFields.lookup name

/-- The name by which a field at fault is told: the exact nickname, where it is given, has its
    own. -/
def culprit (body : Object) (name : Text) : Text :=
  if name = "nickname" ∧ (Object.fieldOrNull "nickname_hex" body).isTruthy = true then
    "nickname_hex"
  else name

/-- A body gives its nickname as a text that has no UTF-8 form. -/
def IsUnencodable (body : Object) : Prop :=
  (Object.fieldOrNull "nickname_hex" body).isTruthy = false ∧
    ∃ t, Object.fieldOrNull "nickname" body = .str t ∧ ¬t.IsScalar

/-- The first field at fault of those asked for, with its failure. -/
def FirstFault (body : Object) (names : List Text) (name : Text) (e : Failure) : Prop :=
  ∃ before after, names = before ++ name :: after ∧
    (∀ earlier ∈ before, ∃ value, bytesIn body earlier = .ok value) ∧ bytesIn body name = .error e

theorem culprit_ne_nil (h : (named? name).isSome = true) : culprit body name ≠ [] := by
  unfold culprit
  split
  · exact List.cons_ne_nil _ _
  · rintro rfl
    cases h

/-- What is read of a field has its width. -/
theorem length_of_named {field : Field} {bytes : Bytes} (hf : named? name = some field)
    (h : bytesIn body name = .ok bytes) : bytes.length = field.width := by
  rw [named?] at hf
  split_ifs at hf with hn
  · obtain rfl := hn
    obtain rfl := Option.some.inj hf
    exact length_of_nickname h
  · exact length_of_bytesIn hn hf h

/-- A nickname is refused in the name of its field, but for a text without a UTF-8 form. -/
theorem encodeNickname_refuses (h : encodeNickname label value = .error e) :
    (∃ message, e = .atField message label) ∧ (∀ t, value = .str t → t.IsScalar) ∨
      ∃ t run, value = .str t ∧ ¬t.IsScalar ∧ e = .unusable (.unencodable run) := by
  have hpad {bytes : Bytes} (h : pad Field.nickname.width label bytes = .error e) :
      ∃ message, e = .atField message label := by
    unfold pad at h
    split_ifs at h
    exact ⟨_, (Except.error.inj h).symm⟩
  cases value with
  | str t =>
    by_cases ht : t.IsScalar
    · rw [encodeNickname_of_isScalar ht] at h
      exact .inl ⟨hpad h, fun _ hv => by cases hv; exact ht⟩
    · cases hform : t.utf8? with
      | ok bytes => exact absurd (Text.utf8?_eq_ok_iff.1 hform).1 ht
      | error run =>
        rw [encodeNickname, nicknameBytes, hform] at h
        exact .inr ⟨t, run, rfl, ht, (Except.error.inj h).symm⟩
  | bytes bytes => exact .inl ⟨hpad h, fun _ hv => by cases hv⟩
  | _ => exact .inl ⟨⟨_, (Except.error.inj h).symm⟩, fun _ hv => by cases hv⟩

/-- A field at fault is named, unless it is a nickname without a UTF-8 form. -/
theorem bytesIn_faults (hknown : (named? name).isSome = true) (h : bytesIn body name = .error e) :
    ¬(name = "nickname" ∧ IsUnencodable body) ∧
        (∃ message, e = .atField message (.str (culprit body name))) ∨
      (name = "nickname" ∧ IsUnencodable body) ∧ ∃ run, e = .unusable (.unencodable run) := by
  by_cases hn : name = "nickname"
  · subst hn
    rw [bytesIn, if_pos rfl, nicknameIn] at h
    cases hexact : (Object.fieldOrNull "nickname_hex" body).isTruthy with
    | true =>
      rw [hexact, if_pos rfl] at h
      rw [culprit, if_pos ⟨rfl, hexact⟩]
      have hgiven : ¬IsUnencodable body := fun hu => by cases hexact.symm.trans hu.1
      exact .inl ⟨fun hu => hgiven hu.2, decodeHex_refuses h⟩
    | false =>
      rw [hexact, if_neg Bool.false_ne_true] at h
      rw [culprit, if_neg fun hc => by cases hexact.symm.trans hc.2]
      rcases encodeNickname_refuses h with ⟨hmessage, hscalar⟩ | ⟨t, run, ht, hnot, he⟩
      · refine .inl ⟨fun hu => ?_, hmessage⟩
        obtain ⟨-, -, t, ht, hnot⟩ := hu
        exact hnot (hscalar t ht)
      · exact .inr ⟨⟨rfl, hexact, t, ht, hnot⟩, run, he⟩
  · rw [named?, if_neg hn] at hknown
    obtain ⟨field, hf⟩ := Option.isSome_iff_exists.1 hknown
    rw [bytesIn, if_neg hn, hf] at h
    rw [culprit, if_neg fun hc => hn hc.1]
    exact .inl ⟨fun hu => hn hu.1, decodeHex_refuses h⟩

theorem allBytesAt_eq (body : Object) (names : List Text) :
    allBytesAt (.obj body) (.arr (names.map .str)) = names.mapM (bytesIn body) := by
  change (names.map Value.str).mapM (bytesAt (.obj body)) = _
  rw [List.mapM_map]
  rfl

/-- **A field at fault is named.**  All fields that are asked for are read, each with its width; or
    the first of them that is at fault is told by its name, unless it is a nickname given as a text
    without a UTF-8 form. -/
theorem faults_named (body : Object) (hknown : ∀ name ∈ names, (named? name).isSome = true) :
    let decoded := allBytesAt (.obj body) (.arr (names.map .str))
    (∀ values, decoded = .ok values → List.Forall₂ (fun name value =>
      bytesIn body name = .ok value ∧ ∃ field, named? name = some field ∧
        value.length = field.width) names values) ∧
    ∀ e, decoded = .error e → ∃ name, FirstFault body names name e ∧
      (e.NamesField (culprit body name) ↔ ¬(name = "nickname" ∧ IsUnencodable body)) ∧
      (name = "nickname" → IsUnencodable body → ∃ run, e = .unusable (.unencodable run)) := by
  intro decoded
  have hdecoded : decoded = names.mapM (bytesIn body) := allBytesAt_eq body names
  rw [hdecoded]
  refine ⟨fun values h => ?_, fun e h => ?_⟩
  · have hread := mapM_eq_ok_iff.1 h
    refine ((List.forall₂_and_left _ _).2 ⟨hknown, hread⟩).imp fun name value ⟨hname, hvalue⟩ => ?_
    obtain ⟨field, hf⟩ := Option.isSome_iff_exists.1 hname
    exact ⟨hvalue, field, hf, length_of_named hf hvalue⟩
  · obtain ⟨before, name, after, rfl, hbefore, he⟩ := mapM_eq_error_iff.1 h
    have hname := hknown name (by simp)
    refine ⟨name, ⟨before, after, rfl, hbefore, he⟩, ?_⟩
    rcases bytesIn_faults hname he with ⟨hnot, message, rfl⟩ | ⟨hboth, run, rfl⟩
    · refine ⟨iff_of_true (Failure.namesField_atField (culprit_ne_nil hname) message) hnot, ?_⟩
      exact fun hn hu => absurd ⟨hn, hu⟩ hnot
    · exact ⟨iff_of_false id (not_not_intro hboth), fun _ _ => ⟨run, rfl⟩⟩

/-- A body whose nickname is half of a surrogate pair. -/
def halved : Object := [("nickname", .str [CodePoint.ofNat 0xd800]), ("address", .str "0x0g")]

/-- The address of this body is named, where it is asked for first. -/
theorem halved_address_named :
    (∀ name ∈ [Text.ofString "address", "nickname"], (named? name).isSome = true) ∧
      ∃ e, allBytesAt (.obj halved) (.arr ([Text.ofString "address", "nickname"].map .str)) =
        .error e ∧ e.NamesField "address" := by
  have hknown : ∀ name ∈ [Text.ofString "address", "nickname"], (named? name).isSome = true := by
    decide
  obtain ⟨name, ⟨before, after, hnames, hbefore, -⟩, hiff, -⟩ :=
    (faults_named halved hknown).2 _ rfl
  refine ⟨hknown, _, rfl, ?_⟩
  cases before with
  | nil =>
    obtain ⟨rfl, -⟩ := List.cons.inj hnames
    exact hiff.2 fun h => by cases h.1
  | cons earlier before =>
    obtain ⟨rfl, -⟩ := List.cons.inj hnames
    obtain ⟨value, hvalue⟩ := hbefore _ List.mem_cons_self
    cases hvalue

/-- The nickname of this body is not named, where it is the only field at fault. -/
theorem halved_nickname_unnamed :
    Json.parse "\x7b\"nickname\": \"\\ud800\", \"address\": \"0x0g\"\x7d" = .ok (.obj halved) ∧
      ∃ e, allBytesAt (.obj halved) (.arr [.str "nickname"]) = .error e ∧
        ¬e.NamesField "nickname" := by
  refine ⟨rfl, _, rfl, id⟩

end Field

end Rendezvous
