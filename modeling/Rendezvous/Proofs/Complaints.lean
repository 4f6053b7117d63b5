/-
  Complaints about values.

  A complaint is the refusal of a value that somebody has given: a failed validation, or a value
  that cannot be used.  What is read of a request fails by complaints only, and so does what is
  read of a stored item, whose values are read by the same codec.

  * `Failure.IsComplaint`, and `Complains` for what fails by nothing else; `FailsBy.bind` follows
    the way readings are put together;
  * `Field.bytesIn_complains`, `Identity.validate_complains`, `Request.require_complains`: requests;
  * `Stamp.check_complains`, `IdentityItem.toRecord_complains` and the like: stored items.
-/
import Rendezvous.Operation.All
import Rendezvous.Proofs.Blame

namespace Rendezvous

/-- The refusal of a value: a failed validation, or an unusable value. -/
def Failure.IsComplaint : Failure → Prop
  | .service e => ∃ message field value hints, e = .validation (.str message) field value hints
  | .unusable _ => True
  | _ => False

/-- What fails, if at all, by a failure of some kind. -/
def FailsBy {α : Type} (P : Failure → Prop) (x : Except Failure α) : Prop :=
  ∀ e, x = .error e → P e

/-- What fails, if at all, by a complaint. -/
abbrev Complains {α : Type} (x : Except Failure α) : Prop := FailsBy Failure.IsComplaint x

namespace Failure

theorem isComplaint_atField (message : Text) (field : Value) :
    (atField message field).IsComplaint :=
  ⟨message, field, .null, .null, rfl⟩

/-- A complaint puts the blame on the request. -/
theorem IsComplaint.blames {e : Failure} (h : e.IsComplaint) : e.Blames := by
  cases e with
  | service e =>
    obtain ⟨message, field, value, hints, rfl⟩ := h
    exact Or.inl rfl
  | unusable reason => trivial
  | _ => exact h.elim

end Failure

namespace FailsBy
variable {α β : Type} {P Q : Failure → Prop}

@[simp] theorem ok (a : α) : FailsBy P (.ok a : Except Failure α) := fun _ h => by cases h

theorem error {e : Failure} (h : P e) : FailsBy P (.error e : Except Failure α) :=
  fun _ he => Except.error.inj he ▸ h

theorem mono {x : Except Failure α} (h : FailsBy P x) (hPQ : ∀ e, P e → Q e) : FailsBy Q x :=
  fun e he => hPQ e (h e he)

theorem bind {x : Except Failure α} {f : α → Except Failure β} (hx : FailsBy P x)
    (hf : ∀ a, FailsBy P (f a)) : FailsBy P (x.bind f) := by
  intro e he
  cases x with
  | ok a => exact hf a e he
  | error e' => cases he; exact hx e rfl

theorem map {x : Except Failure α} (f : α → β) (hx : FailsBy P x) : FailsBy P (x.map f) := by
  intro e he
  cases x with
  | ok a => cases he
  | error e' => cases he; exact hx e rfl

theorem mapM {f : α → Except Failure β} (hf : ∀ a, FailsBy P (f a)) (l : List α) :
    FailsBy P (l.mapM f) := by
  induction l with
  | nil => exact ok _
  | cons a l ih =>
    rw [List.mapM_cons]
    exact (hf a).bind fun b => ih.bind fun bs => ok _

end FailsBy

/-! ## Fields -/

namespace Field

theorem pad_complains (width : Int) (label : Value) (bytes : Bytes) :
    Complains (pad width label bytes) := by
  unfold pad
  split
  · exact .error (Failure.isComplaint_atField _ _)
  · exact .ok _

theorem wireBytes_complains (label v : Value) : Complains (wireBytes label v) := by
  unfold wireBytes
  split
  · exact .ok _
  · dsimp only
    split
    · exact .error (Failure.isComplaint_atField _ _)
    · split
      · exact .ok _
      · exact .error (Failure.isComplaint_atField _ _)
  · exact .error (Failure.isComplaint_atField _ _)

theorem decodeHex_complains (width : Int) (label v : Value) :
    Complains (decodeHex width label v) :=
  (wireBytes_complains label v).bind fun bytes => pad_complains width label bytes

theorem encodeNickname_complains (label v : Value) : Complains (encodeNickname label v) := by
  refine FailsBy.bind ?_ fun bytes => pad_complains _ label bytes
  unfold nicknameBytes
  split
  · split
    · exact .ok _
    · exact .error trivial
  · exact .ok _
  · exact .error (Failure.isComplaint_atField _ _)

theorem nickname_complains (body : Object) : Complains (bytesIn body "nickname") := by
  rw [bytesIn, if_pos rfl, nicknameIn]
  split
  · exact decodeHex_complains _ _ _
  · exact encodeNickname_complains _ _

/-- The bytes of a field of requests are read, or there is a complaint about them. -/
theorem bytesIn_complains (body : Object) {name : Text} {field : Field} (hn : name ≠ "nickname")
    (hf : wireFields.lookup name = some field) : Complains (bytesIn body name) := by
  rw [bytesIn, if_neg hn, hf]
  exact decodeHex_complains _ _ _

/-- So are those of a stored text. -/
theorem fromStorageHex_complains (width : Int) (stored : Option Text) :
    Complains (fromStorageHex width (Value.ofText? stored)) := by
  refine FailsBy.bind ?_ fun bytes => pad_complains _ _ bytes
  unfold storedBytes
  split
  · exact .ok _
  · cases stored with
    | none => rename_i hnull; exact (hnull rfl).elim
    | some t =>
      simp only [Value.ofText?]
      cases Hex.decode t with
      | ok bytes => exact .ok _
      | error refusal => exact .error trivial

end Field

/-! ## Requests -/

theorem Identity.validate_complains (label v : Value) : Complains (Identity.validate label v) := by
  have hrefuse (reason : Text) : Complains (.error (Identity.refuse label reason) :
      Except Failure Text) := .error (Failure.isComplaint_atField _ _)
  unfold Identity.validate
  split
  · split_ifs
    exacts [hrefuse _, hrefuse _, hrefuse _, .ok _]
  · exact hrefuse _

namespace Request

theorem bodyFields_complains (v : Value) : Complains (bodyFields v) := by
  unfold bodyFields
  split
  · exact .ok _
  · exact .error (Failure.isComplaint_atField _ _)

theorem require_complains (required : List Text) (r : Request) :
    Complains (require required r) := by
  unfold require
  split
  · exact .ok _
  · exact .error ⟨_, _, _, _, rfl⟩

end Request

/-! ## Stored items -/

theorem Stamp.check_complains (stamp : Option Text) : Complains (Stamp.check stamp) := by
  unfold check
  split
  · exact .ok _
  · split
    · exact .ok _
    · exact .error trivial

theorem IdentityItem.toRecord_complains (item : IdentityItem) : Complains item.toRecord :=
  (Field.fromStorageHex_complains _ _).bind fun _ =>
    (Field.fromStorageHex_complains _ _).bind fun _ => .ok _

namespace ContactItem

theorem addressBytes_complains (item : ContactItem) : Complains item.addressBytes :=
  Field.fromStorageHex_complains _ _

theorem toRecord_complains (item : ContactItem) : Complains item.toRecord :=
  (Field.fromStorageHex_complains _ _).map _

theorem toEntry_complains (item : ContactItem) : Complains item.toEntry :=
  (Stamp.check_complains _).bind fun _ => item.addressBytes_complains.bind fun _ =>
    item.toRecord_complains.bind fun _ => .ok _

end ContactItem

end Rendezvous
