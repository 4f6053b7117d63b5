/-
  The fields of a request that functions look at.

  A function declares the fields that its requests may have.  It looks at no others, so that a
  request may carry anything else besides.

  * `Function.declares`: the functions with the fields that they declare;
  * `Object.SameAt`: objects that have the same fields among some;
  * `Function.run_sameAt` and `missingFrom_sameAt`: functions do not look at other fields.
-/
import Mathlib.Tactic
import Rendezvous.Operation.All

namespace Rendezvous

namespace Object

/-- The objects have the same fields of certain names. -/
def SameAt (names : List Text) (o o' : Object) : Prop :=
  ∀ name ∈ names, field? name o' = field? name o

variable {names : List Text} {name : Text} {o o' : Object}

theorem SameAt.fieldOrNull (h : o.SameAt names o') (hn : name ∈ names) :
    fieldOrNull name o' = fieldOrNull name o := by
  rw [Object.fieldOrNull, h name hn, Object.fieldOrNull]

theorem SameAt.fieldAt (h : o.SameAt names o') (hn : name ∈ names) :
    (Value.obj o').fieldAt name = (Value.obj o).fieldAt name := by
  simp only [Value.fieldAt, Value.fields, Except.bind, h name hn]

theorem SameAt.isMissing (h : o.SameAt names o') (hn : name ∈ names) :
    Field.isMissing o' name = Field.isMissing o name := by
  rw [Field.isMissing, h name hn, Field.isMissing]

theorem SameAt.hasNickname (h : o.SameAt names o') (ht : Text.ofString "nickname" ∈ names)
    (he : Text.ofString "nickname_hex" ∈ names) : Field.hasNickname o' = Field.hasNickname o := by
  rw [Field.hasNickname, h.fieldOrNull he, h.fieldOrNull ht, Field.hasNickname]

/-- The bytes of a field other than the nickname are read from that field alone. -/
theorem SameAt.bytesIn (h : o.SameAt names o') (hn : name ∈ names) (hne : name ≠ "nickname") :
    Field.bytesIn o' name = Field.bytesIn o name := by
  rw [Field.bytesIn, Field.bytesIn, if_neg hne, if_neg hne, h.fieldOrNull hn]

/-- A nickname is read from two fields. -/
theorem SameAt.nickname (h : o.SameAt names o') (ht : Text.ofString "nickname" ∈ names)
    (he : Text.ofString "nickname_hex" ∈ names) :
    Field.bytesIn o' "nickname" = Field.bytesIn o "nickname" := by
  rw [Field.bytesIn, Field.bytesIn, if_pos rfl, if_pos rfl, Field.nicknameIn, Field.nicknameIn,
    h.fieldOrNull he, h.fieldOrNull ht]

end Object

namespace Function

/-- The functions with the fields that their requests may have. -/
def declares : List (Function × List Text) :=
  [(chatAnswer, ["answer", "to"]), (chatOffer, ["welcome_msg", "offer", "to"]),
   (contactGet, ["addr"]), (contactRemove, ["addr"]), (contactUpsert, ["name", "addr"]),
   (identityGet, ["identity", "nickname", "nickname_hex"]),
   (identityRegister, ["nickname", "nickname_hex", "address"])]

/-- Every function declares its fields. -/
theorem declares_functions : declares.map (·.1) = all := rfl

theorem mem_all_of_declares {f : Function} {names : List Text} (h : (f, names) ∈ declares) :
    f ∈ all := by
  rw [← declares_functions]
  exact List.mem_map.2 ⟨_, h, rfl⟩

theorem exists_declares {f : Function} (h : f ∈ all) : ∃ names, (f, names) ∈ declares := by
  rw [← declares_functions] at h
  obtain ⟨⟨_, names⟩, hmem, rfl⟩ := List.mem_map.1 h
  exact ⟨names, hmem⟩

/-- What a function requires it has declared. -/
theorem required_subset {f : Function} {names : List Text} (h : (f, names) ∈ declares) :
    f.required ⊆ names := by
  have hall : ∀ entry ∈ declares, ∀ name ∈ entry.1.required, name ∈ entry.2 := by decide
  exact hall _ h

variable {f : Function} {names : List Text} {body body' : Object}

/-- A function does not look at fields that it has not declared. -/
theorem run_sameAt (hf : (f, names) ∈ declares) (h : body.SameAt names body') (caller : Text) :
    f.run ⟨caller, body'⟩ = f.run ⟨caller, body⟩ := by
  simp only [declares, List.mem_cons, Prod.mk.injEq, List.not_mem_nil, or_false] at hf
  rcases hf with ⟨rfl, rfl⟩ | ⟨rfl, rfl⟩ | ⟨rfl, rfl⟩ | ⟨rfl, rfl⟩ | ⟨rfl, rfl⟩ | ⟨rfl, rfl⟩ |
    ⟨rfl, rfl⟩
  · simp only [chatAnswer, recipientOf]
    rw [h.bytesIn (by simp) (by decide), h.fieldAt (by simp)]
  · simp only [chatOffer, recipientOf]
    rw [h.bytesIn (by simp) (by decide), h.bytesIn (by simp) (by decide), h.fieldAt (by simp)]
  · simp only [contactGet]
    rw [h.bytesIn (by simp) (by decide), h.fieldOrNull (by simp)]
  · simp only [contactRemove]
    rw [h.bytesIn (by simp) (by decide)]
  · simp only [contactUpsert]
    rw [h.bytesIn (by simp) (by decide), h.bytesIn (by simp) (by decide)]
  · simp only [identityGet, wantedIdentity]
    rw [h.hasNickname (by simp) (by simp), h.nickname (by simp) (by simp), h.fieldOrNull (by simp)]
  · simp only [identityRegister]
    rw [h.hasNickname (by simp) (by simp), h.nickname (by simp) (by simp),
      h.bytesIn (by simp) (by decide)]

/-- Whether a request is complete does not depend on fields that are not declared, either. -/
theorem missingFrom_sameAt (hf : (f, names) ∈ declares) (h : body.SameAt names body') :
    Field.missingFrom f.required (.obj body') = Field.missingFrom f.required (.obj body) :=
  List.filter_congr fun _ hname => h.isMissing (required_subset hf hname)

/-- A function does the same for requests that are the same where it looks. -/
theorem require_run_sameAt (hf : (f, names) ∈ declares) (h : body.SameAt names body')
    (caller : Text) :
    (Act.ofExcept (Request.require f.required ⟨caller, body'⟩)).bind f.run =
      (Act.ofExcept (Request.require f.required ⟨caller, body⟩)).bind f.run := by
  simp only [Request.require, missingFrom_sameAt hf h]
  split
  · exact run_sameAt hf h caller
  · rfl

end Function

end Rendezvous
