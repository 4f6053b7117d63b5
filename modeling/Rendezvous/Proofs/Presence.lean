/-
  Fields that a request may do without.

  Some fields are optional: a contact is looked up by its address, and all contacts are listed
  without one; an identity is looked up by itself or by its nickname, and the caller is without
  either; and a nickname of exact bytes goes before one that is a text.  A field is supplied if it
  is neither null nor an empty text.  What is supplied is heeded, but for the values that are empty
  in some other way, which are zeros, false, and the empty list and object: they are passed over, as
  if the field were absent.

  * `Choice`: the optional fields of functions; `Choice.Heeds`: the response of a function answers
    for the value of its optional field, or refuses it;
  * `Choice.run_heeds`: a value that is not empty is heeded;
  * `Choice.run_passes_over`: an empty value is passed over;
  * `Choice.invoke_heeds_iff`: which values that are supplied are heeded.
-/
import Rendezvous.Proofs.Claiming
import Rendezvous.Proofs.Lengths
import Rendezvous.Proofs.Provocation

namespace Rendezvous

open Act

/-! ## Values -/

/-- A value with which a field is supplied: neither null nor an empty text. -/
def Field.IsSupplied (v : Value) : Prop := v ≠ .null ∧ v ≠ .str []

/-- Digits are not read from an empty value, if it is no text and holds no bytes. -/
theorem Field.decodeHex_of_empty {width : Int} {label v : Value} (hplain : Json.isPlain v = true)
    (hsupplied : IsSupplied v) (hempty : v.isTruthy = false) :
    ∃ e, decodeHex width label v = .error e := by
  cases v with
  | str t =>
    cases t with
    | nil => exact absurd rfl hsupplied.2
    | cons c t => cases hempty
  | bytes b => cases hplain
  | _ => exact ⟨_, rfl⟩

/-- A response refuses a request as invalid. -/
structure Response.Refuses (response : Value) : Prop where
  failed : succeeded response = false
  invalid : code response = .str ErrorCode.validation.text

/-- A complaint is told by refusing the request. -/
theorem Response.refuses_told {e : Failure} (h : e.IsComplaint) (function : Text) (now : Instant) :
    Refuses (Handler.told function now e) := by
  refine ⟨Handler.succeeded_told _ _ _, ?_⟩
  cases e with
  | service e =>
    obtain ⟨message, field, value, hints, rfl⟩ := h
    rw [Handler.told, (Handler.read_markRetryable _ _).2, code_failed]
    rfl
  | unusable reason => rfl
  | _ => exact h.elim

/-- An identity that is valid is a text, and not an empty one. -/
theorem Identity.of_validate {label v : Value} {t : Text} (h : validate label v = .ok t) :
    v = .str t ∧ t ≠ [] := by
  unfold validate at h
  cases v with
  | str s =>
    dsimp only at h
    split_ifs at h with hblank hstrip hlong
    obtain rfl := Except.ok.inj h
    refine ⟨rfl, ?_⟩
    rintro rfl
    exact hblank rfl
  | _ => cases h

/-! ## What is told -/

namespace Tables

/-- A nickname has no owner, or one with a name. -/
theorem owner_cases {t : Tables} (hp : t.Paired) (hempty : t.registered [] = false)
    (nickname : Bytes) :
    t.owner nickname = .null ∨ ∃ name, name ≠ [] ∧ t.owner nickname = .str name := by
  rcases hp.legible.owner nickname with ⟨-, hnobody⟩ | ⟨hbound, -⟩
  · exact Or.inl hnobody
  · obtain ⟨item, hitem⟩ := Option.isSome_iff_exists.1 hbound
    obtain ⟨a, now, hkey, -, ha⟩ := hp.of_binding hitem
    obtain rfl : nickname = a.nickname := Hex.encode_injective hkey
    have htruthy := ha.isTruthy hempty
    refine Or.inr ⟨a.caller, ?_, ha.owner⟩
    rintro hcaller
    rw [hcaller] at htruthy
    cases htruthy

/-- A registration that is admitted gives its own record. -/
theorem record_of_verdict {t : Tables} {a : Application} {record : AddressRecord}
    (h : t.verdict a = .ok record) : record = a.record := by
  unfold verdict at h
  split_ifs at h
  exact (Except.ok.inj h).symm

variable (t : Tables)

/-- The record of an identity, which is null if there is none. -/
def recordAt? : Value → Option AddressRecord
  | .str name => t.record? name
  | _ => none

/-- What is told of an identity: its record, or zeros if it is not registered. -/
def recordTold (identity : Value) : Value :=
  match t.recordAt? identity with
  | some record => AddressRecord.shown identity true record.nickname record.address
  | none => AddressRecord.shown identity false (List.replicate 21 0) (List.replicate 32 0)

/-- What is told of the contact at an address: its name, or zeros if there is none. -/
def contactTold (owner : Text) (address : Bytes) : Value :=
  let record := t.contact? owner address
  .obj [("owner", .str owner), ("addr", .str (Field.encodeHex address)),
    ("name", .str (Field.encodeHex (record.getD .zeros).name)), ("exists", .bool record.isSome)]

end Tables

/-! ## Optional fields -/

/-- An optional field, by the function and by what its value is to tell. -/
inductive Choice where
  | contact
  | identity
  | owner
  | nickname
  deriving DecidableEq

namespace Choice

/-- The function that looks at the field. -/
def function : Choice → Function
  | .contact => Function.contactGet
  | .identity | .owner => Function.identityGet
  | .nickname => Function.identityRegister

/-- The name of the field. -/
def field : Choice → Text
  | .contact => "addr"
  | .identity => "identity"
  | .owner | .nickname => "nickname_hex"

/-- The response to a request makes use of the value of its optional field: it tells of the contact
    at the address, of the identity, of the owner of the nickname, or how the nickname is registered
    that is read from it. -/
def Uses (t : Tables) (caller : Text) (v response : Value) : Choice → Prop
  | .contact => ∃ address, Field.decodeHex Field.contactAddress.width (.str "addr") v =
      .ok address ∧ response.at? ["data", "contact"] = some (t.contactTold caller address)
  | .identity => ∃ name, v = .str name ∧ Response.recordTold? response = some (t.recordTold v)
  | .owner => ∃ nickname, Field.decodeHex Field.nickname.width (.str "nickname_hex") v =
      .ok nickname ∧ Response.recordTold? response = some (t.recordTold (t.owner nickname))
  | .nickname => ∃ a : Application, a.caller = caller ∧
      Field.decodeHex Field.nickname.width (.str "nickname_hex") v = .ok a.nickname ∧
      match t.verdict a with
      | .ok _ => Response.recordTold? response = some a.told
      | .error e => ∃ now, response = Handler.told Function.handlerName now e

/-- The response to a request heeds the value of its optional field: it makes use of it, or refuses
    the request. -/
def Heeds (choice : Choice) (t : Tables) (caller : Text) (v response : Value) : Prop :=
  choice.Uses t caller v response ∨ Response.Refuses response

theorem function_mem_all (choice : Choice) : choice.function ∈ Function.all := by
  cases choice <;> simp [function, Function.all]

/-- No use is made of an empty value. -/
theorem not_uses_of_empty {choice : Choice} {t : Tables} {caller : Text} {v response : Value}
    (hplain : Json.isPlain v = true) (hsupplied : Field.IsSupplied v)
    (hempty : v.isTruthy = false) : ¬choice.Uses t caller v response := by
  intro h
  cases choice with
  | contact =>
    obtain ⟨address, hread, -⟩ := h
    obtain ⟨e, he⟩ := Field.decodeHex_of_empty hplain hsupplied hempty
    cases hread.symm.trans he
  | identity =>
    obtain ⟨name, rfl, -⟩ := h
    cases name with
    | nil => exact hsupplied.2 rfl
    | cons c name => cases hempty
  | owner =>
    obtain ⟨nickname, hread, -⟩ := h
    obtain ⟨e, he⟩ := Field.decodeHex_of_empty hplain hsupplied hempty
    cases hread.symm.trans he
  | nickname =>
    obtain ⟨a, -, hread, -⟩ := h
    obtain ⟨e, he⟩ := Field.decodeHex_of_empty hplain hsupplied hempty
    cases hread.symm.trans he

/-! ## Values that are passed over -/

section
variable {choice : Choice} {caller : Text} {body : Object} {v : Value}

theorem fieldOrNull_of_field? {o : Object} {name : Text} (h : Object.field? name o = some v) :
    Object.fieldOrNull name o = v := by
  rw [Object.fieldOrNull, h, Option.getD_some]

theorem fieldOrNull_put_self (o : Object) (name : Text) (x : Value) :
    Object.fieldOrNull name (o.put name x) = x := by
  rw [Object.fieldOrNull, Object.field?_put_self, Option.getD_some]

theorem fieldOrNull_put_of_ne {name other : Text} (h : other ≠ name) (x : Value) (o : Object) :
    Object.fieldOrNull other (o.put name x) = Object.fieldOrNull other o := by
  rw [Object.fieldOrNull, Object.field?_put_of_ne h, Object.fieldOrNull]

/-- What an empty value of exact bytes leaves is the nickname that is a text. -/
theorem nickname_put_null (hv : Object.field? "nickname_hex" body = some v)
    (hempty : v.isTruthy = false) :
    Field.hasNickname (body.put "nickname_hex" .null) = Field.hasNickname body ∧
      Field.bytesIn (body.put "nickname_hex" .null) "nickname" =
        Field.bytesIn body "nickname" := by
  have hne : Text.ofString "nickname" ≠ Text.ofString "nickname_hex" := by decide
  have hnull : Value.null.isTruthy = false := rfl
  constructor
  · rw [Field.hasNickname, Field.hasNickname, fieldOrNull_put_self, fieldOrNull_put_of_ne hne,
      fieldOrNull_of_field? hv, hempty, hnull]
  · rw [Field.bytesIn, Field.bytesIn, if_pos rfl, if_pos rfl, Field.nicknameIn, Field.nicknameIn,
      fieldOrNull_put_self, fieldOrNull_put_of_ne hne, fieldOrNull_of_field? hv, hempty, hnull]
    rfl

/-- A function does the same for an empty value as for null. -/
theorem run_passes_over (hv : Object.field? choice.field body = some v)
    (hempty : v.isTruthy = false) :
    choice.function.run ⟨caller, body.put choice.field .null⟩ =
      choice.function.run ⟨caller, body⟩ := by
  have hnull : Value.null.isTruthy = false := rfl
  cases choice with
  | contact =>
    have hv : Object.fieldOrNull "addr" body = v := fieldOrNull_of_field? hv
    simp only [function, field, Function.contactGet, fieldOrNull_put_self, hv, hempty, hnull,
      Bool.false_eq_true, if_false]
  | identity =>
    have hv : Object.fieldOrNull "identity" body = v := fieldOrNull_of_field? hv
    have hsame : Object.SameAt ["nickname", "nickname_hex"] body (body.put "identity" .null) := by
      simp only [Object.SameAt, List.forall_mem_cons]
      exact ⟨Object.field?_put_of_ne (by decide) _ _, Object.field?_put_of_ne (by decide) _ _,
        List.forall_mem_nil _⟩
    simp only [function, field, Function.identityGet, Function.wantedIdentity,
      fieldOrNull_put_self, hv, hempty, hnull, Bool.false_eq_true, if_false]
    rw [hsame.hasNickname (by simp) (by simp), hsame.nickname (by simp) (by simp)]
  | owner =>
    obtain ⟨hgiven, hbytes⟩ := nickname_put_null hv hempty
    have hne : Text.ofString "identity" ≠ Text.ofString "nickname_hex" := by decide
    simp only [function, field, Function.identityGet, Function.wantedIdentity]
    rw [hgiven, hbytes, fieldOrNull_put_of_ne hne]
  | nickname =>
    obtain ⟨hgiven, hbytes⟩ := nickname_put_null hv hempty
    have hsame : Object.SameAt ["address"] body (body.put "nickname_hex" .null) :=
      List.forall_mem_singleton.2 (Object.field?_put_of_ne (by decide) _ _)
    simp only [function, field, Function.identityRegister]
    rw [hgiven, hbytes, hsame.bytesIn (by simp) (by decide)]

/-- The field is not required. -/
theorem missing_put_null : Field.missingFrom choice.function.required
      (.obj (body.put choice.field .null)) =
    Field.missingFrom choice.function.required (.obj body) := by
  have hfield : ∀ name ∈ choice.function.required, name ≠ choice.field := by
    cases choice <;> decide
  refine List.filter_congr fun name hname => ?_
  rw [Field.isMissing, Object.field?_put_of_ne (hfield name hname), Field.isMissing]

/-- An event is answered with an empty value as with null. -/
theorem answer_passes_over {event event' : Value} (hc : Identity.IsCaller caller)
    (hb : Request.Brings caller body event)
    (hb' : Request.Brings caller (body.put choice.field .null) event')
    (hv : Object.field? choice.field body = some v) (hempty : v.isTruthy = false) :
    choice.function.handler.answer event' = choice.function.handler.answer event := by
  have hserved : (Act.ofExcept (Request.accept (Request.require choice.function.required)
      event')).bind choice.function.run = (Act.ofExcept (Request.accept
        (Request.require choice.function.required) event)).bind choice.function.run := by
    rw [Request.accept, Request.accept, hb.ofEvent hc, hb'.ofEvent hc]
    simp only [Except.bind, Request.require, missing_put_null]
    split
    · exact run_passes_over hv hempty
    · rfl
  unfold Handler.answer
  simp only [bind_eq, liftM_eq, Function.handler]
  rw [hserved]

end

/-! ## Values that are used -/

/-- What a program ends with is told by a response of some kind. -/
def Told (P : Value → Prop) : Except Failure Value → Prop
  | .ok response => P response
  | .error e => ∀ now, P (Handler.told Function.handlerName now e)

section
variable {α : Type} {choice : Choice} {t : Tables} {caller : Text} {v : Value} {w : World}

/-- What is read of a request is read, or the request is refused. -/
theorem told_ofExcept {x : Except Failure α} (hx : Complains x) {k : α → Act Value}
    (h : ∀ a, x = .ok a → Told (choice.Heeds t caller v) ((k a).run w).1) :
    Told (choice.Heeds t caller v) (((Act.ofExcept x).bind k).run w).1 := by
  cases x with
  | ok a => exact h a rfl
  | error e => exact fun now => Or.inr (Response.refuses_told (hx e rfl) _ now)

/-- A service that has its place in the container is found there. -/
theorem service_tells {name : Text} {n : Nat} {service : Service}
    (hresolve : (w.container.resolve (.str name)).1 = .ok (n, service)) :
    (Act.service name).Tells w (.ok service) := by
  have hreply : w.reply (.service (.str name)) =
      ((w.container.resolve (.str name)).1.map (·.2), (w.resolve (.str name)).2) := rfl
  constructor <;> rw [Act.service, run_ask, hreply, hresolve] <;> rfl

end

section
variable {w : World} (hw : w.IsServing) (ht : w.tables.Sound) {caller : Text} {body : Object}
  {v : Value}
include hw ht

/-- Whoever asks for an address is told of the contact there. -/
theorem contact_heeds (hv : Object.field? "addr" body = some v) (htruthy : v.isTruthy = true) :
    Told (contact.Heeds w.tables caller v) ((Function.contactGet.run ⟨caller, body⟩).run w).1 := by
  have hnull : Object.fieldOrNull "addr" body = v := fieldOrNull_of_field? hv
  have hread : Field.bytesIn body "addr" =
      Field.decodeHex Field.contactAddress.width (.str "addr") v := by
    rw [Field.bytesIn, if_neg (by decide), hnull]
    rfl
  obtain ⟨n, book, hresolve⟩ := hw.book
  obtain ⟨w₁, hquiet, -, h1, hrun⟩ := (service_tells hresolve).run_bind hw.quiet _
  simp only [Function.contactGet, bind_eq, liftM_eq, hnull, htruthy, if_true, hread]
  rw [hrun]
  refine told_ofExcept (Field.decodeHex_complains _ _ _) fun address haddress => ?_
  simp only [Service.asContactBook, ofExcept_ok, done_bind]
  have hfiled (w' : World) (h : w'.tables = w.tables) : w'.tables.Filed := h ▸ ht.filed
  obtain ⟨record, hrecord, rfl, h2⟩ := Scene.Ends.run hquiet
    (book.get_ends (s := ⟨w₁, []⟩) (hfiled w₁ h1) Troubles.areTold_quiet caller address)
  obtain ⟨w₂, hquiet₂, -, h2, hrun₂⟩ := Act.Tells.run_bind ⟨hrecord, h2⟩ hquiet _
  obtain ⟨present, hpresent, hthere, h3⟩ := Scene.Ends.run hquiet₂
    (book.contains_ends (s := ⟨w₂, []⟩) (hfiled w₂ (h2.trans h1)) Troubles.areTold_quiet caller
      address)
  obtain ⟨w₃, -, -, -, hrun₃⟩ := Act.Tells.run_bind ⟨hpresent, h3⟩ hquiet₂ _
  obtain rfl : present = (w₁.tables.contact? caller address).isSome :=
    hthere.trans (congrArg (fun t => (Tables.contact? t caller address).isSome) h2)
  rw [hrun₂, hrun₃, ← h1]
  exact Or.inl ⟨address, haddress, rfl⟩

end

/-- A look-up ends with what is told of the identity that is wanted. -/
theorem recordOf_heeds {choice : Choice} {caller : Text} {v : Value} {t : Tables} {w : World}
    (hquiet : w.IsQuiet) (hp : w.tables.Paired) (registry : Registry) {identity : Value}
    (hidentity : identity = .null ∨ ∃ name, name ≠ [] ∧ identity = .str name) (lookup : Text)
    (h : ∀ response, Response.recordTold? response = some (w.tables.recordTold identity) →
      choice.Heeds t caller v response) :
    Told (choice.Heeds t caller v) (((Function.recordOf (.registry registry) identity).bind
      fun found => Function.success "identity-get" .getIdentity [("record", .obj
        ((found.getD AddressRecord.empty).toObject identity (.bool found.isSome)))]
        [("lookup", .str lookup)]).run w).1 := by
  have hfound : (Function.recordOf (.registry registry) identity).Tells w
      (.ok (w.tables.recordAt? identity)) := by
    unfold Function.recordOf
    simp only [bind_eq, liftM_eq, pure_eq]
    obtain rfl | ⟨name, hname, rfl⟩ := hidentity
    · exact ⟨rfl, rfl⟩
    · have htruthy : (Value.str name).isTruthy = true := by
        cases name with
        | nil => exact absurd rfl hname
        | cons c name => rfl
      obtain ⟨_, hx, rfl, h1⟩ := Scene.Ends.run hquiet
        (registry.findRecord_ends (s := ⟨w, []⟩) Troubles.areTold_quiet hp name)
      rw [htruthy]
      exact ⟨hx, h1⟩
  obtain ⟨w', -, -, -, hrun⟩ := hfound.run_bind hquiet _
  rw [hrun]
  refine h _ ?_
  unfold Tables.recordTold
  cases w.tables.recordAt? identity <;> rfl

section
variable {w : World} (hw : w.IsServing) (ht : w.tables.Sound) {caller : Text} {body : Object}
  {v : Value}
include hw ht

/-- Whoever asks for an identity, and for no nickname, is told of it. -/
theorem identity_heeds (hv : Object.field? "identity" body = some v) (htruthy : v.isTruthy = true)
    (halone : Field.hasNickname body = false) :
    Told (identity.Heeds w.tables caller v)
      ((Function.identityGet.run ⟨caller, body⟩).run w).1 := by
  have hnull : Object.fieldOrNull "identity" body = v := fieldOrNull_of_field? hv
  obtain ⟨n, registry, hresolve⟩ := hw.registry
  obtain ⟨w₁, hquiet, -, h1, hrun⟩ := (service_tells hresolve).run_bind hw.quiet _
  simp only [Function.identityGet, Function.wantedIdentity, bind_eq, liftM_eq, pure_eq, halone,
    Bool.false_eq_true, if_false, hnull, htruthy, if_true, bind_assoc, done_bind]
  rw [hrun]
  refine told_ofExcept (Identity.validate_complains _ _) fun name hname => ?_
  obtain ⟨rfl, hne⟩ := Identity.of_validate hname
  refine recordOf_heeds hquiet (h1 ▸ ht.paired) registry (Or.inr ⟨name, hne, rfl⟩) _
    fun response hresponse => Or.inl ⟨name, rfl, ?_⟩
  rw [hresponse, h1]

/-- Whoever asks for a nickname by its bytes is told of its owner. -/
theorem owner_heeds (hempty : w.tables.registered [] = false)
    (hv : Object.field? "nickname_hex" body = some v) (htruthy : v.isTruthy = true) :
    Told (owner.Heeds w.tables caller v) ((Function.identityGet.run ⟨caller, body⟩).run w).1 := by
  have hnull : Object.fieldOrNull "nickname_hex" body = v := fieldOrNull_of_field? hv
  have hgiven : Field.hasNickname body = true := by
    rw [Field.hasNickname, hnull, htruthy, Bool.true_or]
  have hread : Field.bytesIn body "nickname" =
      Field.decodeHex Field.nickname.width (.str "nickname_hex") v := by
    rw [Field.bytesIn, if_pos rfl, Field.nicknameIn]
    simp only [hnull, htruthy, if_true]
  obtain ⟨n, registry, hresolve⟩ := hw.registry
  obtain ⟨w₁, hquiet, -, h1, hrun⟩ := (service_tells hresolve).run_bind hw.quiet _
  simp only [Function.identityGet, Function.wantedIdentity, bind_eq, liftM_eq, pure_eq, hgiven,
    if_true, hread, bind_assoc, done_bind]
  rw [hrun]
  refine told_ofExcept (Field.decodeHex_complains _ _ _) fun nickname hnickname => ?_
  simp only [Service.asRegistry, ofExcept_ok, done_bind]
  have hpaired : w₁.tables.Paired := h1 ▸ ht.paired
  obtain ⟨_, howner, rfl, h2⟩ := Scene.Ends.run hquiet (registry.resolveNickname_ends
    (s := ⟨w₁, []⟩) Troubles.areTold_quiet hpaired.legible nickname)
  obtain ⟨w₂, hquiet₂, -, h2, hrun₂⟩ := Act.Tells.run_bind ⟨howner, h2⟩ hquiet _
  rw [hrun₂]
  refine recordOf_heeds hquiet₂ (h2 ▸ hpaired) registry ?_ _
    fun response hresponse => Or.inl ⟨nickname, hnickname, ?_⟩
  · exact Tables.owner_cases hpaired (h1 ▸ hempty) nickname
  · rw [hresponse, h2, ← h1]
    rfl

/-- Whoever registers a nickname by its bytes is told how that is registered. -/
theorem nickname_heeds (hv : Object.field? "nickname_hex" body = some v)
    (htruthy : v.isTruthy = true) : Told (nickname.Heeds w.tables caller v)
      ((Function.identityRegister.run ⟨caller, body⟩).run w).1 := by
  have hnull : Object.fieldOrNull "nickname_hex" body = v := fieldOrNull_of_field? hv
  have hgiven : Field.hasNickname body = true := by
    rw [Field.hasNickname, hnull, htruthy, Bool.true_or]
  have hread : Field.bytesIn body "nickname" =
      Field.decodeHex Field.nickname.width (.str "nickname_hex") v := by
    rw [Field.bytesIn, if_pos rfl, Field.nicknameIn]
    simp only [hnull, htruthy, if_true]
  simp only [Function.identityRegister, bind_eq, liftM_eq, hgiven, Bool.not_true,
    Bool.false_eq_true, if_false, hread]
  refine told_ofExcept (Field.decodeHex_complains _ _ _) fun nickname hnickname => ?_
  refine told_ofExcept (Field.bytesIn_complains _ (by decide) rfl) fun address haddress => ?_
  obtain ⟨n, registry, hresolve⟩ := hw.registry
  obtain ⟨w₁, hquiet, -, h1, hrun⟩ := (service_tells hresolve).run_bind hw.quiet _
  rw [hrun]
  simp only [Service.asRegistry, ofExcept_ok, done_bind]
  have hlength := Field.length_of_nickname (hread.trans hnickname)
  have hlength' : address.length = Field.address.width :=
    Field.length_of_bytesIn (by decide) rfl haddress
  let a : Application := ⟨caller, nickname, address, hlength, hlength'⟩
  obtain ⟨hverdict, -⟩ := Registry.register_run registry hquiet (h1 ▸ ht.paired) (a := a)
  have huses (response : Value) (h : match w₁.tables.verdict a with
      | .ok _ => Response.recordTold? response = some a.told
      | .error e => ∃ now, response = Handler.told Function.handlerName now e) :
      Choice.nickname.Heeds w.tables caller v response := Or.inl ⟨a, rfl, hnickname, h1 ▸ h⟩
  rw [run_bind]
  rcases hregister : (registry.register (.str caller) nickname address).run w₁ with ⟨x, w₂⟩
  obtain rfl : x = w₁.tables.verdict a := (congrArg Prod.fst hregister).symm.trans hverdict
  cases hx : w₁.tables.verdict a with
  | error e =>
    refine fun now => huses _ ?_
    rw [hx]
    exact ⟨now, rfl⟩
  | ok record =>
    refine huses _ ?_
    rw [hx, Tables.record_of_verdict hx]
    dsimp only
    rfl

end

/-- A value that is not empty is heeded.  Whoever asks for an identity asks for no nickname
    besides. -/
theorem run_heeds {choice : Choice} {w : World} (hw : w.IsServing) (ht : Function.Reaches w.tables)
    {caller : Text} {body : Object} {v : Value} (hv : Object.field? choice.field body = some v)
    (htruthy : v.isTruthy = true)
    (halone : choice = .identity → Field.hasNickname body = false) :
    Told (choice.Heeds w.tables caller v) ((choice.function.run ⟨caller, body⟩).run w).1 := by
  cases choice with
  | contact => exact contact_heeds hw ht.sound hv htruthy
  | identity => exact identity_heeds hw ht.sound hv htruthy (halone rfl)
  | owner => exact owner_heeds hw ht.sound ht.unregistered_empty hv htruthy
  | nickname => exact nickname_heeds hw ht.sound hv htruthy

/-! ## Calls -/

section
variable (choice : Choice) {w : World} {caller : Text} {body : Object} {v : Value} {event : Value}

/-- A response of some kind is given to what a program ends with. -/
theorem answered_of_told {P : Value → Prop} {x : Except Failure Value} (h : Told P x)
    {response : Value} (hx : x = .ok response ∨
      ∃ e now, x = .error e ∧ response = Handler.told Function.handlerName now e) :
    P response := by
  rcases hx with rfl | ⟨e, now, rfl, rfl⟩
  · exact h
  · exact h now

/-- Where nothing goes wrong, every call is answered, and the answer delivers a response. -/
theorem invoke_answers (hw : w.IsServing) (ht : Function.Reaches w.tables)
    (event context : Value) : ∃ answer entry response,
    ((choice.function.invoke event context).run w).1 = .ok answer ∧
    Handler.deliver event response = .ok answer ∧
    ((choice.function.handler.answer event).run (w.readStopwatch.2.log entry)).1 =
      .ok response := by
  obtain ⟨answer, hanswer, -⟩ | ⟨e, -, hno⟩ :=
    (Function.invoke_returns choice.function_mem_all event context).run (hw.plain ht)
  · obtain ⟨entry, response, hanswered, hdeliver⟩ := Function.answer_of_invoke hanswer
    exact ⟨answer, entry, response, hanswer, hdeliver, hanswered⟩
  · exact hno.elim

/-- **What is supplied is heeded just where it is not empty**, or the request is refused without it,
    too.  Where nothing goes wrong and the tables come of calls of the functions, a value of an
    optional field that is neither null nor an empty text is used, or it is refused; but an empty
    one, such as zero, false or an empty list, is passed over: the response is that to the request
    with null in its place. -/
theorem invoke_heeds_iff (hw : w.IsServing) (ht : Function.Reaches w.tables)
    (hc : Identity.IsCaller caller) (hb : Request.Brings caller body event)
    (hv : Object.field? choice.field body = some v) (hplain : Json.isPlain v = true)
    (hsupplied : Field.IsSupplied v)
    (halone : choice = .identity → Field.hasNickname body = false) (context : Value) :
    ∃ answer response, ((choice.function.invoke event context).run w).1 = .ok answer ∧
      Handler.deliver event response = .ok answer ∧
      (choice.Heeds w.tables caller v response ↔
        v.isTruthy = true ∨ Response.Refuses response) ∧
      (v.isTruthy = false → ∀ event' context',
        Request.Brings caller (body.put choice.field .null) event' →
          ∃ answer', ((choice.function.invoke event' context').run w).1 = .ok answer' ∧
            Handler.deliver event' response = .ok answer') := by
  obtain ⟨answer, entry, response, hanswer, hdeliver, hanswered⟩ :=
    choice.invoke_answers hw ht event context
  refine ⟨answer, response, hanswer, hdeliver, ⟨?_, ?_⟩, ?_⟩
  · intro h
    cases hv' : v.isTruthy with
    | true => exact Or.inl rfl
    | false => exact Or.inr (h.resolve_left (not_uses_of_empty hplain hsupplied hv'))
  · rintro (htruthy | hrefuses)
    · obtain ⟨hserving, htables⟩ := hw.begun entry
      obtain ⟨response', hanswered', hx⟩ :=
        Function.answer_run choice.function event (w.readStopwatch.2.log entry)
      obtain rfl : response' = response := Except.ok.inj (hanswered'.symm.trans hanswered)
      refine answered_of_told ?_ hx
      rw [Request.accept, hb.ofEvent hc, ← htables]
      refine told_ofExcept (Request.require_complains _ _) fun request hrequire => ?_
      obtain rfl : ⟨caller, body⟩ = request := by
        rw [Request.require] at hrequire
        split at hrequire
        · exact Except.ok.inj hrequire
        · cases hrequire
      exact run_heeds hserving (htables ▸ ht) hv htruthy halone
    · exact Or.inr hrefuses
  · intro hempty event' context' hb'
    obtain ⟨answer', entry', response', hanswer', hdeliver', hanswered'⟩ :=
      choice.invoke_answers hw ht event' context'
    have hagrees : (w.readStopwatch.2.log entry).AgreesWith (w.readStopwatch.2.log entry') := rfl
    rw [answer_passes_over hc hb hb' hv hempty, (Act.run_agrees _ hagrees).1, hanswered]
      at hanswered'
    obtain rfl := Except.ok.inj hanswered'
    exact ⟨answer', hanswer', hdeliver'⟩

end

/-- Somebody asks for the caller of a registration. -/
def seekEnrolled : Object := [("caller", .str "bob"), ("identity", .str "ann")]

/-- Whoever is asked for by name is told of. -/
theorem seekEnrolled_heeded :
    Function.enrolledWorld.IsServing ∧ Function.Reaches Function.enrolledWorld.tables ∧
      Identity.IsCaller "bob" ∧ Request.Brings "bob" seekEnrolled (.obj seekEnrolled) ∧
      Object.field? "identity" seekEnrolled = some (.str "ann") ∧
      Json.isPlain (.str "ann") = true ∧ Field.IsSupplied (.str "ann") ∧
      Field.hasNickname seekEnrolled = false ∧
      ∃ answer response, ((Function.identityGet.invoke (.obj seekEnrolled) .null).run
          Function.enrolledWorld).1 = .ok answer ∧
        Handler.deliver (.obj seekEnrolled) response = .ok answer ∧
        identity.Heeds Function.enrolledWorld.tables "bob" (.str "ann") response := by
  have hw := Function.enrolledWorld_isServing
  have ht := Function.enrolledWorld_reached
  have hc : Identity.IsCaller "bob" := ⟨rfl, rfl⟩
  have hb : Request.Brings "bob" seekEnrolled (.obj seekEnrolled) := .direct rfl rfl
  have hsupplied : Field.IsSupplied (.str "ann") := ⟨nofun, nofun⟩
  obtain ⟨answer, response, hanswer, hdeliver, hheeds, -⟩ :=
    identity.invoke_heeds_iff hw ht hc hb rfl rfl hsupplied (fun _ => rfl) .null
  exact ⟨hw, ht, hc, hb, rfl, rfl, hsupplied, rfl, answer, response, hanswer, hdeliver,
    hheeds.2 (Or.inl rfl)⟩

/-- A caller asks for an identity that is zero. -/
def seekZero : Object := [("caller", .str "ann"), ("identity", .int 0)]

/-- A zero is passed over, and the caller is told of itself. -/
theorem seekZero_passed_over :
    blankWorld.IsServing ∧ Function.Reaches blankWorld.tables ∧ Identity.IsCaller "ann" ∧
      Request.Brings "ann" seekZero (.obj seekZero) ∧
      Object.field? "identity" seekZero = some (.int 0) ∧ Json.isPlain (.int 0) = true ∧
      Field.IsSupplied (.int 0) ∧ Field.hasNickname seekZero = false ∧
      ∃ answer, ((Function.identityGet.invoke (.obj seekZero) .null).run blankWorld).1 =
          .ok answer ∧
        Handler.deliver (.obj seekZero) answer = .ok answer ∧
        Response.recordTold? answer = some (blankWorld.tables.recordTold (.str "ann")) ∧
        ¬identity.Heeds blankWorld.tables "ann" (.int 0) answer := by
  have htimed : blankWorld.IsTimed := List.forall_mem_nil _
  have hw : blankWorld.IsServing :=
    ⟨⟨rfl, rfl, by decide⟩, htimed, List.forall_mem_nil _, List.forall_mem_nil _, ⟨_, _, rfl⟩,
      ⟨_, _, rfl⟩, ⟨_, _, 0, _, rfl, .made rfl rfl rfl rfl⟩, rfl⟩
  have hsupplied : Field.IsSupplied (.int 0) := ⟨nofun, nofun⟩
  refine ⟨hw, .start, ⟨rfl, rfl⟩, .direct rfl rfl, rfl, rfl, hsupplied, rfl, _, rfl, rfl, rfl, ?_⟩
  rintro (huses | hrefuses)
  · exact not_uses_of_empty rfl hsupplied rfl huses
  · cases hrefuses.failed

end Choice

end Rendezvous
