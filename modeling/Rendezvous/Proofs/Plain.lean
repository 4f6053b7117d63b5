/-
  Programs in a world without bytes.

  Responses are written as JSON text, which cannot hold bytes.  What a client is told comes from
  the request, but also from the tables, the event bus, the transports and the failures of calls.

  * `Failure.IsPlain`: a client can be told a failure: its code is one of ours and its details hold
    no bytes;
  * `World.IsPlain`: nothing in the world holds bytes where they would be told;
  * `Act.Closes`: how a program ends wherever the replies are plain: it `Plains` if its failures are
    plain, and it `Returns` if it has none; `Closes.bind` and `Closes.attempt_bind` follow the way
    programs are put together, and `Closes.run` says so of a run in a plain world.
-/
import Rendezvous.Proofs.Blame
import Rendezvous.Proofs.Contacts

namespace Rendezvous

/-! ## Values -/

namespace Json

theorem isPlain_arr {items : List Value} :
    isPlain (.arr items) = true ↔ ∀ v ∈ items, isPlain v = true := by
  rw [isPlain]
  induction items with
  | nil => simp [itemsPlain]
  | cons v items ih => simp [itemsPlain, ih]

theorem isPlain_obj {o : Object} :
    isPlain (.obj o) = true ↔ ∀ entry ∈ o, isPlain entry.2 = true := by
  rw [isPlain]
  induction o with
  | nil => simp [fieldsPlain]
  | cons entry o ih => simp [fieldsPlain, ih]

theorem isPlain_field? {o : Object} {name : Text} {v : Value} (h : isPlain (.obj o) = true)
    (hv : o.field? name = some v) : isPlain v = true := by
  rw [isPlain_obj] at h
  induction o with
  | nil => cases hv
  | cons entry o ih =>
    obtain ⟨k, x⟩ := entry
    by_cases hk : k = name
    · rw [Object.field?, if_pos hk] at hv
      obtain rfl := Option.some.inj hv
      exact h _ List.mem_cons_self
    · rw [Object.field?, if_neg hk] at hv
      exact ih (fun entry hentry => h entry (List.mem_cons_of_mem _ hentry)) hv

theorem isPlain_fieldOrNull {o : Object} (name : Text) (h : isPlain (.obj o) = true) :
    isPlain (o.fieldOrNull name) = true := by
  rw [Object.fieldOrNull]
  cases hv : o.field? name with
  | none => rfl
  | some v => exact isPlain_field? h hv

theorem isPlain_put {o : Object} {name : Text} {v : Value} (h : isPlain (.obj o) = true)
    (hv : isPlain v = true) : isPlain (.obj (o.put name v)) = true := by
  rw [isPlain_obj] at h ⊢
  induction o with
  | nil => simpa [Object.put] using hv
  | cons entry o ih =>
    obtain ⟨k, x⟩ := entry
    have hrest := ih fun entry hentry => h entry (List.mem_cons_of_mem _ hentry)
    by_cases hk : k = name
    · rw [Object.put, if_pos hk]
      exact List.forall_mem_cons.2 ⟨hv, (List.forall_mem_cons.1 h).2⟩
    · rw [Object.put, if_neg hk]
      exact List.forall_mem_cons.2 ⟨h _ List.mem_cons_self, hrest⟩

theorem isPlain_merge {o extra : Object} (h : isPlain (.obj o) = true)
    (he : isPlain (.obj extra) = true) : isPlain (.obj (o.merge extra)) = true := by
  rw [Object.merge]
  rw [isPlain_obj] at he
  induction extra generalizing o with
  | nil => exact h
  | cons entry extra ih =>
    obtain ⟨hv, he⟩ := List.forall_mem_cons.1 he
    exact ih (isPlain_put h hv) he

theorem isPlain_present {o : Object} (h : isPlain (.obj o) = true) :
    isPlain (ServiceError.present o) = true := by
  rw [isPlain_obj] at h
  rw [ServiceError.present, isPlain_obj]
  exact fun entry hentry => h entry (List.mem_filter.1 hentry).1

end Json

/-! ## Failures -/

/-- A failure of the service has one of our codes and a text, and its details hold no bytes. -/
structure ServiceError.IsPlain (e : ServiceError) : Prop where
  code : ∃ c : ErrorCode, e.code = .str c.text
  message : ∃ text, e.message = .str text
  details : Json.isPlain e.details = true

/-- A failure that a client can be told. -/
def Failure.IsPlain : Failure → Prop
  | .service e => e.IsPlain
  | _ => True

/-- A plain failure, or a result of some kind. -/
def Plainly {α : Type} (R : α → Prop) : Except Failure α → Prop
  | .ok a => R a
  | .error e => e.IsPlain

/-- If at all, something fails plainly. -/
abbrev FailsPlainly {α : Type} (x : Except Failure α) : Prop := Plainly (fun _ => True) x

theorem Failure.IsMishap.isPlain {e : Failure} (h : e.IsMishap) : e.IsPlain := by
  cases e with
  | service e => exact h.elim
  | _ => trivial

theorem Failure.isPlain_atField (message : Text) {field : Value} (h : Json.isPlain field = true) :
    (Failure.atField message field).IsPlain := by
  refine ⟨⟨.validation, rfl⟩, ⟨_, rfl⟩, Json.isPlain_present (Json.isPlain_obj.2 ?_)⟩
  simpa [Json.isPlain] using h

theorem Failure.isPlain_toStorage (operation table : Text) (e : Failure) :
    (Failure.service (e.toStorage (.str operation) (.str table))).IsPlain := by
  refine ⟨⟨.storage, rfl⟩, ⟨_, rfl⟩, Json.isPlain_present (Json.isPlain_obj.2 ?_)⟩
  simp [Json.isPlain]

namespace Plainly
variable {α β : Type} {R : α → Prop} {S : β → Prop}

theorem bind {x : Except Failure α} {f : α → Except Failure β} (hx : Plainly R x)
    (hf : ∀ a, R a → Plainly S (f a)) : Plainly S (x.bind f) := by
  cases x with
  | ok a => exact hf a hx
  | error e => exact hx

theorem map {x : Except Failure α} {f : α → β} (hx : Plainly R x) (hf : ∀ a, R a → S (f a)) :
    Plainly S (x.map f) := by
  cases x with
  | ok a => exact hf a hx
  | error e => exact hx

theorem mapM {f : α → Except Failure β} (hf : ∀ a, FailsPlainly (f a)) (l : List α) :
    FailsPlainly (l.mapM f) := by
  induction l with
  | nil => trivial
  | cons a l ih =>
    rw [List.mapM_cons]
    exact (hf a).bind fun b _ => ih.bind fun bs _ => trivial

theorem of_mishaps {x : Except Failure α} (h : Mishaps x) : FailsPlainly x := by
  cases x with
  | ok a => trivial
  | error e => exact (h e rfl).isPlain

end Plainly

/-! ## Worlds -/

/-- The failure of a transport, and the bus that it names, are plain. -/
def Transport.IsPlain : Transport → Prop
  | .bus name _ _ => Json.isPlain name = true
  | .recording (some failure) => failure.IsPlain
  | .recording none | .undefined => True

/-- A binding that another writer puts is of a plain identity. -/
def Intrusion.IsPlain : Intrusion → Prop
  | .binding item => Json.isPlain item.identity = true
  | _ => True

namespace Query

/-- A question puts nothing but what is plain where it may be read again. -/
def IsPlain : Query → Prop
  | .store (.register _ binding) => Json.isPlain binding.identity = true
  | .keepTransport _ kept => kept.IsPlain
  | _ => True

/-- What a call to the store finds holds no bytes where they would be told. -/
def PlainResult : (call : StoreCall) → call.Result → Prop
  | .getBinding _, found => ∀ item, found = some item → Json.isPlain item.identity = true
  | _, _ => True

/-- A reply holds no bytes where they would be told, and a stopwatch reads floating numbers. -/
def PlainReply : (q : Query) → q.Reply → Prop
  | .stopwatch, reading => ∃ x, reading = .float x
  | .store call, reply => Plainly (PlainResult call) reply
  | .service _, reply => FailsPlainly reply
  | .transport _, found => ∀ transport, found = some transport → transport.IsPlain
  | .putEvent _, reply => Plainly (fun v => Json.isPlain v = true) reply
  | _, _ => True

end Query

/-- Nothing in the world holds bytes where they would be told, and its stopwatch is not broken. -/
structure World.IsPlain (w : World) : Prop where
  readings : ∀ reading ∈ w.readings, ∃ x, reading = .float x
  bindings : ∀ entry ∈ w.tables.nicknames, Json.isPlain entry.2.identity = true
  intruders : ∀ intruder ∈ w.intruders, intruder.IsPlain
  faults : ∀ fault ∈ w.faults, fault.failure.IsPlain
  replies : ∀ reply ∈ w.replies, Plainly (fun v => Json.isPlain v = true) reply
  transports : ∀ entry ∈ w.transports, entry.2.IsPlain

namespace Tables

/-- All bindings are of plain identities. -/
def BindsPlain (t : Tables) : Prop := ∀ entry ∈ t.nicknames, Json.isPlain entry.2.identity = true

variable {t : Tables}

theorem BindsPlain.putBinding (h : t.BindsPlain) {item : BindingItem}
    (hi : Json.isPlain item.identity = true) : (t.putBinding item).BindsPlain := by
  intro entry hentry
  rcases Table.mem_of_mem_put hentry with rfl | hold
  · exact hi
  · exact h entry hold

theorem BindsPlain.letIn (h : t.BindsPlain) {intruders : List Intrusion}
    (hi : ∀ intruder ∈ intruders, intruder.IsPlain) :
    (intruders.foldl Intrusion.apply t).BindsPlain := by
  induction intruders generalizing t with
  | nil => exact h
  | cons intruder intruders ih =>
    obtain ⟨hfirst, hrest⟩ := List.forall_mem_cons.1 hi
    refine ih ?_ hrest
    cases intruder with
    | identity key item => exact h
    | binding item => exact h.putBinding hfirst
    | contact owner item => exact h

theorem isPlain_of_key {v : Value} {e : Failure} (h : v.key = .error e) : e.IsPlain := by
  cases v <;> cases h <;> trivial

/-- What the tables answer holds no bytes where they would be told. -/
theorem BindsPlain.call (h : t.BindsPlain) {call : StoreCall} (hq : (Query.store call).IsPlain) :
    (Query.store call).PlainReply (t.call call).1 ∧ (t.call call).2.BindsPlain := by
  cases call with
  | getBinding nickname =>
    exact ⟨fun item hitem => h _ (Table.mem_of_find? hitem), h⟩
  | queryContacts owner => exact ⟨trivial, h⟩
  | register record binding =>
    simp only [Tables.call, keyed]
    cases hk : record.identity.key with
    | error e => exact ⟨isPlain_of_key hk, h⟩
    | ok key =>
      simp only [register]
      split
      · exact ⟨trivial, BindsPlain.putBinding h hq⟩
      · exact ⟨trivial, h⟩
  | getIdentity identity =>
    simp only [Tables.call, keyed]
    cases hk : identity.key with
    | error e => exact ⟨isPlain_of_key hk, h⟩
    | ok key => exact ⟨trivial, h⟩
  | getContact owner digest =>
    simp only [Tables.call, keyed]
    cases hk : owner.key with
    | error e => exact ⟨isPlain_of_key hk, h⟩
    | ok key => exact ⟨trivial, h⟩
  | putContact item =>
    simp only [Tables.call, keyed]
    cases hk : item.owner.key with
    | error e => exact ⟨isPlain_of_key hk, h⟩
    | ok key => exact ⟨trivial, h⟩
  | deleteContact owner digest =>
    simp only [Tables.call, keyed]
    cases hk : owner.key with
    | error e => exact ⟨isPlain_of_key hk, h⟩
    | ok key => exact ⟨trivial, h⟩

end Tables

namespace Container

/-- A service that is not there fails plainly. -/
theorem resolve_plainly (c : Container) (name : Value) :
    FailsPlainly ((c.resolve name).1.map (·.2)) := by
  unfold resolve
  cases hk : name.key with
  | error e => exact Tables.isPlain_of_key hk
  | ok key =>
    simp only [resolveAt]
    split
    · trivial
    · split
      · trivial
      · rename_i failure heq
        unfold make at heq
        split_ifs at heq
        cases heq
        trivial

end Container

namespace World.IsPlain
variable {w : World} (h : w.IsPlain)
include h

theorem callStore {call : StoreCall} (hq : (Query.store call).IsPlain) :
    (Query.store call).PlainReply (w.callStore call).1 ∧ (w.callStore call).2.IsPlain := by
  obtain ⟨htaken, hleft⟩ := mem_of_takeFault call.operation w.faults
  have hfaults : ∀ fault ∈ (takeFault call.operation w.faults).2, fault.failure.IsPlain := by
    intro fault hfault
    obtain ⟨waiting, hmem, -, hfailure⟩ := hleft fault hfault
    exact hfailure ▸ h.faults waiting hmem
  rw [World.callStore]
  split
  · rename_i failure faults heq
    rw [heq] at htaken hfaults
    obtain ⟨fault, hmem, -, hfailure⟩ := htaken failure rfl
    have hplain : failure.IsPlain := hfailure ▸ h.faults fault hmem
    exact ⟨hplain, h.readings, h.bindings, h.intruders, hfaults, h.replies, h.transports⟩
  · rename_i faults heq
    rw [heq] at hfaults
    have hbinds : w.tables.BindsPlain := h.bindings
    split
    · obtain ⟨hreply, htables⟩ := (hbinds.letIn h.intruders).call hq
      exact ⟨hreply, h.readings, htables, List.forall_mem_nil _, hfaults, h.replies, h.transports⟩
    · obtain ⟨hreply, htables⟩ := hbinds.call hq
      exact ⟨hreply, h.readings, htables, h.intruders, hfaults, h.replies, h.transports⟩

theorem reply {q : Query} (hq : q.IsPlain) :
    q.PlainReply (w.reply q).1 ∧ (w.reply q).2.IsPlain := by
  cases q with
  | store call => exact h.callStore hq
  | service name => exact ⟨w.container.resolve_plainly name, h.1, h.2, h.3, h.4, h.5, h.6⟩
  | transport slot =>
    refine ⟨fun transport hfound => ?_, h⟩
    obtain ⟨before, after, hkept, -⟩ := List.lookup_eq_some_iff.1 hfound
    exact h.transports (slot, transport) (by rw [hkept]; simp)
  | keepTransport slot transport =>
    refine ⟨trivial, h.1, h.2, h.3, h.4, h.5, fun entry hentry => ?_⟩
    rcases List.mem_cons.1 hentry with rfl | hold
    · exact hq
    · exact h.transports entry (List.mem_filter.1 hold).1
  | putEvent entry =>
    unfold World.reply World.putEvent
    split
    · exact ⟨by rfl, h.1, h.2, h.3, h.4, h.5, h.6⟩
    all_goals
      rename_i heq
      have hreplies := h.replies
      rw [heq] at hreplies
      obtain ⟨hfirst, hrest⟩ := List.forall_mem_cons.1 hreplies
      exact ⟨hfirst, h.1, h.2, h.3, h.4, hrest, h.6⟩
  | stopwatch =>
    unfold World.reply readStopwatch
    split
    · exact ⟨⟨_, rfl⟩, h⟩
    · rename_i heq
      have hreadings := h.readings
      rw [heq] at hreadings
      obtain ⟨hfirst, hrest⟩ := List.forall_mem_cons.1 hreadings
      exact ⟨hfirst, hrest, h.2, h.3, h.4, h.5, h.6⟩
  | _ => exact ⟨trivial, h.1, h.2, h.3, h.4, h.5, h.6⟩

end World.IsPlain

/-! ## Programs -/

namespace Act
variable {α β : Type} {F : Failure → Prop} {R : α → Prop} {S : β → Prop}

/-- Wherever the replies are plain, a program asks nothing but what is plain, and ends in a failure
    or with a result of some kind. -/
def Closes (F : Failure → Prop) (R : α → Prop) : Act α → Prop
  | .done a => R a
  | .fail e => F e
  | .ask q next => q.IsPlain ∧ ∀ reply, q.PlainReply reply → (next reply).Closes F R

/-- If at all, the program fails plainly. -/
abbrev Plains (R : α → Prop) (act : Act α) : Prop := act.Closes Failure.IsPlain R

/-- The program does not fail. -/
abbrev Returns (R : α → Prop) (act : Act α) : Prop := act.Closes (fun _ => False) R

theorem Closes.mono {R' : α → Prop} {act : Act α} (h : act.Closes F R) (hR : ∀ a, R a → R' a) :
    act.Closes F R' := by
  induction act with
  | done a => exact hR a h
  | fail e => exact h
  | ask q next ih => exact ⟨h.1, fun reply hr => ih reply (h.2 reply hr)⟩

theorem Closes.bind {act : Act α} {f : α → Act β} (h : act.Closes F R)
    (hf : ∀ a, R a → (f a).Closes F S) : (act.bind f).Closes F S := by
  induction act with
  | done a => exact hf a h
  | fail e => exact h
  | ask q next ih => exact ⟨h.1, fun reply hr => ih reply (h.2 reply hr)⟩

theorem Closes.attempt_bind {act : Act α} {f : Except Failure α → Act β} (h : act.Plains R)
    (hf : ∀ x, Plainly R x → (f x).Closes F S) : (act.attempt.bind f).Closes F S := by
  induction act with
  | done a => exact hf (.ok a) h
  | fail e => exact hf (.error e) h
  | ask q next ih => exact ⟨h.1, fun reply hr => ih reply (h.2 reply hr)⟩

/-- In a plain world a program ends so. -/
theorem Closes.run {act : Act α} (h : act.Closes F R) {w : World} (hw : w.IsPlain) :
    (∃ a, (act.run w).1 = .ok a ∧ R a) ∨ ∃ e, (act.run w).1 = .error e ∧ F e := by
  induction act generalizing w with
  | done a => exact Or.inl ⟨a, rfl, h⟩
  | fail e => exact Or.inr ⟨e, rfl, h⟩
  | ask q next ih =>
    obtain ⟨hreply, hnext⟩ := hw.reply h.1
    exact ih _ (h.2 _ hreply) hnext

theorem plains_ofExcept {x : Except Failure α} (h : Plainly R x) : (ofExcept x).Plains R := by
  cases x <;> exact h

theorem closes_now : now.Closes F fun _ => True := ⟨trivial, fun _ _ => trivial⟩

theorem closes_stopwatch : stopwatch.Closes F fun reading => ∃ x, reading = .float x :=
  ⟨trivial, fun _ hreading => hreading⟩

theorem closes_environment : environment.Closes F fun _ => True := ⟨trivial, fun _ _ => trivial⟩

theorem closes_note (source : Text) (n : Log.Note) (extra : Object) :
    (note source n extra).Closes F fun _ => True := ⟨trivial, fun _ _ => trivial⟩

theorem plains_service (name : Text) : (service name).Plains fun _ => True :=
  ⟨trivial, fun _ hreply => plains_ofExcept hreply⟩

theorem plains_failStorage (operation table : Text) (failure : Failure) :
    (failStorage operation table failure : Act α).Plains R :=
  ⟨trivial, fun _ _ => Failure.isPlain_toStorage _ _ _⟩

end Act

/-- A plain failure of a call is told as a plain one. -/
theorem StoreCall.isPlain_explain (names : TableNames) (call : StoreCall) {e : Failure}
    (h : e.IsPlain) : (call.explain names e).IsPlain := by
  cases e with
  | remote e =>
    rcases call.explain_remote names e with ⟨text, ht⟩ | ⟨failure, hmishap, -, ht⟩
    · rw [ht]; trivial
    · rw [ht]; exact hmishap.isPlain
  | _ => exact h

theorem Act.plains_store (site : Site) (call : StoreCall) (hq : (Query.store call).IsPlain) :
    (store site call).Plains (Query.PlainResult call) := by
  refine ⟨hq, fun reply hreply => plains_ofExcept ?_⟩
  cases reply with
  | ok result => exact hreply
  | error e => exact call.isPlain_explain site.tables hreply

end Rendezvous
