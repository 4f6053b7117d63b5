/-
  What the registry does where calls may fail.

  Whatever befalls its calls, the registry never finds something that is not in the tables, and a
  registration is put whole or not at all.

  * `findItem_ends`, `findBinding_ends` and what is built on them: what is read;
  * `ensureAvailable_clears`: an application is checked;
  * `register_does`: it is put, or the tables stay as they are.
-/
import Rendezvous.Proofs.Blame
import Rendezvous.Proofs.Course

namespace Rendezvous.Registry

open Scene

variable {P : Troubles} {s : Scene} {a : Application} (r : Registry)

/-! ## Looking up -/

section
variable (hP : P.AreTold) (h : s.tables.Legible)
include h

theorem readItem_finds (identity : Text) : (r.readItem (.str identity)).Ensures (troubled P)
    (Finds P r.site.tables (s.tables.identities.find? (.text identity)) s) s := by
  unfold readItem
  simp only [Act.bind_eq, Act.liftM_eq, Act.pure_eq]
  exact ensures_read rfl (h.check_record _)

theorem readBinding_finds (key : Text) : (r.readBinding key).Ensures (troubled P)
    (Finds P r.site.tables (s.tables.nicknames.find? key) s) s := by
  unfold readBinding
  simp only [Act.bind_eq, Act.liftM_eq, Act.pure_eq]
  exact ensures_read rfl (h.check_binding key)

include hP

theorem findItem_ends (identity : Text) : (r.findItem (.str identity)).Ensures (troubled P)
    (Ends P s fun item t => item = s.tables.identities.find? (.text identity) ∧ t = s.tables)
    s := by
  unfold findItem
  simp only [Act.bind_eq, Act.pure_eq]
  refine (readItem_finds r h identity).attempt_bind ?_
  rintro x s₁ ⟨h1, ⟨call, failure, hfailure, rfl⟩ | rfl⟩
  · have htold := fun text => hP r.site.tables call failure text hfailure
    split
    · rename_i heq; cases heq
    · rename_i heq; cases heq
    · rename_i heq; exact (htold _ (Except.error.inj heq)).elim
    · exact ends_failStorage ⟨call, failure, hfailure⟩ h1
  · cases hitem : s.tables.identities.find? (.text identity) with
    | none => exact ensures_note fun s₂ h2 => ⟨rfl, h2.tables.trans h1⟩
    | some item => exact ensures_note fun s₂ h2 => ⟨rfl, h2.tables.trans h1⟩

theorem findBinding_ends (nickname : Bytes) : (r.findBinding nickname).Ensures (troubled P)
    (Ends P s fun item t => item = s.tables.nicknames.find? (Field.storageHex nickname) ∧
      t = s.tables) s := by
  unfold findBinding failBinding
  simp only [Act.bind_eq, Act.pure_eq]
  refine (readBinding_finds r h _).attempt_bind ?_
  rintro x s₁ ⟨h1, ⟨call, failure, hfailure, rfl⟩ | rfl⟩
  · have htold := fun text => hP r.site.tables call failure text hfailure
    split
    · rename_i heq; cases heq
    · rename_i heq; cases heq
    · rename_i heq; exact (htold _ (Except.error.inj heq)).elim
    · exact ends_failStorage ⟨call, failure, hfailure⟩ h1
  · cases hitem : s.tables.nicknames.find? (Field.storageHex nickname) with
    | none => exact ensures_note fun s₂ h2 => ⟨rfl, h2.tables.trans h1⟩
    | some item => exact ensures_note fun s₂ h2 => ⟨rfl, h2.tables.trans h1⟩

theorem isRegistered_ends (identity : Text) : (r.isRegistered (.str identity)).Ensures (troubled P)
    (Ends P s fun b t => b = s.tables.registered identity ∧ t = s.tables) s := by
  unfold isRegistered
  refine (findItem_ends r hP h identity).bind ?_ fun e s₁ he => he
  rintro item s₁ ⟨rfl, h1⟩
  exact ⟨rfl, h1⟩

theorem resolveNickname_ends (nickname : Bytes) :
    (r.resolveNickname nickname).Ensures (troubled P)
      (Ends P s fun owner t => owner = s.tables.owner nickname ∧ t = s.tables) s := by
  unfold resolveNickname
  refine (findBinding_ends r hP h nickname).bind ?_ fun e s₁ he => he
  rintro item s₁ ⟨rfl, h1⟩
  exact ⟨rfl, h1⟩

theorem nicknameTaken_ends (nickname : Bytes) : (r.nicknameTaken nickname).Ensures (troubled P)
    (Ends P s fun b t => b = s.tables.bound nickname ∧ t = s.tables) s := by
  unfold nicknameTaken
  simp only [Act.bind_eq, Act.pure_eq]
  refine (resolveNickname_ends r hP h nickname).bind ?_ fun e s₁ he => he
  rintro owner s₁ ⟨rfl, h1⟩
  rcases h.owner nickname with ⟨hfree, howner⟩ | ⟨htaken, identity, howner⟩
  · rw [howner]
    exact ⟨hfree.symm, h1⟩
  · rw [howner]
    exact ⟨htaken.symm, h1⟩

end

theorem findRecord_ends (hP : P.AreTold) (h : s.tables.Paired) (identity : Text) :
    (r.findRecord (.str identity)).Ensures (troubled P)
    (Ends P s fun record t => record = s.tables.record? identity ∧ t = s.tables) s := by
  unfold findRecord
  simp only [Act.bind_eq, Act.liftM_eq, Act.pure_eq]
  refine (findItem_ends r hP h.legible identity).bind ?_ fun e s₁ he => he
  rintro item s₁ ⟨rfl, h1⟩
  unfold Tables.record?
  cases hitem : s.tables.identities.find? (.text identity) with
  | none => exact ⟨rfl, h1⟩
  | some item =>
    obtain ⟨record, hrecord⟩ := h.toRecord hitem
    simp only [Option.bind_some, hrecord]
    exact ⟨rfl, h1⟩

/-! ## Registering -/

theorem identityTaken_not_blames : ¬a.identityTaken.Blames := by
  rintro (h | h) <;> exact absurd (Value.str.inj h) (by decide)

theorem nicknameTaken_not_blames : ¬a.nicknameTaken.Blames := by
  rintro (h | h) <;> exact absurd (Value.str.inj h) (by decide)

/-- What is found out may be a reason to refuse. -/
theorem refuse_clears {act : Act Bool} {taken : Bool} {source : Text} {n : Log.Note}
    {extra : Object} {e : Failure} (he : ¬e.Blames)
    (h : act.Ensures (troubled P) (Ends P s fun b t => b = taken ∧ t = s.tables) s) :
    (act.bind fun b => if b = true then (Act.note source n extra).bind fun _ => .fail e
      else .done ()).Ensures (troubled P) (s.Clears fun _ => taken = false) s := by
  refine h.bind ?_ fun e s₁ he => ⟨he.2.2, he.1.not_blames⟩
  rintro b s₁ ⟨rfl, h1⟩
  cases b with
  | true => exact ensures_note fun s₂ h2 => ⟨h2.tables.trans h1, he⟩
  | false => exact ⟨h1, rfl⟩

theorem ensureAvailable_clears (hP : P.AreTold) (h : s.tables.Legible) :
    (r.ensureAvailable (.str a.caller) a.nickname).Ensures (troubled P)
      (s.Clears fun _ => s.tables.admits a.identityKey a.nicknameKey = true) s := by
  unfold ensureAvailable
  rw [Act.bind_eq]
  refine (refuse_clears identityTaken_not_blames (isRegistered_ends r hP h a.caller)).bind ?_
    fun e s₁ he => he
  rintro _ s₁ ⟨h1, hfree⟩
  refine (refuse_clears nicknameTaken_not_blames
    (nicknameTaken_ends r hP (h1 ▸ h) a.nickname)).mono ?_
  rintro x s₂ ⟨h2, hx⟩
  refine ⟨h2.trans h1, ?_⟩
  cases x with
  | ok u => rw [h1] at hx; exact Tables.admits_iff.2 ⟨hfree, hx⟩
  | error e => exact hx

/-- The excuse of a registration: a refusal befell it that the table library cannot word. -/
def Garbled (P : Troubles) (names : TableNames) : Prop :=
  ∃ (record : IdentityItem) (binding : BindingItem) (failure : Failure) (reason : Unusable),
    P (StoreCall.register record binding).operation failure ∧
      (StoreCall.register record binding).explain names failure = .unusable reason

/-- A refused registration that is told by blaming the request is a garbled one. -/
theorem garbled_of_blames (hP : P.AreRemote) {names : TableNames} {record : IdentityItem}
    {binding : BindingItem} {failure : Failure}
    (hfailure : P (StoreCall.register record binding).operation failure)
    (hb : ((StoreCall.register record binding).explain names failure).Blames) :
    Garbled P names := by
  obtain ⟨e, rfl⟩ := hP _ _ hfailure
  rcases StoreCall.explain_remote names (.register record binding) e with
    ⟨text, htold⟩ | ⟨failure, hmishap, -, htold⟩
  · rw [htold] at hb
    exact hb.elim
  · rw [htold] at hb
    cases failure with
    | unusable reason => exact ⟨_, _, _, reason, hfailure, htold⟩
    | service e => exact hmishap.elim
    | _ => exact hb.elim

/-- A registration is put where both keys are free, or it spares the tables. -/
theorem register_does (hP : P.AreRemote) (h : s.tables.Paired) :
    (r.register (.str a.caller) a.nickname a.address).Ensures (troubled P)
      (s.Does (Garbled P r.site.tables) fun record t => record = a.record ∧
        s.tables.admits a.identityKey a.nicknameKey = true ∧
        ∃ now, now.IsDated ∧ t = s.tables.enroll a now) s := by
  unfold register
  simp only [Act.bind_eq, Act.liftM_eq, requireCaller, Act.ofExcept_ok, Act.done_bind,
    Act.failStorage_bind, Act.fail_bind]
  refine (ensureAvailable_clears r hP.areTold h.legible).bind ?_
    fun e s₁ he => ⟨he.1, fun hb => (he.2 hb).elim⟩
  rintro _ s₁ ⟨h1, hadmits⟩
  refine ensures_now fun now s₂ hd h2 => ?_
  have h2 : s₂.tables = s.tables := h2.tables.trans h1
  have hcall : s₂.tables.call (.register (a.item now) (a.binding now)) =
      (.ok (), s.tables.enroll a now) := by
    rw [h2, Tables.call_register, if_pos hadmits]
  refine (ensures_answered r.site _ hcall).attempt_bind ?_
  rintro x s₃ (⟨failure, hfailure, rfl, h3⟩ | ⟨rfl, h3⟩)
  · have h3 : s₃.tables = s.tables := h3.trans h2
    split
    · rename_i heq; cases heq
    · refine (ensureAvailable_clears r hP.areTold (h3 ▸ h.legible)).bind ?_ ?_
      · rintro _ s₄ ⟨h4, -⟩
        exact does_failStorage (h4.trans h3)
      · rintro e s₄ ⟨h4, hb⟩
        exact ⟨h4.trans h3, fun hb' => (hb hb').elim⟩
    · -- whatever is no failed transaction gets out of the registry as it is
      rename_i failure' heq
      obtain rfl := Except.error.inj heq
      exact ⟨h3, fun hb hno => (hno (garbled_of_blames hP hfailure hb)).elim⟩
  · refine ensures_note fun s₄ h4 => Act.ensures_ofExcept.2 ?_
    have hrecord := a.toRecord_item now
    rw [Application.item] at hrecord
    rw [hrecord]
    exact ⟨rfl, hadmits, now, hd, h4.tables.trans h3⟩

end Rendezvous.Registry
