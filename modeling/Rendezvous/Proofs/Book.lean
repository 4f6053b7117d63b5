/-
  What a contact book does where calls may fail.

  Each operation makes one call to the store.  Where the tables hold contacts and nothing else, it
  ends as the call is answered, or by a trouble, and then nothing is done to the tables.

  * `upsert_ends` and `remove_ends`: what is written;
  * `get_ends`, `contains_ends` and `list_ends`: what is read.
-/
import Rendezvous.Proofs.Contacts
import Rendezvous.Proofs.Trouble

namespace Rendezvous.ContactBook

open Scene

variable {P : Troubles} {s : Scene} (b : ContactBook)

/-! ## Writing -/

/-- A contact is put, or nothing is done. -/
theorem upsert_ends (c : Contact) : (b.upsert (.str c.owner) c.address c.name).Ensures (troubled P)
    (Ends P s fun record t => record = c.record ∧
      ∃ now, now.IsDated ∧ t = s.tables.file c now) s := by
  unfold upsert putItem
  simp only [Act.bind_eq, Act.liftM_eq, Act.failStorage_bind]
  refine ensures_now fun now s₁ hd h1 => ?_
  have howner : (ContactItem.make now (.str c.owner) c.address c.name).requireOwner = .ok () := rfl
  rw [howner, Act.ofExcept_ok, Act.done_bind]
  refine (ensures_answered b.site (.putContact (c.item now)) rfl).attempt_bind ?_
  rintro x s₂ (⟨failure, hP, rfl, h2⟩ | ⟨rfl, h2⟩)
  · exact ends_failStorage ⟨_, _, hP⟩ (h2.trans h1.tables)
  · refine ensures_note fun s₃ h3 => Act.ensures_ofExcept.2 ?_
    have hrecord := c.toRecord_item now
    rw [Contact.item] at hrecord
    rw [hrecord]
    refine ⟨rfl, now, hd, h3.tables.trans ?_⟩
    rw [h2, h1.tables]
    rfl

/-- What is under the key of an address is taken out, or nothing is done. -/
theorem remove_ends (owner : Text) (address : Bytes) :
    (b.remove (.str owner) address).Ensures (troubled P)
      (Ends P s fun _ t => t = s.tables.unfile owner address) s := by
  unfold remove
  simp only [Act.bind_eq, Act.failStorage_bind]
  refine (ensures_answered b.site (.deleteContact (.str owner) (Field.addressDigest address))
    rfl).attempt_bind ?_
  rintro x s₁ (⟨failure, hP, rfl, h1⟩ | ⟨rfl, h1⟩)
  · exact ends_failStorage ⟨_, _, hP⟩ h1
  · exact ensures_note fun s₂ h2 => h2.tables.trans h1

/-! ## Reading -/

section
variable (h : s.tables.Filed)
include h

/-- What is under the key of an address is read as it is. -/
theorem readItem_finds (owner : Text) (address : Bytes) :
    (b.readItem (.str owner) address).Ensures (troubled P) (Finds P b.site.tables
      (s.tables.contacts.find? (Tables.contactKey owner address)) s) s := by
  unfold readItem
  simp only [Act.bind_eq, Act.liftM_eq, Act.pure_eq]
  exact ensures_read rfl (h.check owner address)

/-- The contact at an address is found, if there is one. -/
theorem findItem_ends (hP : P.AreTold) (owner : Text) (address : Bytes) :
    (b.findItem (.str owner) address).Ensures (troubled P)
      (Ends P s fun item t => item = s.tables.contactItem? owner address ∧ t = s.tables) s := by
  unfold findItem failContact
  simp only [Act.bind_eq, Act.liftM_eq, Act.pure_eq]
  refine (readItem_finds b h owner address).attempt_bind ?_
  rintro x s₁ ⟨h1, ⟨call, failure, hfailure, rfl⟩ | rfl⟩
  · have htold := fun text => hP b.site.tables call failure text hfailure
    split
    · rename_i heq; cases heq
    · rename_i heq; cases heq
    · rename_i heq; exact (htold _ (Except.error.inj heq)).elim
    · exact ends_failStorage ⟨call, failure, hfailure⟩ h1
  · cases hitem : s.tables.contacts.find? (Tables.contactKey owner address) with
    | none => exact ⟨by rw [Tables.contactItem?, hitem]; rfl, h1⟩
    | some item =>
      obtain ⟨c, now, -, hkey, rfl⟩ := h.of_find hitem
      simp only [c.addressBytes_item, Act.ofExcept_ok, Act.done_bind]
      have hfound := Tables.contactItem?_of_find hitem
      rw [c.toOption_addressBytes_item] at hfound
      by_cases haddress : c.address = address
      · simp only [haddress, if_true] at hfound ⊢
        exact ⟨hfound.symm, h1⟩
      · simp only [haddress, if_false, Option.some.injEq] at hfound ⊢
        exact ensures_note fun s₂ h2 => ⟨hfound.symm, h2.tables.trans h1⟩

/-- The record of a contact is the empty one where there is no contact. -/
theorem get_ends (hP : P.AreTold) (owner : Text) (address : Bytes) :
    (b.get (.str owner) address).Ensures (troubled P)
      (Ends P s fun record t => record = (s.tables.contact? owner address).getD .empty ∧
        t = s.tables) s := by
  unfold get
  simp only [Act.bind_eq, Act.liftM_eq, Act.pure_eq]
  refine (findItem_ends b h hP owner address).bind ?_ fun e s₁ he => he
  rintro item s₁ ⟨rfl, h1⟩
  cases hitem : s.tables.contactItem? owner address with
  | none => exact ⟨by rw [Tables.contact?, hitem]; rfl, h1⟩
  | some item =>
    obtain ⟨c, now, -, -, rfl⟩ := h.of_find (Option.filter_eq_some_iff.1 hitem).1
    refine Act.ensures_ofExcept.2 ?_
    rw [c.toRecord_item]
    exact ⟨by rw [Tables.contact?, hitem, Option.bind_some, c.toOption_toRecord_item]; rfl, h1⟩

theorem contains_ends (hP : P.AreTold) (owner : Text) (address : Bytes) :
    (b.contains (.str owner) address).Ensures (troubled P)
      (Ends P s fun present t => present = (s.tables.contact? owner address).isSome ∧
        t = s.tables) s := by
  unfold contains
  simp only [Act.bind_eq, Act.pure_eq]
  refine (findItem_ends b h hP owner address).bind ?_ fun e s₁ he => he
  rintro item s₁ ⟨rfl, h1⟩
  refine ⟨?_, h1⟩
  cases hitem : s.tables.contactItem? owner address with
  | none => rw [Tables.contact?, hitem]; rfl
  | some item =>
    obtain ⟨c, now, -, -, rfl⟩ := h.of_find (Option.filter_eq_some_iff.1 hitem).1
    rw [Tables.contact?, hitem, Option.bind_some, c.toOption_toRecord_item]
    rfl

/-- The list of an owner holds what is found at each address. -/
theorem list_ends (owner : Text) : (b.list (.str owner)).Ensures (troubled P)
    (Ends P s fun l t => Lists (s.tables.contact? owner) l ∧ t = s.tables) s := by
  unfold list logDone
  simp only [Act.bind_eq, Act.pure_eq]
  obtain ⟨l, hl, hlists⟩ := h.lists owner
  have hentries : ((Act.store b.site (.queryContacts (.str owner))).bind fun items =>
      Act.ofExcept (items.mapM ContactItem.toEntry)).Ensures (troubled P)
        (fun x s' => s'.tables = s.tables ∧ ((∃ e, x = .error e ∧ P.Befall) ∨ x = .ok l)) s := by
    refine (ensures_answered b.site (.queryContacts (.str owner)) rfl).bind ?_ ?_
    · rintro items s₁ (⟨failure, -, he, -⟩ | ⟨hitems, h1⟩)
      · cases he
      · obtain rfl := Except.ok.inj hitems
        refine Act.ensures_ofExcept.2 ⟨h1, Or.inr hl⟩
    · rintro e s₁ (⟨failure, hP, he, h1⟩ | ⟨he, -⟩)
      · exact ⟨h1, Or.inl ⟨_, rfl, _, _, hP⟩⟩
      · cases he
  refine hentries.attempt_bind ?_
  rintro x s₁ ⟨h1, ⟨e, rfl, hP⟩ | rfl⟩
  · exact ends_failStorage hP h1
  · exact ensures_note fun s₂ h2 => ⟨hlists, h2.tables.trans h1⟩

end

end Rendezvous.ContactBook
