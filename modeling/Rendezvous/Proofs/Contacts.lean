/-
  Contacts in the tables.

  A contact is found under the digest of its address, and counts only if the address on the item
  is the one asked for.  Tables are `Tables.Filed` if every item is that of a contact, under the
  key of its owner and its own address, and no key occurs twice.

  * `Tables.contact?`: what is kept of a peer; `contact?_file` and `contact?_unfile`: what a
    contact that is put or taken out does to the others, digests that collide included;
  * `Filed.file` and `Filed.unfile`: only contacts get into the table;
  * `Filed.lists`: the list of an owner holds what is found one by one, by ascending digest.
-/
import Mathlib.Tactic
import Mathlib.Data.List.Lex
import Rendezvous.Proofs.Registration
import Rendezvous.Service.ContactBook

namespace Rendezvous

/-- What is told of an address without a contact: a name of 1000 zero bytes. -/
def ContactRecord.zeros : ContactRecord := ⟨List.replicate 1000 0⟩

/-! ## The order of texts -/

namespace Text

theorem before_iff {s t : Text} : before s t = true ↔ s < t := by
  induction s generalizing t with
  | nil => cases t <;> simp [before]
  | cons c s ih =>
    cases t with
    | nil => simp [before]
    | cons d t =>
      rw [List.cons_lt_cons_iff, ← ih]
      simp only [before, Bool.or_eq_true, Bool.and_eq_true, decide_eq_true_eq, beq_iff_eq,
        Fin.val_inj, Fin.val_fin_lt]

theorem not_before_iff {s t : Text} : (!before s t) = true ↔ t ≤ s := by
  rw [← not_lt, ← before_iff, Bool.not_eq_true', Bool.not_eq_true]

/-- What is sorted by texts that are all different ascends. -/
theorem ascending_mergeSort {ε : Type} (key : ε → Text) {l : List ε} (h : (l.map key).Nodup) :
    (l.mergeSort fun a b => !before (key b) (key a)).Pairwise fun a b =>
      before (key a) (key b) = true := by
  have hle : (l.mergeSort fun a b => !before (key b) (key a)).Pairwise fun a b =>
      (!before (key b) (key a)) = true := by
    refine List.pairwise_mergeSort (fun a b c hab hbc => ?_) (fun a b => ?_) _
    · rw [not_before_iff] at hab hbc ⊢
      exact hab.trans hbc
    · rw [Bool.or_eq_true, not_before_iff, not_before_iff]
      exact le_total _ _
  have hne : (l.mergeSort fun a b => !before (key b) (key a)).Pairwise fun a b => key a ≠ key b :=
    List.pairwise_map.1 (((List.mergeSort_perm l _).map key).nodup_iff.2 h)
  refine (hle.and hne).imp fun {a b} hab => ?_
  exact before_iff.2 (lt_of_le_of_ne (not_before_iff.1 hab.1) hab.2)

end Text

/-! ## Tables with unique keys -/

namespace Table
variable {κ ρ : Type} [DecidableEq κ] {table : Table κ ρ} {key : κ} {row : ρ}

theorem find?_eq_some_iff_mem (h : (table.map (·.1)).Nodup) :
    table.find? key = some row ↔ (key, row) ∈ table := by
  induction table with
  | nil => simp [find?]
  | cons entry table ih =>
    obtain ⟨k, r⟩ := entry
    obtain ⟨hk, hrest⟩ := List.nodup_cons.1 h
    by_cases heq : k = key
    · subst heq
      have habsent : (k, row) ∉ table := fun hmem => hk (List.mem_map.2 ⟨_, hmem, rfl⟩)
      simp [find?, habsent, eq_comm]
    · simp [find?, heq, Ne.symm heq, ih hrest]

theorem mem_of_find? (h : table.find? key = some row) : (key, row) ∈ table := by
  induction table with
  | nil => cases h
  | cons entry table ih =>
    obtain ⟨k, r⟩ := entry
    by_cases heq : k = key
    · simp only [find?, heq, if_true, Option.some.injEq] at h
      rw [heq, h]; exact List.mem_cons_self
    · simp only [find?, heq, if_false] at h
      exact List.mem_cons_of_mem _ (ih h)

theorem mem_of_mem_put {entry : κ × ρ} (h : entry ∈ table.put key row) :
    entry = (key, row) ∨ entry ∈ table := by
  induction table with
  | nil => exact Or.inl (by simpa [put] using h)
  | cons first table ih =>
    obtain ⟨k, r⟩ := first
    by_cases heq : k = key
    · simp only [put, heq, if_true, List.mem_cons] at h ⊢
      exact h.imp_right Or.inr
    · simp only [put, heq, if_false, List.mem_cons] at h ⊢
      rcases h with h | h
      · exact Or.inr (Or.inl h)
      · exact (ih h).imp_right Or.inr

theorem nodup_put (h : (table.map (·.1)).Nodup) : ((table.put key row).map (·.1)).Nodup := by
  induction table with
  | nil => simp [put]
  | cons first table ih =>
    obtain ⟨k, r⟩ := first
    obtain ⟨hk, hrest⟩ := List.nodup_cons.1 h
    by_cases heq : k = key
    · simpa [put, heq] using h
    · simp only [put, heq, if_false, List.map_cons]
      refine List.nodup_cons.2 ⟨fun hmem => ?_, ih hrest⟩
      obtain ⟨entry, hentry, he⟩ := List.mem_map.1 hmem
      rcases mem_of_mem_put hentry with rfl | hold
      · exact heq he.symm
      · exact hk (List.mem_map.2 ⟨entry, hold, he⟩)

theorem mem_of_mem_erase {entry : κ × ρ} (h : entry ∈ table.erase key) : entry ∈ table :=
  (List.mem_filter.1 h).1

theorem nodup_erase (h : (table.map (·.1)).Nodup) : ((table.erase key).map (·.1)).Nodup :=
  (List.filter_sublist.map _).nodup h

end Table

/-! ## Contacts -/

/-- Somebody of whom an owner may keep a contact: the peer at an address of full width. -/
structure Peer where
  owner : Text
  address : Bytes
  address_length : address.length = Field.contactAddress.width

/-- A contact that is asked to be kept, of the widths to which requests are brought. -/
structure Contact extends Peer where
  name : Bytes
  name_length : name.length = Field.contactName.width

namespace Contact
variable (c : Contact)

/-- What is looked up for the contact. -/
def record : ContactRecord := ⟨c.name⟩

/-- The item of the contact at a time. -/
def item (now : Instant) : ContactItem := .make now (.str c.owner) c.address c.name

theorem addressBytes_item (now : Instant) : (c.item now).addressBytes = .ok c.address :=
  Field.fromStorageHex_of_width c.address_length

theorem toRecord_item (now : Instant) : (c.item now).toRecord = .ok c.record := by
  simp only [ContactItem.toRecord, item, ContactItem.make, Value.ofText?]
  rw [Field.fromStorageHex_of_width c.name_length]
  rfl

@[simp] theorem toOption_addressBytes_item (now : Instant) :
    (c.item now).addressBytes.toOption = some c.address := by
  rw [addressBytes_item]; rfl

@[simp] theorem toOption_toRecord_item (now : Instant) :
    (c.item now).toRecord.toOption = some c.record := by
  rw [toRecord_item]; rfl

theorem toEntry_item {now : Instant} (h : now.IsDated) :
    (c.item now).toEntry = .ok (c.address, c.record) := by
  have hstamp : Stamp.check (c.item now).updatedAt = .ok () := Stamp.check_stampText h
  rw [ContactItem.toEntry, hstamp, c.addressBytes_item, c.toRecord_item]
  rfl

end Contact

namespace Tables

/-- The key under which an owner keeps the contact at an address. -/
def contactKey (owner : Text) (address : Bytes) : Key × Text :=
  (.text owner, Field.addressDigest address)

/-- The item that counts as the contact at an address: one that has this address. -/
def contactItem? (t : Tables) (owner : Text) (address : Bytes) : Option ContactItem :=
  (t.contacts.find? (contactKey owner address)).filter fun item =>
    item.addressBytes.toOption = some address

/-- What an owner keeps of the contact at an address. -/
def contact? (t : Tables) (owner : Text) (address : Bytes) : Option ContactRecord :=
  (t.contactItem? owner address).bind (·.toRecord.toOption)

/-- The tables with a contact put in place of what is under its key. -/
def file (t : Tables) (c : Contact) (now : Instant) : Tables :=
  t.putContact (.text c.owner) (c.item now)

/-- The tables without what is under the key of an address. -/
def unfile (t : Tables) (owner : Text) (address : Bytes) : Tables :=
  { t with contacts := t.contacts.erase (contactKey owner address) }

/-- Every item of the contacts is that of a contact under its own key, and no key is there
    twice. -/
structure Filed (t : Tables) : Prop where
  nodup : (t.contacts.map (·.1)).Nodup
  ofItem : ∀ key item, (key, item) ∈ t.contacts →
    ∃ (c : Contact) (now : Instant), now.IsDated ∧ key = contactKey c.owner c.address ∧
      item = c.item now

variable {t : Tables} {owner : Text} {address : Bytes}

theorem contactKey_eq {owner owner' : Text} {address address' : Bytes} :
    contactKey owner address = contactKey owner' address' ↔
      owner = owner' ∧ Field.addressDigest address = Field.addressDigest address' := by
  simp [contactKey]

theorem contactItem?_of_find {item : ContactItem}
    (h : t.contacts.find? (contactKey owner address) = some item) :
    t.contactItem? owner address =
      if item.addressBytes.toOption = some address then some item else none := by
  simp only [contactItem?, h, Option.filter_some, decide_eq_true_eq]

/-! ## What is done to a contact -/

/-- A contact takes the place of all others with its owner and the digest of its address. -/
theorem contact?_file (t : Tables) (c : Contact) (now : Instant) (owner : Text) (address : Bytes) :
    (t.file c now).contact? owner address =
      if contactKey owner address = contactKey c.owner c.address then
        if address = c.address then some c.record else none
      else t.contact? owner address := by
  by_cases hkey : contactKey owner address = contactKey c.owner c.address
  · have hfind : (t.file c now).contacts.find? (contactKey owner address) = some (c.item now) := by
      rw [hkey]; exact Table.find?_put_self _ _ _
    rw [if_pos hkey, contact?, contactItem?_of_find hfind, c.toOption_addressBytes_item]
    by_cases haddress : address = c.address
    · simp [haddress]
    · simp [haddress, Ne.symm haddress]
  · have hfind : (t.file c now).contacts.find? (contactKey owner address) =
        t.contacts.find? (contactKey owner address) := Table.find?_put_of_ne hkey _ _
    rw [if_neg hkey, contact?, contactItem?, hfind, contact?, contactItem?]

/-- All contacts with an owner and a digest go together. -/
theorem contact?_unfile (t : Tables) (o : Text) (a : Bytes) (owner : Text) (address : Bytes) :
    (t.unfile o a).contact? owner address =
      if contactKey owner address = contactKey o a then none else t.contact? owner address := by
  by_cases hkey : contactKey owner address = contactKey o a
  · have hfind : (t.unfile o a).contacts.find? (contactKey owner address) = none := by
      rw [hkey]; exact Table.find?_erase_self _ _
    rw [if_pos hkey, contact?, contactItem?, hfind]
    rfl
  · have hfind : (t.unfile o a).contacts.find? (contactKey owner address) =
        t.contacts.find? (contactKey owner address) := Table.find?_erase_of_ne hkey _
    rw [if_neg hkey, contact?, contactItem?, hfind, contact?, contactItem?]

/-! ## Contacts and nothing else -/

theorem filed_of_nil (h : t.contacts = []) : t.Filed where
  nodup := by rw [h]; exact .nil
  ofItem _ _ hitem := by rw [h] at hitem; cases hitem

theorem Filed.file (h : t.Filed) (c : Contact) {now : Instant} (hd : now.IsDated) :
    (t.file c now).Filed where
  nodup := Table.nodup_put h.nodup
  ofItem key item hitem := by
    rcases Table.mem_of_mem_put hitem with heq | hold
    · obtain ⟨rfl, rfl⟩ := Prod.mk.inj heq
      exact ⟨c, now, hd, rfl, rfl⟩
    · exact h.ofItem key item hold

theorem Filed.unfile (h : t.Filed) (owner : Text) (address : Bytes) :
    (t.unfile owner address).Filed where
  nodup := Table.nodup_erase h.nodup
  ofItem key item hitem := h.ofItem key item (Table.mem_of_mem_erase hitem)

/-- What is found under the key of an address is a contact of the owner, of the digest of the
    address. -/
theorem Filed.of_find (h : t.Filed) {item : ContactItem}
    (hitem : t.contacts.find? (contactKey owner address) = some item) :
    ∃ (c : Contact) (now : Instant), now.IsDated ∧
      contactKey owner address = contactKey c.owner c.address ∧ item = c.item now :=
  h.ofItem _ _ (Table.mem_of_find? hitem)

theorem Filed.check (h : t.Filed) (owner : Text) (address : Bytes) :
    Stamp.check ((t.contacts.find? (contactKey owner address)).bind (·.updatedAt)) = .ok () := by
  cases hitem : t.contacts.find? (contactKey owner address) with
  | none => rfl
  | some item =>
    obtain ⟨c, now, hd, -, rfl⟩ := h.of_find hitem
    exact Stamp.check_stampText hd

/-- The contact at an address is one whose item is in the table. -/
theorem Filed.contact?_eq_some_iff (h : t.Filed) {record : ContactRecord} :
    t.contact? owner address = some record ↔
      ∃ (c : Contact) (now : Instant), now.IsDated ∧
        (contactKey c.owner c.address, c.item now) ∈ t.contacts ∧ c.owner = owner ∧
        c.address = address ∧ c.record = record := by
  constructor
  · intro hcontact
    obtain ⟨item, hitem, hrecord⟩ := Option.bind_eq_some_iff.1 hcontact
    obtain ⟨hfind, haddress⟩ := Option.filter_eq_some_iff.1 hitem
    obtain ⟨c, now, hd, hkey, rfl⟩ := h.of_find hfind
    refine ⟨c, now, hd, hkey ▸ Table.mem_of_find? hfind, (contactKey_eq.1 hkey).1.symm, ?_, ?_⟩
    · simpa using haddress
    · simpa using hrecord
  · rintro ⟨c, now, hd, hmem, rfl, rfl, rfl⟩
    have hfind := (Table.find?_eq_some_iff_mem h.nodup).2 hmem
    simp [contact?, contactItem?_of_find hfind]

end Tables

/-! ## Lists of contacts -/

/-- A list of what is found at each address, every address once, by ascending digest. -/
structure Lists (found : Bytes → Option ContactRecord) (l : List (Bytes × ContactRecord)) :
    Prop where
  mem_iff : ∀ address record, (address, record) ∈ l ↔ found address = some record
  ascending : l.Pairwise fun a b =>
    Text.before (Field.addressDigest a.1) (Field.addressDigest b.1) = true

/-- No address is listed twice. -/
theorem Lists.nodup {found : Bytes → Option ContactRecord} {l : List (Bytes × ContactRecord)}
    (h : Lists found l) : (l.map (·.1)).Nodup := by
  refine List.pairwise_map.2 (h.ascending.imp fun hbefore heq => ?_)
  rw [heq] at hbefore
  exact lt_irrefl _ (Text.before_iff.1 hbefore)

/-- There is but one list of what is found. -/
theorem Lists.unique {found : Bytes → Option ContactRecord} {l l' : List (Bytes × ContactRecord)}
    (h : Lists found l) (h' : Lists found l') : l = l' := by
  have hperm : l.Perm l' := (List.perm_ext_iff_of_nodup (h.nodup.of_map _) (h'.nodup.of_map _)).2
    fun entry => (h.mem_iff entry.1 entry.2).trans (h'.mem_iff entry.1 entry.2).symm
  refine hperm.eq_of_pairwise (fun a b _ _ hab hba => ?_) h.ascending h'.ascending
  exact (lt_asymm (Text.before_iff.1 hab) (Text.before_iff.1 hba)).elim

/-- What an item is listed as, if it can be read. -/
def ContactItem.entry (item : ContactItem) : Bytes × ContactRecord :=
  (item.addressBytes.toOption.getD [], item.toRecord.toOption.getD .empty)

@[simp] theorem Contact.entry_item (c : Contact) (now : Instant) :
    (c.item now).entry = (c.address, c.record) := by
  simp [ContactItem.entry]

theorem mapM_eq_ok_map {α β ε : Type} {f : α → Except ε β} {g : α → β} {l : List α}
    (h : ∀ a ∈ l, f a = .ok (g a)) : l.mapM f = .ok (l.map g) := by
  induction l with
  | nil => rfl
  | cons a l ih =>
    rw [List.mapM_cons, h a (by simp), ih fun b hb => h b (by simp [hb])]
    rfl

namespace Tables
variable {t : Tables}

theorem mem_contactsOf {owner : Key} {item : ContactItem} :
    item ∈ t.contactsOf owner ↔ ∃ digest, ((owner, digest), item) ∈ t.contacts := by
  simp only [contactsOf, List.mem_mergeSort, List.mem_map, List.mem_filter, decide_eq_true_eq]
  constructor
  · rintro ⟨⟨⟨o, digest⟩, i⟩, ⟨hmem, rfl⟩, rfl⟩
    exact ⟨digest, hmem⟩
  · rintro ⟨digest, hmem⟩
    exact ⟨_, ⟨hmem, rfl⟩, rfl⟩

namespace Filed
variable (h : t.Filed) (owner : Text)
include h

/-- An item of an owner is that of a contact. -/
theorem of_contactsOf {item : ContactItem} (hitem : item ∈ t.contactsOf (.text owner)) :
    ∃ (c : Contact) (now : Instant), now.IsDated ∧ c.owner = owner ∧ item = c.item now ∧
      (contactKey c.owner c.address, item) ∈ t.contacts := by
  obtain ⟨digest, hmem⟩ := mem_contactsOf.1 hitem
  obtain ⟨c, now, hd, hkey, rfl⟩ := h.ofItem _ _ hmem
  exact ⟨c, now, hd, (Key.text.inj (Prod.mk.inj hkey).1).symm, rfl, hkey ▸ hmem⟩

/-- The keys of an owner's items are different. -/
theorem nodup_keys : (((t.contacts.filter fun e => e.1.1 = .text owner).map (·.2)).map
    (·.key)).Nodup := by
  rw [List.map_map]
  refine List.Nodup.map_on (fun x hx y hy hxy => ?_) ((h.nodup.of_map _).filter _)
  obtain ⟨hx, hxo⟩ := List.mem_filter.1 hx
  obtain ⟨hy, hyo⟩ := List.mem_filter.1 hy
  obtain ⟨c, now, -, hc, hcx⟩ := h.ofItem x.1 x.2 hx
  obtain ⟨d, later, -, hd, hdy⟩ := h.ofItem y.1 y.2 hy
  refine List.inj_on_of_nodup_map h.nodup hx hy ?_
  -- the key of an item is its owner and its digest
  have hdigest : Field.addressDigest c.address = Field.addressDigest d.address := by
    simpa [hcx, hdy, Contact.item, ContactItem.make] using hxy
  have howner : c.owner = d.owner := by
    have := (of_decide_eq_true hxo).trans (of_decide_eq_true hyo).symm
    rw [hc, hd] at this
    exact Key.text.inj this
  rw [hc, hd]
  exact contactKey_eq.2 ⟨howner, hdigest⟩

theorem contactsOf_ascending :
    (t.contactsOf (.text owner)).Pairwise fun a b => Text.before a.key b.key = true :=
  Text.ascending_mergeSort ContactItem.key (h.nodup_keys owner)

/-- **The list of an owner holds what is found one by one.** -/
theorem lists : ∃ l, (t.contactsOf (.text owner)).mapM ContactItem.toEntry = .ok l ∧
    Lists (t.contact? owner) l := by
  refine ⟨(t.contactsOf (.text owner)).map ContactItem.entry, mapM_eq_ok_map fun item hitem => ?_,
    fun address record => ?_, ?_⟩
  · obtain ⟨c, now, hd, -, rfl, -⟩ := h.of_contactsOf owner hitem
    rw [c.toEntry_item hd, c.entry_item]
  · rw [h.contact?_eq_some_iff, List.mem_map]
    constructor
    · rintro ⟨item, hitem, hentry⟩
      obtain ⟨c, now, hd, howner, rfl, hmem⟩ := h.of_contactsOf owner hitem
      rw [c.entry_item] at hentry
      exact ⟨c, now, hd, hmem, howner, (Prod.mk.inj hentry).1, (Prod.mk.inj hentry).2⟩
    · rintro ⟨c, now, -, hmem, rfl, rfl, rfl⟩
      exact ⟨_, mem_contactsOf.2 ⟨_, hmem⟩, c.entry_item now⟩
  · refine List.pairwise_map.2 ((h.contactsOf_ascending owner).imp_of_mem fun ha hb hab => ?_)
    obtain ⟨c, now, -, -, rfl, -⟩ := h.of_contactsOf owner ha
    obtain ⟨d, later, -, -, rfl, -⟩ := h.of_contactsOf owner hb
    rw [c.entry_item, d.entry_item]
    exact hab

end Filed

end Tables

end Rendezvous
