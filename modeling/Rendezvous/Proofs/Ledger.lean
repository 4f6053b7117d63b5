/-
  Contact books as one map.

  What owners see of their contacts is a map from owners and addresses to records, of which each
  may be put, replaced and taken out.  The tables hold it under the digests of the addresses, and
  that is all the same as long as no two addresses in use have one digest.

  * `Ledger`: the map, and `Ledger.answer`: how it answers what is asked of a contact book;
  * `Ledger.Matches`: the tables hold the map, under digests;
  * `ContactBook.serve_eq_ledger`: the answers are those of the map.
-/
import Rendezvous.Proofs.Book

namespace Rendezvous

/-- What is asked of a contact book. -/
inductive Errand where
  | upsert (c : Contact)
  | remove (p : Peer)
  | get (p : Peer)
  | contains (p : Peer)
  | list (owner : Text)

namespace Errand

/-- What it is answered. -/
abbrev Answer : Errand → Type
  | .upsert _ => ContactRecord
  | .remove _ => Unit
  | .get _ => ContactRecord
  | .contains _ => Bool
  | .list _ => List (Bytes × ContactRecord)

/-- The addresses that it names. -/
def addresses : Errand → List Bytes
  | .upsert c => [c.address]
  | .remove p | .get p | .contains p => [p.address]
  | .list _ => []

end Errand

/-- Errands with how they ended, one after the other. -/
abbrev Dealings := List ((e : Errand) × Except Failure e.Answer)

namespace ContactBook

/-- Does what it is asked. -/
def receive (b : ContactBook) : (e : Errand) → Act e.Answer
  | .upsert c => b.upsert (.str c.owner) c.address c.name
  | .remove p => b.remove (.str p.owner) p.address
  | .get p => b.get (.str p.owner) p.address
  | .contains p => b.contains (.str p.owner) p.address
  | .list owner => b.list (.str owner)

/-- Errands one after the other, each at a time of its own. -/
def serve (b : ContactBook) : List (Instant × Errand) → World → Dealings
  | [], _ => []
  | (now, e) :: errands, w =>
    let ended := (b.receive e).run { w with clock := now }
    ⟨e, ended.1⟩ :: b.serve errands ended.2

end ContactBook

/-! ## The map -/

/-- Owners and addresses with the records of contacts; none has two. -/
structure Ledger where
  entries : Table (Text × Bytes) ContactRecord
  nodup : (entries.map (·.1)).Nodup

namespace Ledger

/-- Nobody has a contact. -/
def empty : Ledger := ⟨[], .nil⟩

variable (m : Ledger)

/-- What an owner keeps of the contact at an address. -/
def record? (owner : Text) (address : Bytes) : Option ContactRecord :=
  m.entries.find? (owner, address)

/-- The contacts of an owner, by ascending digest of their addresses. -/
def list (owner : Text) : List (Bytes × ContactRecord) :=
  ((m.entries.filter (·.1.1 = owner)).map fun entry => (entry.1.2, entry.2)).mergeSort
    fun a b => !Text.before (Field.addressDigest b.1) (Field.addressDigest a.1)

/-- The map with a contact put, in place of what was there. -/
def put (c : Contact) : Ledger :=
  ⟨m.entries.put (c.owner, c.address) c.record, Table.nodup_put m.nodup⟩

/-- The map without a contact. -/
def erase (p : Peer) : Ledger :=
  ⟨m.entries.erase (p.owner, p.address), Table.nodup_erase m.nodup⟩

/-- The answer to an errand, and the map after it. -/
def answer : (e : Errand) → e.Answer × Ledger
  | .upsert c => (c.record, m.put c)
  | .remove p => ((), m.erase p)
  | .get p => ((m.record? p.owner p.address).getD .zeros, m)
  | .contains p => ((m.record? p.owner p.address).isSome, m)
  | .list owner => (m.list owner, m)

/-- Errands one after the other. -/
def serve (m : Ledger) : List Errand → Dealings
  | [] => []
  | e :: errands => ⟨e, .ok (m.answer e).1⟩ :: (m.answer e).2.serve errands

variable {m} {owner : Text} {address : Bytes}

theorem record?_put (c : Contact) : (m.put c).record? owner address =
    if owner = c.owner ∧ address = c.address then some c.record else m.record? owner address := by
  by_cases hkey : (owner, address) = (c.owner, c.address)
  · rw [if_pos (Prod.mk.inj hkey), record?, hkey]
    exact Table.find?_put_self _ _ _
  · rw [if_neg fun h => hkey (Prod.ext h.1 h.2)]
    exact Table.find?_put_of_ne hkey _ _

theorem record?_erase (p : Peer) : (m.erase p).record? owner address =
    if owner = p.owner ∧ address = p.address then none else m.record? owner address := by
  by_cases hkey : (owner, address) = (p.owner, p.address)
  · rw [if_pos (Prod.mk.inj hkey), record?, hkey]
    exact Table.find?_erase_self _ _
  · rw [if_neg fun h => hkey (Prod.ext h.1 h.2)]
    exact Table.find?_erase_of_ne hkey _

/-! ## Addresses in use -/

/-- All addresses of the map are among those in use. -/
def Uses (m : Ledger) (used : Set Bytes) : Prop :=
  ∀ owner address record, m.record? owner address = some record → address ∈ used

variable {used : Set Bytes}

theorem Uses.put (h : m.Uses used) {c : Contact} (hc : c.address ∈ used) : (m.put c).Uses used := by
  intro owner address record hrecord
  rw [record?_put] at hrecord
  split at hrecord
  · rename_i hkey; rw [hkey.2]; exact hc
  · exact h owner address record hrecord

theorem Uses.erase (h : m.Uses used) (p : Peer) : (m.erase p).Uses used := by
  intro owner address record hrecord
  rw [record?_erase] at hrecord
  split at hrecord
  · cases hrecord
  · exact h owner address record hrecord

/-- What is not in use is not in the map. -/
theorem Uses.record?_eq_none (h : m.Uses used) (owner : Text) (ha : address ∉ used) :
    m.record? owner address = none :=
  Option.eq_none_iff_forall_not_mem.2 fun record hrecord => ha (h owner address record hrecord)

theorem mem_entries {record : ContactRecord} :
    (address, record) ∈ (m.entries.filter (·.1.1 = owner)).map (fun e => (e.1.2, e.2)) ↔
      m.record? owner address = some record := by
  rw [record?, Table.find?_eq_some_iff_mem m.nodup, List.mem_map]
  constructor
  · rintro ⟨⟨⟨o, a⟩, r⟩, hentry, heq⟩
    obtain ⟨hmem, ho⟩ := List.mem_filter.1 hentry
    obtain ⟨rfl, rfl⟩ := Prod.mk.inj heq
    obtain rfl : o = owner := of_decide_eq_true ho
    exact hmem
  · intro hmem
    exact ⟨_, List.mem_filter.2 ⟨hmem, by simp⟩, rfl⟩

/-- The list of an owner holds the owner's part of the map. -/
theorem Uses.lists (h : m.Uses used) (hused : Set.InjOn Field.addressDigest used) (owner : Text) :
    Lists (m.record? owner) (m.list owner) := by
  refine ⟨fun address record => ?_,
    Text.ascending_mergeSort (fun e : Bytes × ContactRecord => Field.addressDigest e.1) ?_⟩
  · rw [list, List.mem_mergeSort, mem_entries]
  · rw [List.map_map]
    refine List.Nodup.map_on (fun x hx y hy hxy => ?_) ((m.nodup.of_map _).filter _)
    obtain ⟨⟨ox, ax⟩, rx⟩ := x
    obtain ⟨⟨oy, ay⟩, ry⟩ := y
    obtain ⟨hx, hox⟩ := List.mem_filter.1 hx
    obtain ⟨hy, hoy⟩ := List.mem_filter.1 hy
    have howner : ox = oy := (of_decide_eq_true hox).trans (of_decide_eq_true hoy).symm
    have haddress : ax = ay := hused
      (h ox ax rx ((Table.find?_eq_some_iff_mem m.nodup).2 hx))
      (h oy ay ry ((Table.find?_eq_some_iff_mem m.nodup).2 hy)) hxy
    exact List.inj_on_of_nodup_map m.nodup hx hy (Prod.ext howner haddress)

/-! ## The map in the tables -/

/-- The tables hold the map, and nothing but addresses in use. -/
structure Matches (m : Ledger) (used : Set Bytes) (t : Tables) : Prop where
  filed : t.Filed
  uses : m.Uses used
  contact : ∀ owner address, t.contact? owner address = m.record? owner address

variable {t : Tables}

theorem matches_empty (h : t.contacts = []) (used : Set Bytes) : empty.Matches used t where
  filed := Tables.filed_of_nil h
  uses _ _ _ hrecord := by cases hrecord
  contact owner address := by rw [Tables.contact?, Tables.contactItem?, h]; rfl

namespace Matches
variable (h : m.Matches used t) (hused : Set.InjOn Field.addressDigest used)
include h hused

/-- Under the key of an address in use, no other contact is kept. -/
theorem record?_of_key {owner' : Text} {address' : Bytes}
    (hkey : Tables.contactKey owner address = Tables.contactKey owner' address')
    (ha : address' ∈ used) (hne : ¬(owner = owner' ∧ address = address')) :
    m.record? owner address = none := by
  obtain ⟨howner, hdigest⟩ := Tables.contactKey_eq.1 hkey
  refine h.uses.record?_eq_none owner fun hmem => hne ⟨howner, hused hmem ha hdigest⟩

theorem file {c : Contact} {now : Instant} (hd : now.IsDated) (hc : c.address ∈ used) :
    (m.put c).Matches used (t.file c now) where
  filed := h.filed.file c hd
  uses := h.uses.put hc
  contact owner address := by
    rw [Tables.contact?_file, record?_put]
    by_cases hsame : owner = c.owner ∧ address = c.address
    · rw [if_pos (by rw [hsame.1, hsame.2]), if_pos hsame.2, if_pos hsame]
    · rw [if_neg hsame]
      -- under the key of the new contact, another address would have the digest of this one
      by_cases hkey : Tables.contactKey owner address = Tables.contactKey c.owner c.address
      · have hne : address ≠ c.address := fun ha => hsame ⟨(Tables.contactKey_eq.1 hkey).1, ha⟩
        rw [if_pos hkey, if_neg hne, h.record?_of_key hused hkey hc hsame]
      · rw [if_neg hkey, h.contact]

theorem unfile {p : Peer} (hp : p.address ∈ used) :
    (m.erase p).Matches used (t.unfile p.owner p.address) where
  filed := h.filed.unfile _ _
  uses := h.uses.erase p
  contact owner address := by
    rw [Tables.contact?_unfile, record?_erase]
    by_cases hsame : owner = p.owner ∧ address = p.address
    · rw [if_pos (by rw [hsame.1, hsame.2]), if_pos hsame]
    · rw [if_neg hsame]
      by_cases hkey : Tables.contactKey owner address = Tables.contactKey p.owner p.address
      · rw [if_pos hkey, h.record?_of_key hused hkey hp hsame]
      · rw [if_neg hkey, h.contact]

theorem list_eq (owner : Text) {l : List (Bytes × ContactRecord)}
    (hl : Lists (t.contact? owner) l) : l = m.list owner := by
  rw [funext (h.contact owner)] at hl
  exact hl.unique (h.uses.lists hused owner)

end Matches

end Ledger

/-! ## Dealings -/

namespace Ledger.Matches
variable {b : ContactBook} {m : Ledger} {used : Set Bytes} {w : World}
variable (h : m.Matches used w.tables) (hused : Set.InjOn Field.addressDigest used) (hw : w.IsQuiet)
include h hused hw

/-- Whatever is asked about addresses in use, the book answers as the map does, and its tables
    hold the map after that. -/
theorem receive {e : Errand} (he : ∀ address ∈ e.addresses, address ∈ used) :
    ((b.receive e).run w).1 = .ok (m.answer e).1 ∧
      (m.answer e).2.Matches used ((b.receive e).run w).2.tables := by
  have hfiled : (Scene.tables ⟨w, []⟩).Filed := h.filed
  have hcontact : ∀ owner address, (Scene.tables ⟨w, []⟩).contact? owner address =
      m.record? owner address := h.contact
  cases e with
  | upsert c =>
    obtain ⟨record, hx, hrecord, now, hd, htables⟩ := Scene.Ends.run hw (b.upsert_ends c)
    refine ⟨hx.trans (congrArg Except.ok hrecord), ?_⟩
    exact htables ▸ h.file hused hd (he _ (by simp [Errand.addresses]))
  | remove p =>
    obtain ⟨_, hx, htables⟩ := Scene.Ends.run hw (b.remove_ends p.owner p.address)
    exact ⟨hx, htables ▸ h.unfile hused (he _ (by simp [Errand.addresses]))⟩
  | get p =>
    obtain ⟨record, hx, hrecord, htables⟩ :=
      Scene.Ends.run hw (b.get_ends hfiled Troubles.areTold_quiet p.owner p.address)
    rw [hcontact] at hrecord
    exact ⟨hx.trans (congrArg Except.ok hrecord), htables ▸ h⟩
  | contains p =>
    obtain ⟨present, hx, hpresent, htables⟩ :=
      Scene.Ends.run hw (b.contains_ends hfiled Troubles.areTold_quiet p.owner p.address)
    rw [hcontact] at hpresent
    exact ⟨hx.trans (congrArg Except.ok hpresent), htables ▸ h⟩
  | list owner =>
    obtain ⟨l, hx, hl, htables⟩ := Scene.Ends.run hw (b.list_ends hfiled owner)
    exact ⟨hx.trans (congrArg Except.ok (h.list_eq hused owner hl)), htables ▸ h⟩

end Ledger.Matches

/-- What is asked for one after the other is answered as the map answers it. -/
theorem Ledger.Matches.serve_eq {b : ContactBook} {m : Ledger} {used : Set Bytes} {w : World}
    (h : m.Matches used w.tables) (hused : Set.InjOn Field.addressDigest used)
    (hf : w.faults = []) (hi : w.intruders = []) {errands : List (Instant × Errand)}
    (hd : ∀ errand ∈ errands, errand.1.IsDated)
    (he : ∀ errand ∈ errands, ∀ address ∈ errand.2.addresses, address ∈ used) :
    b.serve errands w = m.serve (errands.map (·.2)) := by
  -- `Matches` is what carries over from one errand to the next
  induction errands generalizing m w with
  | nil => rfl
  | cons errand errands ih =>
    obtain ⟨now, e⟩ := errand
    have hw : { w with clock := now }.IsQuiet := ⟨hf, hi, hd (now, e) (by simp)⟩
    obtain ⟨hresult, hmatches⟩ :=
      receive (b := b) (w := { w with clock := now }) h hused hw (he (now, e) (by simp))
    have hquiet := hw.run (b.receive e)
    have hrest := ih hmatches hquiet.faultless hquiet.alone
      (fun errand hmem => hd errand (by simp [hmem])) fun errand hmem => he errand (by simp [hmem])
    simp only [ContactBook.serve, List.map_cons, serve, hresult, hrest]

/-- The addresses that are named in errands. -/
def Errand.used (errands : List (Instant × Errand)) : Set Bytes :=
  { address | ∃ errand ∈ errands, address ∈ errand.2.addresses }

/-- **A contact book is a map**: whatever is asked of it, and in whatever order, from an empty
    table on, it answers as the map does that is empty at first, as long as the digests of the
    addresses in use differ. -/
theorem ContactBook.serve_eq_ledger (b : ContactBook) (w : World) (hf : w.faults = [])
    (hi : w.intruders = []) (ht : w.tables.contacts = []) (errands : List (Instant × Errand))
    (hd : ∀ errand ∈ errands, errand.1.IsDated)
    (hused : Set.InjOn Field.addressDigest (Errand.used errands)) :
    b.serve errands w = Ledger.empty.serve (errands.map (·.2)) :=
  (Ledger.matches_empty ht _).serve_eq hused hf hi hd
    fun errand hmem _ haddress => ⟨errand, hmem, haddress⟩

/-- A contact at an address of nothing but zeros, with the same byte all over its name. -/
def Contact.plain (owner : Text) (byte : UInt8) : Contact :=
  ⟨⟨owner, Field.contactAddress.zeros, Bytes.length_zeros _⟩,
    List.replicate Field.contactName.width byte, List.length_replicate⟩

/-- Two owners keep a contact at the same address; one takes it out, the other one renames it. -/
def plainErrands : List (Instant × Errand) :=
  [(⟨0⟩, .upsert (.plain "ann" 1)), (⟨1⟩, .upsert (.plain "bob" 1)),
    (⟨2⟩, .remove (Contact.plain "ann" 1).toPeer), (⟨3⟩, .upsert (.plain "bob" 2)),
    (⟨4⟩, .get (Contact.plain "ann" 1).toPeer), (⟨5⟩, .contains (Contact.plain "bob" 1).toPeer),
    (⟨6⟩, .list "bob")]

theorem plainErrands_serve : blankWorld.faults = [] ∧ blankWorld.intruders = [] ∧
    blankWorld.tables.contacts = [] ∧ (∀ errand ∈ plainErrands, errand.1.IsDated) ∧
    Set.InjOn Field.addressDigest (Errand.used plainErrands) ∧
    (ContactBook.mk blankWorld.container.site).serve plainErrands blankWorld =
      [⟨.upsert (.plain "ann" 1), .ok (Contact.plain "ann" 1).record⟩,
        ⟨.upsert (.plain "bob" 1), .ok (Contact.plain "bob" 1).record⟩,
        ⟨.remove (Contact.plain "ann" 1).toPeer, .ok ()⟩,
        ⟨.upsert (.plain "bob" 2), .ok (Contact.plain "bob" 2).record⟩,
        ⟨.get (Contact.plain "ann" 1).toPeer, .ok .zeros⟩,
        ⟨.contains (Contact.plain "bob" 1).toPeer, .ok true⟩,
        ⟨.list "bob", .ok [(Field.contactAddress.zeros, (Contact.plain "bob" 2).record)]⟩] := by
  have hdated : ∀ errand ∈ plainErrands, errand.1.IsDated := by decide
  have hone : ∀ address ∈ Errand.used plainErrands, address = Field.contactAddress.zeros := by
    rintro address ⟨errand, hmem, haddress⟩
    simp only [plainErrands, List.mem_cons, List.not_mem_nil, or_false] at hmem
    rcases hmem with rfl | rfl | rfl | rfl | rfl | rfl | rfl
    case inr.inr.inr.inr.inr.inr => cases haddress
    all_goals exact List.mem_singleton.1 haddress
  have hused : Set.InjOn Field.addressDigest (Errand.used plainErrands) :=
    fun a ha b hb _ => (hone a ha).trans (hone b hb).symm
  refine ⟨rfl, rfl, rfl, hdated, hused, ?_⟩
  rw [ContactBook.serve_eq_ledger _ _ rfl rfl rfl plainErrands hdated hused]
  have hne : Text.ofString "ann" ≠ Text.ofString "bob" := by decide
  simp [plainErrands, Ledger.serve, Ledger.answer, Ledger.record?, Ledger.list, Ledger.put,
    Ledger.erase, Ledger.empty, Contact.plain, Table.put, Table.erase, Table.find?, hne, hne.symm]

end Rendezvous
