/-
  A look-up of one contact while others write.

  `contact-get` reads what is kept at an address twice: once for the name that it tells, and once
  for whether a contact is there.  Between the two reads, others may put the contact or take it out.

  * `ReadsFrom`: contacts are read from tables that change in the course of time;
  * `ContactBook.get_found`, `ContactBook.contains_found`: what is told was so at some moment;
  * `Function.contactGet_lookedUp`: the two moments of an answer;
  * `Crossing`: a look-up in whose midst the contact is taken out;
  * `Run.LooksUp.snapshot_iff`: just when the answer describes a single moment.
-/
import Rendezvous.Proofs.Chat
import Rendezvous.Proofs.Contacts
import Rendezvous.Proofs.Run

namespace Rendezvous

/-! ## What is told of a contact -/

/-- The name that a response tells of a contact, and whether it tells that the contact exists. -/
def Response.contactTold? (response : Value) : Option (Text × Bool) :=
  match response.at? ["data", "contact", "name"], response.at? ["data", "contact", "exists"] with
  | some (.str name), some (.bool present) => some (name, present)
  | _, _ => none

namespace Tables
variable (t : Tables) (owner : Text) (address : Bytes)

/-- Whether a contact is kept at an address. -/
def hasContact : Bool := (t.contactItem? owner address).isSome

/-- The record of the contact at an address; where there is none, a thousand zeros. -/
def Names (record : ContactRecord) : Prop :=
  match t.contactItem? owner address with
  | some item => item.toRecord = .ok record
  | none => record = .zeros

/-- A record and a flag describe what is kept at an address. -/
structure Shows (record : ContactRecord) (present : Bool) : Prop where
  names : t.Names owner address record
  kept : t.hasContact owner address = present

variable {t owner address} {record : ContactRecord}

theorem names_of_contactItem? {item : ContactItem} (h : t.contactItem? owner address = some item) :
    t.Names owner address record ↔ item.toRecord = .ok record := by
  rw [Names, h]

/-- Where no contact is kept, the name is nothing but zeros. -/
theorem names_iff_of_absent (h : t.hasContact owner address = false) :
    t.Names owner address record ↔ record = .zeros := by
  rw [hasContact, Option.isSome_eq_false_iff, Option.isNone_iff_eq_none] at h
  rw [Names, h]

/-- A contact that is put is found under its key. -/
theorem find?_file (t : Tables) (c : Contact) (now : Instant) :
    (t.file c now).contacts.find? (contactKey c.owner c.address) = some (c.item now) :=
  Table.find?_put_self _ _ _

/-- A contact that is taken out is not. -/
theorem find?_unfile (t : Tables) (owner : Text) (address : Bytes) :
    (t.unfile owner address).contacts.find? (contactKey owner address) = none :=
  Table.find?_erase_self _ _

end Tables

/-! ## Reading in the course of time -/

/-- Time goes on while questions are answered, and a contact is read from the tables of a moment
    of this time, or not at all since the call has failed. -/
structure ReadsFrom (T : ℕ → Tables) (A : Answering ℕ) : Prop where
  passes : ∀ {q k reply k'}, A q k reply k' → k ≤ k'
  contact : ∀ {owner digest : Text} {k reply k'},
    A (.store (.getContact (.str owner) digest)) k reply k' → (∃ e, reply = .error (.remote e)) ∨
      ∃ m, k ≤ m ∧ m < k' ∧ reply = .ok ((T m).contacts.find? (.text owner, digest))

/-- What a program ends with was so at some moment between its start and its end. -/
def Found {α : Type} (T : ℕ → Tables) (k : ℕ) (Q : α → Tables → Prop) (x : Except Failure α)
    (k' : ℕ) : Prop :=
  k ≤ k' ∧ ∀ a, x = .ok a → ∃ m, k ≤ m ∧ m < k' ∧ Q a (T m)

variable {T : ℕ → Tables} {A : Answering ℕ} {k k' : ℕ}

theorem Found.of_error {α : Type} {Q : α → Tables → Prop} {e : Failure} (hk : k ≤ k') :
    Found T k Q (.error e) k' :=
  ⟨hk, fun _ h => by cases h⟩

theorem ReadsFrom.ensures_passes (hA : ReadsFrom T A) {α : Type} (act : Act α) :
    act.Ensures A (fun _ k' => k ≤ k') k := by
  induction act generalizing k with
  | done a => exact le_rfl
  | fail e => exact le_rfl
  | ask q next ih =>
    exact fun reply k₁ hr => (ih reply).mono fun _ _ h => (hA.passes hr).trans h

/-- How an item is read: as it is at some moment, or with a failure other than that it is not
    there. -/
def ReadAt (T : ℕ → Tables) (key : Key × Text) (k : ℕ) (x : Except Failure (Option ContactItem))
    (k' : ℕ) : Prop :=
  k ≤ k' ∧ ((∃ m, k ≤ m ∧ m < k' ∧ x = .ok ((T m).contacts.find? key)) ∨
    ∃ e, x = .error e ∧ ∀ text, e ≠ .table .doesNotExist text)

theorem Stamp.ne_doesNotExist_of_check {stamp : Option Text} {e : Failure}
    (h : Stamp.check stamp = .error e) (text : Text) : e ≠ .table .doesNotExist text := by
  rintro rfl
  cases stamp with
  | none => cases h
  | some t =>
    rw [Stamp.check] at h
    split at h <;> cases h

namespace ContactBook
variable (b : ContactBook) (hA : ReadsFrom T A) (owner : Text) (address : Bytes)
include hA

theorem readItem_found : (b.readItem (.str owner) address).Ensures A
    (ReadAt T (Tables.contactKey owner address) k) k := by
  have hremote : Troubles.remote.AreRemote := fun _ _ h => h
  have hread : (Act.store b.site (.getContact (.str owner) (Field.addressDigest address))).Ensures
      A (ReadAt T (Tables.contactKey owner address) k) k := by
    refine Act.ensures_store.2 fun reply k₁ hr => ⟨hA.passes hr, ?_⟩
    obtain ⟨e, rfl⟩ | ⟨m, hm, hm', rfl⟩ := hA.contact hr
    · exact Or.inr ⟨_, rfl, fun text => hremote.areTold _ _ _ text ⟨e, rfl⟩⟩
    · exact Or.inl ⟨m, hm, hm', rfl⟩
  unfold readItem
  simp only [Act.bind_eq, Act.liftM_eq, Act.pure_eq]
  refine hread.bind ?_ ?_
  · rintro item k₁ ⟨hk, hitem⟩
    cases hstamp : Stamp.check (item.bind (·.updatedAt)) with
    | ok => exact ⟨hk, hitem⟩
    | error e => exact ⟨hk, Or.inr ⟨e, rfl, Stamp.ne_doesNotExist_of_check hstamp⟩⟩
  · rintro e k₁ ⟨hk, ⟨m, -, -, he⟩ | ⟨e', he, hne⟩⟩
    · cases he
    · cases he
      exact ⟨hk, Or.inr ⟨e, rfl, hne⟩⟩

/-- The contact at an address is found as it is at some moment. -/
theorem findItem_found : (b.findItem (.str owner) address).Ensures A
    (Found T k fun item t => item = t.contactItem? owner address) k := by
  unfold findItem failContact
  simp only [Act.bind_eq, Act.liftM_eq, Act.pure_eq]
  refine (readItem_found b hA owner address).attempt_bind ?_
  rintro x k₁ ⟨hk, ⟨m, hm, hm', rfl⟩ | ⟨e, rfl, hne⟩⟩
  · have hfound (item : Option ContactItem) (h : item = (T m).contactItem? owner address) {k₂ : ℕ}
        (h2 : k₁ ≤ k₂) : Found T k (fun item t => item = t.contactItem? owner address)
          (.ok item) k₂ :=
      ⟨hk.trans h2, fun a ha => ⟨m, hm, hm'.trans_le h2, by cases ha; exact h⟩⟩
    cases hitem : (T m).contacts.find? (Tables.contactKey owner address) with
    | none => exact hfound none (by rw [Tables.contactItem?, hitem]; rfl) le_rfl
    | some item =>
      have hcounts := Tables.contactItem?_of_find hitem
      dsimp only
      cases haddress : item.addressBytes with
      | error e => exact Found.of_error hk
      | ok found =>
        rw [haddress] at hcounts
        simp only [Act.ofExcept_ok, Act.done_bind]
        split
        · rename_i heq
          exact hfound (some item) (by rw [hcounts, heq]; exact (if_pos rfl).symm) le_rfl
        · rename_i hne
          -- an item of another address is none, but it is logged
          have hother : (none : Option ContactItem) = (T m).contactItem? owner address := by
            rw [hcounts]
            exact (if_neg fun h => hne (Option.some.inj h)).symm
          exact fun _ k₂ hr => hfound none hother (hA.passes hr)
  · split
    · rename_i heq; cases heq
    · rename_i heq; cases heq
    · rename_i heq; cases heq; exact absurd rfl (hne _)
    · exact fun _ k₂ hr => Found.of_error (hk.trans (hA.passes hr))

/-- The record of a contact is what an address was named at some moment. -/
theorem get_found : (b.get (.str owner) address).Ensures A
    (Found T k fun record t => t.Names owner address record) k := by
  unfold get
  simp only [Act.bind_eq, Act.liftM_eq, Act.pure_eq]
  refine (findItem_found b hA owner address).bind ?_ fun e _ he => Found.of_error he.1
  rintro item k₁ ⟨hk, hitem⟩
  obtain ⟨m, hm, hm', hitem⟩ := hitem item rfl
  cases item with
  | none =>
    have habsent : (T m).hasContact owner address = false := by rw [Tables.hasContact, ← hitem]; rfl
    refine ⟨hk, fun record hrecord => ⟨m, hm, hm', (Tables.names_iff_of_absent habsent).2 ?_⟩⟩
    exact (Except.ok.inj hrecord).symm
  | some item =>
    refine Act.ensures_ofExcept.2 ⟨hk, fun record hrecord => ⟨m, hm, hm', ?_⟩⟩
    exact (Tables.names_of_contactItem? hitem.symm).2 hrecord

/-- A contact is said to be there if it was so at some moment. -/
theorem contains_found : (b.contains (.str owner) address).Ensures A
    (Found T k fun present t => t.hasContact owner address = present) k := by
  unfold contains
  simp only [Act.bind_eq, Act.pure_eq]
  refine (findItem_found b hA owner address).bind ?_ fun e _ he => Found.of_error he.1
  rintro item k₁ ⟨hk, hitem⟩
  obtain ⟨m, hm, hm', rfl⟩ := hitem item rfl
  exact ⟨hk, fun present hpresent => ⟨m, hm, hm', by cases hpresent; rfl⟩⟩

end ContactBook

/-! ## One look-up -/

/-- A record is what an address was named at one moment, and a flag says whether a contact was there
    at a later one. -/
structure Readings (T : ℕ → Tables) (owner : Text) (address : Bytes) (record : ContactRecord)
    (present : Bool) (k m₁ m₂ k' : ℕ) : Prop where
  start : k ≤ m₁
  order : m₁ < m₂
  stop : m₂ < k'
  named : (T m₁).Names owner address record
  kept : (T m₂).hasContact owner address = present

/-- A response tells of a contact what was read. -/
def LookedUp (T : ℕ → Tables) (owner : Text) (address : Bytes) (k : ℕ) (response : Value)
    (k' : ℕ) : Prop :=
  ∃ record present m₁ m₂, Response.contactTold? response =
    some (Field.encodeHex record.name, present) ∧
      Readings T owner address record present k m₁ m₂ k'

theorem LookedUp.mono {owner : Text} {address : Bytes} {response : Value} {k₀ k₁ : ℕ}
    (h : LookedUp T owner address k response k') (h0 : k₀ ≤ k) (h1 : k' ≤ k₁) :
    LookedUp T owner address k₀ response k₁ := by
  obtain ⟨record, present, m₁, m₂, htold, hread⟩ := h
  exact ⟨record, present, m₁, m₂, htold, h0.trans hread.start, hread.order,
    hread.stop.trans_le h1, hread.named, hread.kept⟩

namespace Function
open Act
variable {owner : Text} {address : Bytes} {body : Object} {event : Value}

section
variable (hA : ReadsFrom T A)
include hA

/-- The name is read first, and after that whether a contact is there. -/
theorem contactGet_lookedUp (hasked : (Object.fieldOrNull "addr" body).isTruthy = true)
    (haddress : Field.bytesIn body "addr" = .ok address) :
    (contactGet.run ⟨owner, body⟩).Ensures A
      (fun x k' => ∀ response, x = .ok response → LookedUp T owner address k response k') k := by
  simp only [contactGet, bind_eq, liftM_eq, hasked, if_true, haddress, ofExcept_ok, done_bind]
  refine (hA.ensures_passes _).bind ?_ fun e _ _ _ h => by cases h
  intro service k₁ h1
  cases service.asContactBook with
  | error e => exact fun response h => by cases h
  | ok b =>
    rw [ofExcept_ok, done_bind]
    refine (b.get_found hA owner address).bind ?_ fun e _ _ _ h => by cases h
    rintro record k₂ ⟨-, hnames⟩
    obtain ⟨m₁, hm₁, hm₁', hnames⟩ := hnames record rfl
    refine (b.contains_found hA owner address).bind ?_ fun e _ _ _ h => by cases h
    rintro present k₃ ⟨-, hkept⟩
    obtain ⟨m₂, hm₂, hm₂', hkept⟩ := hkept present rfl
    intro now k₄ hr response hresponse
    cases hresponse
    exact ⟨record, present, m₁, m₂, rfl, by omega, by omega, hm₂'.trans_le (hA.passes hr), hnames,
      hkept⟩

/-- A response that was carried out tells what was read; all others have failed. -/
theorem answer_lookedUp (haccept : Request.accept (Request.require contactGet.required) event =
      .ok ⟨owner, body⟩) (hasked : (Object.fieldOrNull "addr" body).isTruthy = true)
    (haddress : Field.bytesIn body "addr" = .ok address) :
    (contactGet.handler.answer event).Ensures A (fun x k' => ∀ response, x = .ok response →
      Response.succeeded response = true → LookedUp T owner address k response k') k := by
  unfold Handler.answer
  simp only [bind_eq, liftM_eq, handler, haccept, ofExcept_ok, done_bind]
  refine (contactGet_lookedUp hA hasked haddress).attempt_bind ?_
  rintro x k₁ hx
  cases x with
  | ok response =>
    rintro _ h -
    cases h
    exact hx response rfl
  | error e =>
    refine (Handler.respond_fails A _ e k₁).mono ?_
    rintro _ k₂ ⟨response, rfl, hfailed⟩ _ h hs
    cases h
    rw [hfailed] at hs
    cases hs

/-- A successful answer delivers a response that tells what was read. -/
theorem invoke_lookedUp (haccept : Request.accept (Request.require contactGet.required) event =
      .ok ⟨owner, body⟩) (hasked : (Object.fieldOrNull "addr" body).isTruthy = true)
    (haddress : Field.bytesIn body "addr" = .ok address) (context : Value) :
    (contactGet.invoke event context).Ensures A (fun x k' => Handler.Succeeds event x →
      ∃ answer response, x = .ok answer ∧ Handler.deliver event response = .ok answer ∧
        LookedUp T owner address k response k') k := by
  have herror (e : Failure) : ¬Handler.Succeeds event (.error e) := by
    rintro ⟨answer, response, h, -⟩
    cases h
  rw [invoke_eq]
  intro start k₁ hr₁ _ k₂ hr₂
  simp only [served, bind_assoc, done_bind]
  refine (((answer_lookedUp hA haccept hasked haddress).and (hA.ensures_passes _))).bind ?_
    fun e _ _ h => (herror e h).elim
  rintro response k₃ ⟨hlooked, h3⟩
  refine (hA.ensures_passes _).bind ?_ fun e _ _ h => (herror e h).elim
  intro _ k₄ h4
  refine ensures_ofExcept.2 fun hs => ?_
  cases hsucceeded : Response.succeeded response with
  | false => exact (Handler.not_succeeds (fun _ => id) hsucceeded hs).elim
  | true =>
    obtain ⟨answer, -, hdeliver, -⟩ := hs
    have hstart := (hA.passes hr₁).trans (hA.passes hr₂)
    exact ⟨answer, response, hdeliver, hdeliver,
      (hlooked response rfl hsucceeded).mono hstart h4⟩

end

end Function

/-! ## Look-ups among other calls -/

namespace Act
variable {α : Type}

/-- The next question of a program is for the contact of an owner. -/
def Reads (owner digest : Text) (act : Act α) : Prop :=
  ∃ next, act = .ask (.store (.getContact (.str owner) digest)) next

/-- A program after the contact was read for which it has asked. -/
def afterRead (found : Option ContactItem) : Act α → Act α
  | .ask (.store (.getContact _ _)) next => next (.ok found)
  | act => act

end Act

namespace Run
variable {ι : Type} [DecidableEq ι] {R : Run ι Value} {i : ι} {event answer : Value} {owner : Text}
  {address : Bytes} {b e : ℕ}

theorem isTroubled {P : Troubles} (h : (R.process i 0).world.IsTroubled P) (k : ℕ) (t : Tables) :
    ((R.process i k).worldWith t).IsTroubled P := by
  have htables (w : World) (t : Tables) (hw : w.IsTroubled P) :
      { w with tables := t }.IsTroubled P :=
    ⟨hw.alone, hw.dated, hw.faults, hw.replies⟩
  exact htables _ t (world_invariant (fun _ q hw => hw.reply q) htables h k)

/-- A process whose calls fail remotely, if at all, reads from the tables of the run. -/
theorem readsFrom (h : (R.process i 0).world.IsTroubled .remote) :
    ReadsFrom R.tables (R.answer i) where
  passes := by
    rintro q k reply k' ⟨m, next, hm, rfl, -⟩
    omega
  contact := by
    rintro owner digest k reply k' ⟨m, next, hm, rfl, -, -, -, rfl⟩
    rcases ((isTroubled h m (R.tables m)).callStore (.getContact (.str owner) digest)).2 with
      ⟨failure, ⟨e, rfl⟩, herror, -⟩ | ⟨hok, -⟩
    · exact Or.inl ⟨e, herror⟩
    · exact Or.inr ⟨m, hm, m.lt_succ_self, hok⟩

/-- A process in a quiet world goes on with the contact as the tables have it. -/
theorem process_of_read {digest : Text} {found : Option ContactItem} {k : ℕ}
    (h : (R.process i 0).world.IsQuiet) (hturn : R.turn k = i)
    (hp : (R.process i k).program.Reads owner digest)
    (hfound : (R.tables k).contacts.find? (.text owner, digest) = found) :
    R.process i (k + 1) =
      ⟨(R.process i k).worldWith (R.tables k), (R.process i k).program.afterRead found⟩ := by
  obtain ⟨next, hnext⟩ := hp
  have htables (w : World) (t : Tables) (hw : w.IsQuiet) : { w with tables := t }.IsQuiet :=
    ⟨hw.faultless, hw.alone, hw.dated⟩
  have hquiet : ((R.process i k).worldWith (R.tables k)).IsQuiet :=
    htables _ _ (world_invariant (fun _ q hw => hw.reply q) htables h k)
  have hcall := World.callStore_alone hquiet.faultless hquiet.alone
    (.getContact (.str owner) digest)
  rw [process_succ hturn, Process.step_ask hnext, World.reply, hcall, hnext, ← hfound]
  rfl

/-- A process that is to look up the contact at one address, and whose calls to the store fail
    remotely, if at all. -/
structure LooksUp (R : Run ι Value) (i : ι) (event : Value) (owner : Text) (address : Bytes) :
    Prop where
  program : ∃ context, (R.process i 0).program = Function.contactGet.invoke event context
  world : (R.process i 0).world.IsTroubled .remote
  request : ∃ body, Request.accept (Request.require Function.contactGet.required) event =
      .ok ⟨owner, body⟩ ∧ (Object.fieldOrNull "addr" body).isTruthy = true ∧
        Field.bytesIn body "addr" = .ok address

/-- The two moments of a look-up that has succeeded. -/
theorem LooksUp.lookedUp (h : R.LooksUp i event owner address) (hb : ∀ j < b, ¬R.Acts i j)
    (he : b ≤ e) (hx : (R.process i e).outcome? = some (.ok answer))
    (hs : Handler.Succeeds event (.ok answer)) : ∃ response,
      Handler.deliver event response = .ok answer ∧
        LookedUp R.tables owner address b response e := by
  obtain ⟨⟨context, hprogram⟩, hworld, body, haccept, hasked, haddress⟩ := h
  have hens := Function.invoke_lookedUp (k := b) (readsFrom hworld) haccept hasked haddress context
  rw [← hprogram, ← process_of_idle hb] at hens
  obtain ⟨k, -, hk, -, hends⟩ := ends_as_ensured hens he hx
  obtain ⟨_, response, hanswer, hdeliver, hlooked⟩ := hends hs
  cases hanswer
  exact ⟨response, hdeliver, hlooked.mono le_rfl hk⟩

/-- A name and a flag describe what is kept at an address at one moment of some time. -/
def IsSnapshot (R : Run ι Value) (b e : ℕ) (owner : Text) (address : Bytes)
    (record : ContactRecord) (present : Bool) : Prop :=
  ∃ m, b ≤ m ∧ m ≤ e ∧ (R.tables m).Shows owner address record present

end Run

/-! ## A contact that is taken out meanwhile -/

namespace Crossing

/-- Two calls about one contact. -/
inductive Part where
  | get
  | remove
  deriving DecidableEq

/-- The function that is called. -/
def Part.function : Part → Function
  | .get => Function.contactGet
  | .remove => Function.contactRemove

/-- The event of both calls. -/
def event : Value := Request.direct "ann" [("addr", .str "0x01")]

/-- The contact. -/
def contact : Contact where
  owner := "ann"
  address := .fill Field.contactAddress.width [1]
  address_length := Bytes.length_fill (by decide)
  name := .fill Field.contactName.width [2]
  name_length := Bytes.length_fill (by decide)

/-- The contact is taken out between the two reads of the look-up. -/
def run : Run Part Value where
  start := ⟨Tables.empty.file contact ⟨0⟩, fun part =>
    ⟨blankWorld, part.function.invoke event .null⟩⟩
  turn k := if 4 ≤ k ∧ k < 12 then .remove else .get

/-- What the look-up does after a contact was looked for once, and was found. -/
def lookup : Act Value := (run.process .get 3).program.afterRead (some (contact.item ⟨0⟩))

theorem quiet : (run.process .get 0).world.IsQuiet := ⟨rfl, rfl, by decide⟩

/-- The contact is found at the first read. -/
theorem read_first : run.process .get 4 =
    ⟨(run.process .get 3).worldWith (run.tables 3), lookup⟩ := by
  have htables : run.tables 3 = Tables.empty.file contact ⟨0⟩ := rfl
  have hfound : (run.tables 3).contacts.find? (Tables.contactKey contact.owner contact.address) =
      some (contact.item ⟨0⟩) := by
    rw [htables, Tables.find?_file]
  exact Run.process_of_read quiet rfl ⟨_, rfl⟩ hfound

/-- The look-up waits while the contact is taken out. -/
theorem waited : run.process .get 12 = run.process .get 4 := by
  refine Run.process_of_rest (by decide) fun j hj hj' => ?_
  have hremove : run.turn j = .remove := if_pos ⟨hj, hj'⟩
  rw [hremove]
  decide

set_option maxRecDepth 20000 in
theorem lookup_reads : lookup.Reads "ann" (Field.addressDigest contact.address) := ⟨_, rfl⟩

/-- The contact is not found at the second read. -/
theorem read_second : run.process .get 13 =
    ⟨(run.process .get 3).worldWith (run.tables 12), lookup.afterRead none⟩ := by
  have htables : run.tables 12 = (run.tables 3).unfile contact.owner contact.address := rfl
  have hfound : (run.tables 12).contacts.find? (Tables.contactKey contact.owner contact.address) =
      none := by
    rw [htables, Tables.find?_unfile]
  have hreads : (run.process .get 12).program.Reads "ann"
      (Field.addressDigest contact.address) := by
    simpa only [waited, read_first] using lookup_reads
  have h13 := Run.process_of_read quiet rfl hreads hfound
  simpa only [waited, read_first, Process.worldWith_worldWith] using h13

/-- After that, the look-up tells the name of the contact, and that there is none. -/
theorem told : ∃ answer, ((lookup.afterRead none).run
      ((run.process .get 3).worldWith (run.tables 13))).1 = .ok answer ∧
    Response.succeeded answer = true ∧
    Response.contactTold? answer = some (Field.encodeHex contact.name, false) := by
  have htold : (((lookup.afterRead none).run
      ((run.process .get 3).worldWith (run.tables 13))).1.toOption.any fun answer =>
        Response.succeeded answer &&
          decide (Response.contactTold? answer = some (Field.encodeHex contact.name, false))) =
      true := by
    decide +kernel
  cases hended : ((lookup.afterRead none).run
      ((run.process .get 3).worldWith (run.tables 13))).1 with
  | error e =>
    rw [hended] at htold
    cases htold
  | ok answer =>
    rw [hended] at htold
    obtain ⟨hs, hname⟩ := Bool.and_eq_true_iff.1 htold
    exact ⟨answer, rfl, hs, of_decide_eq_true hname⟩

theorem answered : ∃ e answer, (run.process .get e).outcome? = some (.ok answer) ∧
    Response.succeeded answer = true ∧
    Response.contactTold? answer = some (Field.encodeHex contact.name, false) := by
  obtain ⟨answer, hanswer, htold⟩ := told
  obtain ⟨e, -, hx⟩ := run.ends_alone (i := .get) (k := 13) fun j hj => if_neg fun h => by omega
  simp only [read_second, Process.worldWith_worldWith] at hx
  exact ⟨e, answer, by rw [hx, hanswer], htold⟩

theorem looksUp : run.LooksUp .get event contact.owner contact.address where
  program := ⟨.null, rfl⟩
  world := ⟨rfl, by decide, List.forall_mem_nil _, fun _ h => by cases h⟩
  request := ⟨_, rfl, rfl, rfl⟩

/-- The name of the contact is not the one that is told where there is none. -/
theorem ne_zeros {shown : ContactRecord}
    (h : Field.encodeHex shown.name = Field.encodeHex contact.name) : shown ≠ .zeros := by
  rintro rfl
  revert h
  decide +kernel

/-- No moment has the name of the contact and no contact. -/
theorem not_isSnapshot {shown : ContactRecord} {b e : ℕ}
    (h : Field.encodeHex shown.name = Field.encodeHex contact.name) :
    ¬run.IsSnapshot b e contact.owner contact.address shown false := by
  rintro ⟨m, -, -, hnames, habsent⟩
  exact ne_zeros h ((Tables.names_iff_of_absent habsent).1 hnames)

end Crossing

/-! ## Snapshots -/

namespace Run
variable {ι : Type} [DecidableEq ι] {R : Run ι Value} {i : ι} {event answer : Value} {owner : Text}
  {address : Bytes} {b e : ℕ}

/-- **Just when a look-up is a snapshot.**  The name that is told was the one at a moment of the
    look-up, and the flag was right at a later moment.  Both describe a single moment just if a
    contact is there at both of these moments or at neither of them, or if the name is nothing but
    zeros, and a contact of such a name was there where one is said to exist. -/
theorem LooksUp.snapshot_iff (h : R.LooksUp i event owner address) (hb : ∀ j < b, ¬R.Acts i j)
    (he : b ≤ e) (hx : (R.process i e).outcome? = some (.ok answer))
    (hs : Handler.Succeeds event (.ok answer)) : ∃ response record present m₁ m₂,
      Handler.deliver event response = .ok answer ∧
      Response.contactTold? response = some (Field.encodeHex record.name, present) ∧
      Readings R.tables owner address record present b m₁ m₂ e ∧
      (R.IsSnapshot b e owner address record present ↔
        (R.tables m₁).hasContact owner address = (R.tables m₂).hasContact owner address ∨
          record = .zeros ∧ (present = true →
            ∃ m, b ≤ m ∧ m ≤ e ∧ (R.tables m).Shows owner address .zeros true)) := by
  obtain ⟨response, hdeliver, record, present, m₁, m₂, htold, h1, hlt, h2, hnames, hkept⟩ :=
    h.lookedUp hb he hx hs
  refine ⟨response, record, present, m₁, m₂, hdeliver, htold, ⟨h1, hlt, h2, hnames, hkept⟩, ?_, ?_⟩
  · rintro ⟨m, hm, hm', hshows⟩
    by_cases hsame : (R.tables m₁).hasContact owner address =
        (R.tables m₂).hasContact owner address
    · exact Or.inl hsame
    · refine Or.inr ?_
      cases present with
      | false => exact ⟨(Tables.names_iff_of_absent hshows.kept).1 hshows.names, by simp⟩
      | true =>
        rw [hkept, Bool.not_eq_true] at hsame
        obtain rfl := (Tables.names_iff_of_absent hsame).1 hnames
        exact ⟨rfl, fun _ => ⟨m, hm, hm', hshows⟩⟩
  · rintro (hsame | ⟨rfl, hzeros⟩)
    · exact ⟨m₁, h1, by omega, hnames, hsame.trans hkept⟩
    · cases present with
      | false => exact ⟨m₂, by omega, h2.le, (Tables.names_iff_of_absent hkept).2 rfl, hkept⟩
      | true => exact hzeros rfl

/-- The contact is there when its name is read, and not when it is asked whether it exists. -/
theorem LooksUp.crossed :
    Crossing.run.LooksUp .get Crossing.event Crossing.contact.owner Crossing.contact.address ∧
    (∀ j < 0, ¬Crossing.run.Acts .get j) ∧ ∃ e answer, 0 ≤ e ∧
      (Crossing.run.process .get e).outcome? = some (.ok answer) ∧
      Handler.Succeeds Crossing.event (.ok answer) ∧ ∃ m₁ m₂, m₁ < m₂ ∧ m₂ < e ∧
        (Crossing.run.tables m₁).hasContact Crossing.contact.owner Crossing.contact.address = true ∧
        (Crossing.run.tables m₂).hasContact Crossing.contact.owner Crossing.contact.address =
          false := by
  obtain ⟨e, answer, hx, hsucceeded, htold⟩ := Crossing.answered
  have hdeliver (response : Value) : Handler.deliver Crossing.event response = .ok response :=
    Handler.deliver_direct rfl response
  have hs : Handler.Succeeds Crossing.event (.ok answer) :=
    ⟨answer, answer, rfl, (Response.delivered_iff hsucceeded).2 (hdeliver answer), hsucceeded⟩
  have hidle : ∀ j < 0, ¬Crossing.run.Acts .get j := fun j hj => absurd hj j.not_lt_zero
  refine ⟨Crossing.looksUp, hidle, e, answer, e.zero_le, hx, hs, ?_⟩
  obtain ⟨response, record, present, m₁, m₂, hresponse, htold', hread, hiff⟩ :=
    Crossing.looksUp.snapshot_iff hidle e.zero_le hx hs
  obtain rfl : response = answer := Except.ok.inj ((hdeliver response).symm.trans hresponse)
  obtain ⟨hname, rfl⟩ := Prod.mk.inj (Option.some.inj (htold'.symm.trans htold))
  refine ⟨m₁, m₂, hread.order, hread.stop, Bool.ne_false_iff.1 fun h => ?_, hread.kept⟩
  exact Crossing.not_isSnapshot hname (hiff.2 (Or.inl (h.trans hread.kept.symm)))

/-- The look-up tells the name that the contact had at one moment, and that there is no contact
    at that address, as it is at no moment. -/
theorem LooksUp.torn :
    Crossing.run.LooksUp .get Crossing.event Crossing.contact.owner Crossing.contact.address ∧
    ∃ e answer, (Crossing.run.process .get e).outcome? = some (.ok answer) ∧
      Response.contactTold? answer = some (Field.encodeHex Crossing.contact.name, false) ∧
      ∀ record present, Response.contactTold? answer =
          some (Field.encodeHex record.name, present) →
        ¬Crossing.run.IsSnapshot 0 e Crossing.contact.owner Crossing.contact.address record
          present := by
  obtain ⟨e, answer, hx, -, htold⟩ := Crossing.answered
  refine ⟨Crossing.looksUp, e, answer, hx, htold, fun record present h => ?_⟩
  obtain ⟨hname, rfl⟩ := Prod.mk.inj (Option.some.inj (h.symm.trans htold))
  exact Crossing.not_isSnapshot hname

end Run

end Rendezvous
