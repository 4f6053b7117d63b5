/-
  Contacts whose addresses have one digest.

  An owner has room for one contact under each digest.  Whoever asks for a contact is told of one
  at exactly the address asked for, or of none, even where another address has its digest.  This
  is true of all tables that a contact book has ever written, whatever befell its calls.

  * `Alteration.kept?`: what is kept of a contact after alterations, the latest one under its
    digest being the one that counts; `Alteration.latest?`: the name that was last put for it;
  * `ContactBook.Reaches`: tables that come of alterations;
  * `Reaches.reads_agree`: a list and single contacts, read from such tables, agree.
-/
import Rendezvous.Proofs.Ledger

namespace Rendezvous

/-- What may be done to a contact book. -/
inductive Alteration where
  | upsert (c : Contact)
  | remove (p : Peer)

namespace Alteration

/-- What is kept of a contact after alterations, the latest first. -/
def kept? (owner : Text) (address : Bytes) : List Alteration → Option ContactRecord
  | [] => none
  | .upsert c :: past =>
    if Tables.contactKey owner address = Tables.contactKey c.owner c.address then
      if address = c.address then some c.record else none
    else kept? owner address past
  | .remove p :: past =>
    if Tables.contactKey owner address = Tables.contactKey p.owner p.address then none
    else kept? owner address past

/-- The name that was put last for exactly this owner and address; alterations of other contacts
    do not matter, whatever their digests. -/
def latest? (owner : Text) (address : Bytes) : List Alteration → Option Bytes
  | [] => none
  | .upsert c :: past =>
    if owner = c.owner ∧ address = c.address then some c.name else latest? owner address past
  | .remove _ :: past => latest? owner address past

/-- What is kept of a contact is the name that was put last for it. -/
theorem latest?_of_kept? {owner : Text} {address : Bytes} {past : List Alteration}
    {record : ContactRecord} (h : kept? owner address past = some record) :
    latest? owner address past = some record.name := by
  induction past with
  | nil => cases h
  | cons a past ih =>
    cases a with
    | upsert c =>
      rw [kept?] at h
      rw [latest?]
      split at h
      · rename_i hkey
        obtain ⟨haddress, hrecord⟩ := Option.ite_none_right_eq_some.1 h
        obtain rfl := Option.some.inj hrecord
        rw [if_pos ⟨(Tables.contactKey_eq.1 hkey).1, haddress⟩]
        rfl
      · rename_i hkey
        rw [if_neg fun hsame => hkey (by rw [hsame.1, hsame.2]), ih h]
    | remove p =>
      rw [kept?] at h
      split at h
      · cases h
      · exact ih h

end Alteration

namespace ContactBook

/-- Does to the book what it is told. -/
def alter (b : ContactBook) : Alteration → Act Unit
  | .upsert c => (b.upsert (.str c.owner) c.address c.name).bind fun _ => .done ()
  | .remove p => b.remove (.str p.owner) p.address

/-- Tables that come of alterations, the latest first, from an empty table of contacts on.  Each
    is made in a world where nobody else writes, and any call may fail; one that has failed does
    not count. -/
inductive Reaches (b : ContactBook) : List Alteration → Tables → Prop
  | start {t} : t.contacts = [] → Reaches b [] t
  | done {past w} (a : Alteration) : Reaches b past w.tables → w.intruders = [] →
      w.clock.IsDated → ((b.alter a).run w).1 = .ok () →
      Reaches b (a :: past) ((b.alter a).run w).2.tables
  | failed {past w e} (a : Alteration) : Reaches b past w.tables → w.intruders = [] →
      w.clock.IsDated → ((b.alter a).run w).1 = .error e →
      Reaches b past ((b.alter a).run w).2.tables

variable {b : ContactBook} {w : World} {past : List Alteration}

/-! ## Altering -/

/-- The tables after an alteration, as far as contacts are concerned. -/
def Altered (t : Tables) (t' : Tables) : Alteration → Prop
  | .upsert c => ∃ now, now.IsDated ∧ t' = t.file c now
  | .remove p => t' = t.unfile p.owner p.address

theorem alter_ends {P : Troubles} {s : Scene} (a : Alteration) : (b.alter a).Ensures
    (Scene.troubled P) (s.Ends P fun _ t => Altered s.tables t a) s := by
  cases a with
  | upsert c =>
    refine (b.upsert_ends c).bind ?_ fun e s' he => he
    rintro record s' ⟨-, now, hd, htables⟩
    exact ⟨now, hd, htables⟩
  | remove p => exact (b.remove_ends p.owner p.address).mono fun x s' hx => hx

theorem run_alter (a : Alteration) (hi : w.intruders = []) (hd : w.clock.IsDated) :
    (∃ e, ((b.alter a).run w).1 = .error e ∧ ((b.alter a).run w).2.tables = w.tables) ∨
      ((b.alter a).run w).1 = .ok () ∧ Altered w.tables ((b.alter a).run w).2.tables a := by
  have hw : w.IsTroubled fun _ _ => True := ⟨hi, hd, fun _ _ => trivial, fun _ _ => trivial⟩
  have hends := Scene.ensures_run hw (b.alter_ends (s := ⟨w, []⟩) a)
  cases hx : ((b.alter a).run w).1 with
  | ok u => rw [hx] at hends; exact Or.inr ⟨rfl, hends⟩
  | error e => rw [hx] at hends; exact Or.inl ⟨e, rfl, hends.2.2⟩

namespace Reaches

/-- The tables hold contacts and nothing else, and of each the record that is to be kept. -/
structure Keeps (past : List Alteration) (t : Tables) : Prop where
  filed : t.Filed
  contact : ∀ owner address, t.contact? owner address = Alteration.kept? owner address past

theorem Keeps.altered {t t' : Tables} (h : Keeps past t) {a : Alteration} (ha : Altered t t' a) :
    Keeps (a :: past) t' := by
  cases a with
  | upsert c =>
    obtain ⟨now, hd, rfl⟩ := ha
    refine ⟨h.filed.file c hd, fun owner address => ?_⟩
    rw [Tables.contact?_file, Alteration.kept?, h.contact]
  | remove p =>
    obtain rfl : t' = _ := ha
    refine ⟨h.filed.unfile _ _, fun owner address => ?_⟩
    rw [Tables.contact?_unfile, Alteration.kept?, h.contact]

theorem keeps {t : Tables} (h : b.Reaches past t) : Keeps past t := by
  -- an alteration that has failed has left the tables as they were, and is not in the past, either
  induction h with
  | start ht =>
    refine ⟨Tables.filed_of_nil ht, fun owner address => ?_⟩
    rw [Tables.contact?, Tables.contactItem?, ht]
    rfl
  | done a _ hi hd hx ih =>
    rcases run_alter a hi hd with ⟨e, he, -⟩ | ⟨-, ha⟩
    · rw [hx] at he; cases he
    · exact ih.altered ha
  | failed a _ hi hd hx ih =>
    rcases run_alter a hi hd with ⟨e, -, htables⟩ | ⟨hok, -⟩
    · rwa [htables]
    · rw [hx] at hok; cases hok

end Reaches

/-! ## Reading -/

namespace Reaches
variable (h : b.Reaches past w.tables) (hw : w.IsQuiet) (owner : Text) (address : Bytes)
include h hw

theorem contains_run : ((b.contains (.str owner) address).run w).1 =
    .ok (Alteration.kept? owner address past).isSome := by
  obtain ⟨present, hx, hpresent, -⟩ := Scene.Ends.run hw
    (b.contains_ends (s := ⟨w, []⟩) h.keeps.filed Troubles.areTold_quiet owner address)
  rw [hx, hpresent, ← h.keeps.contact]
  rfl

theorem get_run : ((b.get (.str owner) address).run w).1 =
    .ok ((Alteration.kept? owner address past).getD .empty) := by
  obtain ⟨record, hx, hrecord, -⟩ := Scene.Ends.run hw
    (b.get_ends (s := ⟨w, []⟩) h.keeps.filed Troubles.areTold_quiet owner address)
  rw [hx, hrecord, ← h.keeps.contact]
  rfl

theorem list_run : ∃ l, ((b.list (.str owner)).run w).1 = .ok l ∧
    Lists (fun address => Alteration.kept? owner address past) l := by
  obtain ⟨l, hl, hlists, -⟩ :=
    Scene.Ends.run hw (b.list_ends (s := ⟨w, []⟩) h.keeps.filed owner)
  have hcontact : (Scene.tables ⟨w, []⟩).contact? owner =
      fun address => Alteration.kept? owner address past := funext (h.keeps.contact owner)
  exact ⟨l, hl, hcontact ▸ hlists⟩

/-- **What is read of an owner's contacts agrees**: the list holds what is found at each address,
    no address twice, and what is found is the name that was put last for exactly this owner and
    address. -/
theorem reads_agree : ∃ l, ((b.list (.str owner)).run w).1 = .ok l ∧ (l.map (·.1)).Nodup ∧
    (∀ address record, (address, record) ∈ l ↔
      ((b.contains (.str owner) address).run w).1 = .ok true ∧
        ((b.get (.str owner) address).run w).1 = .ok record) ∧
    ∀ address, ((b.contains (.str owner) address).run w).1 = .ok true →
      ∃ name, Alteration.latest? owner address past = some name ∧
        ((b.get (.str owner) address).run w).1 = .ok ⟨name⟩ := by
  obtain ⟨l, hl, hlists⟩ := h.list_run hw owner
  refine ⟨l, hl, hlists.nodup, fun address record => ?_, fun address hpresent => ?_⟩
  · rw [h.contains_run hw, h.get_run hw, Except.ok.injEq, Except.ok.injEq, hlists.mem_iff]
    constructor
    · intro hkept
      rw [hkept]
      exact ⟨rfl, rfl⟩
    · rintro ⟨hsome, hrecord⟩
      obtain ⟨found, hkept⟩ := Option.isSome_iff_exists.1 hsome
      rw [hkept] at hrecord ⊢
      exact congrArg some hrecord
  · rw [h.contains_run hw, Except.ok.injEq] at hpresent
    obtain ⟨found, hkept⟩ := Option.isSome_iff_exists.1 hpresent
    refine ⟨found.name, Alteration.latest?_of_kept? hkept, ?_⟩
    rw [h.get_run hw, hkept]
    rfl

end Reaches

/-- The world after the book was altered. -/
def after (b : ContactBook) (a : Alteration) (w : World) : World := ((b.alter a).run w).2

theorem Reaches.after (h : b.Reaches past w.tables) (hw : w.IsQuiet) (a : Alteration) :
    b.Reaches (a :: past) (b.after a w).tables ∧ (b.after a w).IsQuiet := by
  obtain ⟨_, hx, -⟩ := Scene.Ends.run hw (alter_ends a)
  exact ⟨.done a h hw.alone hw.dated hx, hw.run _⟩

/-- A contact is put twice, with two names. -/
theorem rename_reads_agree :
    let b := ContactBook.mk blankWorld.container.site
    let w := b.after (.upsert (.plain "ann" 2)) (b.after (.upsert (.plain "ann" 1)) blankWorld)
    b.Reaches [.upsert (.plain "ann" 2), .upsert (.plain "ann" 1)] w.tables ∧ w.IsQuiet ∧
      ((b.get (.str "ann") Field.contactAddress.zeros).run w).1 =
        .ok (Contact.plain "ann" 2).record := by
  intro b w
  have hw : blankWorld.IsQuiet := ⟨rfl, rfl, by decide⟩
  have hstart : b.Reaches [] blankWorld.tables := .start rfl
  obtain ⟨h₁, hw₁⟩ := hstart.after hw (.upsert (.plain "ann" 1))
  obtain ⟨h₂, hw₂⟩ := h₁.after hw₁ (.upsert (.plain "ann" 2))
  refine ⟨h₂, hw₂, ?_⟩
  obtain ⟨l, -, -, -, hlatest⟩ := h₂.reads_agree hw₂ "ann"
  have hkept : Alteration.kept? "ann" Field.contactAddress.zeros
      [.upsert (.plain "ann" 2), .upsert (.plain "ann" 1)] =
      some (Contact.plain "ann" 2).record := by
    simp [Alteration.kept?, Contact.plain]
  have hpresent : ((b.contains (.str "ann") Field.contactAddress.zeros).run w).1 = .ok true := by
    rw [h₂.contains_run hw₂, hkept]
    rfl
  obtain ⟨name, hname, hget⟩ := hlatest Field.contactAddress.zeros hpresent
  rw [Alteration.latest?_of_kept? hkept] at hname
  obtain rfl := Option.some.inj hname
  exact hget

end ContactBook

end Rendezvous
