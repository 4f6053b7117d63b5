/-
  The contacts of one owner, among those of all.

  Contacts are kept in one table, by owner and by digest.  What is written in the name of others
  leaves the contacts of an owner alone, and what the store answers about them depends on nothing
  else, whether or not digests collide.

  * `Table.part`: the part of a table with the keys of a kind, and what writes do to it;
  * `StoreCall.InBook`, `StoreCall.OffBook`: calls about the contacts of an owner, and calls that
    do not write them;
  * `Tables.book`: the contacts of an owner; `book_of_offBook`, `call_of_inBook`: what the calls do
    to them and tell of them;
  * `World.Resembles`: worlds that are the same to whoever asks about contacts; `Resembles.reply`:
    their replies depend on nothing but the contacts of the owner.
-/
import Rendezvous.Proofs.Hosting
import Rendezvous.Proofs.Seeking

namespace Rendezvous

/-! ## Parts of tables -/

namespace Table
variable {κ ρ : Type} [DecidableEq κ] {table : Table κ ρ} {key : κ} {row : ρ} {p : κ → Bool}

/-- The part of a table with the keys of a kind. -/
def part (p : κ → Bool) (table : Table κ ρ) : Table κ ρ := table.filter fun entry => p entry.1

/-- A part of a table holds the rows of all its keys. -/
theorem find?_part (h : p key = true) : find? key (table.part p) = table.find? key := by
  induction table with
  | nil => rfl
  | cons entry table ih =>
    rw [part] at ih ⊢
    rw [List.filter_cons]
    split
    next => rw [find?, find?, ih]
    next hp =>
      have hne : entry.1 ≠ key := fun heq => hp (heq ▸ h)
      rw [ih, find?, if_neg hne]

theorem part_put (h : p key = true) : (table.put key row).part p = put key row (table.part p) := by
  induction table with
  | nil => simp [part, put, h]
  | cons entry table ih =>
    obtain ⟨k, old⟩ := entry
    by_cases hk : k = key
    · subst hk
      simp [part, put, h]
    · rw [part] at ih ⊢
      by_cases hp : p k = true <;> simp [part, put, hk, hp, ih]

theorem part_put_of_not (h : p key = false) : (table.put key row).part p = table.part p := by
  induction table with
  | nil => simp [part, put, h]
  | cons entry table ih =>
    obtain ⟨k, old⟩ := entry
    by_cases hk : k = key
    · subst hk
      simp [part, put, h]
    · rw [part] at ih ⊢
      by_cases hp : p k = true <;> simp [part, put, hk, hp, ih]

theorem part_erase : (table.erase key).part p = erase key (table.part p) := by
  simp only [erase, part, List.filter_filter, Bool.and_comm]

theorem part_erase_of_not (h : p key = false) : (table.erase key).part p = table.part p := by
  rw [erase, part, List.filter_filter]
  refine List.filter_congr fun entry _ => ?_
  by_cases hk : entry.1 = key
  · rw [hk, h, Bool.false_and]
  · simp [hk]

end Table

/-! ## The contacts of an owner -/

namespace StoreCall

/-- A call that reads or writes the contacts of an owner. -/
def InBook (owner : Text) : StoreCall → Prop
  | .getContact o _ | .deleteContact o _ | .queryContacts o => o = .str owner
  | .putContact item => item.owner = .str owner
  | _ => False

/-- A call that does not write the contacts of an owner. -/
def OffBook (owner : Text) : StoreCall → Prop
  | .deleteContact o _ => o ≠ .str owner
  | .putContact item => item.owner ≠ .str owner
  | _ => True

end StoreCall

namespace Tables

/-- Whether a key is that of a contact of an owner. -/
def isOwn (owner : Text) (key : Key × Text) : Bool := key.1 = .text owner

/-- The contacts of an owner, as they stand in the table. -/
def book (t : Tables) (owner : Text) : Table (Key × Text) ContactItem :=
  t.contacts.part (isOwn owner)

variable {owner : Text} {call : StoreCall}

/-- What is done to the contacts of others leaves those of an owner alone. -/
theorem book_of_offBook (h : call.OffBook owner) (t : Tables) :
    (t.call call).2.book owner = t.book owner := by
  have hother {v : Value} {key : Key} (hv : v ≠ .str owner) (hkey : v.key = .ok key)
      (digest : Text) : isOwn owner (key, digest) = false :=
    decide_eq_false fun heq => hv (Container.eq_of_key (hkey.trans (congrArg Except.ok heq)))
  cases call with
  | putContact item =>
    simp only [Tables.call, keyed]
    split
    next key hkey => exact Table.part_put_of_not (hother h hkey _)
    next => rfl
  | deleteContact o digest =>
    simp only [Tables.call, keyed]
    split
    next key hkey => exact Table.part_erase_of_not (hother h hkey _)
    next => rfl
  | register record binding =>
    simp only [Tables.call, keyed, register]
    split
    · split <;> rfl
    · rfl
  | _ => rw [call_of_not_isWrite rfl]

/-- An owner is answered from the contacts of the owner alone. -/
theorem call_of_inBook (h : call.InBook owner) {t t' : Tables}
    (hb : t'.book owner = t.book owner) : (t'.call call).1 = (t.call call).1 ∧
      (t'.call call).2.book owner = (t.call call).2.book owner := by
  have hown (digest : Text) : isOwn owner (.text owner, digest) = true := decide_eq_true rfl
  have hkey : (Value.str owner).key = .ok (.text owner) := rfl
  cases call with
  | getContact o digest =>
    obtain rfl : o = .str owner := h
    have hfind (t : Tables) : t.contacts.find? (.text owner, digest) =
        (t.book owner).find? (.text owner, digest) := (Table.find?_part (hown digest)).symm
    simp only [Tables.call, keyed, hkey]
    exact ⟨by rw [hfind t, hfind t', hb], hb⟩
  | putContact item =>
    have h : item.owner = .str owner := h
    have hput (t : Tables) : (t.putContact (.text owner) item).book owner =
        (t.book owner).put (.text owner, item.key) item := Table.part_put (hown item.key)
    simp only [Tables.call, keyed, h, hkey]
    exact ⟨trivial, by rw [hput t, hput t', hb]⟩
  | deleteContact o digest =>
    obtain rfl : o = .str owner := h
    have herase (t : Tables) : ({ t with contacts := t.contacts.erase (.text owner, digest) } :
        Tables).book owner = (t.book owner).erase (.text owner, digest) := Table.part_erase
    simp only [Tables.call, keyed, hkey]
    exact ⟨trivial, by rw [herase t, herase t', hb]⟩
  | queryContacts o =>
    obtain rfl : o = .str owner := h
    have hquery (t : Tables) : t.call (.queryContacts (.str owner)) =
        (.ok (((t.book owner).map (·.2)).mergeSort fun a b => !Text.before b.key a.key), t) := rfl
    exact ⟨by rw [hquery t, hquery t', hb], hb⟩
  | _ => exact h.elim

end Tables

/-! ## Worlds -/

/-- A service that was asked for is given again. -/
theorem Container.resolve_again (c : Container) (name : Value) :
    ((c.resolve name).2.resolve name).1 = (c.resolve name).1 := by
  unfold resolve
  cases hkey : name.key with
  | error e => rfl
  | ok key =>
    simp only [resolveAt]
    cases hfound : c.services.lookup key with
    | some found => simp [hfound]
    | none =>
      cases hmake : c.make name with
      | error e => simp [hfound, hmake]
      | ok service => simp [register]

/-- A question about the contacts of an owner, or about no state that calls have in common. -/
def Query.InBook (owner : Text) : Query → Prop
  | .store call => call.InBook owner
  | .service name => name = .str "contact_book"
  | q => q.isIdle = true

namespace World
variable {owner : Text} {w w' : World}

/-- Worlds that are the same to whoever asks about contacts, if the contacts are: the time is the
    same, and what goes wrong, and the service that is given for contacts. -/
structure Resembles (w w' : World) : Prop where
  clock : w'.clock = w.clock
  readings : w'.readings = w.readings
  faults : w'.faults = w.faults
  service : (w'.container.resolve (.str "contact_book")).1.map (·.2) =
    (w.container.resolve (.str "contact_book")).1.map (·.2)

theorem Resembles.symm (h : w.Resembles w') : w'.Resembles w :=
  ⟨h.clock.symm, h.readings.symm, h.faults.symm, h.service.symm⟩

/-- Where an owner's contacts are the same, such worlds reply alike to questions about them. -/
theorem Resembles.reply (h : w.Resembles w') (hb : w'.tables.book owner = w.tables.book owner)
    {q : Query} (hq : q.InBook owner) : (w'.reply q).1 = (w.reply q).1 ∧
      (w.reply q).2.Resembles (w'.reply q).2 ∧
        (w'.reply q).2.tables.book owner = (w.reply q).2.tables.book owner := by
  obtain ⟨hclock, hreadings, hfaults, hservice⟩ := h
  cases q with
  | now => exact ⟨hclock, ⟨hclock, hreadings, hfaults, hservice⟩, hb⟩
  | log entry => exact ⟨rfl, ⟨hclock, hreadings, hfaults, hservice⟩, hb⟩
  | stopwatch =>
    simp only [World.reply, readStopwatch, hreadings]
    split
    next => exact ⟨rfl, ⟨hclock, hreadings, hfaults, hservice⟩, hb⟩
    next => exact ⟨rfl, ⟨hclock, rfl, hfaults, hservice⟩, hb⟩
  | service name =>
    obtain rfl : name = .str "contact_book" := hq
    refine ⟨hservice, ⟨hclock, hreadings, hfaults, ?_⟩, hb⟩
    have hagain (w : World) : (w.reply (.service (.str "contact_book"))).2.container =
        (w.container.resolve (.str "contact_book")).2 := rfl
    rw [hagain, hagain, Container.resolve_again, Container.resolve_again, hservice]
  | store call =>
    have hraced : isRaced call = false := by cases call <;> first | rfl | exact hq.elim
    obtain ⟨hreply, hbook⟩ := Tables.call_of_inBook hq hb
    simp only [World.reply, callStore, hraced, Bool.false_eq_true, if_false, callTables, hfaults]
    split
    next => exact ⟨rfl, ⟨hclock, hreadings, rfl, hservice⟩, hb⟩
    next => exact ⟨hreply, ⟨hclock, hreadings, rfl, hservice⟩, hbook⟩
  | _ => cases hq

end World

end Rendezvous
