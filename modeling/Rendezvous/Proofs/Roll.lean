/-
  The registry as a map.

  What callers see of the registry is a map from identities to records that is only
  ever added to, and in which no nickname occurs twice.  The tables hold it under keys
  in hexadecimal, once by identity and once by nickname.

  * `Roll`: the map, and `Roll.answer`: how it answers what is asked of a registry;
  * `record?_add`, `owner?_add`: an entry is added for its identity and its nickname, and changes
    nothing for others;
  * `Roll.Matches`: the tables hold the map, in the two forms;
  * `Registry.serve_eq`: the answers are those of the map, in every history.
-/
import Rendezvous.Proofs.Registering

namespace Rendezvous

/-- What is asked of a registry. -/
inductive Visit where
  | register (a : Application)
  | isRegistered (identity : Text)
  | findRecord (identity : Text)
  | getRecord (identity : Text)
  | resolveNickname (nickname : Bytes)
  | nicknameTaken (nickname : Bytes)

/-- What it is answered. -/
abbrev Visit.Answer : Visit → Type
  | .register _ => AddressRecord
  | .isRegistered _ => Bool
  | .findRecord _ => Option AddressRecord
  | .getRecord _ => AddressRecord
  | .resolveNickname _ => Value
  | .nicknameTaken _ => Bool

/-- Visits with how they ended, one after the other. -/
abbrev History := List ((v : Visit) × Except Failure v.Answer)

namespace Registry

/-- Does what it is asked. -/
def receive (r : Registry) : (v : Visit) → Act v.Answer
  | .register a => r.register (.str a.caller) a.nickname a.address
  | .isRegistered identity => r.isRegistered (.str identity)
  | .findRecord identity => r.findRecord (.str identity)
  | .getRecord identity => r.getRecord (.str identity)
  | .resolveNickname nickname => r.resolveNickname nickname
  | .nicknameTaken nickname => r.nicknameTaken nickname

/-- Visits one after the other, each at a time of its own. -/
def serve (r : Registry) : List (Instant × Visit) → World → History
  | [], _ => []
  | (now, v) :: visits, w =>
    let ended := (r.receive v).run { w with clock := now }
    ⟨v, ended.1⟩ :: r.serve visits ended.2

end Registry

/-! ## The map -/

/-- Identities with their records: no identity and no nickname occurs twice. -/
structure Roll where
  entries : List (Text × AddressRecord)
  identities_nodup : (entries.map (·.1)).Nodup
  nicknames_nodup : (entries.map (·.2.nickname)).Nodup

namespace Roll

/-- Nobody is registered. -/
def empty : Roll := ⟨[], .nil, .nil⟩

variable (m : Roll)

/-- The record of an identity, if it has one. -/
def record? (identity : Text) : Option AddressRecord :=
  (m.entries.find? (·.1 = identity)).map (·.2)

/-- The identity that a nickname belongs to, if there is one. -/
def owner? (nickname : Bytes) : Option Text :=
  (m.entries.find? (·.2.nickname = nickname)).map (·.1)

variable {m} {identity : Text} {nickname : Bytes} {record : AddressRecord}

theorem not_mem_of_record? (h : m.record? identity = none) :
    identity ∉ m.entries.map (·.1) := by
  rintro hmem
  obtain ⟨entry, hentry, rfl⟩ := List.mem_map.1 hmem
  simp only [record?, Option.map_eq_none_iff, List.find?_eq_none] at h
  exact h entry hentry (by simp)

theorem not_mem_of_owner? (h : m.owner? nickname = none) :
    nickname ∉ m.entries.map (·.2.nickname) := by
  rintro hmem
  obtain ⟨entry, hentry, rfl⟩ := List.mem_map.1 hmem
  simp only [owner?, Option.map_eq_none_iff, List.find?_eq_none] at h
  exact h entry hentry (by simp)

/-- The map with one more entry. -/
def add (m : Roll) (a : Application) (hi : m.record? a.caller = none)
    (hn : m.owner? a.nickname = none) : Roll where
  entries := (a.caller, a.record) :: m.entries
  identities_nodup := List.nodup_cons.2 ⟨not_mem_of_record? hi, m.identities_nodup⟩
  nicknames_nodup := List.nodup_cons.2 ⟨not_mem_of_owner? hn, m.nicknames_nodup⟩

/-- Adds an entry, unless the caller has one, or else the nickname belongs to somebody. -/
def register (m : Roll) (a : Application) : Except Failure AddressRecord × Roll :=
  if hi : m.record? a.caller = none then
    if hn : m.owner? a.nickname = none then (.ok a.record, m.add a hi hn)
    else (.error a.nicknameTaken, m)
  else (.error a.identityTaken, m)

/-- The answer to a visit, and the map after it. -/
def answer (m : Roll) : (v : Visit) → Except Failure v.Answer × Roll
  | .register a => m.register a
  | .isRegistered identity => (.ok (m.record? identity).isSome, m)
  | .findRecord identity => (.ok (m.record? identity), m)
  | .getRecord identity => (.ok ((m.record? identity).getD .empty), m)
  | .resolveNickname nickname => (.ok (((m.owner? nickname).map .str).getD .null), m)
  | .nicknameTaken nickname => (.ok (m.owner? nickname).isSome, m)

/-- Visits one after the other. -/
def serve (m : Roll) : List Visit → History
  | [] => []
  | v :: visits => ⟨v, (m.answer v).1⟩ :: (m.answer v).2.serve visits

/-! ## Adding an entry -/

theorem record?_add {a : Application} (hi : m.record? a.caller = none)
    (hn : m.owner? a.nickname = none) (identity : Text) :
    (m.add a hi hn).record? identity =
      if identity = a.caller then some a.record else m.record? identity := by
  by_cases hcaller : identity = a.caller
  · simp [record?, add, hcaller]
  · simp [record?, add, hcaller, Ne.symm hcaller]

theorem owner?_add {a : Application} (hi : m.record? a.caller = none)
    (hn : m.owner? a.nickname = none) (nickname : Bytes) :
    (m.add a hi hn).owner? nickname =
      if nickname = a.nickname then some a.caller else m.owner? nickname := by
  have ha : a.record.nickname = a.nickname := rfl
  by_cases hnickname : nickname = a.nickname
  · simp [owner?, add, ha, hnickname]
  · simp [owner?, add, ha, hnickname, Ne.symm hnickname]

/-! ## The map in the tables -/

/-- The tables hold the map, once by identity and once by nickname. -/
structure Matches (m : Roll) (t : Tables) : Prop where
  paired : t.Paired
  record : ∀ identity, t.record? identity = m.record? identity
  owner : ∀ nickname, t.owner nickname = ((m.owner? nickname).map .str).getD .null

variable {t : Tables}

theorem matches_empty (h : t.Vacant) : empty.Matches t where
  paired := h.paired
  record identity := by rw [Tables.record?, h.identities]; rfl
  owner nickname := by rw [Tables.owner, h.nicknames]; rfl

namespace Matches
variable (h : m.Matches t)
include h

theorem registered (identity : Text) : t.registered identity = (m.record? identity).isSome := by
  rw [h.paired.registered_eq, h.record]

theorem bound (nickname : Bytes) : t.bound nickname = (m.owner? nickname).isSome := by
  have howner := h.owner nickname
  rcases h.paired.legible.owner nickname with ⟨hbound, hnull⟩ | ⟨hbound, identity, hstr⟩
  · rw [hbound]
    cases hm : m.owner? nickname with
    | none => rfl
    | some identity => rw [hnull, hm] at howner; cases howner
  · rw [hbound]
    cases hm : m.owner? nickname with
    | none => rw [hstr, hm] at howner; cases howner
    | some identity => rfl

theorem verdict (a : Application) : t.verdict a = (m.register a).1 := by
  rw [Tables.verdict, h.registered, h.bound, register]
  by_cases hi : m.record? a.caller = none
  · by_cases hn : m.owner? a.nickname = none
    · simp [hi, hn]
    · simp [hi, hn, Option.isSome_iff_ne_none]
  · simp [hi, Option.isSome_iff_ne_none]

/-- Where both keys are free, the entry is added to the map and to the tables. -/
theorem enroll {a : Application} {now : Instant} (hdated : now.IsDated)
    (hadmits : t.admits a.identityKey a.nicknameKey = true) :
    (m.register a).2.Matches (t.enroll a now) := by
  obtain ⟨hfree, hunbound⟩ := Tables.admits_iff.1 hadmits
  rw [h.registered, Option.isSome_eq_false_iff, Option.isNone_iff_eq_none] at hfree
  rw [h.bound, Option.isSome_eq_false_iff, Option.isNone_iff_eq_none] at hunbound
  have hadded : (m.register a).2 = m.add a hfree hunbound := by
    rw [register, dif_pos hfree, dif_pos hunbound]
  rw [hadded]
  refine ⟨h.paired.enroll hdated hadmits, fun identity => ?_, fun nickname => ?_⟩
  · rw [Tables.record?_enroll, record?_add, h.record]
  · rw [Tables.owner_enroll, owner?_add, h.owner]
    split <;> rfl

/-- Where a key is taken, the map stays as it is. -/
theorem refuse {a : Application} (hadmits : t.admits a.identityKey a.nicknameKey = false) :
    (m.register a).2 = m := by
  unfold register
  split
  · rename_i hfree
    split
    · rename_i hunbound
      rw [Tables.admits_iff.2 ⟨by rw [h.registered, hfree]; rfl, by rw [h.bound, hunbound]; rfl⟩]
        at hadmits
      cases hadmits
    · rfl
  · rfl

end Matches

end Roll

/-! ## Histories -/

variable {r : Registry} {m : Roll} {w : World}

namespace Roll.Matches
variable (h : m.Matches w.tables) (hw : w.IsQuiet)
include h hw

/-- What is found out of the tables is found out of the map, and both stay as they are. -/
theorem look {α : Type} {act : Act α} {f : Tables → α} {x : α}
    (hshows : act.Ensures Course.quiet.answer (Course.quiet.Shows w fun t => .ok (f t)) w)
    (hx : f w.tables = x) : (act.run w).1 = .ok x ∧ m.Matches (act.run w).2.tables := by
  obtain ⟨hresult, htables⟩ := Course.run_of_shows hw hshows
  exact ⟨hresult.trans (congrArg Except.ok hx), htables ▸ h⟩

theorem register_run (a : Application) :
    ((r.register (.str a.caller) a.nickname a.address).run w).1 = (m.register a).1 ∧
      (m.register a).2.Matches
        ((r.register (.str a.caller) a.nickname a.address).run w).2.tables := by
  obtain ⟨hresult, ⟨hadmits, now, hdated, htables⟩ | ⟨hadmits, htables⟩⟩ :=
    r.register_run (a := a) hw h.paired
  · rw [hresult, htables]
    exact ⟨h.verdict a, h.enroll hdated hadmits⟩
  · rw [hresult, htables, h.refuse hadmits]
    exact ⟨h.verdict a, h⟩

/-- Whatever is asked, the registry answers as the map does, and its tables hold the map after
    that. -/
theorem receive (v : Visit) : ((r.receive v).run w).1 = (m.answer v).1 ∧
    (m.answer v).2.Matches ((r.receive v).run w).2.tables := by
  have hp : (Course.quiet.tables w).Paired := h.paired
  cases v with
  | register a => exact h.register_run hw a
  | isRegistered identity => exact h.look hw (r.isRegistered_shows hp identity) (h.registered _)
  | findRecord identity => exact h.look hw (r.findRecord_shows hp identity) (h.record _)
  | getRecord identity => exact h.look hw (r.getRecord_shows hp identity) (by rw [h.record])
  | resolveNickname nickname => exact h.look hw (r.resolveNickname_shows hp nickname) (h.owner _)
  | nicknameTaken nickname => exact h.look hw (r.nicknameTaken_shows hp nickname) (h.bound _)

end Roll.Matches

/-- What is asked for one after the other is answered as the map answers it. -/
theorem Roll.Matches.serve_eq (h : m.Matches w.tables) (hf : w.faults = [])
    (hi : w.intruders = []) {visits : List (Instant × Visit)}
    (hd : ∀ visit ∈ visits, visit.1.IsDated) :
    r.serve visits w = m.serve (visits.map (·.2)) := by
  induction visits generalizing m w with
  | nil => rfl
  | cons visit visits ih =>
    obtain ⟨now, v⟩ := visit
    have hw : { w with clock := now }.IsQuiet := ⟨hf, hi, hd (now, v) (by simp)⟩
    obtain ⟨hresult, hmatches⟩ := receive (r := r) (w := { w with clock := now }) h hw v
    have hquiet := hw.run (r.receive v)
    have hrest := ih hmatches hquiet.faultless hquiet.alone fun visit hvisit =>
      hd visit (by simp [hvisit])
    simp only [Registry.serve, List.map_cons, serve, hresult, hrest]

/-- An application for nothing but zeros. -/
def Application.blank (caller : Text) : Application :=
  ⟨caller, Field.nickname.zeros, Field.address.zeros, rfl, rfl⟩

/-- Zeros are registered, looked for in vain, and applied for by another caller. -/
def blankVisits : List (Instant × Visit) :=
  [(⟨0⟩, .register (.blank "ann")), (⟨1⟩, .findRecord "ann"), (⟨2⟩, .findRecord "bob"),
    (⟨3⟩, .register (.blank "bob")), (⟨4⟩, .resolveNickname Field.nickname.zeros)]

/-- **The registry is a map**: whatever is asked of it, and in whatever order, from empty tables
    on, it answers as the map does that is empty at first. -/
theorem Registry.serve_eq_roll (r : Registry) (w : World) (hf : w.faults = [])
    (hi : w.intruders = []) (ht : w.tables.Vacant) (visits : List (Instant × Visit))
    (hd : ∀ visit ∈ visits, visit.1.IsDated) :
    r.serve visits w = Roll.empty.serve (visits.map (·.2)) :=
  (Roll.matches_empty ht).serve_eq hf hi hd

theorem blankVisits_serve : blankWorld.faults = [] ∧ blankWorld.intruders = [] ∧
    blankWorld.tables.Vacant ∧ (∀ visit ∈ blankVisits, visit.1.IsDated) ∧
    (Registry.mk blankWorld.container.site).serve blankVisits blankWorld =
      [⟨.register (.blank "ann"), .ok .empty⟩, ⟨.findRecord "ann", .ok (some .empty)⟩,
        ⟨.findRecord "bob", .ok none⟩,
        ⟨.register (.blank "bob"), .error (Application.blank "bob").nicknameTaken⟩,
        ⟨.resolveNickname Field.nickname.zeros, .ok (.str "ann")⟩] := by
  have hvacant : blankWorld.tables.Vacant := ⟨rfl, rfl⟩
  have hdated : ∀ visit ∈ blankVisits, visit.1.IsDated := by decide
  refine ⟨rfl, rfl, hvacant, hdated, ?_⟩
  rw [Registry.serve_eq_roll _ _ rfl rfl hvacant blankVisits hdated]
  rfl

end Rendezvous
