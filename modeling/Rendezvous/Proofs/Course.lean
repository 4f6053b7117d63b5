/-
  What the registry looks up, in any course of events.

  A caller of the registry does not see when its questions are answered, nor what is
  done to the tables in between.  All that it takes for granted is a `Course`: each
  answer is that of the tables at some moment, and nothing in them is lost.

  * `Course.Shows`: what is found out was true at some moment on the way;
  * `findItem_shows`, `findBinding_shows` and what is built on them;
  * `Course.quiet`: one caller alone in a quiet world.
-/
import Rendezvous.Proofs.Registration

namespace Rendezvous

/-- A course of events: the moments, what the tables are at each, and how the questions of a
    caller are answered.  Some time may pass without the caller putting anything. -/
structure Course (σ : Type) where
  answer : Answering σ
  tables : σ → Tables
  /-- from one moment to another the caller has put nothing -/
  passes : σ → σ → Prop
  /-- between two moments the caller has put something, and nothing else has happened -/
  puts : σ → σ → Prop
  refl : ∀ s, passes s s
  trans : ∀ {s₁ s₂ s₃}, passes s₁ s₂ → passes s₂ s₃ → passes s₁ s₃
  paired : ∀ {s s'}, passes s s' → (tables s).Paired → (tables s').Paired
  kept : ∀ {s s'}, passes s s' → (tables s).Kept (tables s')
  log : ∀ {entry s reply s'}, answer (.log entry) s reply s' → passes s s'
  now : ∀ {s t s'}, answer .now s t s' → passes s s' ∧ t.IsDated
  read : ∀ {call s reply s'}, call.isRead = true → answer (.store call) s reply s' →
    ∃ m, passes s m ∧ passes m s' ∧ reply = ((tables m).call call).1
  register : ∀ {a : Application} {now s reply s'},
    answer (.store (.register (a.item now) (a.binding now))) s reply s' →
    ∃ m, passes s m ∧
      ((tables m).admits a.identityKey a.nicknameKey = true ∧ reply = .ok () ∧
          tables s' = (tables m).enroll a now ∧ puts m s' ∨
        (tables m).admits a.identityKey a.nicknameKey = false ∧ reply = .error Tables.cancelled ∧
          passes m s')

namespace Tables

/-- The record of an identity, if it has one that can be read. -/
def record? (t : Tables) (identity : Text) : Option AddressRecord :=
  (t.identities.find? (.text identity)).bind fun item => item.toRecord.toOption

/-- The identity of a nickname, null if there is none. -/
def owner (t : Tables) (nickname : Bytes) : Value :=
  ((t.nicknames.find? (Field.storageHex nickname)).map (·.identity)).getD .null

variable {t : Tables} {a : Application} {now : Instant}

theorem Holds.record? (h : t.Holds a now) : t.record? a.caller = some a.record := by
  have hrecord := h.record
  rw [Application.identityKey] at hrecord
  rw [Tables.record?, hrecord, Option.bind_some, a.toRecord_item]
  rfl

theorem Holds.owner (h : t.Holds a now) : t.owner a.nickname = .str a.caller := by
  have hbinding := h.binding
  rw [Application.nicknameKey] at hbinding
  rw [Tables.owner, hbinding]
  rfl

/-- Records and bindings that can be looked up: they have stamps, and a binding is to a text. -/
structure Legible (t : Tables) : Prop where
  record : ∀ key item, t.identities.find? key = some item → Stamp.check item.createdAt = .ok ()
  binding : ∀ key item, t.nicknames.find? key = some item →
    Stamp.check item.createdAt = .ok () ∧ ∃ identity, item.identity = .str identity

theorem Paired.legible (h : t.Paired) : t.Legible where
  record key item hitem := by
    obtain ⟨a, now, -, rfl, ha⟩ := h.of_record hitem
    exact Stamp.check_stampText ha.dated
  binding key item hitem := by
    obtain ⟨a, now, -, rfl, ha⟩ := h.of_binding hitem
    exact ⟨Stamp.check_stampText ha.dated, _, rfl⟩

theorem Legible.check_record (h : t.Legible) (key : Key) :
    Stamp.check ((t.identities.find? key).bind (·.createdAt)) = .ok () := by
  cases hitem : t.identities.find? key with
  | none => rfl
  | some item => exact h.record key item hitem

theorem Legible.check_binding (h : t.Legible) (key : Text) :
    Stamp.check ((t.nicknames.find? key).bind (·.createdAt)) = .ok () := by
  cases hitem : t.nicknames.find? key with
  | none => rfl
  | some item => exact (h.binding key item hitem).1

theorem Paired.toRecord (h : t.Paired) {key : Key} {item : IdentityItem}
    (hitem : t.identities.find? key = some item) : ∃ record, item.toRecord = .ok record := by
  obtain ⟨a, now, -, rfl, -⟩ := h.of_record hitem
  exact ⟨_, a.toRecord_item now⟩

/-- The identity of a nickname is a text. -/
theorem Legible.owner (h : t.Legible) (nickname : Bytes) :
    t.bound nickname = false ∧ t.owner nickname = .null ∨
      t.bound nickname = true ∧ ∃ identity, t.owner nickname = .str identity := by
  unfold bound Tables.owner
  cases hitem : t.nicknames.find? (Field.storageHex nickname) with
  | none => exact Or.inl ⟨rfl, rfl⟩
  | some item =>
    obtain ⟨-, identity, hidentity⟩ := h.binding _ item hitem
    exact Or.inr ⟨rfl, identity, hidentity⟩

theorem Paired.registered_eq (h : t.Paired) (identity : Text) :
    t.registered identity = (t.record? identity).isSome := by
  unfold registered Tables.record?
  cases hitem : t.identities.find? (.text identity) with
  | none => rfl
  | some item =>
    obtain ⟨record, hrecord⟩ := h.toRecord hitem
    simp only [Option.bind_some, hrecord]
    rfl

theorem record?_enroll (t : Tables) (a : Application) (now : Instant) (identity : Text) :
    (t.enroll a now).record? identity =
      if identity = a.caller then some a.record else t.record? identity := by
  by_cases hcaller : identity = a.caller
  · have hfind : (t.enroll a now).identities.find? (.text a.caller) = some (a.item now) :=
      Table.find?_put_self _ _ _
    rw [if_pos hcaller, hcaller, Tables.record?, hfind, Option.bind_some, a.toRecord_item]
    rfl
  · have hkey : Key.text identity ≠ a.identityKey := fun h => hcaller (Key.text.inj h)
    have hfind : (t.enroll a now).identities.find? (.text identity) =
        t.identities.find? (.text identity) := Table.find?_put_of_ne hkey _ _
    rw [if_neg hcaller, Tables.record?, hfind, Tables.record?]

theorem owner_enroll (t : Tables) (a : Application) (now : Instant) (nickname : Bytes) :
    (t.enroll a now).owner nickname =
      if nickname = a.nickname then .str a.caller else t.owner nickname := by
  by_cases hnickname : nickname = a.nickname
  · have hfind : (t.enroll a now).nicknames.find? a.nicknameKey = some (a.binding now) :=
      Table.find?_put_self _ _ _
    rw [Application.nicknameKey] at hfind
    rw [if_pos hnickname, hnickname, Tables.owner, hfind]
    rfl
  · have hkey : Field.storageHex nickname ≠ a.nicknameKey :=
      fun h => hnickname (Hex.encode_injective h)
    have hfind : (t.enroll a now).nicknames.find? (Field.storageHex nickname) =
        t.nicknames.find? (Field.storageHex nickname) := Table.find?_put_of_ne hkey _ _
    rw [if_neg hnickname, Tables.owner, hfind, Tables.owner]

end Tables

namespace Course

variable {σ α β : Type} {c : Course σ} {s : σ}

/-- Nobody but the caller puts anything. -/
def Solitary (c : Course σ) : Prop := ∀ {s s'}, c.passes s s' → c.tables s' = c.tables s

/-! ## Rules -/

/-- How a program ends is told by the tables at some moment on the way. -/
def Shows (c : Course σ) (s : σ) (f : Tables → Except Failure α) (x : Except Failure α) (s' : σ) :
    Prop :=
  ∃ m, c.passes s m ∧ c.passes m s' ∧ x = f (c.tables m)

theorem ensures_note {source : Text} {n : Log.Note} {extra : Object} {f : Unit → Act β}
    {Q : Except Failure β → σ → Prop}
    (h : ∀ s', c.passes s s' → (f ()).Ensures c.answer Q s') :
    ((Act.note source n extra).bind f).Ensures c.answer Q s :=
  fun _ s' hr => h s' (c.log hr)

theorem ensures_read {site : Site} {call : StoreCall} (hcall : call.isRead = true)
    {f : Tables → call.Result} (hf : ∀ t : Tables, (t.call call).1 = .ok (f t)) :
    (Act.store site call).Ensures c.answer (c.Shows s fun t => .ok (f t)) s := by
  rw [Act.ensures_store]
  intro reply s' hr
  obtain ⟨m, h1, h2, rfl⟩ := c.read hcall hr
  exact ⟨m, h1, h2, by rw [hf]; rfl⟩

/-- What follows from what was found out follows from the tables at the same moment. -/
theorem shows_bind {act : Act α} {g : α → Act β} {f : Tables → α} {f' : Tables → β}
    (hp : (c.tables s).Paired) (h : act.Ensures c.answer (c.Shows s fun t => .ok (f t)) s)
    (hg : ∀ t : Tables, t.Paired → g (f t) = .done (f' t)) :
    (act.bind g).Ensures c.answer (c.Shows s fun t => .ok (f' t)) s := by
  refine h.bind ?_ ?_
  · rintro a s' ⟨m, h1, h2, ha⟩
    obtain rfl := Except.ok.inj ha
    rw [hg _ (c.paired h1 hp)]
    exact ⟨m, h1, h2, rfl⟩
  · rintro e s' ⟨m, h1, h2, he⟩
    cases he

/-- A note that is made of what was found out does not change it. -/
theorem shows_noted {source : Text} {n : Log.Note} {extra : Object} {x : Except Failure α}
    {f : Tables → Except Failure α} {s₀ : σ} (h : c.Shows s₀ f x s) :
    ((Act.note source n extra).bind fun _ => Act.ofExcept x).Ensures c.answer (c.Shows s₀ f) s := by
  obtain ⟨m, h1, h2, hx⟩ := h
  refine ensures_note fun s' h3 => Act.ensures_ofExcept.2 ?_
  exact ⟨m, h1, c.trans h2 h3, hx⟩

/-- What is found out may be a reason to refuse. -/
theorem shows_refuse {act : Act Bool} {f : Tables → Bool} {source : Text} {n : Log.Note}
    {extra : Object} {e : Failure} (h : act.Ensures c.answer (c.Shows s fun t => .ok (f t)) s) :
    (act.bind fun b => if b = true then (Act.note source n extra).bind fun _ => .fail e
      else .done ()).Ensures c.answer
        (c.Shows s fun t => if f t = true then .error e else .ok ()) s := by
  refine h.bind ?_ ?_
  · rintro b s' ⟨m, h1, h2, hb⟩
    obtain rfl := Except.ok.inj hb
    split
    · rename_i hf
      exact shows_noted (x := .error e) ⟨m, h1, h2, (if_pos hf).symm⟩
    · rename_i hf
      exact ⟨m, h1, h2, (if_neg hf).symm⟩
  · rintro e s' ⟨m, h1, h2, he⟩
    cases he

/-! ## One caller alone -/

/-- One caller alone in a quiet world: the tables are as the caller left them. -/
def quiet : Course World where
  answer := World.quietly
  tables w := w.tables
  passes w w' := w'.tables = w.tables
  puts _ _ := True
  refl _ := rfl
  trans h h' := h'.trans h
  paired h hp := h ▸ hp
  kept h := h ▸ Tables.Kept.refl _
  log h := by
    obtain ⟨-, h⟩ := h
    obtain ⟨-, rfl⟩ := Prod.mk.inj h
    rfl
  now h := by
    obtain ⟨hw, h⟩ := h
    obtain ⟨rfl, rfl⟩ := Prod.mk.inj h
    exact ⟨rfl, hw.dated⟩
  read {call w reply w'} hcall h := by
    obtain ⟨hw, h⟩ := h
    rw [World.reply, World.callStore_alone hw.faultless hw.alone] at h
    obtain ⟨rfl, rfl⟩ := Prod.mk.inj h
    exact ⟨w, rfl, Tables.call_read hcall _, rfl⟩
  register {a now w reply w'} h := by
    obtain ⟨hw, h⟩ := h
    rw [World.reply, World.callStore_alone hw.faultless hw.alone, Tables.call_register] at h
    obtain ⟨rfl, rfl⟩ := Prod.mk.inj h
    refine ⟨w, rfl, ?_⟩
    split
    · rename_i hfree
      exact Or.inl ⟨hfree, rfl, rfl, trivial⟩
    · rename_i htaken
      exact Or.inr ⟨by simpa using htaken, rfl, rfl⟩

theorem quiet_solitary : quiet.Solitary := fun h => h

/-- What is found out in a quiet world is what its tables tell, and they stay as they are. -/
theorem run_of_shows {act : Act α} {f : Tables → Except Failure α} {w : World} (hw : w.IsQuiet)
    (h : act.Ensures quiet.answer (quiet.Shows w f) w) :
    (act.run w).1 = f w.tables ∧ (act.run w).2.tables = w.tables := by
  obtain ⟨m, h1, h2, hx⟩ := Act.ensures_run hw h
  have h1 : m.tables = w.tables := h1
  have h2 : (act.run w).2.tables = m.tables := h2
  exact ⟨hx.trans (congrArg f h1), h2.trans h1⟩

end Course

namespace Registry

variable {σ : Type} {c : Course σ} {s : σ} (r : Registry) (hp : (c.tables s).Paired)
include hp

/-! ## Looking up -/

theorem readItem_shows (identity : Text) : (r.readItem (.str identity)).Ensures c.answer
    (c.Shows s fun t => .ok (t.identities.find? (.text identity))) s := by
  unfold readItem
  simp only [Act.bind_eq, Act.liftM_eq, Act.pure_eq]
  refine Course.shows_bind hp (Course.ensures_read rfl fun _ => rfl) fun t ht => ?_
  rw [ht.legible.check_record, Act.ofExcept_ok, Act.done_bind]

theorem readBinding_shows (key : Text) : (r.readBinding key).Ensures c.answer
    (c.Shows s fun t => .ok (t.nicknames.find? key)) s := by
  unfold readBinding
  simp only [Act.bind_eq, Act.liftM_eq, Act.pure_eq]
  refine Course.shows_bind hp (Course.ensures_read rfl fun _ => rfl) fun t ht => ?_
  rw [ht.legible.check_binding, Act.ofExcept_ok, Act.done_bind]

theorem findItem_shows (identity : Text) : (r.findItem (.str identity)).Ensures c.answer
    (c.Shows s fun t => .ok (t.identities.find? (.text identity))) s := by
  unfold findItem
  simp only [Act.bind_eq, Act.pure_eq]
  refine (readItem_shows r hp identity).attempt_bind ?_
  rintro x s' ⟨m, h1, h2, rfl⟩
  cases hitem : (c.tables m).identities.find? (.text identity) with
  | none =>
    simp only [hitem]
    exact Course.shows_noted (x := .ok none) ⟨m, h1, h2, congrArg Except.ok hitem.symm⟩
  | some item =>
    simp only [hitem]
    exact Course.shows_noted (x := .ok (some item)) ⟨m, h1, h2, congrArg Except.ok hitem.symm⟩

theorem findBinding_shows (nickname : Bytes) : (r.findBinding nickname).Ensures c.answer
    (c.Shows s fun t => .ok (t.nicknames.find? (Field.storageHex nickname))) s := by
  unfold findBinding
  simp only [Act.bind_eq, Act.pure_eq]
  refine (readBinding_shows r hp _).attempt_bind ?_
  rintro x s' ⟨m, h1, h2, rfl⟩
  cases hitem : (c.tables m).nicknames.find? (Field.storageHex nickname) with
  | none =>
    simp only [hitem]
    exact Course.shows_noted (x := .ok none) ⟨m, h1, h2, congrArg Except.ok hitem.symm⟩
  | some item =>
    simp only [hitem]
    exact Course.shows_noted (x := .ok (some item)) ⟨m, h1, h2, congrArg Except.ok hitem.symm⟩

theorem isRegistered_shows (identity : Text) : (r.isRegistered (.str identity)).Ensures c.answer
    (c.Shows s fun t => .ok (t.registered identity)) s :=
  Course.shows_bind hp (findItem_shows r hp identity) fun _ _ => rfl

theorem findRecord_shows (identity : Text) : (r.findRecord (.str identity)).Ensures c.answer
    (c.Shows s fun t => .ok (t.record? identity)) s := by
  unfold findRecord
  simp only [Act.bind_eq, Act.liftM_eq, Act.pure_eq]
  refine Course.shows_bind hp (findItem_shows r hp identity) fun t ht => ?_
  unfold Tables.record?
  cases hitem : t.identities.find? (.text identity) with
  | none => rfl
  | some item =>
    obtain ⟨record, hrecord⟩ := ht.toRecord hitem
    simp only [Option.bind_some, hrecord]
    rfl

theorem getRecord_shows (identity : Text) : (r.getRecord (.str identity)).Ensures c.answer
    (c.Shows s fun t => .ok ((t.record? identity).getD .empty)) s :=
  Course.shows_bind hp (findRecord_shows r hp identity) fun _ _ => rfl

theorem resolveNickname_shows (nickname : Bytes) : (r.resolveNickname nickname).Ensures c.answer
    (c.Shows s fun t => .ok (t.owner nickname)) s :=
  Course.shows_bind hp (findBinding_shows r hp nickname) fun _ _ => rfl

theorem nicknameTaken_shows (nickname : Bytes) : (r.nicknameTaken nickname).Ensures c.answer
    (c.Shows s fun t => .ok (t.bound nickname)) s := by
  unfold nicknameTaken
  simp only [Act.bind_eq, Act.pure_eq]
  refine Course.shows_bind hp (resolveNickname_shows r hp nickname) fun t ht => ?_
  rcases ht.legible.owner nickname with ⟨hfree, howner⟩ | ⟨htaken, identity, howner⟩
  · rw [hfree, howner]
  · rw [htaken, howner]

end Registry

end Rendezvous
