/-
  How a registration ends, in any course of events.

  The caller and the nickname are checked one after the other, and may be taken
  between the two checks or after them.  What was taken in time is found by the same
  checks again, since nothing in the tables is lost.

  * `Registry.Checked`: how the checks end, and what that tells about the tables;
  * `Registry.Settled`: how a registration ends; `register_settles`, and `register_run`
    for one caller alone;
  * `register_asks`: the calls that a registration makes.
-/
import Rendezvous.Proofs.Course
import Rendezvous.Proofs.Refusal

namespace Rendezvous.Registry

variable {σ : Type} {c : Course σ} {s : σ} {a : Application} (r : Registry)

/-- How the checks of an application end: the caller is looked up first, the nickname after
    that. -/
inductive Checked (c : Course σ) (a : Application) (s : σ) : Except Failure Unit → σ → Prop
  | registered {m s'} : c.passes s m → c.passes m s' →
      (c.tables m).registered a.caller = true → Checked c a s (.error a.identityTaken) s'
  | bound {m m' s'} : c.passes s m → c.passes m m' → c.passes m' s' →
      (c.tables m).registered a.caller = false → (c.tables m').bound a.nickname = true →
      Checked c a s (.error a.nicknameTaken) s'
  | free {m m' s'} : c.passes s m → c.passes m m' → c.passes m' s' →
      (c.tables m).registered a.caller = false → (c.tables m').bound a.nickname = false →
      Checked c a s (.ok ()) s'

/-- How a registration ends: it is put at a moment at which both keys are free, or refused for
    what is in the tables. -/
inductive Settled (c : Course σ) (a : Application) (s : σ) :
    Except Failure AddressRecord → σ → Prop
  | put {m m' s' now} : c.passes s m → c.puts m m' → c.passes m' s' → now.IsDated →
      (c.tables m).admits a.identityKey a.nicknameKey = true →
      c.tables m' = (c.tables m).enroll a now → Settled c a s (.ok a.record) s'
  | refused {e s'} : Checked c a s (.error e) s' → Settled c a s (.error e) s'

theorem Checked.passes {x : Except Failure Unit} {s' : σ} (h : Checked c a s x s') :
    c.passes s s' := by
  cases h with
  | registered h1 h2 => exact c.trans h1 h2
  | bound h1 h2 h3 => exact c.trans h1 (c.trans h2 h3)
  | free h1 h2 h3 => exact c.trans h1 (c.trans h2 h3)

/-- Checks that start later find nothing that earlier ones could not have found. -/
theorem Checked.of_passes {x : Except Failure Unit} {m s' : σ} (hm : c.passes s m)
    (h : Checked c a m x s') : Checked c a s x s' := by
  cases h with
  | registered h1 h2 hreg => exact .registered (c.trans hm h1) h2 hreg
  | bound h1 h2 h3 hfree hbound => exact .bound (c.trans hm h1) h2 h3 hfree hbound
  | free h1 h2 h3 hfree hbound => exact .free (c.trans hm h1) h2 h3 hfree hbound

/-! ## Checks -/

section
variable (hp : (c.tables s).Paired)
include hp

theorem ensureUnregistered_shows : (r.ensureUnregistered (.str a.caller)).Ensures c.answer
    (c.Shows s fun t => if t.registered a.caller = true then .error a.identityTaken else .ok ())
    s :=
  Course.shows_refuse (isRegistered_shows r hp a.caller)

theorem ensureFree_shows : (r.ensureFree (.str a.caller) a.nickname).Ensures c.answer
    (c.Shows s fun t => if t.bound a.nickname = true then .error a.nicknameTaken else .ok ()) s :=
  Course.shows_refuse (nicknameTaken_shows r hp a.nickname)

theorem ensureAvailable_checks :
    (r.ensureAvailable (.str a.caller) a.nickname).Ensures c.answer (Checked c a s) s := by
  unfold ensureAvailable
  rw [Act.bind_eq]
  refine (ensureUnregistered_shows r hp).bind ?_ ?_
  · rintro _ s' ⟨m, h1, h2, hm⟩
    cases hreg : (c.tables m).registered a.caller with
    | true => simp [hreg] at hm
    | false =>
      refine (ensureFree_shows r (c.paired (c.trans h1 h2) hp)).mono ?_
      rintro x s'' ⟨m', h3, h4, rfl⟩
      cases hbound : (c.tables m').bound a.nickname with
      | true => simpa [hbound] using Checked.bound h1 (c.trans h2 h3) h4 hreg hbound
      | false => simpa [hbound] using Checked.free h1 (c.trans h2 h3) h4 hreg hbound
  · rintro e s' ⟨m, h1, h2, hm⟩
    cases hreg : (c.tables m).registered a.caller with
    | true =>
      obtain rfl : e = a.identityTaken := by simpa [hreg] using hm
      exact .registered h1 h2 hreg
    | false => simp [hreg] at hm

end

/-! ## Registering -/

/-- The keys of a refused registration are not both free, so that the checks find out which of
    them is taken, and found it in the tables already when the registration was refused. -/
theorem Checked.of_refused {m : σ} (h1 : c.passes s m)
    (hm : (c.tables m).admits a.identityKey a.nicknameKey = false) {x : Except Failure Unit}
    {s' : σ} (h : Checked c a m x s') : ∃ e, x = .error e ∧ Checked c a s (.error e) s' := by
  cases h with
  | registered h2 h3 hreg => exact ⟨_, rfl, .registered (c.trans h1 h2) h3 hreg⟩
  | @bound m₁ m₂ _ h2 h3 h4 hfree hbound =>
    -- the caller was still free, so the nickname was taken when the registration was refused
    have hfree' : (c.tables m).registered a.caller = false := (c.kept h2).unregistered hfree
    have hbound' : (c.tables m).bound a.nickname = true := by
      by_contra hn
      rw [Tables.admits_iff.2 ⟨hfree', by simpa using hn⟩] at hm
      cases hm
    exact ⟨_, rfl, .bound h1 (c.refl m) (c.trans h2 (c.trans h3 h4)) hfree' hbound'⟩
  | @free m₁ m₂ _ h2 h3 h4 hfree hbound =>
    have hfree' : (c.tables m).registered a.caller = false := (c.kept h2).unregistered hfree
    have hbound' : (c.tables m).bound a.nickname = false :=
      (c.kept (c.trans h2 h3)).unbound hbound
    rw [Tables.admits_iff.2 ⟨hfree', hbound'⟩] at hm
    cases hm

/-- How the attempt to put a registration ends. -/
def Tried (r : Registry) (c : Course σ) (a : Application) (now : Instant) (s : σ)
    (x : Except Failure Unit) (s' : σ) : Prop :=
  ∃ m, c.passes s m ∧
    ((c.tables m).admits a.identityKey a.nicknameKey = true ∧ x = .ok () ∧
        c.tables s' = (c.tables m).enroll a now ∧ c.puts m s' ∨
      (c.tables m).admits a.identityKey a.nicknameKey = false ∧ x = .error
        ((StoreCall.register (a.item now) (a.binding now)).explain r.site.tables
          Tables.cancelled) ∧ c.passes m s')

theorem store_tries (now : Instant) :
    (Act.store r.site (.register (a.item now) (a.binding now))).Ensures c.answer
      (Tried r c a now s) s := by
  refine Act.ensures_store.2 fun reply s' hreply => ?_
  obtain ⟨m, h1, ⟨hm, rfl, htables, hputs⟩ | ⟨hm, rfl, h2⟩⟩ := c.register hreply
  · exact ⟨m, h1, Or.inl ⟨hm, rfl, htables, hputs⟩⟩
  · exact ⟨m, h1, Or.inr ⟨hm, rfl, h2⟩⟩

/-- Every registration is put or refused for what is in the tables, whatever others do.  Where
    others do something, the name of the table must not garble the refusal of the store. -/
theorem register_settles (hp : (c.tables s).Paired)
    (hr : (∀ b ∈ r.recordTable, b.isBrace = false) ∨ c.Solitary) :
    (r.register (.str a.caller) a.nickname a.address).Ensures c.answer (Settled c a s) s := by
  unfold register
  simp only [Act.bind_eq, Act.liftM_eq, requireCaller, Act.ofExcept_ok, Act.done_bind]
  refine (ensureAvailable_checks r hp).bind ?_ fun e s' he => .refused he
  intro _ s₁ hchecked now s₂ hnow
  obtain ⟨h2, hdated⟩ := c.now hnow
  have hs₂ := c.trans hchecked.passes h2
  refine (store_tries r now).attempt_bind ?_
  rintro x s₃ ⟨m, hm, ⟨hadmits, rfl, htables, hputs⟩ | ⟨hadmits, rfl, hpasses⟩⟩
  · refine Course.ensures_note fun s₄ h4 => Act.ensures_ofExcept.2 ?_
    have hrecord := a.toRecord_item now
    rw [Application.item] at hrecord
    rw [hrecord]
    exact .put (c.trans hs₂ hm) hputs h4 hdated hadmits htables
  · have hs := c.trans hs₂ hm
    rcases hr with hr | halone
    · rw [StoreCall.explain_cancelled hr]
      have hp₃ := c.paired (c.trans hs hpasses) hp
      have hagain : (r.ensureAvailable (.str a.caller) a.nickname).Ensures c.answer
          (fun x s' => ∃ e, x = .error e ∧ Checked c a s (.error e) s') s₃ :=
        (ensureAvailable_checks r hp₃).mono fun x s' h =>
          (h.of_passes hpasses).of_refused hs hadmits
      refine hagain.bind ?_ ?_
      · rintro _ s₄ ⟨e, he, -⟩
        cases he
      · rintro e s₄ ⟨_, he, hchecked⟩
        cases he
        exact .refused hchecked
    · -- both keys were free when they were checked, and nobody else has put anything since
      cases hchecked with
      | @free m₁ m₂ _ h3 h4 h5 hfree hbound =>
        have hadmits' : (c.tables s).admits a.identityKey a.nicknameKey = true := by
          rw [halone h3] at hfree
          rw [halone (c.trans h3 h4)] at hbound
          exact Tables.admits_iff.2 ⟨hfree, hbound⟩
        rw [halone hs, hadmits'] at hadmits
        cases hadmits

/-- A registration in a quiet world ends as it would in one step. -/
theorem register_run {w : World} (hw : w.IsQuiet) (hp : w.tables.Paired) :
    ((r.register (.str a.caller) a.nickname a.address).run w).1 = w.tables.verdict a ∧
      (w.tables.admits a.identityKey a.nicknameKey = true ∧ (∃ now, now.IsDated ∧
          ((r.register (.str a.caller) a.nickname a.address).run w).2.tables =
            w.tables.enroll a now) ∨
        w.tables.admits a.identityKey a.nicknameKey = false ∧
          ((r.register (.str a.caller) a.nickname a.address).run w).2.tables = w.tables) := by
  have hsettled := Act.ensures_run hw (register_settles r (c := Course.quiet) (a := a) hp
    (Or.inr Course.quiet_solitary))
  generalize (r.register (.str a.caller) a.nickname a.address).run w = ended at hsettled ⊢
  obtain ⟨x, w'⟩ := ended
  cases hsettled with
  | @put m m' _ now h1 hputs h2 hdated hadmits htables =>
    have h1 : m.tables = w.tables := h1
    have h2 : w'.tables = m'.tables := h2
    have hadmits : m.tables.admits a.identityKey a.nicknameKey = true := hadmits
    have htables : m'.tables = m.tables.enroll a now := htables
    rw [h1] at hadmits htables
    exact ⟨(Tables.verdict_admits hadmits).symm, Or.inl ⟨hadmits, now, hdated, h2.trans htables⟩⟩
  | @refused e _ hchecked =>
    have hsame : w'.tables = w.tables := hchecked.passes
    cases hchecked with
    | @registered m _ h1 h2 hreg =>
      have h1 : m.tables = w.tables := h1
      have hreg : m.tables.registered a.caller = true := hreg
      rw [h1] at hreg
      exact ⟨(Tables.verdict_registered hreg).symm,
        Or.inr ⟨Tables.not_admits_of_registered hreg, hsame⟩⟩
    | @bound m m' _ h1 h2 h3 hfree hbound =>
      have h1 : m.tables = w.tables := h1
      have h2 : m'.tables = m.tables := h2
      have hfree : m.tables.registered a.caller = false := hfree
      have hbound : m'.tables.bound a.nickname = true := hbound
      rw [h2] at hbound
      rw [h1] at hfree hbound
      exact ⟨(Tables.verdict_bound hfree hbound).symm,
        Or.inr ⟨Tables.not_admits_of_bound hbound, hsame⟩⟩

/-! ## Calls -/

section
variable {now : Instant} {P : StoreCall → Prop}

theorem noted_asks {α : Type} (n : Log.Note) (extra : Object) (x : α) :
    ((Act.note source n extra).bind fun _ => .done x).Asks now P :=
  (Act.asks_note _ _ _).bind fun _ => trivial

theorem findItem_asks {identity : Value} (h : P (.getIdentity identity)) :
    (r.findItem identity).Asks now P := by
  unfold findItem readItem
  simp only [Act.bind_eq, Act.liftM_eq, Act.pure_eq]
  refine Act.Asks.bind (Act.Asks.attempt ?_) fun x => ?_
  · exact (Act.asks_store h).bind fun _ => (Act.asks_ofExcept _).bind fun _ => trivial
  · split
    exacts [noted_asks _ _ _, noted_asks _ _ _, noted_asks _ _ _, Act.asks_failStorage _ _ _]

theorem findBinding_asks {nickname : Bytes} (h : P (.getBinding (Field.storageHex nickname))) :
    (r.findBinding nickname).Asks now P := by
  unfold findBinding readBinding
  simp only [Act.bind_eq, Act.liftM_eq, Act.pure_eq]
  refine Act.Asks.bind (Act.Asks.attempt ?_) fun x => ?_
  · exact (Act.asks_store h).bind fun _ => (Act.asks_ofExcept _).bind fun _ => trivial
  · split
    exacts [noted_asks _ _ _, noted_asks _ _ _, noted_asks _ _ _, Act.asks_failStorage _ _ _]

theorem ensureAvailable_asks : (r.ensureAvailable (.str a.caller) a.nickname).Asks now
    (a.Calls now) := by
  unfold ensureAvailable ensureUnregistered ensureFree isRegistered nicknameTaken resolveNickname
  simp only [Act.bind_eq, Act.pure_eq]
  have hitem : (r.findItem (.str a.caller)).Asks now (a.Calls now) := findItem_asks r rfl
  have hbinding : (r.findBinding a.nickname).Asks now (a.Calls now) := findBinding_asks r rfl
  have hrefuse {n : Log.Note} {extra : Object} {e : Failure} :
      ((Act.note source n extra).bind fun _ => (.fail e : Act Unit)).Asks now (a.Calls now) :=
    (Act.asks_note _ _ _).bind fun _ => trivial
  refine Act.Asks.bind (Act.Asks.bind (hitem.bind fun _ => trivial) fun taken => ?_) fun _ => ?_
  · split
    exacts [hrefuse, trivial]
  · refine Act.Asks.bind (Act.Asks.bind (hbinding.bind fun _ => trivial) fun owner => ?_)
      fun taken => ?_
    · split <;> trivial
    · split
      exacts [hrefuse, trivial]

end

/-- A registration makes no calls but those that belong to it. -/
theorem register_asks (now : Instant) :
    (r.register (.str a.caller) a.nickname a.address).Asks now (a.Calls now) := by
  unfold register
  simp only [Act.bind_eq, Act.liftM_eq, requireCaller, Act.ofExcept_ok, Act.done_bind]
  refine (ensureAvailable_asks r).bind fun _ => ⟨trivial, fun t ht => ?_⟩
  obtain rfl : t = now := ht
  have hstore : (Act.store r.site (.register (a.item t) (a.binding t))).Asks t (a.Calls t) :=
    Act.asks_store ⟨rfl, rfl⟩
  have hend {n : Log.Note} {extra : Object} {x : Except Failure AddressRecord} :
      ((Act.note source n extra).bind fun _ => Act.ofExcept x).Asks t (a.Calls t) :=
    (Act.asks_note _ _ _).bind fun _ => Act.asks_ofExcept _
  refine hstore.attempt.bind fun x => ?_
  split
  · exact hend
  · refine (ensureAvailable_asks r).bind fun _ => ?_
    exact (Act.asks_failStorage _ _ _).bind fun _ => hend
  · trivial

end Rendezvous.Registry
