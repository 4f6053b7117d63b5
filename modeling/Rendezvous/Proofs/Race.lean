/-
  Registrations at the same time.

  Any number of callers register, each in a world of its own in all but the tables;
  their calls to the store come in any order, and may fail.

  * `Race.paired`, `Race.kept`: what each step does to the tables;
  * `Race.course`: what one of the callers takes for granted about the others;
  * `Race.settled`: how a registration ends that meets no failure of the store.
-/
import Rendezvous.Proofs.Registering
import Rendezvous.Proofs.Run

namespace Rendezvous

/-- An application with the world of its caller: nobody else writes in the caller's name, and it
    is one of the years that have stamps. -/
structure Submission where
  application : Application
  world : World
  alone : world.intruders = []
  dated : world.clock.IsDated

/-- Registrations on the same tables, and whose turn it is at each step. -/
structure Race (ι : Type) where
  registry : Registry
  start : Tables
  submission : ι → Submission
  turn : ℕ → ι

namespace Race

variable {ι : Type} [DecidableEq ι] (R : Race ι)

/-- What a caller applies for. -/
def application (i : ι) : Application := (R.submission i).application

/-- The registrations as processes. -/
def run : Run ι AddressRecord where
  start := ⟨R.start, fun i => ⟨(R.submission i).world, R.registry.register
    (.str (R.application i).caller) (R.application i).nickname (R.application i).address⟩⟩
  turn := R.turn

/-- The tables after so many steps. -/
def tables (k : ℕ) : Tables := R.run.tables k

/-- How a registration has ended after so many steps, if it has. -/
def outcome? (i : ι) (k : ℕ) : Option (Except Failure AddressRecord) :=
  (R.run.process i k).outcome?

/-- A registration takes its next step. -/
def Acts (i : ι) (k : ℕ) : Prop := R.run.Acts i k

/-- A registration is put into the tables. -/
def Commits (i : ι) (k : ℕ) : Prop := R.run.Commits i k

/-- No call to the store fails but by the tables. -/
def Faultless : Prop := ∀ i, (R.submission i).world.faults = []

variable {R} {i : ι}

/-! ## Tables -/

theorem keeps (i : ι) : (R.run.process i 0).Keeps (R.submission i).world.clock
    ((R.application i).Calls (R.submission i).world.clock) :=
  ⟨R.registry.register_asks _, rfl, (R.submission i).alone⟩

theorem tables_asked {m : ℕ} {q : Query} {next : q.Reply → Act AddressRecord}
    (hturn : R.turn m = i) (hp : (R.run.process i m).program = .ask q next) :
    R.tables (m + 1) = (((R.run.process i m).worldWith (R.tables m)).reply q).2.tables := by
  have hturn' : R.run.turn m = i := hturn
  rw [tables, Run.tables_succ, hturn', Process.step_ask hp]
  rfl

theorem commits_iff {m : ℕ} {record : IdentityItem} {binding : BindingItem}
    {next : Except Failure Unit → Act AddressRecord} (hturn : R.turn m = i)
    (hp : (R.run.process i m).program = .ask (.store (.register record binding)) next) :
    R.Commits i m ↔ (((R.run.process i m).worldWith (R.tables m)).callStore
      (.register record binding)).1.isOk = true := by
  have hcommits : (R.run.process i m).commits (R.tables m) =
      (((R.run.process i m).worldWith (R.tables m)).callStore (.register record binding)).1.isOk := by
    simp only [Process.commits, hp]
  rw [← hcommits]
  exact ⟨fun h => h.2, fun h => ⟨hturn, h⟩⟩

/-- A question that is no registration puts nothing. -/
theorem not_commits_asked {q : Query} {m : ℕ} {next : q.Reply → Act AddressRecord}
    (hp : (R.run.process i m).program = .ask q next)
    (hq : ∀ record binding, q ≠ .store (.register record binding)) : ¬R.Commits i m := by
  intro hc
  have hcommits := hc.2
  rw [Process.commits_of_ask hp hq] at hcommits
  cases hcommits

/-- What a caller does in a step to the tables: nothing, or it puts its registration. -/
def Steps (R : Race ι) (i : ι) (k : ℕ) : Prop :=
  (R.tables (k + 1) = R.tables k ∧ ¬R.Commits i k) ∨
    ∃ now : Instant, now.IsDated ∧ R.Commits i k ∧
      (R.tables k).admits (R.application i).identityKey (R.application i).nicknameKey = true ∧
      R.tables (k + 1) = (R.tables k).enroll (R.application i) now

theorem steps_register {k : ℕ} {now : Instant} (hdated : now.IsDated) (hturn : R.turn k = i)
    {next : Except Failure Unit → Act AddressRecord} (hp : (R.run.process i k).program =
      .ask (.store (.register ((R.application i).item now) ((R.application i).binding now))) next) :
    R.Steps i k := by
  have htables := tables_asked hturn hp
  have hcommits := commits_iff hturn hp
  rw [World.reply] at htables
  have halone : ((R.run.process i k).worldWith (R.tables k)).intruders = [] :=
    (Run.keeps keeps i k).alone
  rcases World.callStore_cases halone (.register ((R.application i).item now)
    ((R.application i).binding now)) with ⟨e, faults, hcall⟩ | ⟨faults, hcall⟩
  · rw [hcall] at htables hcommits
    exact Or.inl ⟨htables, fun hc => Bool.noConfusion (hcommits.1 hc)⟩
  · rw [hcall] at htables hcommits
    change R.tables (k + 1) = ((R.tables k).call (.register _ _)).2 at htables
    change _ ↔ ((R.tables k).call (.register _ _)).1.isOk = true at hcommits
    rw [Tables.call_register] at htables hcommits
    by_cases hadmits : (R.tables k).admits (R.application i).identityKey
        (R.application i).nicknameKey = true
    · rw [if_pos hadmits] at htables hcommits
      exact Or.inr ⟨now, hdated, hcommits.2 rfl, hadmits, htables⟩
    · rw [if_neg hadmits] at htables hcommits
      exact Or.inl ⟨htables, fun hc => Bool.noConfusion (hcommits.1 hc)⟩

theorem steps_read {k : ℕ} {call : StoreCall} (hcall : call.isRead = true) (hturn : R.turn k = i)
    {next : Except Failure call.Result → Act AddressRecord}
    (hp : (R.run.process i k).program = .ask (.store call) next) : R.Steps i k := by
  have htables := tables_asked hturn hp
  have halone : ((R.run.process i k).worldWith (R.tables k)).intruders = [] :=
    (Run.keeps keeps i k).alone
  refine Or.inl ⟨?_, not_commits_asked hp ?_⟩
  · rcases World.reply_tables halone (.store call) with ht | ⟨_, hq, ht⟩
    · exact htables.trans ht
    · obtain rfl := Query.store.inj hq
      exact htables.trans (ht.trans (Tables.call_read hcall _))
  · rintro record binding hq
    obtain rfl := Query.store.inj hq
    cases hcall

theorem steps_other {k : ℕ} {q : Query} (hq : ∀ call, q ≠ .store call) (hturn : R.turn k = i)
    {next : q.Reply → Act AddressRecord} (hp : (R.run.process i k).program = .ask q next) :
    R.Steps i k := by
  have halone : ((R.run.process i k).worldWith (R.tables k)).intruders = [] :=
    (Run.keeps keeps i k).alone
  refine Or.inl ⟨?_, not_commits_asked hp fun _ _ => hq _⟩
  rcases World.reply_tables halone q with ht | ⟨call, hcall, -⟩
  · exact (tables_asked hturn hp).trans ht
  · exact absurd hcall (hq call)

/-- A step does nothing to the tables, or it puts the registration of the caller whose turn
    it is. -/
theorem step_cases (R : Race ι) (k : ℕ) : R.Steps (R.turn k) k := by
  generalize hturn : R.turn k = i
  by_cases hend : (R.run.process i k).outcome? = none
  · obtain ⟨q, next, hp⟩ := Process.exists_ask hend
    have hasks := (Run.keeps (keeps (R := R)) i k).asks
    rw [hp] at hasks
    have hamong := hasks.1
    cases q with
    | store call =>
      cases call with
      | getIdentity identity => exact steps_read rfl hturn hp
      | getBinding key => exact steps_read rfl hturn hp
      | register record binding =>
        obtain ⟨rfl, rfl⟩ : record = _ ∧ binding = _ := hamong
        exact steps_register (R.submission i).dated hturn hp
      | _ => exact hamong.elim
    | _ => exact steps_other (by simp) hturn hp
  · refine Or.inl ⟨?_, fun hc => hend hc.acts.2⟩
    have hturn' : R.run.turn k = i := hturn
    rw [tables, Run.tables_succ, hturn', Process.step_ended hend]
    rfl

theorem tables_succ {k : ℕ} (h : (R.tables k).Paired) :
    (R.tables (k + 1)).Paired ∧ (R.tables k).Kept (R.tables (k + 1)) := by
  rcases step_cases R k with ⟨ht, -⟩ | ⟨now, hdated, -, hadmits, ht⟩
  · rw [ht]
    exact ⟨h, .refl _⟩
  · rw [ht]
    exact ⟨h.enroll hdated hadmits, Tables.kept_enroll hadmits⟩

/-- The tables hold whole registrations at every moment. -/
theorem paired (h : R.start.Paired) : ∀ k, (R.tables k).Paired
  | 0 => h
  | k + 1 => (tables_succ (paired h k)).1

/-- Nothing in the tables is ever lost or changed. -/
theorem kept (h : R.start.Paired) {k k' : ℕ} (hk : k ≤ k') :
    (R.tables k).Kept (R.tables k') := by
  induction k', hk using Nat.le_induction with
  | base => exact .refl _
  | succ k' hk ih => exact ih.trans (tables_succ (paired h k')).2

/-- What is put into the tables stays there. -/
theorem Commits.holds (hp : R.start.Paired) {j : ℕ} (h : R.Commits i j) :
    ∃ now, ∀ k, j < k → (R.tables k).Holds (R.application i) now := by
  obtain rfl : R.turn j = i := h.1
  rcases step_cases R j with ⟨-, hnot⟩ | ⟨now, hdated, -, -, ht⟩
  · exact absurd h hnot
  · refine ⟨now, fun k hk => (kept hp hk).holds ?_⟩
    rw [ht]
    exact Tables.holds_enroll hdated

theorem Commits.admits {j : ℕ} (h : R.Commits i j) :
    (R.tables j).admits (R.application i).identityKey (R.application i).nicknameKey = true := by
  obtain rfl : R.turn j = i := h.1
  rcases step_cases R j with ⟨-, hnot⟩ | ⟨-, -, -, hadmits, -⟩
  · exact absurd h hnot
  · exact hadmits

/-! ## One of the callers -/

/-- Some time passes in which a caller puts nothing. -/
def Passes (R : Race ι) (i : ι) (k k' : ℕ) : Prop :=
  k ≤ k' ∧ ∀ j, k ≤ j → j < k' → ¬R.Commits i j

theorem Passes.refl (k : ℕ) : R.Passes i k k := ⟨le_rfl, fun j hj hj' => absurd hj' (by omega)⟩

theorem Passes.trans {k₁ k₂ k₃ : ℕ} (h : R.Passes i k₁ k₂) (h' : R.Passes i k₂ k₃) :
    R.Passes i k₁ k₃ := by
  refine ⟨h.1.trans h'.1, fun j hj hj' => ?_⟩
  rcases Nat.lt_or_ge j k₂ with hlt | hge
  exacts [h.2 j hj hlt, h'.2 j hge hj']

theorem Passes.succ {k : ℕ} (h : ¬R.Commits i k) : R.Passes i k (k + 1) := by
  refine ⟨by omega, fun j hj hj' => ?_⟩
  obtain rfl : j = k := by omega
  exact h

theorem Passes.of_idle {k k' : ℕ} (hk : k ≤ k') (h : ∀ j, k ≤ j → j < k' → ¬R.Acts i j) :
    R.Passes i k k' :=
  ⟨hk, fun j hj hj' hc => h j hj hj' hc.acts⟩

/-- A question is asked when it is the caller's turn, and nothing was put before that. -/
theorem exists_asked {q : Query} {k : ℕ} {reply : q.Reply} {k' : ℕ}
    (h : R.run.answer i q k reply k') :
    ∃ m next, R.Passes i k m ∧ k' = m + 1 ∧ R.turn m = i ∧
      (R.run.process i m).program = .ask q next ∧
      reply = (((R.run.process i m).worldWith (R.tables m)).reply q).1 := by
  obtain ⟨m, next, hm, rfl, hidle, hturn, hp, hreply⟩ := h
  exact ⟨m, next, .of_idle hm hidle, rfl, hturn, hp, hreply⟩

/-- In a race without faults a call to the store is answered by the tables. -/
theorem callStore_eq (hf : R.Faultless) (m : ℕ) (call : StoreCall) :
    ((R.run.process i m).worldWith (R.tables m)).callStore call =
      (((R.tables m).call call).1, { (R.run.process i m).worldWith (R.tables m) with
        tables := ((R.tables m).call call).2 }) := by
  have hstart : (R.run.process i 0).world.faults = [] := hf i
  have hfault : ((R.run.process i m).worldWith (R.tables m)).faults = [] :=
    Run.faultless hstart m
  have halone : ((R.run.process i m).worldWith (R.tables m)).intruders = [] :=
    (Run.keeps keeps i m).alone
  exact World.callStore_alone hfault halone call

/-- The race as one of its callers meets it. -/
def course (R : Race ι) (i : ι) (hp : R.start.Paired) (hf : R.Faultless) : Course ℕ where
  answer := R.run.answer i
  tables := R.tables
  passes := R.Passes i
  puts m m' := m' = m + 1 ∧ R.Commits i m
  refl := .refl
  trans := .trans
  paired _ _ := paired hp _
  kept h := kept hp h.1
  log h := by
    obtain ⟨m, next, hm, rfl, -, hp, -⟩ := exists_asked h
    exact hm.trans (.succ (not_commits_asked hp (by simp)))
  now h := by
    obtain ⟨m, next, hm, rfl, -, hp, rfl⟩ := exists_asked h
    refine ⟨hm.trans (.succ (not_commits_asked hp (by simp))), ?_⟩
    have hclock : (R.run.process i m).world.clock = _ := (Run.keeps keeps i m).clock_eq
    change (R.run.process i m).world.clock.IsDated
    rw [hclock]
    exact (R.submission i).dated
  read {call k reply k'} hcall h := by
    obtain ⟨m, next, hm, rfl, -, hp, rfl⟩ := exists_asked h
    refine ⟨m, hm, .succ (not_commits_asked hp ?_), ?_⟩
    · rintro record binding hq
      cases hq
      cases hcall
    · rw [World.reply, callStore_eq hf]
  register {a now k reply k'} h := by
    obtain ⟨m, next, hm, rfl, hturn, hp, rfl⟩ := exists_asked h
    have htables := tables_asked hturn hp
    have hcommits := commits_iff hturn hp
    rw [World.reply, callStore_eq hf] at htables ⊢
    rw [callStore_eq hf] at hcommits
    simp only [Tables.call_register] at htables hcommits ⊢
    refine ⟨m, hm, ?_⟩
    by_cases hadmits : (R.tables m).admits a.identityKey a.nicknameKey = true
    · rw [if_pos hadmits] at htables hcommits ⊢
      exact Or.inl ⟨hadmits, rfl, htables, rfl, hcommits.2 rfl⟩
    · rw [if_neg hadmits] at hcommits ⊢
      refine Or.inr ⟨by simpa using hadmits, rfl, .succ fun hc => ?_⟩
      cases hcommits.1 hc

/-! ## Endings -/

/-- A registration that meets no failure of the store is put, or refused for what is in the
    tables. -/
theorem settled (hp : R.start.Paired) (hf : R.Faultless)
    (hr : ∀ c ∈ R.registry.recordTable, c.isBrace = false) {b e : ℕ} (he : b ≤ e)
    (hb : ∀ j < b, ¬R.Acts i j) {x : Except Failure AddressRecord} (hx : R.outcome? i e = some x) :
    ∃ k, b ≤ k ∧ R.Passes i k e ∧
      Registry.Settled (R.course i hp hf) (R.application i) b x k := by
  have hprogram : (R.run.process i b).program.Ensures (R.run.answer i)
      (Registry.Settled (R.course i hp hf) (R.application i) b) b := by
    rw [Run.process_of_idle hb]
    exact R.registry.register_settles (c := R.course i hp hf) (paired hp b) (Or.inl hr)
  obtain ⟨k, h1, h2, hidle, hsettled⟩ := Run.ends_as_ensured hprogram he hx
  exact ⟨k, h1, .of_idle h2 hidle, hsettled⟩

/-! ## Two callers -/

/-- Two callers that apply for one nickname in otherwise empty tables. -/
def rivals (caller : Bool → Text) (turn : ℕ → Bool) : Race Bool where
  registry := ⟨⟨"test", ⟨"identities", "nicknames", "contacts"⟩⟩⟩
  start := .empty
  submission i :=
    { application := ⟨caller i, List.replicate 21 1, List.replicate 32 2, rfl, rfl⟩
      world := .initial ⟨"test", ⟨"identities", "nicknames", "contacts"⟩⟩ false ⟨0⟩ []
      alone := rfl
      dated := by decide }
  turn := turn

/-- Two requests of one caller: the second runs from its beginning to its end while the first
    has looked up the caller and not yet the nickname. -/
def twins : Race Bool := rivals (fun _ => "ann") fun k => 2 ≤ k && k < 9

/-- Two callers that both find the nickname free before either of them registers. -/
def contest : Race Bool :=
  rivals (fun i => if i then "bob" else "ann") fun k => 5 ≤ k && k < 10 || 12 ≤ k

end Race

end Rendezvous
