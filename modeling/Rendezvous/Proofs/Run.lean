/-
  Processes on the same tables.

  A process has a world of its own in all but the tables.  Processes take their steps
  in any order; in each step the question of one process is answered, and a process
  that has ended does nothing more.

  * `Run.pool`: the processes and the tables after so many steps;
  * `Process.step_ask`, `Process.step_ended`: what a step does;
  * `Run.process_invariant`, `Run.world_invariant`: what each step of a process leaves true;
  * `Run.ensures_after`: what a program ensures, its process does between the steps of
    the others;
  * `Run.ends_alone`: a process that is left alone ends as its program does in a run;
  * `Pool.play`: the processes and the tables after a list of turns.
-/
import Rendezvous.Proofs.Program

namespace Rendezvous

/-- A program in a world of its own in all but the tables. -/
structure Process (α : Type) where
  world : World
  program : Act α

/-- Processes on the same tables. -/
structure Pool (ι α : Type) where
  tables : Tables
  processes : ι → Process α

/-- Processes on the same tables, and whose turn it is at each step. -/
structure Run (ι α : Type) where
  start : Pool ι α
  turn : ℕ → ι

namespace Process
variable {α : Type} (p : Process α) (t : Tables)

/-- How a process has ended, if it has. -/
def outcome? : Option (Except Failure α) :=
  match p.program with
  | .done a => some (.ok a)
  | .fail e => some (.error e)
  | .ask _ _ => none

/-- The world of a process with the given tables. -/
def worldWith : World := { p.world with tables := t }

/-- A process after its question was answered, and the tables after that. -/
def step : Process α × Tables :=
  match p.program with
  | .ask q next =>
    let (reply, world) := (p.worldWith t).reply q
    (⟨world, next reply⟩, world.tables)
  | _ => (p, t)

/-- Whether the next step of a process puts a registration. -/
def commits : Bool :=
  match p.program with
  | .ask (.store (.register record binding)) _ =>
    ((p.worldWith t).callStore (.register record binding)).1.isOk
  | _ => false

/-- What a process keeps to: the time, the calls that it makes, and that nobody writes in its
    name. -/
structure Keeps (p : Process α) (clock : Instant) (P : StoreCall → Prop) : Prop where
  asks : p.program.Asks clock P
  clock_eq : p.world.clock = clock
  alone : p.world.intruders = []

variable {p t} {clock : Instant} {P : StoreCall → Prop}

theorem step_ask {q : Query} {next : q.Reply → Act α} (h : p.program = .ask q next) :
    p.step t = (⟨((p.worldWith t).reply q).2, next ((p.worldWith t).reply q).1⟩,
      ((p.worldWith t).reply q).2.tables) := by
  simp only [step, h]

/-- Of the tables of a world, only the last ones count. -/
theorem worldWith_worldWith (t t' : Tables) (act : Act α) :
    (⟨p.worldWith t, act⟩ : Process α).worldWith t' = p.worldWith t' := by
  -- not by rfl alone: what is rewritten by definition, the kernel compares by running programs
  cases p; rfl

theorem step_ended (h : p.outcome? ≠ none) : p.step t = (p, t) := by
  unfold outcome? at h
  unfold step
  split at h
  · simp [*]
  · simp [*]
  · exact absurd rfl h

theorem exists_ask (h : p.outcome? = none) : ∃ q next, p.program = .ask q next := by
  unfold outcome? at h
  split at h
  · cases h
  · cases h
  · rename_i q next hp
    exact ⟨q, next, hp⟩

theorem Keeps.step (h : p.Keeps clock P) (t : Tables) : (p.step t).1.Keeps clock P := by
  by_cases hend : p.outcome? = none
  · obtain ⟨q, next, hp⟩ := exists_ask hend
    have hasks : (Act.ask q next).Asks clock P := hp ▸ h.asks
    obtain ⟨hclock, halone, -⟩ := (p.worldWith t).reply_rest q
    rw [step_ask hp]
    refine ⟨hasks.2 _ ?_, hclock.trans h.clock_eq, halone h.alone⟩
    rw [← h.clock_eq]
    exact (p.worldWith t).reply_mayGet q
  · rw [step_ended hend]; exact h

theorem commits_of_ask {q : Query} {next : q.Reply → Act α} (h : p.program = .ask q next)
    (hq : ∀ record binding, q ≠ .store (.register record binding)) : p.commits t = false := by
  unfold commits
  split
  · rename_i record binding next' hp
    rw [h] at hp
    cases hp
    exact absurd rfl (hq record binding)
  · rfl

end Process

namespace Run

variable {ι α : Type} [DecidableEq ι] (R : Run ι α)

/-- The processes and the tables after so many steps. -/
def pool : ℕ → Pool ι α
  | 0 => R.start
  | k + 1 =>
    let (process, tables) := ((pool k).processes (R.turn k)).step (pool k).tables
    ⟨tables, Function.update (pool k).processes (R.turn k) process⟩

/-- The tables after so many steps. -/
def tables (k : ℕ) : Tables := (R.pool k).tables

/-- A process after so many steps of all. -/
def process (i : ι) (k : ℕ) : Process α := (R.pool k).processes i

/-- In a step it is the turn of a process that has not ended. -/
def Acts (i : ι) (k : ℕ) : Prop := R.turn k = i ∧ (R.process i k).outcome? = none

/-- In a step a process puts a registration. -/
def Commits (i : ι) (k : ℕ) : Prop :=
  R.turn k = i ∧ (R.process i k).commits (R.tables k) = true

variable {R} {i : ι}

/-! ## Steps -/

theorem process_succ {k : ℕ} (h : R.turn k = i) :
    R.process i (k + 1) = ((R.process i k).step (R.tables k)).1 := by
  subst h
  simp only [process, pool, tables, Function.update_self]

theorem process_succ_of_ne {k : ℕ} (h : R.turn k ≠ i) : R.process i (k + 1) = R.process i k := by
  simp only [process, pool, Function.update_of_ne (Ne.symm h)]

theorem tables_succ (k : ℕ) :
    R.tables (k + 1) = ((R.process (R.turn k) k).step (R.tables k)).2 := rfl

/-- A process whose turn it is not is as it was. -/
theorem process_of_rest {k k' : ℕ} (hk : k ≤ k') (h : ∀ j, k ≤ j → j < k' → R.turn j ≠ i) :
    R.process i k' = R.process i k := by
  induction k', hk using Nat.le_induction with
  | base => rfl
  | succ k' hk ih =>
    rw [process_succ_of_ne (h k' hk k'.lt_succ_self), ih fun j hj hj' => h j hj (by omega)]

theorem process_succ_of_not_acts {k : ℕ} (h : ¬R.Acts i k) :
    R.process i (k + 1) = R.process i k := by
  by_cases hturn : R.turn k = i
  · have hend : (R.process i k).outcome? ≠ none := fun hnone => h ⟨hturn, hnone⟩
    rw [process_succ hturn, Process.step_ended hend]
  · exact process_succ_of_ne hturn

theorem Commits.acts {k : ℕ} (h : R.Commits i k) : R.Acts i k := by
  obtain ⟨hturn, hcommits⟩ := h
  refine ⟨hturn, ?_⟩
  unfold Process.commits at hcommits
  unfold Process.outcome?
  split at hcommits
  · simp [*]
  · cases hcommits

/-! ## Invariants -/

/-- What every step of a process leaves true stays true, since the others do not touch it. -/
theorem process_invariant {I : Process α → Prop} (hstep : ∀ p t, I p → I (p.step t).1)
    (h : I (R.process i 0)) : ∀ k, I (R.process i k)
  | 0 => h
  | k + 1 => by
    by_cases hturn : R.turn k = i
    · rw [process_succ hturn]
      exact hstep _ _ (process_invariant hstep h k)
    · rw [process_succ_of_ne hturn]
      exact process_invariant hstep h k

variable {clock : ι → Instant} {P : ι → StoreCall → Prop}

theorem keeps (h : ∀ i, (R.process i 0).Keeps (clock i) (P i)) (i : ι) (k : ℕ) :
    (R.process i k).Keeps (clock i) (P i) :=
  process_invariant (I := fun p => p.Keeps (clock i) (P i)) (fun _ t hk => hk.step t) (h i) k

/-- What no reply changes in a world, whatever the tables are, stays as it is in a process. -/
theorem world_invariant {I : World → Prop} (hreply : ∀ w q, I w → I (w.reply q).2)
    (htables : ∀ w t, I w → I { w with tables := t }) (h : I (R.process i 0).world) (k : ℕ) :
    I (R.process i k).world := by
  refine process_invariant (I := fun p => I p.world) (fun p t hp => ?_) h k
  by_cases hend : p.outcome? = none
  · obtain ⟨q, next, hask⟩ := Process.exists_ask hend
    rw [Process.step_ask hask]
    exact hreply _ q (htables _ t hp)
  · rw [Process.step_ended hend]
    exact hp

theorem faultless (h : (R.process i 0).world.faults = []) (k : ℕ) :
    (R.process i k).world.faults = [] :=
  world_invariant (I := fun w => w.faults = []) (fun w q hf => (w.reply_rest q).2.2 hf)
    (fun _ _ hf => hf) h k

/-! ## Programs -/

/-- How the questions of a process are answered: not before it is its turn again. -/
def answer (R : Run ι α) (i : ι) : Answering ℕ := fun q k reply k' =>
  ∃ m next, k ≤ m ∧ k' = m + 1 ∧ (∀ j, k ≤ j → j < m → ¬R.Acts i j) ∧ R.turn m = i ∧
    (R.process i m).program = .ask q next ∧
    reply = (((R.process i m).worldWith (R.tables m)).reply q).1

/-- What a program ensures, its process does between the steps of the others. -/
theorem ensures_after {Q : Except Failure α → ℕ → Prop} {b : ℕ}
    (h : (R.process i b).program.Ensures (R.answer i) Q b) {k : ℕ} (hk : b ≤ k) :
    ∃ k₀, b ≤ k₀ ∧ k₀ ≤ k ∧ (∀ j, k₀ ≤ j → j < k → ¬R.Acts i j) ∧
      (R.process i k).program.Ensures (R.answer i) Q k₀ := by
  induction k, hk using Nat.le_induction with
  | base => exact ⟨b, le_rfl, le_rfl, fun j hj hj' => absurd hj' (by omega), h⟩
  | succ k hk ih =>
    obtain ⟨k₀, h1, h2, hidle, hens⟩ := ih
    by_cases hact : R.Acts i k
    · obtain ⟨hturn, hnone⟩ := hact
      obtain ⟨q, next, hp⟩ := Process.exists_ask hnone
      refine ⟨k + 1, by omega, le_rfl, fun j hj hj' => absurd hj' (by omega), ?_⟩
      rw [process_succ hturn, Process.step_ask hp]
      rw [hp] at hens
      exact hens _ _ ⟨k, next, h2, rfl, hidle, hturn, hp, rfl⟩
    · refine ⟨k₀, h1, by omega, fun j hj hj' => ?_, ?_⟩
      · rcases Nat.lt_succ_iff_lt_or_eq.1 hj' with hlt | rfl
        exacts [hidle j hj hlt, hact]
      · rw [process_succ_of_not_acts hact]; exact hens

/-- How a process has ended is as its program ensures. -/
theorem ends_as_ensured {Q : Except Failure α → ℕ → Prop} {b e : ℕ} {x : Except Failure α}
    (h : (R.process i b).program.Ensures (R.answer i) Q b) (he : b ≤ e)
    (hx : (R.process i e).outcome? = some x) :
    ∃ k, b ≤ k ∧ k ≤ e ∧ (∀ j, k ≤ j → j < e → ¬R.Acts i j) ∧ Q x k := by
  obtain ⟨k, h1, h2, hidle, hens⟩ := ensures_after h he
  refine ⟨k, h1, h2, hidle, ?_⟩
  unfold Process.outcome? at hx
  split at hx
  · rename_i a hp
    rw [hp] at hens
    cases hx
    exact hens
  · rename_i a hp
    rw [hp] at hens
    cases hx
    exact hens
  · cases hx

/-- A process that was not yet started is as it was. -/
theorem process_of_idle {b : ℕ} (h : ∀ j < b, ¬R.Acts i j) : R.process i b = R.process i 0 := by
  induction b with
  | zero => rfl
  | succ b ih =>
    rw [process_succ_of_not_acts (h b (by omega)), ih fun j hj => h j (by omega)]

/-- A process that is left alone ends as its program does in a run. -/
theorem ends_alone {k : ℕ} (h : ∀ j, k ≤ j → R.turn j = i) : ∃ e, k ≤ e ∧
    (R.process i e).outcome? = some ((R.process i k).program.run
      ((R.process i k).worldWith (R.tables k))).1 := by
  generalize hact : (R.process i k).program = act
  induction act generalizing k with
  | done a => exact ⟨k, le_rfl, by rw [Process.outcome?, hact]; rfl⟩
  | fail e => exact ⟨k, le_rfl, by rw [Process.outcome?, hact]; rfl⟩
  | ask q next ih =>
    have hturn := h k le_rfl
    have hstep := Process.step_ask (t := R.tables k) hact
    have hprocess := (process_succ hturn).trans (congrArg Prod.fst hstep)
    have htables := tables_succ (R := R) k
    rw [hturn, hstep] at htables
    obtain ⟨e, he, hx⟩ := ih _ (fun j hj => h j (by omega)) (congrArg Process.program hprocess)
    refine ⟨e, by omega, hx.trans ?_⟩
    rw [hprocess, htables]
    rfl

end Run

/-! ## Turns -/

namespace Pool
variable {ι α : Type} [DecidableEq ι] (P : Pool ι α)

/-- The processes and the tables after a step of one process. -/
def step (i : ι) : Pool ι α :=
  let (process, tables) := (P.processes i).step P.tables
  ⟨tables, Function.update P.processes i process⟩

/-- The processes and the tables after a list of turns. -/
def play (turns : List ι) : Pool ι α := turns.foldl step P

theorem step_self (i : ι) : (P.step i).processes i = ((P.processes i).step P.tables).1 := by
  simp only [step, Function.update_self]

theorem step_of_ne {i j : ι} (h : j ≠ i) : (P.step i).processes j = P.processes j := by
  simp only [step, Function.update_of_ne h]

end Pool

end Rendezvous
