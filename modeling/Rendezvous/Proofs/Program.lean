/-
  Programs, whoever replies to them.

  * `Act.Ensures`: how a program ends where its questions are answered in a given way;
    `Ensures.bind` and `Ensures.attempt_bind` follow the way programs are put together;
  * `Act.Asks`: the calls to the store that a program makes, whatever is replied;
  * `ensures_run`: what a program ensures in a quiet world, its run does;
  * `World.reply_rest`, `World.IsQuiet.run`: what no reply and no program changes.
-/
import Mathlib.Tactic
import Rendezvous.Diagnosis
import Rendezvous.Proofs.Calendar
import Rendezvous.World

namespace Rendezvous

/-- How questions are answered in the course of time: a question and its moment, a reply and
    the moment after it. -/
abbrev Answering (σ : Type) := (q : Query) → σ → q.Reply → σ → Prop

namespace Act

/-- A result or failure where a program is expected. -/
@[simp] theorem liftM_eq {α : Type} (x : Except Failure α) : (liftM x : Act α) = ofExcept x := rfl

@[simp] theorem ofExcept_ok {α : Type} (a : α) : ofExcept (.ok a) = .done a := rfl

variable {α β σ : Type} {A : Answering σ}

/-! ## Endings -/

/-- However its questions are answered, a program ends as it should. -/
def Ensures (A : Answering σ) (Q : Except Failure α → σ → Prop) : Act α → σ → Prop
  | .done a, s => Q (.ok a) s
  | .fail failure, s => Q (.error failure) s
  | .ask q next, s => ∀ reply s', A q s reply s' → (next reply).Ensures A Q s'

theorem Ensures.mono {P Q : Except Failure α → σ → Prop} {act : Act α} {s : σ}
    (h : act.Ensures A P s) (hPQ : ∀ x s', P x s' → Q x s') : act.Ensures A Q s := by
  induction act generalizing s with
  | done a => exact hPQ _ _ h
  | fail e => exact hPQ _ _ h
  | ask q next ih => exact fun reply s' hr => ih reply (h reply s' hr)

/-- A program ends as the second part of it does, or as its first part where that fails. -/
theorem Ensures.bind {P : Except Failure α → σ → Prop} {Q : Except Failure β → σ → Prop}
    {act : Act α} {f : α → Act β} {s : σ} (h : act.Ensures A P s)
    (hok : ∀ a s', P (.ok a) s' → (f a).Ensures A Q s')
    (herror : ∀ e s', P (.error e) s' → Q (.error e) s') : (act.bind f).Ensures A Q s := by
  induction act generalizing s with
  | done a => exact hok _ _ h
  | fail e => exact herror _ _ h
  | ask q next ih => exact fun reply s' hr => ih reply (h reply s' hr)

/-- A program that tells how another one ends goes on, however that is. -/
theorem Ensures.attempt_bind {P : Except Failure α → σ → Prop} {Q : Except Failure β → σ → Prop}
    {act : Act α} {f : Except Failure α → Act β} {s : σ} (h : act.Ensures A P s)
    (hnext : ∀ x s', P x s' → (f x).Ensures A Q s') : (act.attempt.bind f).Ensures A Q s := by
  induction act generalizing s with
  | done a => exact hnext _ _ h
  | fail e => exact hnext _ _ h
  | ask q next ih => exact fun reply s' hr => ih reply (h reply s' hr)

theorem ensures_ofExcept {Q : Except Failure α → σ → Prop} {x : Except Failure α} {s : σ} :
    (ofExcept x).Ensures A Q s ↔ Q x s := by
  cases x <;> exact Iff.rfl

theorem ensures_store {site : Site} {call : StoreCall} {Q : Except Failure call.Result → σ → Prop}
    {s : σ} : (store site call).Ensures A Q s ↔
      ∀ reply s', A (.store call) s reply s' → Q (reply.mapError (call.explain site.tables)) s' := by
  simp only [store, Ensures, ensures_ofExcept]

end Act

/-! ## Calls -/

namespace Query

/-- Whether a question is one of the given calls to the store; all others are allowed. -/
def IsAmong (P : StoreCall → Prop) : Query → Prop
  | .store call => P call
  | _ => True

/-- The replies that may be given while the time stands still. -/
def MayGet (clock : Instant) : (q : Query) → q.Reply → Prop
  | .now, t => t = clock
  | _, _ => True

end Query

namespace Act

variable {α β : Type} {clock : Instant} {P : StoreCall → Prop}

/-- Whatever it is replied, a program makes none but the given calls to the store. -/
def Asks (clock : Instant) (P : StoreCall → Prop) : Act α → Prop
  | .done _ => True
  | .fail _ => True
  | .ask q next => q.IsAmong P ∧ ∀ reply, q.MayGet clock reply → (next reply).Asks clock P

theorem Asks.bind {act : Act α} {f : α → Act β} (h : act.Asks clock P)
    (hf : ∀ a, (f a).Asks clock P) : (act.bind f).Asks clock P := by
  induction act with
  | done a => exact hf a
  | fail e => trivial
  | ask q next ih => exact ⟨h.1, fun reply hr => ih reply (h.2 reply hr)⟩

theorem Asks.attempt {act : Act α} (h : act.Asks clock P) : act.attempt.Asks clock P := by
  induction act with
  | done a => trivial
  | fail e => trivial
  | ask q next ih => exact ⟨h.1, fun reply hr => ih reply (h.2 reply hr)⟩

theorem asks_ofExcept (x : Except Failure α) : (ofExcept x).Asks clock P := by
  cases x <;> trivial

theorem asks_note (source : Text) (n : Log.Note) (extra : Object) :
    (note source n extra).Asks clock P :=
  ⟨trivial, fun _ _ => trivial⟩

theorem asks_store {site : Site} {call : StoreCall} (h : P call) :
    (store site call).Asks clock P :=
  ⟨h, fun _ _ => asks_ofExcept _⟩

theorem asks_failStorage (operation table : Text) (failure : Failure) :
    (failStorage operation table failure : Act α).Asks clock P := by
  simp only [failStorage, reportStorage, diagnoseStorage, bind_eq, pure_eq]
  refine Asks.bind (Asks.bind (Asks.bind (asks_note _ _ _) fun _ => ?_) fun _ => ?_) fun _ => ?_
  all_goals trivial

end Act

/-! ## Worlds -/

namespace World

/-- What a program leaves alone: no reply changes it. -/
theorem callStore_rest (w : World) (call : StoreCall) : (w.callStore call).2.clock = w.clock ∧
    (w.intruders = [] → (w.callStore call).2.intruders = []) ∧
    (w.faults = [] → (w.callStore call).2.faults = []) := by
  unfold callStore
  split
  · rename_i faults hf
    refine ⟨rfl, id, fun h => ?_⟩
    rw [h] at hf; simp [takeFault] at hf
  · rename_i faults hf
    have hnil : w.faults = [] → faults = [] := by
      intro h; rw [h] at hf; simpa [takeFault] using hf
    split
    · exact ⟨rfl, fun _ => rfl, hnil⟩
    · exact ⟨rfl, id, hnil⟩

theorem reply_rest (w : World) (q : Query) : (w.reply q).2.clock = w.clock ∧
    (w.intruders = [] → (w.reply q).2.intruders = []) ∧
    (w.faults = [] → (w.reply q).2.faults = []) := by
  cases q with
  | store call => exact w.callStore_rest call
  | stopwatch => unfold reply readStopwatch; split <;> exact ⟨rfl, id, id⟩
  | putEvent entry => unfold reply putEvent; split <;> exact ⟨rfl, id, id⟩
  | _ => exact ⟨rfl, id, id⟩

theorem reply_mayGet (w : World) (q : Query) : q.MayGet w.clock (w.reply q).1 := by
  cases q <;> first | rfl | trivial

/-- The store fails by its tables alone, nobody else writes to them, and it is one of the years
    that have stamps. -/
structure IsQuiet (w : World) : Prop where
  faultless : w.faults = []
  alone : w.intruders = []
  dated : w.clock.IsDated

theorem IsQuiet.reply {w : World} (h : w.IsQuiet) (q : Query) : (w.reply q).2.IsQuiet := by
  obtain ⟨hclock, halone, hfault⟩ := w.reply_rest q
  exact ⟨hfault h.faultless, halone h.alone, hclock ▸ h.dated⟩

theorem IsQuiet.run {α : Type} {w : World} (h : w.IsQuiet) (act : Act α) :
    (act.run w).2.IsQuiet := by
  induction act generalizing w with
  | done a => exact h
  | fail e => exact h
  | ask q next ih => exact ih _ (h.reply q)

/-- Where nobody else writes, a call either fails and does nothing to the tables or is answered
    by them. -/
theorem callStore_cases {w : World} (hi : w.intruders = []) (call : StoreCall) :
    (∃ e faults, w.callStore call = (.error e, { w with faults := faults })) ∨
      ∃ faults, w.callStore call =
        ((w.tables.call call).1, { w with tables := (w.tables.call call).2, faults := faults }) := by
  obtain ⟨⟩ := w
  subst hi
  unfold callStore
  split
  · exact Or.inl ⟨_, _, rfl⟩
  · rename_i faults _
    refine Or.inr ⟨faults, ?_⟩
    simp only [letIn, List.foldl_nil, ite_self]
    rfl

theorem callStore_alone {w : World} (hf : w.faults = []) (hi : w.intruders = [])
    (call : StoreCall) :
    w.callStore call = ((w.tables.call call).1, { w with tables := (w.tables.call call).2 }) := by
  obtain ⟨⟩ := w
  subst hf hi
  unfold callStore
  simp only [takeFault, letIn, List.foldl_nil, ite_self]
  rfl

theorem reply_tables {w : World} (hi : w.intruders = []) (q : Query) :
    (w.reply q).2.tables = w.tables ∨
      ∃ call, q = .store call ∧ (w.reply q).2.tables = (w.tables.call call).2 := by
  cases q with
  | store call =>
    rcases callStore_cases hi call with ⟨e, faults, h⟩ | ⟨faults, h⟩
    · exact Or.inl (by rw [reply, h])
    · exact Or.inr ⟨call, rfl, by rw [reply, h]⟩
  | stopwatch => unfold reply readStopwatch; split <;> exact Or.inl rfl
  | putEvent entry => unfold reply putEvent; split <;> exact Or.inl rfl
  | _ => exact Or.inl rfl

/-- The replies of a quiet world. -/
def quietly : Answering World := fun q w reply w' => w.IsQuiet ∧ w.reply q = (reply, w')

end World

/-- What a program ensures in a quiet world, its run does. -/
theorem Act.ensures_run {α : Type} {Q : Except Failure α → World → Prop} {act : Act α} {w : World}
    (hw : w.IsQuiet) (h : act.Ensures World.quietly Q w) : Q (act.run w).1 (act.run w).2 := by
  induction act generalizing w with
  | done a => exact h
  | fail e => exact h
  | ask q next ih => exact ih _ (hw.reply q) (h _ _ ⟨hw, rfl⟩)

/-- A world where nothing has happened. -/
def blankWorld : World := .initial ⟨"test", ⟨"identities", "nicknames", "contacts"⟩⟩ false ⟨0⟩ []

end Rendezvous
