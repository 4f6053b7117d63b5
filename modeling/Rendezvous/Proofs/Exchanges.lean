/-
  What was called, and what was replied.

  An `Exchange` is a call to the store or to the event bus, with the reply to it.  A world is
  foreign if none of the failures that wait for its calls is one of the service's own; a `Passage`
  of a run is the world together with all exchanges so far.

  * `Act.exchanges`: the exchanges of a run;
  * `Passage.foreign`: how questions are answered in a foreign world; `Passage.ensures_run`: what a
    program ensures in such a world, its run does;
  * `World.calm`: the world with empty tables, where nothing fails; `Act.run_calm`: as long as
    nothing is called, a program runs there as it runs elsewhere.
-/
import Rendezvous.Proofs.Asking

namespace Rendezvous

/-! ## Exchanges -/

/-- A call with its reply. -/
inductive Exchange where
  | store (call : StoreCall) (reply : Except Failure call.Result)
  | event (entry : Object) (reply : Except Failure Value)

/-- What a question with its reply is as an exchange, if it is a call. -/
def Query.exchange : (q : Query) → q.Reply → List Exchange
  | .store call, reply => [.store call reply]
  | .putEvent entry, reply => [.event entry reply]
  | _, _ => []

theorem Query.exchange_of_not_isCall {q : Query} (h : q.isCall = false) (reply : q.Reply) :
    q.exchange reply = [] := by
  cases q <;> first | rfl | cases h

/-- The exchanges of the run of a program, in order. -/
def Act.exchanges {α : Type} : Act α → World → List Exchange
  | .done _, _ => []
  | .fail _, _ => []
  | .ask q next, w => q.exchange (w.reply q).1 ++ (next (w.reply q).1).exchanges (w.reply q).2

/-! ## Foreign failures -/

/-- A failure that is none of the service's own. -/
def Failure.IsForeign : Failure → Prop
  | .service _ => False
  | _ => True

theorem Failure.IsMishap.isForeign {e : Failure} (h : e.IsMishap) : e.IsForeign := by
  cases e with
  | service e => exact h.elim
  | _ => trivial

/-- A foreign failure of a call is told as one. -/
theorem StoreCall.isForeign_explain (names : TableNames) (call : StoreCall) {e : Failure}
    (h : e.IsForeign) : (call.explain names e).IsForeign := by
  cases e with
  | remote e =>
    rcases call.explain_remote names e with ⟨text, ht⟩ | ⟨failure, hmishap, -, ht⟩
    · rw [ht]; trivial
    · rw [ht]; exact hmishap.isForeign
  | _ => exact h

theorem Value.isForeign_of_key {v : Value} {e : Failure} (h : v.key = .error e) : e.IsForeign := by
  cases v <;> cases h <;> trivial

/-- The tables fail by foreign failures only. -/
theorem Tables.isForeign_of_call {t : Tables} {call : StoreCall} {e : Failure}
    (h : (t.call call).1 = .error e) : e.IsForeign := by
  have hkeyed {α : Type} {v : Value} {act : Key → Except Failure α × Tables}
      (hact : ∀ key e, (act key).1 = .error e → e.IsForeign) (h : (t.keyed v act).1 = .error e) :
      e.IsForeign := by
    unfold keyed at h
    split at h
    · exact hact _ _ h
    · rename_i hkey
      cases h
      exact Value.isForeign_of_key hkey
  cases call with
  | getBinding nickname => cases h
  | queryContacts owner => cases h
  | register record binding =>
    refine hkeyed (fun key e he => ?_) h
    unfold Tables.register at he
    split at he
    · cases he
    · cases he
      trivial
  | getIdentity identity => exact hkeyed (fun key e he => by cases he) h
  | getContact owner digest => exact hkeyed (fun key e he => by cases he) h
  | putContact item => exact hkeyed (fun key e he => by cases he) h
  | deleteContact owner digest => exact hkeyed (fun key e he => by cases he) h

namespace Container

/-- A service that cannot be made fails by a foreign failure. -/
theorem isForeign_of_resolve {c : Container} {name : Value} {e : Failure}
    (h : (c.resolve name).1 = .error e) : e.IsForeign := by
  unfold resolve at h
  cases hk : name.key with
  | error e =>
    rw [hk] at h
    cases h
    exact Value.isForeign_of_key hk
  | ok key =>
    rw [hk] at h
    simp only [resolveAt] at h
    split at h
    · cases h
    · split at h
      · cases h
      · rename_i failure heq
        cases h
        unfold make at heq
        split_ifs at heq
        cases heq
        trivial

end Container

namespace World

/-- None of the failures that wait for the calls of a world is one of the service's own. -/
structure IsForeign (w : World) : Prop where
  faults : ∀ fault ∈ w.faults, fault.failure.IsForeign
  replies : ∀ failure, .error failure ∈ w.replies → failure.IsForeign

/-- No transport of a world is a mere record that fails by itself. -/
def IsWired (w : World) : Prop :=
  ∀ entry ∈ w.transports, ∀ failure, entry.2 ≠ .recording (some failure)

namespace IsForeign
variable {w : World} (h : w.IsForeign)
include h

theorem callStore (call : StoreCall) : (w.callStore call).2.IsForeign ∧
    ∀ e, (w.callStore call).1 = .error e → e.IsForeign := by
  obtain ⟨htaken, hleft⟩ := mem_of_takeFault call.operation w.faults
  have hfaults : ∀ fault ∈ (takeFault call.operation w.faults).2, fault.failure.IsForeign := by
    intro fault hfault
    obtain ⟨waiting, hmem, -, hfailure⟩ := hleft fault hfault
    exact hfailure ▸ h.faults waiting hmem
  rw [World.callStore]
  split
  · rename_i failure faults heq
    rw [heq] at htaken hfaults
    obtain ⟨fault, hmem, -, hfailure⟩ := htaken failure rfl
    refine ⟨⟨hfaults, h.replies⟩, fun e he => ?_⟩
    obtain rfl := Except.error.inj he
    exact hfailure ▸ h.faults fault hmem
  · rename_i faults heq
    rw [heq] at hfaults
    refine ⟨?_, fun e he => Tables.isForeign_of_call he⟩
    split <;> exact ⟨hfaults, h.replies⟩

theorem putEvent (entry : Object) : (w.putEvent entry).2.IsForeign ∧
    ∀ e, (w.putEvent entry).1 = .error e → e.IsForeign := by
  have hreplies := h.replies
  unfold World.putEvent
  split
  · exact ⟨⟨h.faults, h.replies⟩, fun e he => by cases he⟩
  · rename_i heq
    rw [heq] at hreplies
    exact ⟨⟨h.faults, fun e he => hreplies e (List.mem_cons_of_mem _ he)⟩, fun e he => by cases he⟩
  · rename_i heq
    rw [heq] at hreplies
    refine ⟨⟨h.faults, fun e he => hreplies e (List.mem_cons_of_mem _ he)⟩, fun e he => ?_⟩
    obtain rfl := Except.error.inj he
    exact hreplies _ List.mem_cons_self

theorem reply (q : Query) : (w.reply q).2.IsForeign := by
  cases q with
  | store call => exact (h.callStore call).1
  | putEvent entry => exact (h.putEvent entry).1
  | stopwatch => unfold World.reply readStopwatch; split <;> exact ⟨h.1, h.2⟩
  | _ => exact ⟨h.1, h.2⟩

end IsForeign

end World

/-! ## Passages -/

/-- A world at some point of a run, and the exchanges so far. -/
structure Passage where
  world : World
  calls : List Exchange

namespace Passage

/-- How questions are answered in a foreign world. -/
def foreign : Answering Passage := fun q p reply p' =>
  p.world.IsForeign ∧ p.world.reply q = (reply, p'.world) ∧ p'.calls = p.calls ++ q.exchange reply

variable {α β : Type} {p p' p'' : Passage}

/-- What a program ensures in a foreign world, its run does. -/
theorem ensures_run {act : Act α} {Q : Except Failure α → Passage → Prop} {w : World}
    (hw : w.IsForeign) {past : List Exchange} (h : act.Ensures foreign Q ⟨w, past⟩) :
    Q (act.run w).1 ⟨(act.run w).2, past ++ act.exchanges w⟩ := by
  induction act generalizing w past with
  | done a => rw [Act.exchanges, List.append_nil]; exact h
  | fail e => rw [Act.exchanges, List.append_nil]; exact h
  | ask q next ih =>
    have hstep := ih _ (hw.reply q)
      (h _ ⟨(w.reply q).2, past ++ q.exchange (w.reply q).1⟩ ⟨hw, rfl, rfl⟩)
    rwa [List.append_assoc] at hstep

/-- Between two passages nothing was called, the clock stood still, and the services and their
    transports were left alone. -/
structure Rests (p p' : Passage) : Prop where
  calls : p'.calls = p.calls
  clock : p'.world.clock = p.world.clock
  transports : p'.world.transports = p.world.transports
  container : p'.world.container = p.world.container

theorem Rests.refl (p : Passage) : p.Rests p := ⟨rfl, rfl, rfl, rfl⟩

theorem Rests.trans (h : p.Rests p') (h' : p'.Rests p'') : p.Rests p'' :=
  ⟨h'.calls.trans h.calls, h'.clock.trans h.clock, h'.transports.trans h.transports,
    h'.container.trans h.container⟩

/-! ## Rules -/

theorem clock_of_answer {q : Query} {reply : q.Reply} (h : foreign q p reply p') :
    p'.world.clock = p.world.clock := by
  have hclock := (p.world.reply_rest q).1
  rwa [h.2.1] at hclock

/-- The clock stands still. -/
theorem ensures_clock (act : Act α) :
    act.Ensures foreign (fun _ p' => p'.world.clock = p.world.clock) p := by
  induction act generalizing p with
  | done a => rfl
  | fail e => rfl
  | ask q next ih =>
    exact fun reply p' hr => (ih reply).mono fun _ _ h => h.trans (clock_of_answer hr)

/-- A program that poses no calls makes none. -/
theorem ensures_of_poses {act : Act α} (h : act.Poses (·.isCall = false)) :
    act.Ensures foreign (fun _ p' => p'.calls = p.calls) p := by
  induction act generalizing p with
  | done a => rfl
  | fail e => rfl
  | ask q next ih =>
    intro reply p' hr
    refine (ih reply (h.2 reply)).mono fun _ _ hcalls => hcalls.trans ?_
    rw [hr.2.2, Query.exchange_of_not_isCall h.1, List.append_nil]

theorem rests_of_log {entry : Log.Entry} {reply : Unit} (h : foreign (.log entry) p reply p') :
    p.Rests p' := by
  have hworld : p'.world = p.world.log entry := (congrArg Prod.snd h.2.1).symm
  exact ⟨by rw [h.2.2]; exact List.append_nil _, by rw [hworld]; rfl, by rw [hworld]; rfl,
    by rw [hworld]; rfl⟩

theorem rests_of_stopwatch {reading : Value} (h : foreign .stopwatch p reading p') :
    p.Rests p' := by
  have hworld : p'.world = p.world.readStopwatch.2 := (congrArg Prod.snd h.2.1).symm
  have hcalls : p'.calls = p.calls := by rw [h.2.2]; exact List.append_nil _
  rw [World.readStopwatch] at hworld
  split at hworld <;> exact ⟨hcalls, by rw [hworld], by rw [hworld], by rw [hworld]⟩

theorem ensures_note {source : Text} {n : Log.Note} {extra : Object} {next : Unit → Act α}
    {Q : Except Failure α → Passage → Prop}
    (h : ∀ p', p.Rests p' → (next ()).Ensures foreign Q p') :
    ((Act.note source n extra).bind next).Ensures foreign Q p :=
  fun _ p' hr => h p' (rests_of_log hr)

theorem ensures_now {next : Instant → Act α} {Q : Except Failure α → Passage → Prop}
    (h : ∀ p', p.Rests p' → (next p.world.clock).Ensures foreign Q p') :
    (Act.now.bind next).Ensures foreign Q p := by
  intro now p' hr
  have hnow : p.world.clock = now := congrArg Prod.fst hr.2.1
  have hworld : p'.world = p.world := (congrArg Prod.snd hr.2.1).symm
  exact hnow ▸ h p' ⟨by rw [hr.2.2]; exact List.append_nil _, by rw [hworld], by rw [hworld],
    by rw [hworld]⟩

/-- How a call to the store ends: as it is replied, and its failures are told by the table library;
    all of them are foreign. -/
def Called (site : Site) (call : StoreCall) (p : Passage) (x : Except Failure call.Result)
    (p' : Passage) : Prop :=
  ∃ reply, (∀ e, reply = .error e → e.IsForeign) ∧ p'.calls = p.calls ++ [.store call reply] ∧
    x = reply.mapError (call.explain site.tables)

theorem ensures_store (site : Site) (call : StoreCall) :
    (Act.store site call).Ensures foreign (Called site call p) p := by
  rw [Act.ensures_store]
  rintro reply p' ⟨hw, hreply, hcalls⟩
  refine ⟨reply, fun e he => (hw.callStore call).2 e ?_, hcalls, rfl⟩
  rw [← he]
  exact congrArg Prod.fst hreply

end Passage

/-! ## Calm worlds -/

namespace World

/-- A world with its tables empty, and nothing that waits for its calls. -/
def calm (w : World) : World :=
  { w with tables := .empty, faults := [], intruders := [], replies := [] }

/-- Whatever is asked but calls is replied alike. -/
theorem calm_reply (w : World) {q : Query} (h : q.isCall = false) :
    w.calm.reply q = ((w.reply q).1, (w.reply q).2.calm) := by
  cases q with
  | store call => cases h
  | putEvent entry => cases h
  | stopwatch =>
    unfold reply readStopwatch calm
    dsimp only
    split <;> rfl
  | _ => rfl

end World

/-- As long as nothing is called, a program runs in the calm world as it runs elsewhere. -/
theorem Act.run_calm {α : Type} {act : Act α} {w : World} (h : act.exchanges w = []) :
    (act.run w.calm).1 = (act.run w).1 := by
  induction act generalizing w with
  | done a => rfl
  | fail e => rfl
  | ask q next ih =>
    obtain ⟨hq, hnext⟩ := List.append_eq_nil_iff.1 h
    have hcall : q.isCall = false := by
      cases q <;> first | rfl | cases hq
    rw [run_ask, run_ask, w.calm_reply hcall]
    exact ih _ hnext

end Rendezvous
