/-
  Programs in a world where calls may fail.

  `Troubles` say which failures may befall which operations.  A world `IsTroubled` if nothing else
  befalls its operations and nobody else writes to its tables; a `Scene` of a run is the world
  together with all that was asked so far.

  * `Act.asked`: the questions that a program asks in a world;
  * `Scene.troubled`: how questions are answered there; `Scene.ensures_run`: what a program
    ensures in such a world, its run does;
  * `Scene.Met`: how a call to the store ends: a trouble, and nothing is done to the tables, or
    their own answer.
-/
import Rendezvous.Proofs.Filling
import Rendezvous.Proofs.Program

namespace Rendezvous

/-! ## What is asked -/

/-- Whether a question is a call to the store or to the event bus. -/
def Query.isCall : Query → Bool
  | .store _ | .putEvent _ => true
  | _ => false

/-- Whether a question is neither a call nor for a service. -/
def Query.isPassive : Query → Bool
  | .store _ | .putEvent _ | .service _ => false
  | _ => true

theorem Query.not_isCall_of_isPassive {q : Query} (h : q.isPassive = true) : q.isCall = false := by
  cases q <;> first | rfl | cases h

/-- A reported failure is the end. -/
@[simp] theorem Act.failStorage_bind {α β : Type} (operation table : Text) (failure : Failure)
    (f : α → Act β) : (Act.failStorage operation table failure).bind f =
      Act.failStorage operation table failure := rfl

/-- The questions that a program asks in a world, in order. -/
def Act.asked {α : Type} : Act α → World → List Query
  | .done _, _ => []
  | .fail _, _ => []
  | .ask q next, w => q :: (next (w.reply q).1).asked (w.reply q).2

/-! ## What may go wrong -/

/-- The failures that may befall an operation. -/
abbrev Troubles := Text → Failure → Prop

/-- The operation of the event bus. -/
def putEvents : Text := "PutEvents"

namespace Troubles

/-- No troubles but those of the event bus. -/
def quiet : Troubles := fun operation _ => operation = putEvents

/-- Failures of remote calls. -/
def remote : Troubles := fun _ failure => ∃ e, failure = .remote e

/-- All troubles are failures of remote calls. -/
def AreRemote (P : Troubles) : Prop := ∀ operation failure, P operation failure →
  remote operation failure

/-- Some trouble may befall a call to the store. -/
def Befall (P : Troubles) : Prop := ∃ (call : StoreCall) (failure : Failure), P call.operation failure

/-- No trouble is told by the table library as an item that is not there. -/
def AreTold (P : Troubles) : Prop := ∀ (names : TableNames) (call : StoreCall) (failure : Failure)
  (text : Text), P call.operation failure → call.explain names failure ≠ .table .doesNotExist text

theorem not_befall_quiet : ¬quiet.Befall := by
  rintro ⟨call, failure, h⟩
  have hne : call.operation ≠ putEvents := by
    cases call <;> simp only [StoreCall.operation] <;> decide
  exact hne h

theorem areTold_quiet : quiet.AreTold :=
  fun _ call failure _ h => (not_befall_quiet ⟨call, failure, h⟩).elim

theorem AreRemote.areTold {P : Troubles} (hP : P.AreRemote) : P.AreTold := by
  intro names call failure text hfailure htold
  obtain ⟨e, rfl⟩ := hP _ _ hfailure
  rcases call.explain_remote names e with ⟨text', h⟩ | ⟨failure, hmishap, -, h⟩
  · have hkind : call.fault.1 ≠ .doesNotExist := by cases call <;> simp [StoreCall.fault]
    rw [h] at htold
    exact hkind (Failure.table.inj htold).1
  · rw [h] at htold
    rw [htold] at hmishap
    exact hmishap

end Troubles

/-- A failure of the store, as the service reports it. -/
def Failure.IsStorage (e : Failure) : Prop :=
  ∃ operation table failure, e = .service (Failure.toStorage operation table failure)

/-- Nothing but certain troubles befalls the operations, nobody else writes to the tables, and it
    is one of the years that have stamps. -/
structure World.IsTroubled (P : Troubles) (w : World) : Prop where
  alone : w.intruders = []
  dated : w.clock.IsDated
  faults : ∀ fault ∈ w.faults, P fault.operation fault.failure
  replies : ∀ failure, .error failure ∈ w.replies → P putEvents failure

namespace World

/-- What is waiting to befall the operations of a world. -/
def troubles (w : World) : Troubles := fun operation failure =>
  (∃ fault ∈ w.faults, fault.operation = operation ∧ fault.failure = failure) ∨
    operation = putEvents ∧ .error failure ∈ w.replies

/-- A fault that is taken was waiting, and so were those that are left. -/
theorem mem_of_takeFault (operation : Text) (faults : List Fault) :
    (∀ failure, (takeFault operation faults).1 = some failure →
      ∃ fault ∈ faults, fault.operation = operation ∧ fault.failure = failure) ∧
    ∀ fault ∈ (takeFault operation faults).2,
      ∃ waiting ∈ faults, waiting.operation = fault.operation ∧ waiting.failure = fault.failure := by
  induction faults with
  | nil => simp [takeFault]
  | cons first faults ih =>
    obtain ⟨ihtaken, ihleft⟩ := ih
    have hleft (f : Fault) (hf : f.operation = first.operation ∧ f.failure = first.failure) :
        ∀ fault ∈ f :: (takeFault operation faults).2, ∃ waiting ∈ first :: faults,
          waiting.operation = fault.operation ∧ waiting.failure = fault.failure := by
      intro fault hfault
      rcases List.mem_cons.1 hfault with rfl | hfault
      · exact ⟨first, by simp, hf.1.symm, hf.2.symm⟩
      · obtain ⟨waiting, hmem, hsame⟩ := ihleft fault hfault
        exact ⟨waiting, by simp [hmem], hsame⟩
    have htaken (failure : Failure) (h : (takeFault operation faults).1 = some failure) :
        ∃ fault ∈ first :: faults, fault.operation = operation ∧ fault.failure = failure := by
      obtain ⟨fault, hmem, hsame⟩ := ihtaken failure h
      exact ⟨fault, by simp [hmem], hsame⟩
    unfold takeFault
    split
    · rename_i hop
      split
      · refine ⟨fun failure h => ⟨first, by simp, hop, Option.some.inj h⟩, fun fault hfault => ?_⟩
        exact ⟨fault, by simp [hfault], rfl, rfl⟩
      · exact ⟨htaken, hleft _ ⟨rfl, rfl⟩⟩
    · exact ⟨htaken, hleft _ ⟨rfl, rfl⟩⟩

theorem IsQuiet.troubled {w : World} (h : w.IsQuiet) : w.IsTroubled .quiet where
  alone := h.alone
  dated := h.dated
  faults fault hfault := by rw [h.faultless] at hfault; cases hfault
  replies _ _ := rfl

namespace IsTroubled
variable {P : Troubles} {w : World} (h : w.IsTroubled P)
include h

/-- What befalls the operations was waiting for it. -/
theorem own : w.IsTroubled w.troubles :=
  ⟨h.alone, h.dated, fun fault hfault => Or.inl ⟨fault, hfault, rfl, rfl⟩,
    fun _ hreply => Or.inr ⟨rfl, hreply⟩⟩

theorem troubles_imp {operation : Text} {failure : Failure} (ht : w.troubles operation failure) :
    P operation failure := by
  obtain ⟨fault, hfault, rfl, rfl⟩ | ⟨rfl, hreply⟩ := ht
  · exact h.faults fault hfault
  · exact h.replies failure hreply

theorem of_faults {faults : List Fault}
    (hf : ∀ fault ∈ faults, P fault.operation fault.failure) :
    { w with faults := faults }.IsTroubled P :=
  ⟨h.alone, h.dated, hf, h.replies⟩

/-- A call to the store is befallen by a trouble, or answered by the tables. -/
theorem callStore (call : StoreCall) : (w.callStore call).2.IsTroubled P ∧
    ((∃ failure, P call.operation failure ∧ (w.callStore call).1 = .error failure ∧
        (w.callStore call).2.tables = w.tables) ∨
      (w.callStore call).1 = (w.tables.call call).1 ∧
        (w.callStore call).2.tables = (w.tables.call call).2) := by
  obtain ⟨htaken, hleft⟩ := mem_of_takeFault call.operation w.faults
  have hfaults : ∀ fault ∈ (takeFault call.operation w.faults).2,
      P fault.operation fault.failure := by
    intro fault hfault
    obtain ⟨waiting, hmem, hop, hfailure⟩ := hleft fault hfault
    exact hop ▸ hfailure ▸ h.faults waiting hmem
  rw [World.callStore]
  split
  · rename_i failure faults heq
    rw [heq] at htaken hfaults
    obtain ⟨fault, hmem, hop, hfailure⟩ := htaken failure rfl
    exact ⟨h.of_faults hfaults, Or.inl ⟨failure, hop ▸ hfailure ▸ h.faults fault hmem, rfl, rfl⟩⟩
  · rename_i faults heq
    rw [heq] at hfaults
    have halone : (if isRaced call then letIn { w with faults := faults }
        else { w with faults := faults }) = { w with faults := faults } := by
      have := h.alone
      obtain ⟨⟩ := w
      subst this
      simp [letIn]
    dsimp only
    rw [halone]
    exact ⟨⟨h.alone, h.dated, hfaults, h.replies⟩, Or.inr ⟨rfl, rfl⟩⟩

theorem reply (q : Query) : (w.reply q).2.IsTroubled P := by
  cases q with
  | store call => exact (h.callStore call).1
  | stopwatch => unfold World.reply readStopwatch; split <;> exact ⟨h.1, h.2, h.3, h.4⟩
  | putEvent entry =>
    unfold World.reply putEvent
    split
    · exact ⟨h.1, h.2, h.3, h.4⟩
    · rename_i heq
      exact ⟨h.1, h.2, h.3, fun failure hmem => h.4 failure (by rw [heq]; simp [hmem])⟩
    · rename_i heq
      exact ⟨h.1, h.2, h.3, fun failure hmem => h.4 failure (by rw [heq]; simp [hmem])⟩
  | _ => exact ⟨h.1, h.2, h.3, h.4⟩

/-- The event bus fails only by a trouble. -/
theorem putEvent (entry : Object) {failure : Failure}
    (hf : (w.putEvent entry).1 = .error failure) : P putEvents failure := by
  unfold World.putEvent at hf
  split at hf
  · cases hf
  · cases hf
  · rename_i heq
    exact h.replies _ (by rw [heq]; cases hf; simp)

end IsTroubled

theorem reply_tables_of_not_isCall {q : Query} (hq : q.isCall = false) (w : World) :
    (w.reply q).2.tables = w.tables := by
  cases q with
  | store call => cases hq
  | putEvent entry => cases hq
  | stopwatch => unfold reply readStopwatch; split <;> rfl
  | _ => rfl

theorem reply_container_of_isPassive {q : Query} (hq : q.isPassive = true) (w : World) :
    (w.reply q).2.container = w.container := by
  cases q with
  | store call => cases hq
  | putEvent entry => cases hq
  | service name => cases hq
  | stopwatch => unfold reply readStopwatch; split <;> rfl
  | _ => rfl

end World

/-! ## Scenes -/

/-- A world at some point of a run, and what was asked so far. -/
structure Scene where
  world : World
  asked : List Query

namespace Scene

/-- The tables of a scene. -/
def tables (s : Scene) : Tables := s.world.tables

/-- Neither the store nor the event bus was called. -/
def IsIdle (s : Scene) : Prop := ∀ q ∈ s.asked, q.isCall = false

/-- From one scene to another neither the store nor the event bus was called. -/
structure Calm (s s' : Scene) : Prop where
  tables : s'.tables = s.tables
  idle : s.IsIdle → s'.IsIdle

/-- From one scene to another nothing was asked but passive questions. -/
structure Rests (s s' : Scene) : Prop extends s.Calm s' where
  container : s'.world.container = s.world.container

/-- How questions are answered where certain troubles befall the operations. -/
def troubled (P : Troubles) : Answering Scene := fun q s reply s' =>
  s.world.IsTroubled P ∧ s.world.reply q = (reply, s'.world) ∧ s'.asked = s.asked ++ [q]

variable {α β : Type} {P : Troubles} {s s' : Scene}

theorem Calm.refl (s : Scene) : s.Calm s := ⟨rfl, id⟩

theorem Calm.trans {s₁ s₂ s₃ : Scene} (h : s₁.Calm s₂) (h' : s₂.Calm s₃) : s₁.Calm s₃ :=
  ⟨h'.tables.trans h.tables, h'.idle ∘ h.idle⟩

theorem Rests.refl (s : Scene) : s.Rests s := ⟨.refl s, rfl⟩

theorem Rests.trans {s₁ s₂ s₃ : Scene} (h : s₁.Rests s₂) (h' : s₂.Rests s₃) : s₁.Rests s₃ :=
  ⟨h.toCalm.trans h'.toCalm, h'.container.trans h.container⟩

/-- What a program ensures in such a world, its run does. -/
theorem ensures_run {act : Act α} {Q : Except Failure α → Scene → Prop} {w : World}
    (hw : w.IsTroubled P) {past : List Query} (h : act.Ensures (troubled P) Q ⟨w, past⟩) :
    Q (act.run w).1 ⟨(act.run w).2, past ++ act.asked w⟩ := by
  induction act generalizing w past with
  | done a => rw [Act.asked, List.append_nil]; exact h
  | fail e => rw [Act.asked, List.append_nil]; exact h
  | ask q next ih =>
    have hstep := ih _ (hw.reply q) (h _ ⟨(w.reply q).2, past ++ [q]⟩ ⟨hw, rfl, rfl⟩)
    rwa [List.append_assoc] at hstep

theorem calm_of_answer {q : Query} (hq : q.isCall = false) {reply : q.Reply}
    (h : troubled P q s reply s') : s.Calm s' := by
  obtain ⟨-, hreply, hasked⟩ := h
  have hworld : s'.world = (s.world.reply q).2 := by rw [hreply]
  refine ⟨by rw [tables, hworld, World.reply_tables_of_not_isCall hq, tables], fun hidle => ?_⟩
  rw [IsIdle, hasked]
  intro q' hmem
  rcases List.mem_append.1 hmem with hmem | hmem
  · exact hidle q' hmem
  · rw [List.mem_singleton.1 hmem, hq]

theorem rests_of_answer {q : Query} (hq : q.isPassive = true) {reply : q.Reply}
    (h : troubled P q s reply s') : s.Rests s' := by
  refine ⟨calm_of_answer (Query.not_isCall_of_isPassive hq) h, ?_⟩
  obtain ⟨-, hreply, -⟩ := h
  have hworld : s'.world = (s.world.reply q).2 := by rw [hreply]
  rw [hworld, World.reply_container_of_isPassive hq]

/-! ## Rules -/

/-- A passive question leaves everything as it is. -/
theorem ensures_ask {q : Query} (hq : q.isPassive = true) {next : q.Reply → Act α}
    {Q : Except Failure α → Scene → Prop}
    (h : ∀ reply s', s.Rests s' → (next reply).Ensures (troubled P) Q s') :
    (Act.ask q next).Ensures (troubled P) Q s :=
  fun reply s' hr => h reply s' (rests_of_answer hq hr)

theorem ensures_now {next : Instant → Act α} {Q : Except Failure α → Scene → Prop}
    (h : ∀ now s', now.IsDated → s.Rests s' → (next now).Ensures (troubled P) Q s') :
    (Act.now.bind next).Ensures (troubled P) Q s := by
  intro now s' hr
  refine h now s' ?_ (rests_of_answer rfl hr)
  obtain ⟨hw, hreply, -⟩ := hr
  exact (Prod.mk.inj hreply).1 ▸ hw.dated

theorem ensures_note {source : Text} {n : Log.Note} {extra : Object} {next : Unit → Act α}
    {Q : Except Failure α → Scene → Prop}
    (h : ∀ s', s.Rests s' → (next ()).Ensures (troubled P) Q s') :
    ((Act.note source n extra).bind next).Ensures (troubled P) Q s :=
  fun _ s' hr => h s' (rests_of_answer rfl hr)

/-- How a call to the store ends: by a trouble, or as the tables answer it. -/
def Met (P : Troubles) (names : TableNames) (call : StoreCall) (s : Scene)
    (x : Except Failure call.Result) (s' : Scene) : Prop :=
  (∃ failure, P call.operation failure ∧ x = .error (call.explain names failure) ∧
      s'.tables = s.tables) ∨
    x = (s.tables.call call).1.mapError (call.explain names) ∧
      s'.tables = (s.tables.call call).2

theorem ensures_store (site : Site) (call : StoreCall) (s : Scene) :
    (Act.store site call).Ensures (troubled P) (Met P site.tables call s) s := by
  rw [Act.ensures_store]
  rintro reply s' ⟨hw, hreply, -⟩
  have hcall : s.world.callStore call = (reply, s'.world) := hreply
  have hx : reply = (s.world.callStore call).1 := by rw [hcall]
  have hs : s'.world = (s.world.callStore call).2 := by rw [hcall]
  rw [Met, tables, tables, hx, hs]
  rcases (hw.callStore call).2 with ⟨failure, hP, herror, htables⟩ | ⟨hok, htables⟩
  · exact Or.inl ⟨failure, hP, by rw [herror]; rfl, htables⟩
  · exact Or.inr ⟨by rw [hok], htables⟩

/-- A call that the tables answer with a result ends so, or by a trouble. -/
theorem ensures_answered (site : Site) (call : StoreCall) {a : call.Result} {t : Tables}
    (h : s.tables.call call = (.ok a, t)) : (Act.store site call).Ensures (troubled P)
      (fun x s' =>
        (∃ failure, P call.operation failure ∧ x = .error (call.explain site.tables failure) ∧
          s'.tables = s.tables) ∨ x = .ok a ∧ s'.tables = t) s := by
  refine (ensures_store site call s).mono fun x s' hmet => ?_
  rwa [Met, h] at hmet

/-- How something is looked up: it is found as it is, or a trouble is told by the table library; the
    tables stay as they are. -/
def Finds (P : Troubles) (names : TableNames) (a : α) (s : Scene) (x : Except Failure α)
    (s' : Scene) : Prop :=
  s'.tables = s.tables ∧ ((∃ (call : StoreCall) (failure : Failure), P call.operation failure ∧
    x = .error (call.explain names failure)) ∨ x = .ok a)

/-- What is read with a good stamp is found. -/
theorem ensures_read {site : Site} {call : StoreCall} {item : call.Result}
    {stamp : call.Result → Option Text} (h : s.tables.call call = (.ok item, s.tables))
    (hstamp : Stamp.check (stamp item) = .ok ()) :
    ((Act.store site call).bind fun item => (Act.ofExcept (Stamp.check (stamp item))).bind fun _ =>
      .done item).Ensures (troubled P) (Finds P site.tables item s) s := by
  refine (ensures_answered site call h).bind ?_ ?_
  · rintro found s₁ (⟨failure, -, he, -⟩ | ⟨hfound, h1⟩)
    · cases he
    · obtain rfl := Except.ok.inj hfound
      rw [hstamp, Act.ofExcept_ok, Act.done_bind]
      exact ⟨h1, Or.inr rfl⟩
  · rintro e s₁ (⟨failure, hP, he, h1⟩ | ⟨he, -⟩)
    · exact ⟨h1, Or.inl ⟨call, failure, hP, he⟩⟩
    · cases he

/-- How a service ends: with a result, or by a trouble, which it reports, and nothing is done to
    the tables. -/
def Ends (P : Troubles) (s : Scene) (Q : α → Tables → Prop) (x : Except Failure α) (s' : Scene) :
    Prop :=
  match x with
  | .ok a => Q a s'.tables
  | .error e => e.IsStorage ∧ P.Befall ∧ s'.tables = s.tables

theorem Ends.mono {Q R : α → Tables → Prop} {x : Except Failure α} (h : Ends P s Q x s')
    (hQ : ∀ a t, Q a t → R a t) : Ends P s R x s' := by
  cases x with
  | ok a => exact hQ a _ h
  | error e => exact h

/-- In a quiet world a service ends with a result. -/
theorem Ends.run {Q : α → Tables → Prop} {act : Act α} {w : World} (hw : w.IsQuiet)
    (h : act.Ensures (troubled .quiet) (Ends .quiet ⟨w, []⟩ Q) ⟨w, []⟩) :
    ∃ a, (act.run w).1 = .ok a ∧ Q a (act.run w).2.tables := by
  have hends := ensures_run hw.troubled h
  cases hx : (act.run w).1 with
  | ok a => rw [hx] at hends; exact ⟨a, rfl, hends⟩
  | error e => rw [hx] at hends; exact (Troubles.not_befall_quiet hends.2.1).elim

theorem ends_failStorage {operation table : Text} {failure : Failure} {Q : α → Tables → Prop}
    (hP : P.Befall) (h : s'.tables = s.tables) :
    (Act.failStorage operation table failure).Ensures (troubled P) (Ends P s Q) s' :=
  fun _ _ hr => ⟨⟨_, _, _, rfl⟩, hP, (rests_of_answer rfl hr).tables.trans h⟩

end Scene

end Rendezvous
