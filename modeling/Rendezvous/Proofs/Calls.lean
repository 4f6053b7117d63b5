/-
  Which calls a program makes, and what it leaves alone.

  * `Scene.actual`: questions are answered as a world answers them, whatever world it is;
    `ensures_run_actual`: what a program ensures so, its run does;
  * `Scene.calls`: the calls among what was asked; `Scene.Silent`: none was made from one scene to
    another, and the bus still has the same replies;
  * `ensures_of_poses`: a program that poses no calls is silent;
  * `respond_ensures`, `logEnd_ensures`: how the dispatcher ends what it began.
-/
import Rendezvous.Proofs.Answers
import Rendezvous.Proofs.Asking

namespace Rendezvous

/-- The calls to the store and to the event bus among questions. -/
def Query.calls (asked : List Query) : List Query := asked.filter isCall

/-- Every reading of the stopwatch is a number of seconds. -/
def World.IsTimed (w : World) : Prop := ∀ reading ∈ w.readings, ∃ x, reading = .float x

theorem World.IsTimed.readStopwatch {w : World} (h : w.IsTimed) :
    (∃ x, w.readStopwatch.1 = .float x) ∧ w.readStopwatch.2.IsTimed := by
  unfold World.readStopwatch
  split
  · exact ⟨⟨_, rfl⟩, h⟩
  · rename_i reading readings heq
    rw [World.IsTimed, heq] at h
    exact List.forall_mem_cons.1 h

/-- What a program ensures in two respects, it ensures in both. -/
theorem Act.Ensures.and {α σ : Type} {A : Answering σ} {P Q : Except Failure α → σ → Prop}
    {act : Act α} {s : σ} (hP : act.Ensures A P s) (hQ : act.Ensures A Q s) :
    act.Ensures A (fun x s' => P x s' ∧ Q x s') s := by
  induction act generalizing s with
  | done a => exact ⟨hP, hQ⟩
  | fail e => exact ⟨hP, hQ⟩
  | ask q next ih => exact fun reply s' hr => ih reply (hP reply s' hr) (hQ reply s' hr)

namespace Scene

/-- How questions are answered in a world, whatever it is. -/
def actual : Answering Scene := fun q s reply s' =>
  s.world.reply q = (reply, s'.world) ∧ s'.asked = s.asked ++ [q]

/-- The scene after a question. -/
def after (s : Scene) (q : Query) : Scene := ⟨(s.world.reply q).2, s.asked ++ [q]⟩

/-- The calls of a scene. -/
def calls (s : Scene) : List Query := Query.calls s.asked

variable {α β : Type} {s s' s'' : Scene}

/-- What a program ensures, its run does. -/
theorem ensures_run_actual {act : Act α} {Q : Except Failure α → Scene → Prop} {w : World}
    {past : List Query} (h : act.Ensures actual Q ⟨w, past⟩) :
    Q (act.run w).1 ⟨(act.run w).2, past ++ act.asked w⟩ := by
  induction act generalizing w past with
  | done a => rw [Act.asked, List.append_nil]; exact h
  | fail e => rw [Act.asked, List.append_nil]; exact h
  | ask q next ih =>
    have hstep := ih _ (h _ ⟨(w.reply q).2, past ++ [q]⟩ ⟨rfl, rfl⟩)
    rwa [List.append_assoc] at hstep

/-- A question is answered by the world of the scene. -/
theorem ensures_ask_actual {q : Query} {next : q.Reply → Act α}
    {Q : Except Failure α → Scene → Prop}
    (h : (next (s.world.reply q).1).Ensures actual Q (s.after q)) :
    (Act.ask q next).Ensures actual Q s := by
  rintro reply ⟨world, asked⟩ ⟨hreply, hasked⟩
  rw [after, hreply] at h
  obtain rfl : asked = s.asked ++ [q] := hasked
  exact h

/-- No call was made from one scene to another, and the event bus, the clock and the stopwatch go
    on as they would have. -/
structure Silent (s s' : Scene) : Prop where
  calls : s'.calls = s.calls
  replies : s'.world.replies = s.world.replies
  clock : s'.world.clock = s.world.clock
  timed : s.world.IsTimed → s'.world.IsTimed

theorem Silent.refl (s : Scene) : s.Silent s := ⟨rfl, rfl, rfl, id⟩

theorem Silent.trans (h : s.Silent s') (h' : s'.Silent s'') : s.Silent s'' :=
  ⟨h'.calls.trans h.calls, h'.replies.trans h.replies, h'.clock.trans h.clock, h'.timed ∘ h.timed⟩

/-- A question that is no call. -/
theorem Silent.after {q : Query} (hq : q.isCall = false) : s.Silent (s.after q) := by
  have hcalls : (s.after q).calls = s.calls := by
    simp [Scene.calls, Query.calls, Scene.after, hq]
  cases q with
  | store call => cases hq
  | putEvent entry => cases hq
  | stopwatch =>
    have hread : (s.after .stopwatch).world = s.world.readStopwatch.2 := rfl
    refine ⟨hcalls, ?_, ?_, fun h => h.readStopwatch.2⟩
    · rw [hread, World.readStopwatch]; split <;> rfl
    · rw [hread, World.readStopwatch]; split <;> rfl
  | _ => exact ⟨hcalls, rfl, rfl, id⟩

/-- A program that poses no calls is silent. -/
theorem ensures_of_poses {act : Act α} (h : act.Poses (·.isCall = false)) :
    act.Ensures actual (fun _ s' => s.Silent s') s := by
  induction act generalizing s with
  | done a => exact Silent.refl s
  | fail e => exact Silent.refl s
  | ask q next ih =>
    refine ensures_ask_actual ?_
    exact (ih _ (h.2 _)).mono fun _ _ h' => (Silent.after h.1).trans h'

end Scene

theorem Query.hasQuiet_not_isCall : HasQuiet (·.isCall = false) := fun _ => not_isCall_of_isQuiet

namespace Handler
open Act

/-- Whatever is replied, a failure is answered with a response that has failed. -/
theorem respond_fails {σ : Type} (A : Answering σ) (function : Text) (e : Failure) (s : σ) :
    (respond function e).Ensures A (fun x _ => ∃ response, x = .ok response ∧
      Response.succeeded response = false) s := by
  have hfailed (now : Instant) (c message details : Value) :
      Response.succeeded (Response.failed now c message details (.str function)) = false := rfl
  cases e with
  | service e =>
    have hlog : (logBlame e).Ensures A (fun x _ => x = .ok ()) s := by
      cases e with
      | validation message field value hints => exact fun _ _ _ => rfl
      | _ => rfl
    refine hlog.bind ?_ fun _ _ h => by cases h
    intro _ s₁ _ now s₂ _
    exact ⟨_, rfl, by rw [(read_markRetryable _ _).1, hfailed]⟩
  | _ => exact fun _ _ _ now _ _ => ⟨_, rfl, hfailed ..⟩

theorem respond_ensures (function : Text) (e : Failure) (s : Scene) :
    (respond function e).Ensures Scene.actual (fun x s' => s.Silent s' ∧ ∃ response,
      x = .ok response ∧ Response.succeeded response = false) s :=
  (Scene.ensures_of_poses (respond_poses Query.hasQuiet_not_isCall.hasIdle function e)).and
    (respond_fails Scene.actual function e s)

/-- The end of a call that was carried out is logged without a call. -/
theorem logEnd_ensures {s : Scene} (hs : s.world.IsTimed) (function : Text) (start : Binary64)
    {response : Value} (h : Response.succeeded response = true) :
    (logEnd function (.float start) response).Ensures Scene.actual
      (fun x s' => x = .ok () ∧ s.Silent s') s := by
  unfold logEnd
  simp only [bind_eq, liftM_eq, pure_eq]
  refine Scene.ensures_ask_actual ?_
  obtain ⟨stop, hstop⟩ := hs.readStopwatch.1
  have hread : (s.world.reply .stopwatch).1 = .float stop := hstop
  have helapsed : elapsed (.float start) (.float stop) =
      .ok (.floating ((stop.sub start).scale 1000)) := rfl
  cases response with
  | obj fields =>
    have hfield : (Value.obj fields).fieldOrNull "success" =
        .ok (Object.fieldOrNull "success" fields) := rfl
    have hs : (Object.fieldOrNull "success" fields).isTruthy = true := h
    simp only [done_bind, hread, helapsed, ofExcept_ok, checkDuration, hfield, hs, if_true]
    refine Scene.ensures_ask_actual ?_
    exact ⟨rfl, (Scene.Silent.after rfl).trans (Scene.Silent.after rfl)⟩
  | _ => cases h

end Handler

end Rendezvous
