/-
  A signal is put on the event bus once, and the bus decides what becomes of it.

  * `Scene.Makes`: the calls that are made from one scene to another;
  * `Transport.accepts`: the replies of the bus by which nothing was rejected;
  * `World.SendsOver`: the bus that the channel of a world sends over;
  * `Channel.relay_ensures`: a channel makes one call, and ends by the reply to it.
-/
import Rendezvous.Proofs.Attribution
import Rendezvous.Proofs.Calls

namespace Rendezvous

open Act

/-! ## The event bus -/

/-- The reply that the event bus has for the next entry. -/
def World.nextReply (w : World) : Except Failure Value := w.replies.headD (.ok acceptance)

theorem World.putEvent_eq (w : World) (entry : Object) : (w.putEvent entry).1 = w.nextReply := by
  unfold putEvent nextReply
  split <;> rename_i h <;> rw [h] <;> rfl

namespace Transport

/-- Whether a reply of the event bus says that no entry was rejected. -/
def accepts : Except Failure Value → Bool
  | .ok (.obj reply) => !((Object.field? "FailedEntryCount" reply).getD (.int 0)).isTruthy
  | _ => false

/-- What goes over the bus ends with a result if the bus accepts it, and fails otherwise. -/
def Verdict {α : Type} (reply : Except Failure Value) (a : α) (x : Except Failure α) : Prop :=
  (accepts reply = true → x = .ok a) ∧ (accepts reply = false → ∃ e, x = .error e)

theorem Verdict.fails {α : Type} {reply : Except Failure Value} {a : α} {e : Failure}
    (h : accepts reply = false) : Verdict reply a (.error e) := by
  refine ⟨fun h' => ?_, fun _ => ⟨e, rfl⟩⟩
  rw [h] at h'
  cases h'

end Transport

namespace Scene
variable {s s' s'' : Scene} {made : List Query}

/-- The calls that are made from one scene to another; the clock and the stopwatch go on as they
    would have. -/
structure Makes (made : List Query) (s s' : Scene) : Prop where
  calls : s'.calls = s.calls ++ made
  clock : s'.world.clock = s.world.clock
  timed : s.world.IsTimed → s'.world.IsTimed

theorem Silent.makes (h : s.Silent s') (h' : s'.Makes made s'') : s.Makes made s'' :=
  ⟨by rw [h'.calls, h.calls], h'.clock.trans h.clock, h'.timed ∘ h.timed⟩

theorem Silent.makes_nil (h : s.Silent s') : s.Makes [] s' :=
  ⟨by rw [h.calls, List.append_nil], h.clock, h.timed⟩

theorem Makes.silent (h : s.Makes made s') (h' : s'.Silent s'') : s.Makes made s'' :=
  ⟨h'.calls.trans h.calls, h'.clock.trans h.clock, h'.timed ∘ h.timed⟩

theorem makes_after (s : Scene) (entry : Object) :
    s.Makes [.putEvent entry] (s.after (.putEvent entry)) := by
  have hcalls : (s.after (.putEvent entry)).calls = s.calls ++ [.putEvent entry] := by
    simp [Scene.calls, Query.calls, Scene.after, Query.isCall]
  have hworld : (s.after (.putEvent entry)).world = (s.world.putEvent entry).2 := rfl
  refine ⟨hcalls, ?_, fun h => ?_⟩
  · rw [hworld, World.putEvent]
    split <;> rfl
  · rw [hworld, World.putEvent]
    split <;> exact h

/-- What goes over the bus is followed by what makes no calls and does not fail. -/
theorem ensures_verdict_bind {α β : Type} {act : Act α} {f : α → Act β} {a : α} {b : β}
    {reply : Except Failure Value}
    (h : act.Ensures actual (fun x s' => s.Makes made s' ∧ Transport.Verdict reply a x) s)
    (hf : ∀ s', s.Makes made s' →
      (f a).Ensures actual (fun x s'' => x = .ok b ∧ s'.Silent s'') s') :
    (act.bind f).Ensures actual (fun x s' => s.Makes made s' ∧ Transport.Verdict reply b x) s := by
  refine h.bind ?_ ?_
  · rintro a' s₁ ⟨h1, hyes, hno⟩
    cases hreply : Transport.accepts reply with
    | true =>
      obtain rfl := Except.ok.inj (hyes hreply)
      refine (hf s₁ h1).mono ?_
      rintro _ s₂ ⟨rfl, h2⟩
      refine ⟨h1.silent h2, fun _ => rfl, fun hfalse => ?_⟩
      rw [hreply] at hfalse
      cases hfalse
    | false =>
      obtain ⟨e, he⟩ := hno hreply
      cases he
  · rintro e s₁ ⟨h1, hyes, -⟩
    refine ⟨h1, fun hreply => ?_, fun _ => ⟨e, rfl⟩⟩
    cases hyes hreply

end Scene

open Scene Transport

/-! ## Sending -/

/-- The entry of a signal on a bus. -/
def Signal.entry (bus source : Value) (s : Signal) : Object :=
  [("Source", source), ("DetailType", .str s.kind.name),
   ("Detail", .str (Json.print (.obj s.toEvent))), ("EventBusName", bus)]

variable {s : Scene} {signal : Signal}

namespace Transport

theorem entryOf_eq (bus source : Value) (h : Json.isPlain (.obj signal.toEvent) = true) :
    entryOf bus source signal = .ok (signal.entry bus source) := by
  rw [entryOf, Json.print?, if_pos h]
  rfl

theorem connect_ensures (slot : Nat) (bus source : Value) (connected : Bool) :
    (connect slot bus source connected).Ensures actual
      (fun x s' => x = .ok () ∧ s.Silent s') s := by
  cases connected with
  | true => exact ⟨rfl, Silent.refl s⟩
  | false =>
    refine ensures_ask_actual (ensures_ask_actual (ensures_ask_actual ⟨rfl, ?_⟩))
    exact ((Silent.after rfl).trans (Silent.after rfl)).trans (Silent.after rfl)

/-- The reply of the bus is read without a call. -/
theorem readReply_ensures (bus : Value) (signal : Signal) (reply : Value) :
    (readReply bus signal reply).Ensures actual
      (fun x s' => s.Silent s' ∧ Verdict (.ok reply) () x) s := by
  unfold readReply
  simp only [bind_eq, liftM_eq, pure_eq]
  cases reply with
  | obj reply =>
    have hfields : (Value.obj reply).fields = .ok reply := rfl
    rw [hfields, ofExcept_ok, done_bind]
    split
    next hrejected =>
      have hno : accepts (.ok (.obj reply)) = false := by simp [accepts, hrejected]
      cases firstEntry reply with
      | error e => exact ⟨Silent.refl s, .fails hno⟩
      | ok entry =>
      simp only [ofExcept_ok, done_bind]
      cases entry.fieldOrNull "ErrorCode" with
      | error e => exact ⟨Silent.refl s, .fails hno⟩
      | ok code =>
      simp only [ofExcept_ok, done_bind]
      cases entry.fieldOrNull "ErrorMessage" with
      | error e => exact ⟨Silent.refl s, .fails hno⟩
      | ok message => exact ensures_ask_actual ⟨Silent.after rfl, .fails hno⟩
    next haccepted =>
      have hyes : accepts (.ok (.obj reply)) = true := by simp [accepts, haccepted]
      refine ⟨Silent.refl s, fun _ => rfl, fun hno => ?_⟩
      rw [hyes] at hno
      cases hno
  | _ => exact ⟨Silent.refl s, .fails rfl⟩

/-- A signal is put on the bus once, and the bus decides. -/
theorem send_ensures (slot : Nat) (bus source : Value) (connected : Bool)
    (hplain : Json.isPlain (.obj signal.toEvent) = true) :
    (send slot bus source connected signal).Ensures actual
      (fun x s' => s.Makes [.putEvent (signal.entry bus source)] s' ∧
        Verdict s.world.nextReply () x) s := by
  unfold send
  simp only [bind_eq, liftM_eq]
  rw [entryOf_eq bus source hplain, ofExcept_ok, done_bind]
  refine (connect_ensures slot bus source connected).bind ?_ fun e s₁ h => by cases h.1
  rintro _ s₁ ⟨-, h1⟩
  have hreply : (s₁.world.reply (.putEvent (signal.entry bus source))).1 = s.world.nextReply := by
    rw [World.nextReply, ← h1.replies]
    exact s₁.world.putEvent_eq _
  refine ensures_ask_actual ?_
  have h2 := h1.makes (s₁.makes_after (signal.entry bus source))
  rw [hreply]
  cases s.world.nextReply with
  | ok reply =>
    simp only [ofExcept_ok, Act.attempt, done_bind]
    refine (readReply_ensures bus signal reply).bind ?_ ?_
    · rintro _ s₃ ⟨h3, hx⟩
      exact ensures_ask_actual ⟨(h2.silent h3).silent (Silent.after rfl), hx⟩
    · rintro e s₃ ⟨h3, hx⟩
      exact ⟨h2.silent h3, hx⟩
  | error failure =>
    cases failure with
    | remote e => exact ensures_ask_actual ⟨h2.silent (Silent.after rfl), .fails rfl⟩
    | _ => exact ⟨h2, .fails rfl⟩

end Transport

/-! ## The channel -/

/-- A channel sends over a bus: its transport is on that bus, or it has none yet, and the bus is
    the one that the settings name. -/
inductive Channel.SendsOver (c : Channel) (bus source : Value) (w : World) : Prop
  | kept {connected : Bool} : w.transports.lookup c.slot = some (.bus bus source connected) →
      SendsOver c bus source w
  | made : w.transports.lookup c.slot = none →
      bus = .str ((w.env.setting? "event-bus-name").getD (Config.defaultBus c.site.environment)) →
      bus.isTruthy = true →
      source = .str ((w.env.setting? "event-source").getD Config.defaultSource) →
      SendsOver c bus source w

/-- The channel of a world sends over a bus. -/
def World.SendsOver (w : World) (bus source : Value) : Prop := ∃ (n : Nat) (c : Channel),
  (w.container.resolve (.str "signal_channel")).1 = .ok (n, .channel c) ∧ c.SendsOver bus source w

theorem World.SendsOver.of_same {w w' : World} {bus source : Value} (h : w.SendsOver bus source)
    (hcontainer : w'.container = w.container) (htransports : w'.transports = w.transports)
    (henv : w'.env = w.env) : w'.SendsOver bus source := by
  obtain ⟨n, c, hresolve, hc⟩ := h
  refine ⟨n, c, hcontainer ▸ hresolve, ?_⟩
  cases hc with
  | kept hkept => exact .kept (htransports ▸ hkept)
  | made hnone hbus htruthy hsource =>
    exact .made (htransports ▸ hnone) (henv ▸ hbus) htruthy (henv ▸ hsource)

namespace Channel
variable (c : Channel) {bus source : Value}

/-- The transport of a channel is on its bus. -/
theorem transport_ensures (h : c.SendsOver bus source s.world) :
    c.transport.Ensures actual
      (fun x s' => (∃ connected, x = .ok (.bus bus source connected)) ∧ s.Silent s') s := by
  unfold transport
  simp only [bind_eq, pure_eq]
  refine ensures_ask_actual ?_
  have hkept : (s.world.reply (.transport c.slot)).1 = s.world.transports.lookup c.slot := rfl
  rw [hkept]
  cases h with
  | @kept connected h =>
    rw [h]
    exact ⟨⟨connected, rfl⟩, Silent.after rfl⟩
  | made h hbus htruthy hsource =>
    rw [h]
    refine ensures_ask_actual ?_
    have henv : ((s.after (.transport c.slot)).world.reply .environment).1 = s.world.env := rfl
    have hnull (v : Value) : Value.null.orElse v = v := rfl
    simp only [henv, hnull, ← hbus, ← hsource, htruthy, Bool.not_true, Bool.false_eq_true,
      if_false, done_bind]
    refine ensures_ask_actual ⟨⟨false, rfl⟩, ?_⟩
    exact ((Silent.after rfl).trans (Silent.after rfl)).trans (Silent.after rfl)

/-- A signal is relayed once, and the bus decides. -/
theorem relay_ensures (h : c.SendsOver bus source s.world)
    (hplain : Json.isPlain (.obj signal.toEvent) = true) :
    (c.relay signal).Ensures actual
      (fun x s' => s.Makes [.putEvent (signal.entry bus source)] s' ∧
        Verdict s.world.nextReply signal x) s := by
  unfold relay
  simp only [bind_eq, pure_eq]
  refine (c.transport_ensures h).bind ?_ fun e s₁ h1 => ?_
  · rintro transport s₁ ⟨⟨connected, hbus⟩, h1⟩
    obtain rfl := Except.ok.inj hbus
    have hnext : s₁.world.nextReply = s.world.nextReply := by
      rw [World.nextReply, h1.replies, World.nextReply]
    have hsend := @Transport.send_ensures s₁ signal c.slot bus source connected hplain
    rw [hnext] at hsend
    refine (ensures_verdict_bind hsend fun s₂ h2 => ?_).mono fun x s₂ h2 => ⟨h1.makes h2.1, h2.2⟩
    exact ensures_ask_actual ⟨rfl, Silent.after rfl⟩
  · obtain ⟨connected, he⟩ := h1.1
    cases he

end Channel

end Rendezvous
