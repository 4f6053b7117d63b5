/-
  What the channel does where calls may fail.

  The channel does nothing to the tables.  Whatever it refuses a request for, it refuses before it
  calls the event bus; after that, its failures are those of the bus.

  * `publish_does`: a transport delivers a signal, or fails;
  * `offer_does`, `answer_does`: so does the channel.
-/
import Rendezvous.Proofs.Blame
import Rendezvous.Service.Channel

namespace Rendezvous

open Scene

variable {P : Troubles} {s s' : Scene} {excuse : Prop}

/-! ## Parts of replies -/

theorem Value.fields_not_blames {v : Value} {e : Failure} (h : v.fields = .error e) : ¬e.Blames := by
  cases v <;> cases h <;> exact id

theorem Value.fieldOrNull_not_blames {key : Text} {v : Value} {e : Failure}
    (h : v.fieldOrNull key = .error e) : ¬e.Blames := by
  cases v <;> cases h <;> exact id

namespace Transport

theorem firstEntry_not_blames {reply : Object} {e : Failure} (h : firstEntry reply = .error e) :
    ¬e.Blames := by
  unfold firstEntry at h
  split at h <;> cases h <;> exact id

theorem undelivered_not_blames {message : Text} {bus : Value} {signal : Signal} {cause : Value} :
    ¬(undelivered message bus signal cause).Blames := by
  rintro (h | h) <;> exact absurd (Value.str.inj h) (by decide)

/-! ## Sending -/

/-- The reply of a bus never blames the request. -/
theorem readReply_clears (bus : Value) (signal : Signal) (reply : Value)
    (hs : s'.tables = s.tables) :
    (readReply bus signal reply).Ensures (troubled P) (s.Clears fun _ => True) s' := by
  unfold readReply
  simp only [Act.bind_eq, Act.liftM_eq, Act.pure_eq]
  refine clears_ofExcept hs (fun _ => Value.fields_not_blames) fun fields _ => ?_
  split
  · refine clears_ofExcept hs (fun _ => firstEntry_not_blames) fun entry _ => ?_
    refine clears_ofExcept hs (fun _ => Value.fieldOrNull_not_blames) fun code _ => ?_
    refine clears_ofExcept hs (fun _ => Value.fieldOrNull_not_blames) fun message _ => ?_
    exact ensures_note fun s₁ h1 => ⟨h1.tables.trans hs, undelivered_not_blames⟩
  · exact ⟨hs, trivial⟩

/-- A client is opened without a call. -/
theorem connect_rests (slot : Nat) (bus source : Value) (connected : Bool) :
    (connect slot bus source connected).Ensures (troubled P)
      (fun x s' => x = .ok () ∧ s.Rests s') s := by
  unfold connect
  cases connected with
  | true => exact ⟨rfl, Rests.refl s⟩
  | false =>
    refine ensures_ask rfl fun env s₁ h1 => ensures_ask rfl fun _ s₂ h2 => ensures_ask rfl
      fun _ s₃ h3 => ?_
    exact ⟨rfl, (h1.trans h2).trans h3⟩

/-- A call to the bus does nothing to the tables, and fails only by a trouble. -/
theorem ensures_putEvent {α : Type} {entry : Object} {next : Except Failure Value → Act α}
    {Q : Except Failure α → Scene → Prop}
    (h : ∀ reply s', s'.tables = s.tables → (∀ e, reply = .error e → P putEvents e) →
      (next reply).Ensures (troubled P) Q s') :
    (Act.ask (.putEvent entry) next).Ensures (troubled P) Q s := by
  rintro reply s' ⟨hw, hreply, -⟩
  have hput : s.world.putEvent entry = (reply, s'.world) := hreply
  refine h reply s' ?_ fun e he => hw.putEvent entry (by rw [hput, he])
  have hworld : s'.world = (s.world.putEvent entry).2 := by rw [hput]
  rw [tables, hworld, World.putEvent]
  split <;> rfl

/-- A signal is sent over a bus, or nothing is called, or the bus is to blame. -/
theorem send_does (hP : P.AreRemote) (slot : Nat) (bus source : Value) (connected : Bool)
    (signal : Signal) : (send slot bus source connected signal).Ensures (troubled P)
      (s.Does excuse fun _ t => t = s.tables) s := by
  unfold send
  simp only [Act.bind_eq, Act.liftM_eq]
  refine does_ofExcept fun entry _ => ?_
  refine (connect_rests slot bus source connected).bind ?_ fun e s₁ h => by cases h.1
  rintro _ s₁ ⟨-, h1⟩
  refine ensures_putEvent fun reply s₂ h2 hreply => ?_
  have h2 : s₂.tables = s.tables := h2.trans h1.tables
  cases reply with
  | ok reply =>
    simp only [Act.ofExcept_ok, Act.attempt, Act.done_bind]
    refine does_clears h2 (readReply_clears bus signal reply rfl) fun _ s₃ _ h3 => ?_
    exact ensures_note fun s₄ h4 => h4.tables.trans h3
  | error e =>
    obtain ⟨e, rfl⟩ := hP _ _ (hreply e rfl)
    refine ensures_note fun s₃ h3 => ⟨h3.tables.trans h2, fun hb => (undelivered_not_blames hb).elim⟩

/-- A transport delivers a signal, or what it refuses it refuses before any call. -/
theorem publish_does (hP : P.AreRemote) (slot : Nat) (signal : Signal) (transport : Transport) :
    (publish slot signal transport).Ensures (troubled P)
      (s.Does excuse fun _ t => t = s.tables) s := by
  cases transport with
  | bus name source connected => exact send_does hP slot name source connected signal
  | recording failure =>
    cases failure with
    | none => exact ensures_ask rfl fun _ s₁ h1 => h1.tables
    | some failure => exact (Calm.refl s).spares failure
  | undefined => exact (Calm.refl s).spares _

theorem onBus_rests (site : Site) (bus source : Value) :
    (onBus site bus source).Ensures (troubled P) (fun _ s' => s.Rests s') s := by
  unfold onBus
  simp only [Act.bind_eq, Act.pure_eq]
  refine ensures_ask rfl fun env s₁ h1 => ?_
  simp only [Act.done_bind]
  split
  · exact h1
  · exact h1

end Transport

namespace Channel
variable (c : Channel)

/-- The transport of a channel is made without a call. -/
theorem transport_rests : c.transport.Ensures (troubled P) (fun _ s' => s.Rests s') s := by
  unfold transport
  simp only [Act.bind_eq, Act.pure_eq]
  refine ensures_ask rfl fun kept s₁ h1 => ?_
  cases kept with
  | some transport => exact h1
  | none =>
    refine (Transport.onBus_rests c.site .null .null).bind ?_ fun e s₂ h2 => h1.trans h2
    exact fun transport s₂ h2 => ensures_ask rfl fun _ s₃ h3 => (h1.trans h2).trans h3

/-- A signal is delivered, or what is refused is refused before any call. -/
theorem relay_does (hP : P.AreRemote) (signal : Signal) :
    (c.relay signal).Ensures (troubled P) (s.Does excuse fun _ t => t = s.tables) s := by
  unfold relay
  simp only [Act.bind_eq, Act.pure_eq]
  refine (c.transport_rests).bind ?_ fun e s₁ h1 => h1.spares e
  intro transport s₁ h1
  refine (Transport.publish_does hP c.slot signal transport).bind ?_ fun e s₂ h2 => h1.does h2
  intro _ s₂ h2
  exact ensures_note fun s₃ h3 => h3.tables.trans (h2.trans h1.tables)

theorem offer_does (hP : P.AreRemote) (caller : Value) (welcome : Option Bytes) (payload : Bytes)
    (recipient : Value) : (c.offer caller welcome payload recipient).Ensures (troubled P)
      (s.Does excuse fun _ t => t = s.tables) s :=
  does_ofExcept fun signal _ => c.relay_does hP signal

theorem answer_does (hP : P.AreRemote) (caller : Value) (payload : Bytes) (recipient : Value) :
    (c.answer caller payload recipient).Ensures (troubled P)
      (s.Does excuse fun _ t => t = s.tables) s :=
  does_ofExcept fun signal _ => c.relay_does hP signal

end Channel

end Rendezvous
