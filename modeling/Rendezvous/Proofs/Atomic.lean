/-
  Each call of a function is all or nothing.

  * `Function.Reaches`: tables that come of calls of the functions;
  * `Function.Outcome`: the response to an event, and what was done for it;
  * `Function.AllOrNothing`: what a response tells about the tables and the calls;
    `invoke_allOrNothing`: it is true of all responses of all functions.
-/
import Rendezvous.Proofs.Effects

namespace Rendezvous.Function

open Scene

variable {P : Troubles} {excuse : Prop} {f : Function} {effect : Effect} {s s' : Scene}

/-! ## Outcomes -/

/-- The response to an event, and what was done from one scene to another: either the request was
    carried out, or it has failed, and that has spared the tables. -/
inductive Outcome (excuse : Prop) (f : Function) (effect : Effect) (event : Value) (s s' : Scene)
    (response : Value) : Prop
  | carriedOut (request : Request) : Response.succeeded response = true →
      Request.accept (Request.require f.required) event = .ok request →
      effect request s.tables s'.tables → Outcome excuse f effect event s s' response
  | failed : Response.succeeded response = false → s'.tables = s.tables →
      (Response.Blames response → ¬excuse → s.IsIdle → s'.IsIdle) →
      Outcome excuse f effect event s s' response

/-- What happens before and after does not matter as long as nothing is called. -/
theorem Outcome.of_calm {event response : Value} {s₀ s₁ : Scene}
    (h : Outcome excuse f effect event s s' response) (h₀ : s₀.Calm s) (h₁ : s'.Calm s₁) :
    Outcome excuse f effect event s₀ s₁ response := by
  cases h with
  | carriedOut request hs hr he =>
    rw [h₀.tables, ← h₁.tables] at he
    exact .carriedOut request hs hr he
  | failed hs ht hb =>
    exact .failed hs (h₁.tables.trans (ht.trans h₀.tables)) fun hblames hno hidle =>
      h₁.idle (hb hblames hno (h₀.idle hidle))

/-- A function answers every event with a response. -/
theorem answer_ensures (hf : Carries P excuse f effect s) (event : Value) :
    (f.handler.answer event).Ensures (troubled P) (fun x s' => ∃ response, x = .ok response ∧
      Outcome excuse f effect event s s' response) s := by
  have hanswered : ((Act.ofExcept (Request.accept (Request.require f.required) event)).bind
      f.run).Ensures (troubled P) (s.Does excuse fun response t =>
        Response.succeeded response = true ∧ ∃ request,
          Request.accept (Request.require f.required) event = .ok request ∧
            effect request s.tables t) s :=
    does_ofExcept fun request hr => (hf request).mono fun x s₁ hx =>
      hx.mono id fun response t ht => ⟨ht.1, request, hr, ht.2⟩
  refine hanswered.attempt_bind ?_
  rintro (e | response) s₁ hx
  · refine (ensures_respond handlerName e).mono ?_
    rintro x s₂ ⟨h2, response, rfl, hs, hb⟩
    exact ⟨response, rfl, .failed hs (h2.tables.trans hx.tables) fun hblames hno hidle =>
      h2.idle (hx.idle (hb hblames) hno hidle)⟩
  · obtain ⟨hs, request, hr, he⟩ := hx
    exact ⟨response, rfl, .carriedOut request hs hr he⟩

theorem rests_ofExcept {α β : Type} {x : Except Failure α} {act : α → Act β} (h : s.Rests s')
    (hact : ∀ a, (act a).Ensures (troubled P) (fun _ s'' => s.Rests s'') s') :
    ((Act.ofExcept x).bind act).Ensures (troubled P) (fun _ s'' => s.Rests s'') s' := by
  cases x with
  | ok a => exact hact a
  | error e => exact h

/-- The end of a call is logged without a call. -/
theorem logEnd_rests (function : Text) (start response : Value) :
    (Handler.logEnd function start response).Ensures (troubled P) (fun _ s' => s.Rests s') s := by
  unfold Handler.logEnd
  simp only [Act.bind_eq, Act.liftM_eq, Act.pure_eq]
  refine ensures_ask rfl fun stop s₁ h1 => ?_
  simp only [Act.done_bind]
  refine rests_ofExcept h1 fun duration => rests_ofExcept h1 fun success => ?_
  split
  · refine rests_ofExcept h1 fun _ => ensures_note fun s₂ h2 => h1.trans h2
  · refine rests_ofExcept h1 fun code => rests_ofExcept h1 fun _ => ?_
    exact ensures_note fun s₂ h2 => h1.trans h2

/-- An event is answered with what a response delivers, unless the call cannot be logged or the
    response cannot be written. -/
theorem invoke_ensures (hf : ∀ s' : Scene, s.Rests s' → Carries P excuse f effect s')
    (event context : Value) : (f.invoke event context).Ensures (troubled P) (fun x s' =>
      ∃ response, (∀ answer, x = .ok answer → Handler.deliver event response = .ok answer) ∧
        Outcome excuse f effect event s s' response) s := by
  unfold invoke Handler.handle
  simp only [Act.bind_eq, Act.liftM_eq, handler, if_true]
  refine ensures_ask rfl fun start s₁ h1 => ?_
  simp only [Act.done_bind]
  refine ensures_note fun s₂ h2 => ?_
  have h2 := h1.trans h2
  refine (answer_ensures (hf s₂ h2) event).bind ?_ ?_
  · rintro _ s₃ ⟨response, hresponse, hout⟩
    obtain rfl := Except.ok.inj hresponse
    refine (logEnd_rests handlerName start _).bind (fun _ s₄ h4 => ?_) fun e s₄ h4 => ?_
    · exact Act.ensures_ofExcept.2 ⟨_, fun _ => id, hout.of_calm h2.toCalm h4.toCalm⟩
    · refine ⟨_, fun answer he => ?_, hout.of_calm h2.toCalm h4.toCalm⟩
      cases he
  · rintro e s₃ ⟨response, he, -⟩
    cases he

/-! ## Tables -/

/-- Tables that come of calls of the functions, from empty tables on.  Calls of the store and of
    the event bus may fail, and it does not matter how an event is answered. -/
inductive Reaches : Tables → Prop
  | start : Reaches .empty
  | invoked {f : Function} {w : World} (event context : Value) : f ∈ all → Reaches w.tables →
      w.IsTroubled .remote → Reaches ((f.invoke event context).run w).2.tables

theorem areRemote_troubles {w : World} (hw : w.IsTroubled .remote) : w.troubles.AreRemote :=
  fun _ _ => hw.troubles_imp

/-- How the call of a function ends in a world where calls may fail. -/
theorem invoke_run {w : World} (hf : (f, effect) ∈ effects) (hw : w.IsTroubled .remote)
    (ht : w.tables.Sound) (event context : Value) :
    ∃ response, (∀ answer, ((f.invoke event context).run w).1 = .ok answer →
        Handler.deliver event response = .ok answer) ∧
      Outcome (f = identityRegister ∧ Garbles w.troubles w.container) f effect event ⟨w, []⟩
        ⟨((f.invoke event context).run w).2, (f.invoke event context).asked w⟩ response := by
  refine ensures_run hw.own (invoke_ensures (fun s' hs => ?_) event context)
  have hcarries := effects_carries (s := s') (areRemote_troubles hw) (hs.tables ▸ ht) hf
  rwa [hs.container] at hcarries

/-- A call of a function has its effect for a request that it has admitted, or does nothing to the
    tables. -/
theorem invoke_tables {w : World} (hf : f ∈ all) (hw : w.IsTroubled .remote)
    (ht : w.tables.Sound) (event context : Value) :
    ((f.invoke event context).run w).2.tables = w.tables ∨ ∃ effect request,
      (f, effect) ∈ effects ∧ Request.accept (Request.require f.required) event = .ok request ∧
        effect request w.tables ((f.invoke event context).run w).2.tables := by
  obtain ⟨effect, hf⟩ : ∃ effect, (f, effect) ∈ effects := by
    rw [← effects_functions] at hf
    obtain ⟨⟨_, effect⟩, hmem, rfl⟩ := List.mem_map.1 hf
    exact ⟨effect, hmem⟩
  obtain ⟨response, -, hout⟩ := invoke_run hf hw ht event context
  cases hout with
  | carriedOut request _ hr he => exact Or.inr ⟨effect, request, hf, hr, he⟩
  | failed _ hsame _ => exact Or.inl hsame

theorem invoke_sound {w : World} (hf : f ∈ all) (hw : w.IsTroubled .remote) (ht : w.tables.Sound)
    (event context : Value) : ((f.invoke event context).run w).2.tables.Sound := by
  obtain hsame | ⟨effect, request, hf, -, he⟩ := invoke_tables hf hw ht event context
  · rwa [hsame]
  · exact effects_sound hf he ht

theorem Reaches.sound {t : Tables} (h : Reaches t) : t.Sound := by
  induction h with
  | start => exact ⟨Tables.Vacant.paired ⟨rfl, rfl⟩, Tables.filed_of_nil rfl⟩
  | invoked event context hf _ hw ih => exact invoke_sound hf hw ih event context

/-! ## All or nothing -/

/-- What a response to an event tells about the tables before and after, and about all that was
    asked: it has failed and nothing was done, and nothing was called, either, if it blames the
    request; or it was carried out and had its effect.  Only a registration that the table library
    garbles may blame the request after a call. -/
structure AllOrNothing (f : Function) (effect : Effect) (event : Value) (before after : World)
    (asked : List Query) (response : Value) : Prop where
  failed : Response.succeeded response = false → after.tables = before.tables
  blamed : Response.Blames response →
    ¬(f = identityRegister ∧ Garbles before.troubles before.container) →
    ∀ q ∈ asked, q.isCall = false
  carriedOut : Response.succeeded response = true → ∃ request,
    Request.accept (Request.require f.required) event = .ok request ∧
      effect request before.tables after.tables

/-- An answer tells which responses it may deliver: all of them are of one status. -/
theorem status_of_deliver {event answer R R' : Value} (h : Handler.deliver event R = .ok answer)
    (h' : Handler.deliver event R' = .ok answer) : R = R' ∨ Response.status R = Response.status R' := by
  unfold Handler.deliver at h h'
  split at h
  · rename_i hgateway
    rw [if_pos hgateway] at h'
    cases hs : Response.status R with
    | error e => rw [hs] at h; cases h
    | ok status =>
      cases hs' : Response.status R' with
      | error e => rw [hs'] at h'; cases h'
      | ok status' =>
        rw [hs] at h
        rw [hs'] at h'
        obtain ⟨text, -, hanswer⟩ := Response.of_gateway h
        obtain ⟨text', -, hanswer'⟩ := Response.of_gateway h'
        have hnumber : status.number = status'.number := by
          rw [hanswer] at hanswer'
          simp only [Response.proxy, Value.obj.injEq, List.cons.injEq, Prod.mk.injEq,
            Value.int.injEq, Int.natCast_inj, true_and] at hanswer'
          exact hanswer'.1
        rw [Status.number_injective hnumber]
        exact Or.inr rfl
  · rename_i hgateway
    rw [if_neg hgateway] at h'
    exact Or.inl (Except.ok.inj (h.trans h'.symm))

/-- **Each call is all or nothing**: whatever a function answers to an event, the response that it
    delivers tells what was done to the tables. -/
theorem invoke_allOrNothing (hf : (f, effect) ∈ effects) {w : World} (hw : w.IsTroubled .remote)
    (ht : Reaches w.tables) {event context answer : Value}
    (ha : ((f.invoke event context).run w).1 = .ok answer) :
    (∃ response, Handler.deliver event response = .ok answer) ∧
      ∀ response, Handler.deliver event response = .ok answer →
        AllOrNothing f effect event w ((f.invoke event context).run w).2
          ((f.invoke event context).asked w) response := by
  obtain ⟨response, hdeliver, hout⟩ := invoke_run hf hw ht.sound event context
  have hdeliver := hdeliver answer ha
  refine ⟨⟨response, hdeliver⟩, fun response' hdeliver' => ?_⟩
  -- of its response a gateway answer tells the status, and that is enough
  have hsame : Response.succeeded response' = Response.succeeded response ∧
      (Response.Blames response' ↔ Response.Blames response) := by
    rcases status_of_deliver hdeliver' hdeliver with rfl | hstatus
    · exact ⟨rfl, Iff.rfl⟩
    · refine ⟨?_, by rw [Response.blames_iff_status, Response.blames_iff_status, hstatus]⟩
      rw [Bool.eq_iff_iff, ← Response.status_eq_ok_iff, ← Response.status_eq_ok_iff, hstatus]
  obtain ⟨hsucceeded, hblames⟩ := hsame
  cases hout with
  | carriedOut request hs hr he =>
    refine ⟨fun h => ?_, fun h => ?_, fun _ => ⟨request, hr, he⟩⟩
    · rw [hsucceeded, hs] at h; cases h
    · have hfailed := (hblames.1 h).1
      rw [hs] at hfailed; cases hfailed
  | failed hs hsame hidle =>
    refine ⟨fun _ => hsame, fun h hno => ?_, fun h => ?_⟩
    · exact hidle (hblames.1 h) hno fun q hq => by cases hq
    · rw [hsucceeded, hs] at h; cases h

/-- An application for a nickname, as an event. -/
def application : Value :=
  .obj [("caller", .str "ann"), ("nickname", .str "alice"), ("address", .str "0x07")]

/-- A world where the second item cannot be read. -/
def unreadableWorld : World :=
  { blankWorld with faults := [⟨"GetItem", .remote .unspecified, 1⟩] }

theorem unreadableWorld_allOrNothing : (identityRegister, enrolls) ∈ effects ∧
    unreadableWorld.IsTroubled .remote ∧ Reaches unreadableWorld.tables ∧
    ∃ answer, ((identityRegister.invoke application .null).run unreadableWorld).1 = .ok answer ∧
      Response.code answer = .str ErrorCode.storage.text ∧
      AllOrNothing identityRegister enrolls application unreadableWorld
        ((identityRegister.invoke application .null).run unreadableWorld).2
        ((identityRegister.invoke application .null).asked unreadableWorld) answer := by
  have hf : (identityRegister, enrolls) ∈ effects := by simp [effects]
  have hw : unreadableWorld.IsTroubled .remote := by
    refine ⟨rfl, by decide, fun fault hfault => ?_, fun failure hreply => by cases hreply⟩
    rw [List.mem_singleton.1 hfault]
    exact ⟨_, rfl⟩
  obtain ⟨answer, ha, hcode⟩ : ∃ answer,
      ((identityRegister.invoke application .null).run unreadableWorld).1 = .ok answer ∧
        Response.code answer = .str ErrorCode.storage.text := ⟨_, rfl, rfl⟩
  obtain ⟨-, hall⟩ := invoke_allOrNothing hf hw .start ha
  exact ⟨hf, hw, .start, answer, ha, hcode, hall answer rfl⟩

/-- A refusal of a request that is named by a brace: its wording cannot be filled in. -/
def bracedRefusal : Refusal :=
  ⟨some [("Code", .str "Cd"), ("Message", .str "Msg")],
    [("HTTPHeaders", .obj [("x-amzn-requestid", .str "\x7d")])], .arr [], "TransactWriteItems"⟩

/-- A world where the transaction of a registration is refused in this way. -/
def bracedWorld : World :=
  { blankWorld with faults := [⟨"TransactWriteItems", .remote (.refused bracedRefusal), 0⟩] }

/-- A registration whose refusal is garbled blames the request, although the store was called. -/
theorem bracedWorld_blames : bracedWorld.IsTroubled .remote ∧ Reaches bracedWorld.tables ∧
    ∃ answer, ((identityRegister.invoke application .null).run bracedWorld).1 = .ok answer ∧
      Response.Blames answer ∧
      ∃ q ∈ (identityRegister.invoke application .null).asked bracedWorld, q.isCall = true := by
  refine ⟨⟨rfl, by decide, fun fault hfault => ?_, fun failure hreply => by cases hreply⟩, .start,
    _, rfl, ⟨rfl, Or.inl rfl⟩, List.any_eq_true.1 rfl⟩
  rw [List.mem_singleton.1 hfault]
  exact ⟨_, rfl⟩

end Rendezvous.Function
