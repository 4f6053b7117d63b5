/-
  How responses get to whoever asks.

  A request that comes by itself is answered with the response to it.  An HTTP gateway is answered
  with an object of its own, which holds a status, headers, and the response as JSON text.  What is
  said of answers here is said in the words of the gateway, and of the published table of codes.

  * `Response.HasStatus`: the status that goes with a response; `HasStatus.eq_ok_iff`: it is 200 just
    for those to requests that were carried out;
  * `Response.Wraps`: what the gateway is answered;
  * `Response.Delivered`: what an event is answered; `IsStated.delivered`: so it is, with all
    responses that have a status of their own.
-/
import Rendezvous.Proofs.Answers

namespace Rendezvous

/-- The value at the end of a path of fields. -/
def Value.at? : List Text → Value → Option Value
  | [], v => some v
  | name :: path, .obj fields => (Object.field? name fields).bind (at? path)
  | _ :: _, _ => none

theorem Value.at?_append (path path' : List Text) (v : Value) :
    v.at? (path ++ path') = (v.at? path).bind (at? path') := by
  induction path generalizing v with
  | nil => rfl
  | cons name path ih =>
    cases v with
    | obj fields =>
      rw [List.cons_append, at?, at?, Option.bind_assoc]
      exact congrArg _ (funext ih)
    | _ => rfl

/-- An event comes from the gateway: it has a request context. -/
def Request.IsFromGateway (event : Value) : Prop :=
  ∃ (fields : Object) (context : Value), event = .obj fields ∧
    Object.field? "requestContext" fields = some context

theorem Request.isFromGateway_iff {event : Value} :
    IsFromGateway event ↔ isGatewayEvent event = true := by
  constructor
  · rintro ⟨fields, context, rfl, hcontext⟩
    rw [isGatewayEvent, Object.has, hcontext]
    rfl
  · intro h
    cases event with
    | obj fields =>
      obtain ⟨context, hcontext⟩ := Option.isSome_iff_exists.1 h
      exact ⟨fields, context, rfl, hcontext⟩
    | _ => cases h

namespace Response

/-! ## Statuses -/

/-- The codes of failed responses, and the status of each. -/
def statusTable : List (Text × Int) :=
  [("VALIDATION_ERROR", 400), ("AUTHENTICATION_ERROR", 401), ("IDENTITY_ALREADY_BOUND", 409),
   ("NICKNAME_ALREADY_BOUND", 409), ("NOTIFICATION_DELIVERY_ERROR", 502), ("DYNAMODB_ERROR", 500),
   ("CONFIGURATION_ERROR", 500), ("INTERNAL_ERROR", 500)]

theorem mem_statusTable (c : ErrorCode) : (c.text, (c.status.number : Int)) ∈ statusTable := by
  cases c <;> decide

/-- The status that goes with a response: that of success, or that of its code. -/
inductive HasStatus (response : Value) : Int → Prop
  | carriedOut : succeeded response = true → HasStatus response 200
  | failed {c : Text} {number : Int} : succeeded response = false → code response = .str c →
    (c, number) ∈ statusTable → HasStatus response number

variable {event response answer : Value} {number : Int}

/-- The status tells whether the request was carried out. -/
theorem HasStatus.eq_ok_iff (h : HasStatus response number) :
    number = 200 ↔ succeeded response = true := by
  have htable : ∀ entry ∈ statusTable, entry.2 ≠ 200 := by decide
  cases h with
  | carriedOut hs => simp [hs]
  | failed hs _ hmem =>
    constructor
    · intro hnumber
      exact absurd hnumber (htable _ hmem)
    · intro hyes
      rw [hs] at hyes
      cases hyes

/-- No other status goes with a response. -/
theorem HasStatus.unique {number' : Int} (h : HasStatus response number)
    (h' : HasStatus response number') : number = number' := by
  have htable : ∀ entry ∈ statusTable, ∀ entry' ∈ statusTable, entry.1 = entry'.1 →
      entry.2 = entry'.2 := by decide
  cases h with
  | carriedOut hs => exact (h'.eq_ok_iff.2 hs).symm
  | failed hs hc hmem =>
    cases h' with
    | carriedOut hs' =>
      rw [hs] at hs'
      cases hs'
    | failed _ hc' hmem' =>
      exact htable _ hmem _ hmem' (Value.str.inj (hc.symm.trans hc'))

/-- A response is to a request that was carried out, or has one of our codes. -/
def IsStated (response : Value) : Prop := succeeded response = true ∨
  succeeded response = false ∧ ∃ c : ErrorCode, code response = .str c.text

theorem IsWritable.isStated (h : IsWritable response) : IsStated response := by
  obtain ⟨-, hs | ⟨hs, c, hc⟩⟩ := h
  · exact Or.inl hs
  · exact Or.inr ⟨hs, c, Handler.code_of_codeOf hc⟩

/-- The status that such a response is given is the one that goes with it. -/
theorem IsStated.hasStatus (h : IsStated response) {s : Status} (hs : status response = .ok s) :
    HasStatus response s.number := by
  obtain hsucceeded | ⟨hfailed, c, hc⟩ := h
  · rw [status_eq_ok_iff.2 hsucceeded, Except.ok.injEq] at hs
    rw [← hs]
    exact .carriedOut hsucceeded
  · rcases status_cases response with ⟨h, -⟩ | ⟨-, h | ⟨h, -⟩⟩
    · rw [hfailed] at h
      cases h
    · rw [h, hc, statusOfCode_text, Except.ok.injEq] at hs
      rw [← hs]
      exact .failed hfailed hc (mem_statusTable c)
    · rw [hc] at h
      cases h

/-! ## Answers -/

/-- The gateway is answered with a response: with the status that goes with it, the headers of all
    answers, and the JSON text of it. -/
def Wraps (response answer : Value) : Prop :=
  ∃ (number : Int) (text : Text), HasStatus response number ∧ Json.print? response = some text ∧
    answer = .obj [("statusCode", .int number),
      ("headers", .obj [("Content-Type", .str "application/json"),
        ("Access-Control-Allow-Origin", .str "*"),
        ("Access-Control-Allow-Headers",
          .str "Content-Type,X-Amz-Date,Authorization,X-Api-Key,X-Amz-Security-Token"),
        ("Access-Control-Allow-Methods", .str "GET,POST,PUT,DELETE,OPTIONS")]),
      ("body", .str text)]

/-- An event is answered with a response: by the response itself, unless it comes from the
    gateway. -/
structure Delivered (event response answer : Value) : Prop where
  direct : ¬Request.IsFromGateway event → answer = response
  wrapped : Request.IsFromGateway event → Wraps response answer

/-- What is delivered of a response with a status that goes with it. -/
theorem IsStated.delivered (hstated : IsStated response)
    (h : Handler.deliver event response = .ok answer) : Delivered event response answer := by
  rw [Handler.deliver] at h
  split at h
  · rename_i hgateway
    refine ⟨fun hno => absurd (Request.isFromGateway_iff.2 hgateway) hno, fun _ => ?_⟩
    cases hs : status response with
    | error e =>
      rw [hs] at h
      cases h
    | ok s =>
      rw [hs] at h
      obtain ⟨text, htext, rfl⟩ := of_gateway h
      exact ⟨s.number, text, hstated.hasStatus hs, htext, rfl⟩
  · rename_i hdirect
    refine ⟨fun _ => (Except.ok.inj h).symm, fun hyes => ?_⟩
    exact absurd (Request.isFromGateway_iff.1 hyes) hdirect

/-- What is delivered of a response that can be written. -/
theorem Delivered.of_deliver (hw : IsWritable response)
    (h : Handler.deliver event response = .ok answer) : Delivered event response answer :=
  hw.isStated.delivered h

/-- A response to a request that was carried out is delivered in one way only. -/
theorem delivered_iff (hs : succeeded response = true) :
    Delivered event response answer ↔ Handler.deliver event response = .ok answer := by
  constructor
  · intro h
    by_cases hgateway : Request.IsFromGateway event
    · have hok := status_eq_ok_iff.2 hs
      obtain ⟨number, text, hnumber, htext, rfl⟩ := h.wrapped hgateway
      rw [Handler.deliver, if_pos (Request.isFromGateway_iff.1 hgateway), hok, hnumber.eq_ok_iff.2 hs]
      simp only [Except.bind, gateway, htext]
      rfl
    · rw [Handler.deliver, if_neg (mt Request.isFromGateway_iff.2 hgateway), h.direct hgateway]
  · exact IsStated.delivered (Or.inl hs)

end Response

/-- A response that can be written is delivered. -/
theorem Handler.exists_deliver (event : Value) {response : Value}
    (h : Response.IsWritable response) : ∃ answer, deliver event response = .ok answer := by
  obtain ⟨status, hstatus⟩ := h.exists_status
  have htext : Json.print? response = some (Json.print response) := if_pos h.plain
  unfold deliver
  split
  · simp only [hstatus, Except.bind, Response.gateway, htext]
    exact ⟨_, rfl⟩
  · exact ⟨response, rfl⟩

end Rendezvous
