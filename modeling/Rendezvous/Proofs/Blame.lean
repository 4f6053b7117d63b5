/-
  Who is to blame for a failure.

  The code of a failed response tells whether it was the request: it is invalid, or its caller is
  not known.  A failure that blames the request is expected to be one that was found out before
  anything was done.

  * `Response.Blames`: a response blames the request; `blames_iff_status`: its status tells so;
  * `Failure.Blames`: a failure does, and so does the response to it;
  * `Scene.Spares`: a failure has left the tables alone, and whatever was called if it blames the
    request; `Scene.Does`: an operation is carried out or spares.
-/
import Rendezvous.Dispatch.Handler
import Rendezvous.Proofs.Trouble

namespace Rendezvous

/-! ## Responses -/

theorem Status.number_injective : Function.Injective Status.number := by
  intro status status' h
  cases status <;> cases status' <;> first | rfl | cases h

namespace Response

/-- Whether a response is to a request that was carried out. -/
def succeeded : Value → Bool
  | .obj response => (Object.fieldOrNull "success" response).isTruthy
  | _ => false

/-- The code of a failed response, null where it has none. -/
def code : Value → Value
  | .obj response =>
    match Object.field? "error" response with
    | some (.obj error) => Object.fieldOrNull "code" error
    | _ => .null
  | _ => .null

/-- A failed response blames the request. -/
def Blames (response : Value) : Prop :=
  succeeded response = false ∧ (code response = .str ErrorCode.validation.text ∨
    code response = .str ErrorCode.authentication.text)

theorem statusOfCode_text (c : ErrorCode) : statusOfCode (.str c.text) = .ok c.status := by
  rw [statusOfCode, ErrorCode.ofText?_text]

/-- Only a code of ours has a status of its own. -/
theorem exists_code_of_statusOfCode {v : Value} {status : Status}
    (h : statusOfCode v = .ok status) (hne : status ≠ .internalServerError) :
    ∃ c : ErrorCode, v = .str c.text ∧ c.status = status := by
  cases v with
  | str t =>
    rw [statusOfCode] at h
    cases hc : ErrorCode.ofText? t with
    | none => rw [hc] at h; exact (hne (Except.ok.inj h).symm).elim
    | some c =>
      rw [hc] at h
      have htext : c.text = t := by simpa using List.find?_some hc
      exact ⟨c, by rw [htext], Except.ok.inj h⟩
  | arr items => cases h
  | obj fields => cases h
  | _ => exact (hne (Except.ok.inj h).symm).elim

theorem statusOfCode_blames {v : Value} :
    statusOfCode v = .ok .badRequest ∨ statusOfCode v = .ok .unauthorized ↔
      v = .str ErrorCode.validation.text ∨ v = .str ErrorCode.authentication.text := by
  constructor
  · rintro (h | h)
    · obtain ⟨c, hv, hc⟩ := exists_code_of_statusOfCode h (by decide)
      cases c with
      | validation => exact Or.inl hv
      | _ => cases hc
    · obtain ⟨c, hv, hc⟩ := exists_code_of_statusOfCode h (by decide)
      cases c with
      | authentication => exact Or.inr hv
      | _ => cases hc
  · rintro (h | h)
    · exact Or.inl (by rw [h, statusOfCode_text]; rfl)
    · exact Or.inr (by rw [h, statusOfCode_text]; rfl)

theorem statusOfCode_ne_ok (v : Value) : statusOfCode v ≠ .ok .ok := by
  intro h
  obtain ⟨c, -, hc⟩ := exists_code_of_statusOfCode h (by decide)
  cases c <;> cases hc

/-- What is read of a response: its status is that of success, or that of its code. -/
theorem status_cases (response : Value) :
    (succeeded response = true ∧ status response = .ok .ok) ∨
      succeeded response = false ∧
        (status response = statusOfCode (code response) ∨
          code response = .null ∧ ∃ e, status response = .error e) := by
  cases response with
  | obj fields =>
    cases hs : (Object.fieldOrNull "success" fields).isTruthy with
    | true => exact Or.inl ⟨hs, by simp [status, Value.fields, Except.bind, hs]⟩
    | false =>
      refine Or.inr ⟨hs, ?_⟩
      have hstatus : status (.obj fields) =
          (((Object.field? "error" fields).getD .empty).fieldOrNull "code").bind statusOfCode := by
        simp [status, Value.fields, Except.bind, hs]
      rw [hstatus, code]
      cases he : Object.field? "error" fields with
      | none => exact Or.inl rfl
      | some error =>
        cases error with
        | obj error => exact Or.inl rfl
        | _ => exact Or.inr ⟨rfl, _, rfl⟩
  | _ => exact Or.inr ⟨rfl, Or.inr ⟨rfl, _, rfl⟩⟩

/-- The status of a response is that of success just where it was carried out. -/
theorem status_eq_ok_iff {response : Value} :
    status response = .ok .ok ↔ succeeded response = true := by
  rcases status_cases response with ⟨hs, h⟩ | ⟨hs, h | ⟨-, e, h⟩⟩
  · simp [hs, h]
  · simp [hs, h, statusOfCode_ne_ok]
  · simp [hs, h]

/-- A response blames the request just where its status does. -/
theorem blames_iff_status {response : Value} :
    Blames response ↔ status response = .ok .badRequest ∨ status response = .ok .unauthorized := by
  rw [Blames]
  rcases status_cases response with ⟨hs, h⟩ | ⟨hs, h | ⟨hc, e, h⟩⟩
  · simp [hs, h]
  · rw [h, statusOfCode_blames]
    simp [hs]
  · simp [h, hc]

/-- A gateway response has the status that it was given, and the payload as JSON text. -/
theorem of_gateway {number payload answer : Value} (h : gateway number payload = .ok answer) :
    ∃ text, Json.print? payload = some text ∧
      answer = proxy number (.str text) defaultHeaders := by
  unfold gateway at h
  split at h
  · rename_i text htext
    exact ⟨text, htext, (Except.ok.inj h).symm⟩
  · cases h

@[simp] theorem code_failed (now : Instant) (c message details function : Value) :
    code (failed now c message details function) = c := by
  unfold failed code
  dsimp only
  cases details.isTruthy <;> rfl

end Response

namespace Handler

/-- The mark of a failure worth another try changes neither its code nor that it is one. -/
theorem read_markRetryable (retryable : Bool) (response : Value) :
    Response.succeeded (markRetryable retryable response) = Response.succeeded response ∧
      Response.code (markRetryable retryable response) = Response.code response := by
  unfold markRetryable
  split
  · split
    · rename_i fields _ _ error herror
      have hsuccess : Text.ofString "success" ≠ Text.ofString "error" := by decide
      have hcode : Text.ofString "code" ≠ Text.ofString "retryable" := by decide
      refine ⟨?_, ?_⟩
      · rw [Response.succeeded, Object.fieldOrNull, Object.field?_put_of_ne hsuccess]
        rfl
      · rw [Response.code, Object.field?_put_self, Response.code, herror]
        dsimp only
        rw [Object.fieldOrNull, Object.field?_put_of_ne hcode]
        rfl
    · exact ⟨rfl, rfl⟩
  · exact ⟨rfl, rfl⟩

end Handler

/-! ## Failures -/

namespace Failure

/-- A failure that is answered by blaming the request. -/
def Blames : Failure → Prop
  | .service e => e.code = .str ErrorCode.validation.text ∨ e.code = .str ErrorCode.authentication.text
  | .unusable _ => True
  | _ => False

/-- The store is to blame for its own failures. -/
theorem IsStorage.not_blames {e : Failure} (h : e.IsStorage) : ¬e.Blames := by
  obtain ⟨operation, table, failure, rfl⟩ := h
  rintro (h | h) <;> exact absurd (Value.str.inj h) (by decide)

end Failure

namespace Scene
variable {α β : Type} {P : Troubles} {s s' s'' : Scene}

/-- A failed response, which blames the request only if the failure does, and nothing else. -/
theorem ensures_respond (function : Text) (e : Failure) :
    (Handler.respond function e).Ensures (troubled P) (fun x s' => s.Rests s' ∧
      ∃ response, x = .ok response ∧ Response.succeeded response = false ∧
        (Response.Blames response → e.Blames)) s := by
  have hcode {now : Instant} {c message details function : Value} {response : Value}
      (h : Response.code response = Response.code (Response.failed now c message details function))
      (hb : Response.Blames response) : c = .str ErrorCode.validation.text ∨
        c = .str ErrorCode.authentication.text := by
    rw [Response.code_failed] at h
    exact h ▸ hb.2
  cases e with
  | service e =>
    have hlog : (Handler.logBlame e).Ensures (troubled P) (fun x s' => x = .ok () ∧ s.Rests s')
        s := by
      cases e with
      | validation message field value hints => exact ensures_note fun s' h => ⟨rfl, h⟩
      | _ => exact ⟨rfl, Rests.refl s⟩
    refine hlog.bind ?_ fun e s₁ h => by cases h.1
    rintro _ s₁ ⟨-, h1⟩
    refine ensures_now fun now s₂ _ h2 => ?_
    obtain ⟨hs, hc⟩ := Handler.read_markRetryable e.isRetryable
      (Response.failed now e.code e.message e.details (.str function))
    exact ⟨h1.trans h2, _, rfl, hs, hcode hc⟩
  | unusable reason =>
    refine ensures_note fun s₁ h1 => ensures_now fun now s₂ _ h2 => ?_
    exact ⟨h1.trans h2, _, rfl, rfl, fun _ => trivial⟩
  | _ =>
    refine ensures_note fun s₁ h1 => ensures_now fun now s₂ _ h2 => ?_
    refine ⟨h1.trans h2, _, rfl, rfl, fun hb => ?_⟩
    rcases hcode rfl hb with h | h <;> exact absurd (Value.str.inj h) (by decide)

/-! ## Sparing -/

/-- A failure has left the tables as they were, and it blames the request only if nothing was
    called, unless there is an excuse. -/
structure Spares (excuse : Prop) (s : Scene) (e : Failure) (s' : Scene) : Prop where
  tables : s'.tables = s.tables
  idle : e.Blames → ¬excuse → s.IsIdle → s'.IsIdle

/-- An operation is carried out, or its failure spares. -/
def Does (excuse : Prop) (s : Scene) (Q : α → Tables → Prop) (x : Except Failure α) (s' : Scene) :
    Prop :=
  match x with
  | .ok a => Q a s'.tables
  | .error e => s.Spares excuse e s'

variable {excuse : Prop} {Q : α → Tables → Prop} {x : Except Failure α}

theorem Calm.spares (h : s.Calm s') (e : Failure) : s.Spares excuse e s' :=
  ⟨h.tables, fun _ _ => h.idle⟩

theorem Calm.does (h : s.Calm s') (hx : s'.Does excuse Q x s'') : s.Does excuse Q x s'' := by
  cases x with
  | ok a => exact hx
  | error e => exact ⟨hx.tables.trans h.tables, fun hb he hidle => hx.idle hb he (h.idle hidle)⟩

theorem Does.mono {excuse' : Prop} {R : α → Tables → Prop} (h : s.Does excuse Q x s')
    (he : excuse → excuse') (hQ : ∀ a t, Q a t → R a t) : s.Does excuse' R x s' := by
  cases x with
  | ok a => exact hQ _ _ h
  | error e => exact ⟨h.tables, fun hb hno => h.idle hb fun hyes => hno (he hyes)⟩

/-- An operation goes on after a part of it was carried out. -/
theorem does_bind {R : β → Tables → Prop} {act : Act α} {f : α → Act β}
    (h : act.Ensures (troubled P) (s.Does excuse Q) s)
    (hf : ∀ a s', Q a s'.tables → (f a).Ensures (troubled P) (s.Does excuse R) s') :
    (act.bind f).Ensures (troubled P) (s.Does excuse R) s :=
  h.bind hf fun _ _ he => he

/-- How something ends that is not the request's fault: with a result, or with a failure that does
    not blame the request.  The tables stay as they are. -/
def Clears (s : Scene) (R : α → Prop) (x : Except Failure α) (s' : Scene) : Prop :=
  s'.tables = s.tables ∧
    match x with
    | .ok a => R a
    | .error e => ¬e.Blames

/-- An operation goes on after something that is not the request's fault. -/
theorem does_clears {R : α → Prop} {Q : β → Tables → Prop} {act : Act α} {f : α → Act β}
    (hs : s'.tables = s.tables) (h : act.Ensures (troubled P) (s'.Clears R) s')
    (hf : ∀ a s'', R a → s''.tables = s.tables →
      (f a).Ensures (troubled P) (s.Does excuse Q) s'') :
    (act.bind f).Ensures (troubled P) (s.Does excuse Q) s' :=
  h.bind (fun a s'' ha => hf a s'' ha.2 (ha.1.trans hs))
    fun _ _ he => ⟨he.1.trans hs, fun hb => (he.2 hb).elim⟩

/-- What the store is asked is not the request's fault. -/
theorem Ends.clears {R : α → Prop} (h : s.Ends P (fun a t => R a ∧ t = s.tables) x s') :
    s.Clears R x s' := by
  cases x with
  | ok a => exact ⟨h.2, h.1⟩
  | error e => exact ⟨h.2.2, h.1.not_blames⟩

/-- What cannot be read is not the request's fault, either. -/
theorem clears_ofExcept {R : β → Prop} {x : Except Failure α} {f : α → Act β}
    (hs : s'.tables = s.tables) (he : ∀ e, x = .error e → ¬e.Blames)
    (h : ∀ a, x = .ok a → (f a).Ensures (troubled P) (s.Clears R) s') :
    ((Act.ofExcept x).bind f).Ensures (troubled P) (s.Clears R) s' := by
  cases x with
  | ok a => exact h a rfl
  | error e => exact ⟨hs, he e rfl⟩

/-- An operation goes on after the store was called. -/
theorem does_ends {R : β → Tables → Prop} {act : Act α} {f : α → Act β}
    (hs : s'.tables = s.tables) (h : act.Ensures (troubled P) (s'.Ends P Q) s')
    (hf : ∀ a s'', Q a s''.tables → (f a).Ensures (troubled P) (s.Does excuse R) s'') :
    (act.bind f).Ensures (troubled P) (s.Does excuse R) s' :=
  h.bind hf fun _ _ he => ⟨he.2.2.trans hs, fun hb => (he.1.not_blames hb).elim⟩

theorem does_failStorage {operation table : Text} {failure : Failure} (hs : s'.tables = s.tables) :
    (Act.failStorage operation table failure).Ensures (troubled P) (s.Does excuse Q) s' :=
  fun _ _ hr => ⟨(rests_of_answer rfl hr).tables.trans hs,
    fun hb => (Failure.IsStorage.not_blames ⟨_, _, _, rfl⟩ hb).elim⟩

/-- What cannot be read is refused before anything is done. -/
theorem does_ofExcept {Q : β → Tables → Prop} {x : Except Failure α} {f : α → Act β}
    (h : ∀ a, x = .ok a → (f a).Ensures (troubled P) (s.Does excuse Q) s) :
    ((Act.ofExcept x).bind f).Ensures (troubled P) (s.Does excuse Q) s := by
  cases x with
  | ok a => exact h a rfl
  | error e => exact (Calm.refl s).spares e

/-- A service is asked for before anything is done. -/
theorem does_service {name : Text} {f : Service → Act α}
    (h : ∀ n service s', (s.world.container.resolve (.str name)).1 = .ok (n, service) → s.Calm s' →
      (f service).Ensures (troubled P) (s'.Does excuse Q) s') :
    ((Act.service name).bind f).Ensures (troubled P) (s.Does excuse Q) s := by
  intro reply s' hr
  have hcalm : s.Calm s' := calm_of_answer rfl hr
  have hreply : reply = (s.world.container.resolve (.str name)).1.map (·.2) := by
    have hfst := congrArg Prod.fst hr.2.1
    exact hfst.symm
  cases hx : (s.world.container.resolve (.str name)).1 with
  | ok found =>
    rw [hx] at hreply
    rw [hreply]
    exact (h found.1 found.2 s' hx hcalm).mono fun x s'' => hcalm.does
  | error e =>
    rw [hx] at hreply
    rw [hreply]
    exact hcalm.spares e

end Scene

end Rendezvous
