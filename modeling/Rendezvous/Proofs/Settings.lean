/-
  Where settings come from.

  A setting comes from the service's own variable, else from the plain one, else from the parameter
  store, else it is the default.  The store may be switched off or out of reach, and it may fail in
  any way: a lookup falls back on the default, unless the store refuses it without a code, or its
  failure cannot be printed, or the key makes no name of a variable.

  * `ParameterAnswer.outcome`: what a lookup makes of an answer of the store;
  * `Config.lookUp_hit` and `Config.lookUp_miss`: a lookup recalls a value, or asks for it;
  * `Config.parameter_falls_back`: when a setting has a value, and which.
-/
import Mathlib.Tactic
import Rendezvous.Config.Settings
import Rendezvous.Proofs.Unicode

namespace Rendezvous

/-- A value that is not null. -/
def Value.nonNull? : Value → Option Value
  | .null => none
  | v => some v

@[simp] theorem Value.getD_nonNull? (v : Value) : v.nonNull?.getD .null = v := by
  cases v <;> rfl

/-! ## Answers of the store -/

namespace Refusal

/-- A refusal that says by a code why it was made. -/
def IsCoded (r : Refusal) : Prop :=
  ∃ fields code, r.error = some fields ∧ Object.field? "Code" fields = some code

/-- The code of a refusal, which has to be there. -/
def codeAt (r : Refusal) : Except Failure Value :=
  r.error.elim (.error (.missingField "Error")) fun fields => (Value.obj fields).fieldAt "Code"

theorem codeAt_eq_ok_iff {r : Refusal} : (∃ code, r.codeAt = .ok code) ↔ r.IsCoded := by
  unfold codeAt IsCoded
  cases r.error with
  | none => simp
  | some fields =>
    cases h : Object.field? "Code" fields <;>
      simp [Value.fieldAt, Value.fields, Except.bind, h]

end Refusal

namespace ParameterAnswer

/-- The value in an answer, if it has one. -/
def value? : ParameterAnswer → Option Value
  | .value v => v.nonNull?
  | _ => none

/-- A refusal without a code. -/
def IsUncoded (a : ParameterAnswer) : Prop :=
  ∃ r, a = .failed (.remote (.refused r)) ∧ ¬r.IsCoded

/-- What is said about a failure when it is printed; that there is no parameter is not worth it. -/
def report? : ParameterAnswer → Option Text
  | .value _ => none
  | .bare => some (Failure.missingField "Parameter").message
  | .failed (.remote (.refused r)) =>
    match r.codeAt with
    | .ok code => if code.isText "ParameterNotFound" then none else some r.message
    | .error _ => none
  | .failed failure => some failure.message

/-- A failure is to be printed, but there is a surrogate in the name of the parameter or in what is
    said about the failure, so that the line has no UTF-8 form. -/
def IsUnprintable (name : Text) (a : ParameterAnswer) : Prop :=
  ∃ message, a.report? = some message ∧ ¬(name.IsScalar ∧ message.IsScalar)

/-- What comes of printing a line: null, or a failure of its own. -/
def printed (line : Text) : Except Failure Value :=
  match line.surrogateRun? with
  | some run => .error (.unusable (.unencodable run))
  | none => .ok .null

theorem printed_eq_ok_iff {line : Text} {v : Value} :
    printed line = .ok v ↔ line.IsScalar ∧ v = .null := by
  rw [printed, ← Text.surrogateRunFrom?_eq_none_iff 0, ← Text.surrogateRun?]
  cases line.surrogateRun? <;> simp [@eq_comm _ v]

/-- What a lookup makes of the answer for a parameter: its value, or null, and a failure of its own
    where the store refuses without a code, or a failure cannot be printed. -/
def outcome (name : Text) : ParameterAnswer → Except Failure Value
  | .value v => .ok v
  | .bare => printed ("Unexpected error getting SSM parameter " ++ name ++ ": " ++
      (Failure.missingField "Parameter").message)
  | .failed (.remote (.refused r)) => r.codeAt.bind fun code =>
    if code.isText "ParameterNotFound" then .ok .null
    else printed ("Error getting SSM parameter " ++ name ++ ": " ++ r.message)
  | .failed failure =>
    printed ("Unexpected error getting SSM parameter " ++ name ++ ": " ++ failure.message)

variable {a : ParameterAnswer} {name : Text} {v : Value}

/-- A failure that is printed counts for no value, if it can be printed. -/
theorem printed_eq_ok_iff_of_report {message : Text} (hreport : a.report? = some message)
    (words : String) : printed (words ++ name ++ ": " ++ message) = .ok v ↔
      ¬a.IsUnprintable name ∧ v = .null := by
  have hunprintable : a.IsUnprintable name ↔ ¬(name.IsScalar ∧ message.IsScalar) := by
    simp [IsUnprintable, hreport]
  rw [printed_eq_ok_iff, hunprintable, not_not]
  simp only [Text.isScalar_append_iff, Text.isScalar_ofString, true_and, and_true]

/-- A refusal is read by its code. -/
theorem outcome_refused_eq_ok_iff {r : Refusal}
    (ha : a = .failed (.remote (.refused r))) : a.outcome name = .ok v ↔
      ¬a.IsUncoded ∧ ¬a.IsUnprintable name ∧ v = .null := by
  subst ha
  have hr : (ParameterAnswer.failed (.remote (.refused r))).IsUncoded ↔ ¬r.IsCoded :=
    ⟨fun ⟨_, h, hno⟩ => by cases h; exact hno, fun hno => ⟨r, rfl, hno⟩⟩
  rw [hr, not_not, ← Refusal.codeAt_eq_ok_iff]
  cases hcode : r.codeAt with
  | error e => simp [outcome, hcode, Except.bind]
  | ok code =>
    cases hfound : code.isText "ParameterNotFound" with
    | true =>
      simp [outcome, hcode, Except.bind, hfound, IsUnprintable, report?, @eq_comm _ v]
    | false =>
      have hreport : (ParameterAnswer.failed (.remote (.refused r))).report? = some r.message := by
        simp [report?, hcode, hfound]
      rw [← printed_eq_ok_iff_of_report hreport "Error getting SSM parameter "]
      simp [outcome, hcode, Except.bind, hfound]

/-- Only a refusal without a code and a failure that cannot be printed make a lookup fail, any other
    answer counts for its value. -/
theorem outcome_eq_ok_iff : a.outcome name = .ok v ↔
    ¬a.IsUncoded ∧ ¬a.IsUnprintable name ∧ v = a.value?.getD .null := by
  have hother {message : Text} (hnot : ∀ r, a ≠ .failed (.remote (.refused r)))
      (hnone : a.value? = none) (hreport : a.report? = some message)
      (ha : a.outcome name =
        printed ("Unexpected error getting SSM parameter " ++ name ++ ": " ++ message)) :
      a.outcome name = .ok v ↔ ¬a.IsUncoded ∧ ¬a.IsUnprintable name ∧ v = a.value?.getD .null := by
    rw [ha, printed_eq_ok_iff_of_report hreport, hnone, Option.getD_none]
    exact (and_iff_right fun ⟨r, h, _⟩ => hnot r h).symm
  cases a with
  | value v => simp [outcome, IsUncoded, IsUnprintable, report?, value?, @eq_comm _ v]
  | bare => exact hother (fun r => nofun) rfl rfl rfl
  | failed failure =>
    cases failure with
    | remote e =>
      cases e with
      | refused r => exact outcome_refused_eq_ok_iff rfl
      | _ => exact hother (fun r => nofun) rfl rfl rfl
    | _ => exact hother (fun r => nofun) rfl rfl rfl

end ParameterAnswer

/-! ## Lookups -/

namespace Lookup
variable {α β : Type} (state : LookupState)

/-- A lookup goes on with what the one before it found, where it left off. -/
theorem run_bind (x : Lookup α) (f : α → Lookup β) : (x >>= f).run state =
    match x.run state with
    | (.ok a, after) => (f a).run after
    | (.error e, after) => (.error e, after) := by
  change (match x.run state with | (a, after) => ExceptT.bindCont f a after) = _
  rcases x.run state with ⟨a | e, after⟩ <;> rfl

theorem run_pure (a : α) : (pure a : Lookup α).run state = (.ok a, state) := rfl

theorem run_get : (get : Lookup LookupState).run state = (.ok state, state) := rfl

theorem run_modify (f : LookupState → LookupState) :
    (modify f : Lookup PUnit).run state = (.ok ⟨⟩, f state) := rfl

theorem run_lift (x : Except Failure α) : (liftM x : Lookup α).run state = (x, state) := by
  cases x <;> rfl

end Lookup

/-! ## Asking the store -/

/-- A lookup has remembered nothing so far, and may have opened a client for a configuration. -/
structure LookupState.Opens (c : Config) (state after : LookupState) : Prop where
  remembered : after.remembered = state.remembered
  kept : ∀ i ∈ state.connected, i ∈ after.connected
  opened : ∀ i ∈ after.connected, i ∈ state.connected ∨ i = c.serial ∧ c.remoteEnabled = true

/-- A lookup that opens no client and remembers nothing. -/
theorem LookupState.Opens.of_eq {c : Config} {state after : LookupState}
    (hremembered : after.remembered = state.remembered)
    (hconnected : after.connected = state.connected) : state.Opens c after :=
  ⟨hremembered, fun _ h => hconnected ▸ h, fun _ h => .inl (hconnected ▸ h)⟩

namespace Config
variable (c : Config) (s : Surroundings) (key : Text) (state : LookupState)

/-- Whether the store can be asked: there is a client already, or one can be opened. -/
def reaches : Bool := state.connected.contains c.serial || c.remoteEnabled && !s.down

/-- What comes of asking the store, if it can be asked. -/
def outcome : Except Failure Value :=
  if c.reaches s state then (s.answer (c.remoteName key)).outcome (c.remoteName key)
  else .ok .null

theorem connect_run : ∃ after, (c.connect s).run state = (.ok (c.reaches s state), after) ∧
    state.Opens c after ∧ (c.reaches s state = true → c.serial ∈ after.connected) := by
  simp only [connect, Lookup.run_bind, Lookup.run_get]
  by_cases hconnected : c.serial ∈ state.connected
  · have hreaches : c.reaches s state = true := by simp [reaches, hconnected]
    rw [if_pos (List.contains_iff_mem.2 hconnected), hreaches]
    exact ⟨state, rfl, .of_eq rfl rfl, fun _ => hconnected⟩
  rw [if_neg (by rwa [List.contains_iff_mem])]
  cases henabled : c.remoteEnabled with
  | false =>
    have hreaches : c.reaches s state = false := by simp [reaches, hconnected, henabled]
    rw [hreaches]
    exact ⟨state, rfl, .of_eq rfl rfl, nofun⟩
  | true =>
    cases hdown : s.down with
    | true =>
      have hreaches : c.reaches s state = false := by simp [reaches, hconnected, hdown]
      rw [hreaches]
      exact ⟨_, rfl, .of_eq rfl rfl, nofun⟩
    | false =>
      have hreaches : c.reaches s state = true := by simp [reaches, henabled, hdown]
      rw [hreaches]
      refine ⟨_, rfl, ⟨rfl, fun i hi => .tail _ hi, fun i hi => ?_⟩, fun _ => .head _⟩
      obtain rfl | hi := List.mem_cons.1 hi
      exacts [.inr ⟨rfl, henabled⟩, .inl hi]

/-- Giving up leaves what is remembered and the clients alone, as asking does below. -/
theorem giveUp_run (line : Text) : ∃ after, (giveUp line).run state =
    (ParameterAnswer.printed line, after) ∧ after.remembered = state.remembered ∧
      after.connected = state.connected := by
  unfold giveUp ParameterAnswer.printed
  cases line.surrogateRun? with
  | some run => exact ⟨state, rfl, rfl, rfl⟩
  | none => exact ⟨_, rfl, rfl, rfl⟩

theorem remoteFailure_run (name : Text) (failure : Failure) :
    ∃ after, (remoteFailure name failure).run state =
      ((ParameterAnswer.failed failure).outcome name, after) ∧
        after.remembered = state.remembered ∧ after.connected = state.connected := by
  cases failure with
  | remote e =>
    cases e with
    | refused r =>
      simp only [remoteFailure, Lookup.run_bind, Lookup.run_lift, ParameterAnswer.outcome,
        Refusal.codeAt]
      cases r.error with
      | none => exact ⟨_, rfl, rfl, rfl⟩
      | some fields =>
        simp only [Option.elim_some]
        cases (Value.obj fields).fieldAt "Code" with
        | error e => exact ⟨_, rfl, rfl, rfl⟩
        | ok code =>
          simp only [Except.bind]
          split
          · exact ⟨_, rfl, rfl, rfl⟩
          · exact giveUp_run _ _
    | _ => exact giveUp_run _ _
  | _ => exact giveUp_run _ _

theorem askRemote_run : ∃ after, (c.askRemote s key).run state =
    ((s.answer (c.remoteName key)).outcome (c.remoteName key), after) ∧
      after.remembered = state.remembered ∧ after.connected = state.connected := by
  simp only [askRemote, Lookup.run_bind, Lookup.run_modify]
  cases s.answer (c.remoteName key) with
  | value v => exact ⟨_, rfl, rfl, rfl⟩
  | bare => exact remoteFailure_run _ _ (.missingField "Parameter")
  | failed failure => exact remoteFailure_run _ _ failure

variable {state}

/-- A value that is remembered is given again, and is used by that. -/
theorem lookUp_hit {asked : Asked} {v : Value} (h : state.remembered.find? asked = some v) :
    (c.lookUp s asked key).run state =
      (.ok v, { state with remembered := state.remembered.use asked v }) := by
  simp only [lookUp, Lookup.run_bind, Lookup.run_get, h, Lookup.run_pure, Lookup.run_modify]

/-- A value that is not remembered is asked for.  It is remembered, whatever it is; a failure is
    not. -/
theorem lookUp_miss {asked : Asked} (h : state.remembered.find? asked = none) :
    ∃ after, state.Opens c after ∧ (c.reaches s state = true → c.serial ∈ after.connected) ∧
      (c.lookUp s asked key).run state = (c.outcome s key state,
        match c.outcome s key state with
        | .ok v => { after with remembered := after.remembered.use asked v }
        | .error _ => after) := by
  obtain ⟨opened, hconnect, hopens, hserial⟩ := connect_run c s state
  simp only [lookUp, Lookup.run_bind, Lookup.run_get, h, hconnect, outcome]
  cases hreaches : c.reaches s state with
  | false =>
    exact ⟨opened, hopens, nofun, rfl⟩
  | true =>
    obtain ⟨after, hask, hremembered, hconnected⟩ := askRemote_run c s key opened
    refine ⟨after, ⟨hremembered.trans hopens.remembered, fun i hi => ?_, fun i hi => ?_⟩,
      fun _ => hconnected ▸ hserial hreaches, ?_⟩
    · exact hconnected ▸ hopens.kept i hi
    · exact hopens.opened i (hconnected ▸ hi)
    · simp only [if_true, Lookup.run_bind, hask]
      cases (s.answer (c.remoteName key)).outcome (c.remoteName key) <;> rfl

/-! ## Settings -/

variable (state)

/-- What the value of a setting is remembered under. -/
def askedFor : Asked := ⟨c.serial, false, .text key⟩

/-- The value that the parameter store has given for a setting or gives for it, if there is one. -/
def stored? : Option Value :=
  match state.remembered.find? (c.askedFor key) with
  | some v => v.nonNull?
  | none => if c.reaches s state then (s.answer (c.remoteName key)).value? else none

/-- The store is asked for a setting, and refuses without a code, or fails and that cannot be
    printed. -/
def IsRebuffed : Prop :=
  let name := c.remoteName key
  state.remembered.find? (c.askedFor key) = none ∧ c.reaches s state = true ∧
    ((s.answer name).IsUncoded ∨ (s.answer name).IsUnprintable name)

theorem remoteParameter_run {v : Value} : ((c.remoteParameter s key).run state).1 = .ok v ↔
    ¬c.IsRebuffed s key state ∧ v = (c.stored? s key state).getD .null := by
  rw [show c.remoteParameter s key = c.lookUp s (c.askedFor key) key from rfl]
  unfold IsRebuffed stored?
  cases h : state.remembered.find? (c.askedFor key) with
  | some w =>
    rw [c.lookUp_hit s key h]
    simp [@eq_comm _ v]
  | none =>
    obtain ⟨after, -, -, hrun⟩ := c.lookUp_miss s key h
    rw [hrun, outcome]
    cases c.reaches s state with
    | false => simp [@eq_comm _ v]
    | true => simp [ParameterAnswer.outcome_eq_ok_iff, and_assoc]

theorem nonNull?_stored? :
    ((c.stored? s key state).getD .null).nonNull? = c.stored? s key state := by
  unfold stored?
  cases state.remembered.find? (c.askedFor key) with
  | some v => rw [Value.getD_nonNull?]
  | none =>
    cases c.reaches s state with
    | false => rfl
    | true =>
      cases s.answer (c.remoteName key) with
      | value v => exact congrArg Value.nonNull? v.getD_nonNull?
      | _ => rfl

/-- The value of a setting: that of its own variable if it is set, else that of the plain variable
    if it is, else the value of the parameter store if there is one, else the default. -/
def valueOf (default : Value) : Value :=
  match s.env.value? (Environment.servicePrefix ++ Environment.nameOf key),
    s.env.value? (Environment.nameOf key), c.stored? s key state with
  | some t, _, _ => .str t
  | none, some t, _ => .str t
  | none, none, some v => v
  | none, none, none => default

theorem valueOf_eq (default : Value) : c.valueOf s key state default =
    match s.env.setting? key with
    | some t => .str t
    | none => (c.stored? s key state).getD default := by
  unfold valueOf Environment.setting?
  cases s.env.value? (Environment.servicePrefix ++ Environment.nameOf key) with
  | some t => rfl
  | none =>
    cases s.env.value? (Environment.nameOf key) with
    | some t => rfl
    | none => cases c.stored? s key state <;> rfl

/-- A setting that no variable gives is looked up in the parameter store. -/
theorem parameter_run_of_unset {default v : Value} (hset : settingOf s.env key = .ok none) :
    ((c.parameter s key default).run state).1 = .ok v ↔
      ¬c.IsRebuffed s key state ∧ v = (c.stored? s key state).getD default := by
  simp only [parameter, hset, Lookup.run_bind, Lookup.run_lift]
  rcases hrun : (c.remoteParameter s key).run state with ⟨e | w, after⟩
  · have hrebuffed : c.IsRebuffed s key state := by
      by_contra hno
      have hok := (c.remoteParameter_run s key state).2 ⟨hno, rfl⟩
      rw [hrun] at hok
      cases hok
    simp [hrebuffed]
  · obtain ⟨hno, rfl⟩ := (c.remoteParameter_run s key state).1 (congrArg Prod.fst hrun)
    have hstored := c.nonNull?_stored? s key state
    generalize (c.stored? s key state).getD .null = w at hstored
    rw [and_iff_right hno, ← hstored]
    cases w <;> exact ⟨fun h => (Except.ok.inj h).symm, fun h => congrArg Except.ok h.symm⟩

/-- A setting falls back on its default whatever the parameter store does, but for a refusal
    without a code, for a failure that cannot be printed, and for a key that makes no name of a
    variable. -/
theorem parameter_falls_back (default v : Value) :
    ((c.parameter s key default).run state).1 = .ok v ↔
      v = c.valueOf s key state default ∧ Environment.unnameable? key = none ∧
        (s.env.setting? key = none → ¬c.IsRebuffed s key state) := by
  rw [valueOf_eq]
  cases hname : Environment.unnameable? key with
  | some run => simp [parameter, settingOf, hname, Lookup.run_bind, Lookup.run_lift]
  | none =>
    have hsetting : settingOf s.env key = .ok (s.env.setting? key) := by rw [settingOf, hname]
    cases hset : s.env.setting? key with
    | some t =>
      simp [parameter, hsetting, hset, Lookup.run_bind, Lookup.run_lift, Lookup.run_pure,
        @eq_comm _ v]
    | none =>
      rw [c.parameter_run_of_unset s key state (hsetting.trans (congrArg _ hset))]
      simp [and_comm]

/-- A refusal without an error keeps a setting from its default. -/
theorem parameter_rebuffed :
    let c := Config.ofEnvironment 0 []
    let s : Surroundings :=
      ⟨[], fun _ => .failed (.remote (.refused ⟨none, [], .arr [], "GetParameter"⟩)), false⟩
    c.valueOf s "k" .initial (.str "d") = .str "d" ∧
      ((c.parameter s "k" (.str "d")).run .initial).1 = .error (.missingField "Error") :=
  ⟨rfl, rfl⟩

end Config

end Rendezvous
