/-
  A nickname that is looked up while others register.

  One call looks a nickname up, and any number of calls register, in any order of their steps.  A
  registration is put in one step, so that at every moment the tables hold whole registrations, and
  nothing in them is ever lost.

  * `Function.identityRegister_asks`: the calls to the store that registering makes;
  * `Run.tables_enlarges`: what one step does to the tables, whoever takes it;
  * `Run.Seeks`: a look-up among registrations; `Seeks.course`: what it takes for granted;
  * `Seeks.resolves`: what it tells.
-/
import Rendezvous.Proofs.Lookup
import Rendezvous.Proofs.Registering

namespace Rendezvous

open Act

/-! ## Calls -/

theorem Tables.call_of_not_isWrite {call : StoreCall} (h : call.isWrite = false) (t : Tables) :
    (t.call call).2 = t := by
  cases call with
  | getBinding key => rfl
  | queryContacts owner => rfl
  | getIdentity identity => simp only [call, keyed]; split <;> rfl
  | getContact owner digest => simp only [call, keyed]; split <;> rfl
  | _ => cases h

/-- A call that writes nothing, or puts the registration of somebody with a name. -/
def StoreCall.Enrols (now : Instant) (call : StoreCall) : Prop :=
  call.isWrite = false ∨ ∃ a : Application, a.caller ≠ [] ∧
    call = .register (a.item now) (a.binding now)

theorem StoreCall.Enrols.enlarges {now : Instant} (hd : now.IsDated) {call : StoreCall}
    (h : call.Enrols now) (t : Tables) : t.Enlarges (t.call call).2 := by
  obtain hread | ⟨a, hcaller, rfl⟩ := h
  · exact .of_eq (Tables.call_of_not_isWrite hread t)
  · rw [Tables.call_register]
    split
    next hadmits => exact Or.inr ⟨a, now, hcaller, hd, hadmits, rfl⟩
    next => exact .of_eq rfl

namespace Act
variable {α : Type} {P Q : StoreCall → Prop} {clock : Instant} {act : Act α}

/-- What a program poses, it asks at every time. -/
theorem Poses.asks (h : act.Poses (Query.IsAmong P)) : act.Asks clock P := by
  induction act with
  | done a => trivial
  | fail e => trivial
  | ask q next ih => exact ⟨h.1, fun reply _ => ih reply (h.2 reply)⟩

theorem Asks.mono (h : act.Asks clock P) (hPQ : ∀ call, P call → Q call) : act.Asks clock Q := by
  induction act with
  | done a => trivial
  | fail e => trivial
  | ask q next ih =>
    refine ⟨?_, fun reply hr => ih reply (h.2 reply hr)⟩
    cases q with
    | store call => exact hPQ call h.1
    | _ => trivial

theorem asks_ofExcept_bind {β : Type} {x : Except Failure α} {f : α → Act β}
    (h : ∀ a, x = .ok a → (f a).Asks clock P) : ((ofExcept x).bind f).Asks clock P := by
  cases x with
  | ok a => exact h a rfl
  | error e => trivial

end Act

theorem Query.hasQuiet_isAmong (P : StoreCall → Prop) : HasQuiet (IsAmong P) := by
  intro q hq
  cases q with
  | store call => cases hq
  | _ => trivial

theorem Query.hasHarmless_isAmong {P : StoreCall → Prop}
    (hP : ∀ call : StoreCall, call.isWrite = false → P call) : HasHarmless (IsAmong P) := by
  intro q hq
  cases q with
  | store call => exact hP call (by simpa [isHarmless] using hq)
  | _ => trivial

namespace Function
variable {f : Function} {P : StoreCall → Prop} {clock : Instant}

/-- A call asks what the function asks for the request. -/
theorem invoke_asks {event context : Value}
    (h : ∀ request, Request.accept (Request.require f.required) event = .ok request →
      (f.run request).Asks clock P) : (f.invoke event context).Asks clock P := by
  have hP := (Query.hasQuiet_isAmong P).hasIdle
  have hanswer : (f.handler.answer event).Asks clock P := by
    unfold Handler.answer
    simp only [bind_eq, liftM_eq, pure_eq, handler]
    refine (asks_ofExcept_bind h).attempt.bind fun x => ?_
    split
    · trivial
    · exact (Handler.respond_poses hP _ _).asks
  rw [invoke_eq]
  refine (poses_stopwatch hP).asks.bind fun start => (poses_note hP _ _ _).asks.bind fun _ => ?_
  refine (hanswer.bind fun response => ?_).bind fun _ => asks_ofExcept _
  exact (Handler.logEnd_poses hP _ _ _).asks.bind fun _ => trivial

theorem identityGet_asks (request : Request) :
    (identityGet.run request).Asks clock (·.isWrite = false) :=
  Poses.asks (identityGet_poses (Query.hasHarmless_isAmong fun _ => id))

/-- A registration is that of the caller. -/
theorem identityRegister_asks {request : Request} (hcaller : request.caller ≠ []) :
    (identityRegister.run request).Asks clock (StoreCall.Enrols clock) := by
  have hP := Query.hasQuiet_isAmong (StoreCall.Enrols clock)
  simp only [identityRegister, bind_eq, liftM_eq, fail_bind]
  split
  · trivial
  · refine asks_ofExcept_bind fun nickname hnickname => ?_
    refine asks_ofExcept_bind fun address haddress => ?_
    have hservice : (service "identity_registry").Poses (Query.IsAmong (StoreCall.Enrols clock)) :=
      poses_service trivial
    refine hservice.asks.bind fun service => asks_ofExcept_bind fun registry _ => ?_
    have hn := Field.length_of_nickname hnickname
    have ha : address.length = Field.address.width :=
      Field.length_of_bytesIn (by decide) rfl haddress
    let a : Application := ⟨request.caller, nickname, address, hn, ha⟩
    have hcalls : ∀ call, a.Calls clock call → call.Enrols clock := by
      intro call hcall
      cases call with
      | register record binding =>
        obtain ⟨rfl, rfl⟩ := hcall
        exact Or.inr ⟨a, hcaller, rfl⟩
      | getIdentity identity => exact Or.inl rfl
      | getBinding key => exact Or.inl rfl
      | _ => exact hcall.elim
    refine ((registry.register_asks (a := a) clock).mono hcalls).bind fun record => ?_
    exact (success_poses hP.hasIdle _ _ _ _).asks

end Function

/-! ## Runs -/

namespace Run

section
variable {ι α : Type} [DecidableEq ι] {R : Run ι α}

/-- At each step a registration is put, or nothing is done. -/
theorem tables_enlarges (clock : ι → Instant)
    (hkeeps : ∀ j, (R.process j 0).Keeps (clock j) (StoreCall.Enrols (clock j)))
    (hd : ∀ j, (clock j).IsDated) (k : ℕ) : (R.tables k).Enlarges (R.tables (k + 1)) := by
  rw [tables_succ]
  generalize hturn : R.turn k = i
  by_cases hend : (R.process i k).outcome? = none
  · obtain ⟨q, next, hp⟩ := Process.exists_ask hend
    obtain ⟨hasks, -, halone⟩ := keeps hkeeps i k
    rw [hp] at hasks
    have hamong := hasks.1
    have hintruders : ((R.process i k).worldWith (R.tables k)).intruders = [] := halone
    rw [Process.step_ask hp]
    obtain hsame | ⟨call, rfl, hcall⟩ := World.reply_tables hintruders q
    · exact .of_eq hsame
    · rw [hcall]
      exact StoreCall.Enrols.enlarges (hd i) hamong _
  · rw [Process.step_ended hend]
    exact .of_eq rfl

end

variable {ι : Type} [DecidableEq ι] {R : Run ι Value} {i : ι} {nickname : Bytes} {event : Value}
  {b e : ℕ}

/-- A call that looks a nickname up, among calls that register.  What is in the tables at first
    comes of calls of the functions, nobody writes in the name of a process, and nothing goes wrong
    for the look-up. -/
structure Seeks (R : Run ι Value) (i : ι) (event : Value) (nickname : Bytes) : Prop where
  reached : Function.Reaches R.start.tables
  program : ∃ context, (R.process i 0).program = Function.identityGet.invoke event context
  world : (R.process i 0).world.IsHosting
  request : ∃ request, Request.accept (Request.require Function.identityGet.required) event =
      .ok request ∧ Field.hasNickname request.body = true ∧
        Field.bytesIn request.body "nickname" = .ok nickname
  others : ∀ j, j ≠ i → ∃ event context,
    (R.process j 0).program = Function.identityRegister.invoke event context
  alone : ∀ j, (R.process j 0).world.intruders = []
  dated : ∀ j, (R.process j 0).world.clock.IsDated

namespace Seeks
variable (h : R.Seeks i event nickname)
include h

/-- The look-up only reads. -/
theorem reads (k : ℕ) :
    (R.process i k).Keeps (R.process i 0).world.clock (·.isWrite = false) := by
  obtain ⟨context, hprogram⟩ := h.program
  have hasks : (R.process i 0).program.Asks (R.process i 0).world.clock (·.isWrite = false) := by
    rw [hprogram]
    exact Function.invoke_asks fun request _ => Function.identityGet_asks request
  exact process_invariant (I := fun p => p.Keeps (R.process i 0).world.clock (·.isWrite = false))
    (fun _ t hk => hk.step t) ⟨hasks, rfl, h.alone i⟩ k

theorem enlarges (k : ℕ) : (R.tables k).Enlarges (R.tables (k + 1)) := by
  refine tables_enlarges (fun j => (R.process j 0).world.clock) (fun j => ?_) h.dated k
  refine ⟨?_, rfl, h.alone j⟩
  by_cases hj : j = i
  · subst hj
    exact (h.reads 0).asks.mono fun _ => Or.inl
  · obtain ⟨event, context, hprogram⟩ := h.others j hj
    rw [hprogram]
    refine Function.invoke_asks fun request haccept => Function.identityRegister_asks ?_
    exact Request.caller_ne_nil (Request.ofEvent_of_accept haccept)

theorem paired (k : ℕ) : (R.tables k).Paired := by
  induction k with
  | zero => exact h.reached.sound.paired
  | succ k ih => exact (h.enlarges k).paired ih

theorem unregistered_empty (k : ℕ) : (R.tables k).registered [] = false := by
  induction k with
  | zero => exact h.reached.unregistered_empty
  | succ k ih => exact (h.enlarges k).unregistered_empty ih

theorem kept {k k' : ℕ} (hk : k ≤ k') : (R.tables k).Kept (R.tables k') := by
  induction k', hk using Nat.le_induction with
  | base => exact .refl _
  | succ k' hk ih => exact ih.trans (h.enlarges k').kept

/-- Nothing goes wrong for the look-up, whatever is in the tables. -/
theorem hosting (k : ℕ) (t : Tables) : ((R.process i k).worldWith t).IsHosting := by
  have hworld : (R.process i k).world.IsHosting :=
    world_invariant (fun _ q hw => hw.reply q) (fun _ t hw => hw.withTables t) h.world k
  exact hworld.withTables t

/-- The run as the look-up meets it: time passes, and whole registrations are put. -/
def course : Course ℕ where
  answer := R.answer i
  tables := R.tables
  passes k k' := k ≤ k'
  puts _ _ := True
  refl k := le_rfl
  trans := le_trans
  paired _ _ := h.paired _
  kept := h.kept
  log := by
    rintro entry k reply k' ⟨m, next, hm, rfl, -⟩
    omega
  now := by
    rintro k t k' ⟨m, next, hm, rfl, -, -, -, rfl⟩
    exact ⟨by omega, (h.hosting m (R.tables m)).quiet.dated⟩
  read := by
    rintro call k reply k' - ⟨m, next, hm, rfl, -, -, -, rfl⟩
    have hquiet := (h.hosting m (R.tables m)).quiet
    exact ⟨m, hm, m.le_succ, congrArg Prod.fst
      (World.callStore_alone hquiet.faultless hquiet.alone call)⟩
  register := by
    rintro a now k reply k' ⟨m, next, -, -, -, -, hp, -⟩
    have hasks := (h.reads m).asks
    rw [hp] at hasks
    cases hasks.1

theorem course_hosts : h.course.Hosts where
  timed :=
    { refl := fun k => le_rfl
      trans := le_trans
      stopwatch := by
        rintro k reading k' ⟨m, next, hm, rfl, -, -, -, rfl⟩
        exact ⟨Nat.le_succ_of_le hm, (h.hosting m (R.tables m)).timed.readStopwatch.1⟩
      log := h.course.log }
  registry := by
    rintro k reply k' ⟨m, next, hm, rfl, -, -, -, rfl⟩
    exact ⟨Nat.le_succ_of_le hm, (h.hosting m (R.tables m)).registry.service⟩

/-- **A look-up never shows half of a registration**, whatever is registered meanwhile: it tells
    nobody's zeros, and that only if nobody had the nickname before, or the identity that has the
    nickname, with the nickname and the address that it has registered. -/
theorem resolves (hb : ∀ j < b, ¬R.Acts i j) (he : b ≤ e) {x : Except Failure Value}
    (hx : (R.process i e).outcome? = some x) : ∃ answer response, x = .ok answer ∧
      Response.Delivered event response answer ∧
        ((R.tables b).bound nickname = false ∧ Response.Tells response AddressRecord.nobody ∨
          ∃ (a : Application) (now : Instant), a.nickname = nickname ∧ (R.tables e).Holds a now ∧
            Response.Tells response a.told) := by
  obtain ⟨context, hprogram⟩ := h.program
  obtain ⟨request, haccept, hasked, hn⟩ := h.request
  have hens : (Function.identityGet.invoke event context).Ensures (R.answer i) _ b :=
    Function.invoke_resolves (c := h.course) h.course_hosts (h.paired b)
      (fun k _ => h.unregistered_empty k) haccept hasked hn context
  rw [← hprogram, ← process_of_idle hb] at hens
  obtain ⟨k, -, hk, -, answer, response, hanswer, hdelivered, hresolves⟩ :=
    ends_as_ensured hens he hx
  refine ⟨answer, response, hanswer, hdelivered, ?_⟩
  cases hresolves with
  | nobody hm hm' hbound htells => exact Or.inl ⟨(h.kept hm).unbound hbound, htells⟩
  | @owner a now m hm hm' hna ha htells =>
    exact Or.inr ⟨a, now, hna, (h.kept (le_trans hm' hk)).holds ha, htells⟩

end Seeks

/-- A look-up by another caller. -/
def lookup : Value := Request.direct "bob" [("nickname", .str "alice")]

/-- A look-up that starts when a registration has just been put, and has not been answered yet. -/
def overtaken : Run Bool Value where
  start := ⟨.empty, fun looks => ⟨blankWorld, if looks then Function.identityGet.invoke lookup .null
    else Function.identityRegister.invoke Function.application .null⟩⟩
  turn k := decide (9 ≤ k)

theorem overtaken_seeks :
    overtaken.Seeks true lookup (Bytes.fill Field.nickname.width [97, 108, 105, 99, 101]) where
  reached := .start
  program := ⟨.null, rfl⟩
  world := ⟨⟨rfl, rfl, by decide⟩, List.forall_mem_nil _, ⟨_, _, rfl⟩⟩
  request := ⟨_, rfl, rfl, rfl⟩
  others j hj := by
    obtain rfl : j = false := by simpa using hj
    exact ⟨Function.application, .null, rfl⟩
  alone _ := rfl
  dated _ := (by decide : blankWorld.clock.IsDated)

/-- What has been put is told whole, although whoever registers has not been told so. -/
theorem overtaken_resolves :
    overtaken.Seeks true lookup (Bytes.fill Field.nickname.width [97, 108, 105, 99, 101]) ∧
    (∀ j < 9, ¬overtaken.Acts true j) ∧ (overtaken.process false 9).outcome? = none ∧
    ∃ e answer, 9 ≤ e ∧ (overtaken.process true e).outcome? = some (.ok answer) ∧
      ∃ (a : Application) (now : Instant), (overtaken.tables e).Holds a now ∧
        answer.at? ["data", "record", "identity"] = some (.str a.caller) ∧
        answer.at? ["data", "record", "registered"] = some (.bool true) ∧
        answer.at? ["data", "record", "nickname_hex"] = some (.str (Field.encodeHex a.nickname)) ∧
        answer.at? ["data", "record", "address"] = some (.str (Field.encodeHex a.address)) := by
  have hidle : ∀ j < 9, ¬overtaken.Acts true j := fun j hj hacts => by
    have hturn : 9 ≤ j := of_decide_eq_true hacts.1
    omega
  have hdirect : ¬Request.IsFromGateway lookup := by
    rw [Request.isFromGateway_iff]
    exact Bool.false_ne_true
  obtain ⟨e, he, hx⟩ := overtaken.ends_alone (i := true) (k := 9) fun j hj => decide_eq_true hj
  obtain ⟨answer, response, hanswer, hdelivered, hkind⟩ := overtaken_seeks.resolves hidle he hx
  obtain rfl := hdelivered.direct hdirect
  rw [hanswer] at hx
  refine ⟨overtaken_seeks, hidle, rfl, e, answer, he, hx, ?_⟩
  rcases hkind with ⟨hbound, -⟩ | ⟨a, now, -, ha, htells⟩
  · have htaken : (overtaken.tables 9).bound
        (Bytes.fill Field.nickname.width [97, 108, 105, 99, 101]) = true := rfl
    rw [htaken] at hbound
    cases hbound
  · refine ⟨a, now, ha, ?_, ?_, ?_, ?_⟩
    all_goals exact htells.at?_record rfl

end Run

end Rendezvous
