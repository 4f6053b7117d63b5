/-
  What programs ask, whatever is replied.

  A program `Poses` questions of a kind if it asks no others.  Most of what a service asks is of no
  consequence: only calls to the store that write, and signals, are.

  * `Poses.bind` and `Poses.attempt` follow the way programs are put together, and `Poses.asked`
    says so of a run;
  * `respond_poses`, `logEnd_poses`: the dispatcher asks nothing but idle questions of its own;
  * `Registry.findRecord_poses` and the like: what is looked up is harmless;
  * `ContactBook.get_poses` and the like: the one call to the store that a contact book makes.
-/
import Rendezvous.Dispatch.Handler
import Rendezvous.Proofs.Trouble
import Rendezvous.Service.ContactBook
import Rendezvous.Service.Registry

namespace Rendezvous

/-- Whether a call puts items or takes them out. -/
def StoreCall.isWrite : StoreCall → Bool
  | .putContact _ | .deleteContact _ _ | .register _ _ => true
  | _ => false

namespace Query

/-- Whether a question is neither a call to the store nor about a signal. -/
def isQuiet : Query → Bool
  | .store _ | .putEvent _ | .record _ => false
  | _ => true

/-- Whether a question is only for the time, or to log something. -/
def isIdle : Query → Bool
  | .now | .stopwatch | .log _ => true
  | _ => false

/-- Whether nothing is written and no signal sent by a question. -/
def isHarmless : Query → Bool
  | .store call => !call.isWrite
  | q => q.isQuiet

/-- A kind of questions to which all idle ones belong. -/
def HasIdle (P : Query → Prop) : Prop := ∀ q : Query, q.isIdle = true → P q

/-- A kind of questions to which all quiet ones belong. -/
def HasQuiet (P : Query → Prop) : Prop := ∀ q : Query, q.isQuiet = true → P q

/-- A kind of questions to which all harmless ones belong. -/
def HasHarmless (P : Query → Prop) : Prop := ∀ q : Query, q.isHarmless = true → P q

theorem isHarmless_of_isQuiet {q : Query} (h : q.isQuiet = true) : q.isHarmless = true := by
  cases q with
  | store call => cases h
  | _ => exact h

theorem HasHarmless.hasQuiet {P : Query → Prop} (h : HasHarmless P) : HasQuiet P :=
  fun q hq => h q (isHarmless_of_isQuiet hq)

theorem HasQuiet.hasIdle {P : Query → Prop} (h : HasQuiet P) : HasIdle P := by
  intro q hq
  cases q <;> first | exact h _ rfl | cases hq

theorem not_isCall_of_isQuiet {q : Query} (h : q.isQuiet = true) : q.isCall = false := by
  cases q <;> first | rfl | cases h

end Query

namespace Act
variable {α β : Type} {P Q : Query → Prop}

/-- Whatever it is replied, a program asks only questions of a kind. -/
def Poses (P : Query → Prop) : Act α → Prop
  | .done _ => True
  | .fail _ => True
  | .ask q next => P q ∧ ∀ reply, (next reply).Poses P

theorem Poses.mono {act : Act α} (h : act.Poses P) (hPQ : ∀ q, P q → Q q) : act.Poses Q := by
  induction act with
  | done a => trivial
  | fail e => trivial
  | ask q next ih =>
    exact ⟨hPQ q h.1, fun reply => ih reply (h.2 reply)⟩

theorem Poses.bind {act : Act α} {f : α → Act β} (h : act.Poses P) (hf : ∀ a, (f a).Poses P) :
    (act.bind f).Poses P := by
  induction act with
  | done a => exact hf a
  | fail e => trivial
  | ask q next ih => exact ⟨h.1, fun reply => ih reply (h.2 reply)⟩

theorem Poses.attempt {act : Act α} (h : act.Poses P) : act.attempt.Poses P := by
  induction act with
  | done a => trivial
  | fail e => trivial
  | ask q next ih => exact ⟨h.1, fun reply => ih reply (h.2 reply)⟩

/-- All that is asked in a run is of the kind. -/
theorem Poses.asked {act : Act α} (h : act.Poses P) (w : World) : ∀ q ∈ act.asked w, P q := by
  induction act generalizing w with
  | done a => intro q hq; cases hq
  | fail e => intro q hq; cases hq
  | ask q next ih =>
    intro q' hq'
    rcases List.mem_cons.1 hq' with rfl | hq'
    · exact h.1
    · exact ih _ (h.2 _) _ q' hq'

theorem poses_ofExcept (x : Except Failure α) : (ofExcept x).Poses P := by
  cases x <;> trivial

theorem poses_store {site : Site} {call : StoreCall} (h : P (.store call)) :
    (store site call).Poses P :=
  ⟨h, fun _ => poses_ofExcept _⟩

theorem poses_environment (hP : Query.HasQuiet P) : environment.Poses P :=
  ⟨hP _ rfl, fun _ => trivial⟩

theorem poses_service {name : Text} (h : P (.service (.str name))) : (service name).Poses P :=
  ⟨h, fun _ => poses_ofExcept _⟩

section
variable (hP : Query.HasIdle P)
include hP

theorem poses_now : now.Poses P := ⟨hP _ rfl, fun _ => trivial⟩

theorem poses_stopwatch : stopwatch.Poses P := ⟨hP _ rfl, fun _ => trivial⟩

theorem poses_note (source : Text) (n : Log.Note) (extra : Object) :
    (note source n extra).Poses P :=
  ⟨hP _ rfl, fun _ => trivial⟩

theorem poses_failStorage (operation table : Text) (failure : Failure) :
    (failStorage operation table failure : Act α).Poses P :=
  ⟨hP _ rfl, fun _ => trivial⟩

end

end Act

open Act

variable {P : Query → Prop}

/-! ## The dispatcher -/

namespace Handler
variable (hP : Query.HasIdle P)
include hP

theorem respond_poses (function : Text) (e : Failure) : (respond function e).Poses P := by
  unfold respond
  split
  · rename_i e
    refine Poses.bind ?_ fun _ => (poses_now hP).bind fun _ => trivial
    cases e with
    | validation => exact (poses_note hP _ _ _).bind fun _ => trivial
    | _ => trivial
  · exact (poses_note hP _ _ _).bind fun _ => (poses_now hP).bind fun _ => trivial
  · exact (poses_note hP _ _ _).bind fun _ => (poses_now hP).bind fun _ => trivial

theorem logEnd_poses (function : Text) (start response : Value) :
    (logEnd function start response).Poses P := by
  unfold logEnd
  simp only [bind_eq, liftM_eq, pure_eq]
  refine (poses_stopwatch hP).bind fun stop => (poses_ofExcept _).bind fun duration => ?_
  refine (poses_ofExcept _).bind fun success => ?_
  split
  · exact (poses_ofExcept _).bind fun _ => poses_note hP _ _ _
  · exact (poses_ofExcept _).bind fun code => (poses_ofExcept _).bind fun _ => poses_note hP _ _ _

end Handler

/-! ## Looking up -/

namespace Registry
variable (r : Registry) (hP : Query.HasHarmless P)
include hP

theorem findItem_poses (identity : Value) : (r.findItem identity).Poses P := by
  have hidle := hP.hasQuiet.hasIdle
  unfold findItem readItem
  simp only [bind_eq, liftM_eq, pure_eq]
  refine Poses.bind (Poses.attempt ?_) fun x => ?_
  · exact (poses_store (hP _ rfl)).bind fun _ => (poses_ofExcept _).bind fun _ => trivial
  · split
    · exact (poses_note hidle _ _ _).bind fun _ => trivial
    · exact (poses_note hidle _ _ _).bind fun _ => trivial
    · exact (poses_note hidle _ _ _).bind fun _ => trivial
    · exact poses_failStorage hidle _ _ _

theorem findBinding_poses (nickname : Bytes) : (r.findBinding nickname).Poses P := by
  have hidle := hP.hasQuiet.hasIdle
  unfold findBinding readBinding
  simp only [bind_eq, liftM_eq, pure_eq]
  refine Poses.bind (Poses.attempt ?_) fun x => ?_
  · exact (poses_store (hP _ rfl)).bind fun _ => (poses_ofExcept _).bind fun _ => trivial
  · split
    · exact (poses_note hidle _ _ _).bind fun _ => trivial
    · exact (poses_note hidle _ _ _).bind fun _ => trivial
    · exact (poses_note hidle _ _ _).bind fun _ => trivial
    · exact poses_failStorage hidle _ _ _

theorem findRecord_poses (identity : Value) : (r.findRecord identity).Poses P := by
  refine (r.findItem_poses hP identity).bind fun found => ?_
  cases found with
  | none => trivial
  | some item => exact (poses_ofExcept _).bind fun _ => trivial

theorem resolveNickname_poses (nickname : Bytes) : (r.resolveNickname nickname).Poses P :=
  (r.findBinding_poses hP nickname).bind fun _ => trivial

theorem ensureUnregistered_poses (caller : Value) : (r.ensureUnregistered caller).Poses P := by
  have hregistered : (r.isRegistered caller).Poses P :=
    (r.findItem_poses hP caller).bind fun _ => trivial
  refine hregistered.bind fun registered => ?_
  split
  · exact (poses_note hP.hasQuiet.hasIdle _ _ _).bind fun _ => trivial
  · trivial

theorem ensureFree_poses (caller : Value) (nickname : Bytes) :
    (r.ensureFree caller nickname).Poses P := by
  refine Poses.bind ((r.resolveNickname_poses hP nickname).bind fun owner => ?_) fun taken => ?_
  · split <;> trivial
  · split
    · exact (poses_note hP.hasQuiet.hasIdle _ _ _).bind fun _ => trivial
    · trivial

theorem ensureAvailable_poses (caller : Value) (nickname : Bytes) :
    (r.ensureAvailable caller nickname).Poses P :=
  (r.ensureUnregistered_poses hP caller).bind fun _ => r.ensureFree_poses hP caller nickname

/-- A registration writes nothing but its record and its binding. -/
theorem register_poses (caller : Value) (nickname address : Bytes)
    (hput : ∀ now, P (.store (.register (.make now caller nickname address)
      (.make now caller nickname)))) : (r.register caller nickname address).Poses P := by
  have hidle := hP.hasQuiet.hasIdle
  have havailable := r.ensureAvailable_poses hP caller nickname
  unfold register
  simp only [bind_eq, liftM_eq]
  refine havailable.bind fun _ => (poses_ofExcept _).bind fun _ => ?_
  refine (poses_now hidle).bind fun now => (poses_store (hput now)).attempt.bind fun x => ?_
  split
  · exact (poses_note hidle _ _ _).bind fun _ => poses_ofExcept _
  · exact havailable.bind fun _ => (poses_failStorage hidle _ _ _).bind fun _ =>
      (poses_note hidle _ _ _).bind fun _ => poses_ofExcept _
  · trivial

end Registry

namespace ContactBook
variable (b : ContactBook) (hP : Query.HasIdle P)
include hP

section
variable {owner : Value} {address : Bytes}
  (hget : P (.store (.getContact owner (Field.addressDigest address))))
include hget

/-- What is under the digest of an address is read, and nothing else. -/
theorem findItem_poses : (b.findItem owner address).Poses P := by
  unfold findItem readItem failContact
  simp only [bind_eq, liftM_eq, pure_eq]
  refine Poses.bind (Poses.attempt ?_) fun x => ?_
  · exact (poses_store hget).bind fun _ => (poses_ofExcept _).bind fun _ => trivial
  · split
    · refine (poses_ofExcept _).bind fun found => ?_
      split
      · trivial
      · exact (poses_note hP _ _ _).bind fun _ => trivial
    · trivial
    · trivial
    · exact poses_failStorage hP _ _ _

theorem get_poses : (b.get owner address).Poses P := by
  refine (b.findItem_poses hP hget).bind fun found => ?_
  cases found with
  | none => trivial
  | some item => exact poses_ofExcept _

theorem contains_poses : (b.contains owner address).Poses P :=
  (b.findItem_poses hP hget).bind fun _ => trivial

end

/-- The contacts of an owner are read, and nothing else. -/
theorem list_poses {owner : Value} (hquery : P (.store (.queryContacts owner))) :
    (b.list owner).Poses P := by
  unfold list logDone
  simp only [bind_eq, pure_eq]
  refine Poses.bind (Poses.attempt ?_) fun x => ?_
  · exact (poses_store hquery).bind fun _ => poses_ofExcept _
  · split
    · exact (poses_note hP _ _ _).bind fun _ => trivial
    · exact poses_failStorage hP _ _ _

/-- An owner's contact is put, and nothing else is written. -/
theorem upsert_poses (owner : Value) (address name : Bytes)
    (hput : ∀ now, P (.store (.putContact (.make now owner address name)))) :
    (b.upsert owner address name).Poses P := by
  unfold upsert putItem logDone
  simp only [bind_eq, liftM_eq, failStorage_bind]
  refine (poses_now hP).bind fun now => Poses.bind (Poses.attempt ?_) fun x => ?_
  · exact (poses_ofExcept _).bind fun _ => poses_store (hput now)
  · split
    · exact (poses_note hP _ _ _).bind fun _ => poses_ofExcept _
    · exact poses_failStorage hP _ _ _

/-- What is under the digest of an address is taken out of an owner's contacts, and nothing else is
    written. -/
theorem remove_poses (owner : Value) (address : Bytes)
    (hdelete : P (.store (.deleteContact owner (Field.addressDigest address)))) :
    (b.remove owner address).Poses P := by
  unfold remove logDone
  simp only [bind_eq, failStorage_bind]
  refine (poses_store hdelete).attempt.bind fun x => ?_
  split
  · exact poses_note hP _ _ _
  · exact poses_failStorage hP _ _ _

end ContactBook

end Rendezvous
