/-
  Which failures of the store are reported as worth another try.

  The code of a refusal tells whether the call may succeed later.  A service gets to know a refusal
  from the table library only, which words it and tells it as a failure of the operation, so that
  its report goes by the operation and not by the code.

  * `Refusal.isTransient`: what the code of a refusal tells; `StoreCall.isWorded`: the table library
    can word a refusal;
  * `StoreCall.isRetryable_refused`: what is reported of a refused call;
  * `Function.report_retryable`: what a function reports, and when that follows the refusal;
    `Function.missingTable_retryable`: a missing table is reported as worth another try.
-/
import Rendezvous.Proofs.Refusal
import Rendezvous.Proofs.Traps

namespace Rendezvous

/-! ## Refusals -/

/-- Whether a refused call may succeed later, as the code of the refusal tells. -/
def Refusal.isTransient (r : Refusal) : Bool := (diagnoseCode r.code).retryable

/-- Every refusal is worth another try but that of a table that is not there. -/
theorem Refusal.isTransient_eq (r : Refusal) :
    r.isTransient = !r.code.isText "ResourceNotFoundException" := by
  unfold isTransient diagnoseCode
  split
  next hbusy =>
    have hother : r.code.isText "ResourceNotFoundException" = false := by
      cases hcode : r.code with
      | str t =>
        rw [hcode] at hbusy
        simp only [Value.isText, Bool.or_eq_true, decide_eq_true_eq] at hbusy
        rcases hbusy with rfl | rfl <;> rfl
      | _ => rfl
    rw [hother]
    rfl
  next =>
    split
    next hmissing =>
      rw [hmissing]
      rfl
    next hother =>
      rw [Bool.not_eq_true] at hother
      rw [hother]
      rfl

namespace StoreCall

/-- Whether a call is a transaction. -/
def isTransaction : StoreCall → Bool
  | .register _ _ => true
  | _ => false

/-- Whether the table library can word the refusal of a call. -/
def isWorded (names : TableNames) (call : StoreCall) (r : Refusal) : Bool :=
  (call.refusalText names r).isOk

variable {names : TableNames} {call : StoreCall} {r : Refusal}

/-- What is reported of a refused call depends on its operation: that of a transaction is never
    worth another try, any other always is, if it can be worded. -/
theorem isRetryable_refused (names : TableNames) (call : StoreCall) (r : Refusal)
    (operation table : Value) :
    ((call.explain names (.remote (.refused r))).toStorage operation table).isRetryable =
      (call.isWorded names r && !call.isTransaction) := by
  have hcause : call.cause names (.refused r) = call.refusalText names r := rfl
  unfold isWorded
  cases htext : call.refusalText names r with
  | ok text =>
    have htold : call.explain names (.remote (.refused r)) =
        .table call.fault.1 (call.faultText text) := by simp only [explain, hcause, htext]
    rw [htold]
    cases call <;> rfl
  | error e =>
    have htold : call.explain names (.remote (.refused r)) = e := by
      simp only [explain, hcause, htext]
    rw [htold]
    have hmishap : e.IsMishap := cause_mishaps names call (.refused r) e htext
    cases e with
    | unusable reason => rfl
    | defect kind message => rfl
    | _ => exact hmishap.elim

/-- The report of a refused call follows the refusal just where a missing table befell a
    transaction, or could not be worded, or something else befell a worded call of another kind. -/
theorem isRetryable_eq_isTransient (names : TableNames) (call : StoreCall) (r : Refusal)
    (operation table : Value) :
    ((call.explain names (.remote (.refused r))).toStorage operation table).isRetryable =
        r.isTransient ↔
      r.code.isText "ResourceNotFoundException" =
        (call.isTransaction || !call.isWorded names r) := by
  rw [isRetryable_refused, Refusal.isTransient_eq]
  cases call.isWorded names r <;> cases call.isTransaction <;>
    cases r.code.isText "ResourceNotFoundException" <;> decide

end StoreCall

/-! ## Functions -/

namespace Function
variable {f : Function} {service : Text} {trap : Trap} {w : World} {request : Request}

/-- **What a function reports of the store goes by the operation, not by the refusal.**  Whatever a
    function reports is a complaint about what it has read, or has befallen one of its calls.  Of a
    refused call it reports that it is worth another try just where the refusal can be worded and
    the call is no transaction, which is what the refusal itself tells in the cases given. -/
theorem report_retryable (htraps : (f, service, trap) ∈ traps) (hforeign : w.IsForeign)
    (hwired : w.IsWired) {e : Failure} (he : ((f.run request).run w).1 = .error e)
    (hreport : e.IsReport) : ∃ (operation table : Text) (cause : Failure),
      let report := cause.toStorage (.str operation) (.str table)
      e = .service report ∧ (cause.IsComplaint ∨ ∃ (call : StoreCall) (failure : Failure),
        .store call (.error failure) ∈ (f.run request).exchanges w ∧
        cause = call.explain (w.tableNames service) failure ∧
        ∀ r, failure = .remote (.refused r) →
          report.isRetryable = (call.isWorded (w.tableNames service) r && !call.isTransaction) ∧
          (report.isRetryable = r.isTransient ↔ r.code.isText "ResourceNotFoundException" =
            (call.isTransaction || !call.isWorded (w.tableNames service) r))) := by
  have hends := Passage.ensures_run hforeign (run_ends (p := ⟨w, []⟩) htraps hwired rfl rfl request)
  rw [he] at hends
  obtain ⟨operation, table, cause, hcause, rfl⟩ := hends.1.reported hreport
  refine ⟨operation, table, cause, rfl, hcause.symm.imp_right ?_⟩
  rintro ⟨call, failure, hmem, rfl⟩
  refine ⟨call, failure, hmem, rfl, ?_⟩
  rintro r rfl
  exact ⟨call.isRetryable_refused _ r _ _, call.isRetryable_eq_isTransient _ r _ _⟩

/-- A table is missing. -/
def missingTable : Refusal :=
  .make (.str "ResourceNotFoundException") (.str "Requested resource not found") "GetItem"

/-- A world where the next item cannot be got for it. -/
def tablelessWorld : World :=
  { blankWorld with faults := [⟨"GetItem", .remote (.refused missingTable), 0⟩] }

/-- What is reported there has befallen a call, or is a complaint. -/
theorem missingTable_reported :
    (identityGet, Text.ofString "identity_registry", undecodable) ∈ traps ∧
    tablelessWorld.IsForeign ∧ tablelessWorld.IsWired ∧ ∃ e : Failure,
      ((identityGet.run ⟨"ann", []⟩).run tablelessWorld).1 = .error e ∧ e.IsReport ∧
      ∃ (operation table : Text) (cause : Failure),
        e = .service (cause.toStorage (.str operation) (.str table)) ∧
        (cause.IsComplaint ∨ ∃ (call : StoreCall) (failure : Failure),
          .store call (.error failure) ∈
            (identityGet.run ⟨"ann", []⟩).exchanges tablelessWorld ∧
          cause = call.explain (tablelessWorld.tableNames "identity_registry") failure) := by
  have htraps : (identityGet, Text.ofString "identity_registry", undecodable) ∈ traps := by
    simp [traps]
  have hforeign : tablelessWorld.IsForeign := by
    constructor <;> simp [tablelessWorld, blankWorld, World.initial, Failure.IsForeign]
  have hwired : tablelessWorld.IsWired := List.forall_mem_nil _
  obtain ⟨e, hrun, hreport⟩ : ∃ e, ((identityGet.run ⟨"ann", []⟩).run tablelessWorld).1 = .error e ∧
      e.IsReport := ⟨_, rfl, ⟨_, _, _, _, _, rfl⟩⟩
  obtain ⟨operation, table, cause, he, hcause⟩ :=
    report_retryable htraps hforeign hwired hrun hreport
  refine ⟨htraps, hforeign, hwired, e, hrun, hreport, operation, table, cause, he,
    hcause.imp_right ?_⟩
  rintro ⟨call, failure, hmem, htold, -⟩
  exact ⟨call, failure, hmem, htold⟩

/-- A look-up fails there, and that is reported as worth another try. -/
theorem missingTable_retryable : missingTable.isTransient = false ∧ ∃ report : ServiceError,
    ((identityGet.run ⟨"ann", []⟩).run tablelessWorld).1 = .error (.service report) ∧
      Failure.IsReport (.service report) ∧ report.isRetryable = true :=
  ⟨rfl, _, rfl, ⟨_, _, _, _, _, rfl⟩, rfl⟩

end Function

end Rendezvous
