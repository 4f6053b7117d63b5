/-
  What may become of the replies to calls.

  A failure that is told has a code of its own, is reported as a failure of the store only for what
  has befallen a call or for what cannot be read, and blames the request just where a reply has led
  to it: a trap.

  * `Failure.IsNamed`: a failure has a code of its own and a text; `Passage.Reports`: a failure of
    the store has a cause;
  * `Passage.Fair`: how a program ends, with respect to some traps; `Passage.Weighs`: how one ends
    after one call;
  * `Passage.Seeks`: how an item is looked up, and what is weighed of it.
-/
import Rendezvous.Proofs.Attribution
import Rendezvous.Proofs.Calls
import Rendezvous.Proofs.Complaints
import Rendezvous.Proofs.Exchanges

namespace Rendezvous

/-! ## Failures -/

theorem ErrorCode.text_injective : Function.Injective ErrorCode.text := by
  intro c c' h
  have hread := congrArg ErrorCode.ofText? h
  simpa only [ErrorCode.ofText?_text, Option.some.injEq] using hread

/-- A failure of the service has one of our codes, but not that of failures that nobody expects,
    and a text. -/
structure ServiceError.IsNamed (e : ServiceError) : Prop where
  code : ∃ c : ErrorCode, c ≠ .internal ∧ e.code = .str c.text
  message : ∃ text, e.message = .str text

/-- A failure of the service's own is named. -/
def Failure.IsNamed : Failure → Prop
  | .service e => e.IsNamed
  | _ => True

/-- A failure that the service reports of the store. -/
def Failure.IsReport (e : Failure) : Prop := ∃ message operation table cause retryable,
  e = .service (.storage message operation table cause retryable)

/-- A named failure that is no report of the store. -/
def Failure.IsUnreported (e : Failure) : Prop := e.IsNamed ∧ ¬e.IsReport

theorem ServiceError.isUnreported {e : ServiceError} {c : ErrorCode} (hcode : e.code = .str c.text)
    (hm : ∃ text, e.message = .str text) (hc : c ≠ .internal ∧ c ≠ .storage) :
    (Failure.service e).IsUnreported := by
  refine ⟨⟨⟨c, hc.1, hcode⟩, hm⟩, ?_⟩
  rintro ⟨message, operation, table, cause, retryable, he⟩
  obtain rfl := Failure.service.inj he
  exact hc.2 (ErrorCode.text_injective (Value.str.inj hcode)).symm

theorem Failure.IsForeign.unreported {e : Failure} (h : e.IsForeign) : e.IsUnreported := by
  have hno : ¬e.IsReport := by
    rintro ⟨message, operation, table, cause, retryable, rfl⟩
    exact h
  cases e with
  | service e => exact h.elim
  | _ => exact ⟨trivial, hno⟩

theorem Failure.IsComplaint.unreported {e : Failure} (h : e.IsComplaint) : e.IsUnreported := by
  cases e with
  | service e =>
    obtain ⟨message, field, value, hints, rfl⟩ := h
    exact ServiceError.isUnreported (c := .validation) rfl ⟨_, rfl⟩ (by decide)
  | unusable reason => exact Failure.IsForeign.unreported trivial
  | _ => exact h.elim

namespace Passage

/-- What may befall a service: the failure of a call, as the table library tells it, or a complaint
    about what was read. -/
def Suffers (names : TableNames) (p : Passage) (cause : Failure) : Prop :=
  (∃ (call : StoreCall) (failure : Failure), .store call (.error failure) ∈ p.calls ∧
    cause = call.explain names failure) ∨ cause.IsComplaint

/-- A failure is reported of the store for what has befallen the service. -/
def Reports (names : TableNames) (p : Passage) (e : Failure) : Prop :=
  ∃ (operation table : Text) (cause : Failure), p.Suffers names cause ∧
    e = .service (cause.toStorage (.str operation) (.str table))

variable {α β : Type} {names : TableNames} {p p' p'' : Passage} {e cause : Failure}

theorem Suffers.mono (h : p.Suffers names cause) (hc : ∀ ex ∈ p.calls, ex ∈ p'.calls) :
    p'.Suffers names cause :=
  h.imp_left fun ⟨call, failure, hmem, he⟩ => ⟨call, failure, hc _ hmem, he⟩

theorem Reports.isNamed (h : p.Reports names e) : e.IsNamed := by
  obtain ⟨operation, table, cause, -, rfl⟩ := h
  exact ⟨⟨.storage, by decide, rfl⟩, _, rfl⟩

theorem Reports.not_blames (h : p.Reports names e) : ¬e.Blames := by
  obtain ⟨operation, table, cause, -, rfl⟩ := h
  exact Failure.IsStorage.not_blames ⟨_, _, _, rfl⟩

/-- A failure is named, and if it is reported of the store, then for a cause. -/
structure Tells (names : TableNames) (p : Passage) (e : Failure) : Prop where
  named : e.IsNamed
  reported : e.IsReport → p.Reports names e

/-- Such a failure blames the request just where it has a reason. -/
structure Justifies (names : TableNames) (p : Passage) (reason : Prop) (e : Failure) : Prop
    extends p.Tells names e where
  blames : e.Blames ↔ reason

theorem Tells.mono (h : p.Tells names e) (hc : ∀ ex ∈ p.calls, ex ∈ p'.calls) :
    p'.Tells names e := by
  refine ⟨h.named, fun hr => ?_⟩
  obtain ⟨operation, table, cause, hcause, rfl⟩ := h.reported hr
  exact ⟨operation, table, cause, hcause.mono hc, rfl⟩

theorem tells_unreported (h : e.IsUnreported) : p.Tells names e := ⟨h.1, fun hr => (h.2 hr).elim⟩

/-! ## Traps -/

/-- How a service ends: by a justified failure, and the only reason to blame the request is that a
    call was answered by a trap, or with a result, and then no call was. -/
def Fair (names : TableNames) (trap : Exchange → Prop) (p : Passage) (x : Except Failure α)
    (p' : Passage) : Prop :=
  ∃ made, p'.calls = p.calls ++ made ∧
    match x with
    | .ok _ => ∀ ex ∈ made, ¬trap ex
    | .error e => p'.Justifies names (∃ ex ∈ made, trap ex) e

variable {trap : Exchange → Prop} {x : Except Failure α}

theorem fair_of_calls (h : p'.calls = p.calls) (hx : Fair names trap p' x p'') :
    Fair names trap p x p'' := by
  rwa [Fair, h] at hx

theorem fair_ok (h : p'.calls = p.calls) (a : α) : Fair names trap p (.ok a) p' :=
  ⟨[], by rw [h, List.append_nil], List.forall_mem_nil _⟩

theorem fair_single {ex : Exchange} (h : p'.calls = p.calls ++ [ex]) (hno : ¬trap ex) {a : α} :
    Fair names trap p (.ok a) p' :=
  ⟨[ex], h, by simpa using hno⟩

theorem fair_error (h : p'.calls = p.calls) (he : p'.Justifies names False e) :
    Fair names trap p (.error e : Except Failure α) p' :=
  ⟨[], by rw [h, List.append_nil], he.toTells, by simpa using he.blames⟩

/-- A service goes on after calls that were answered by no trap. -/
theorem fair_of_made {act : Act α} {made : List Exchange} (h : p'.calls = p.calls ++ made)
    (hno : ∀ ex ∈ made, ¬trap ex) (hact : act.Ensures foreign (Fair names trap p') p') :
    act.Ensures foreign (Fair names trap p) p' := by
  refine hact.mono ?_
  rintro x p₂ ⟨more, h2, hx⟩
  refine ⟨made ++ more, by rw [h2, h, List.append_assoc], ?_⟩
  cases x with
  | ok b => exact List.forall_mem_append.2 ⟨hno, hx⟩
  | error e =>
    refine ⟨hx.toTells, hx.blames.trans ?_⟩
    simp only [List.mem_append, or_and_right, exists_or]
    refine (or_iff_right ?_).symm
    rintro ⟨ex, hex, htrap⟩
    exact hno ex hex htrap

/-- A service goes on after a part of it has ended. -/
theorem fair_bind {act : Act α} {f : α → Act β}
    (h : act.Ensures foreign (Fair names trap p) p)
    (hf : ∀ a p', (∀ ex ∈ p.calls, ex ∈ p'.calls) →
      (f a).Ensures foreign (Fair names trap p') p') :
    (act.bind f).Ensures foreign (Fair names trap p) p := by
  refine h.bind ?_ fun e p' he => he
  rintro a p₁ ⟨made, h1, hno⟩
  exact fair_of_made h1 hno (hf a p₁ fun ex hex => by rw [h1]; exact List.mem_append_left _ hex)

/-! ### Failures that do not blame the request -/

theorem justifies_report (h : p.Reports names e) : p.Justifies names False e :=
  ⟨⟨h.isNamed, fun _ => h⟩, iff_of_false h.not_blames id⟩

theorem justifies_foreign {reason : Prop} (h : e.IsForeign) (hb : e.Blames ↔ reason) :
    p.Justifies names reason e :=
  ⟨tells_unreported h.unreported, hb⟩

/-- A foreign failure blames the request just where it is an unusable value. -/
theorem blames_iff_of_isForeign (h : e.IsForeign) : e.Blames ↔ ∃ reason, e = .unusable reason := by
  cases e with
  | service e => exact h.elim
  | unusable reason => exact iff_of_true trivial ⟨reason, rfl⟩
  | _ => exact iff_of_false id (by rintro ⟨reason, hreason⟩; cases hreason)

theorem justifies_defect (kind : Defect) (message : Text) :
    p.Justifies names False (.defect kind message) :=
  justifies_foreign trivial (iff_of_false id id)

/-- A failure under a code that neither blames the request nor tells of the store. -/
theorem justifies_service {e : ServiceError} {c : ErrorCode} (hcode : e.code = .str c.text)
    (hm : ∃ text, e.message = .str text)
    (hc : c = .identityTaken ∨ c = .nicknameTaken ∨ c = .delivery ∨ c = .configuration) :
    p.Justifies names False (.service e) := by
  refine ⟨tells_unreported (ServiceError.isUnreported hcode hm ?_), iff_of_false ?_ id⟩
  · rcases hc with rfl | rfl | rfl | rfl <;> decide
  · rw [Failure.Blames, hcode]
    rcases hc with rfl | rfl | rfl | rfl <;> simp only [Value.str.injEq] <;> decide

theorem ensures_failStorage {operation table : Text} (h : p.Suffers names cause) :
    (Act.failStorage operation table cause : Act α).Ensures foreign
      (fun x p' => p'.calls = p.calls ∧ ∃ e, x = .error e ∧ p'.Reports names e) p := by
  intro reply p' hr
  have hcalls := (rests_of_log hr).calls
  exact ⟨hcalls, _, rfl, operation, table, cause, h.mono fun _ hex => hcalls ▸ hex, rfl⟩

theorem fair_failStorage {operation table : Text} (h : p.Suffers names cause) :
    (Act.failStorage operation table cause : Act α).Ensures foreign (Fair names trap p) p := by
  refine (ensures_failStorage h).mono ?_
  rintro x p₁ ⟨h1, e, rfl, he⟩
  exact fair_error h1 (justifies_report he)

/-- What ends with a note is fair. -/
theorem fair_note {source : Text} {n : Log.Note} {extra : Object} {next : Unit → Act α}
    (h : ∀ p', (∀ ex ∈ p.calls, ex ∈ p'.calls) → (next ()).Ensures foreign (Fair names trap p') p') :
    ((Act.note source n extra).bind next).Ensures foreign (Fair names trap p) p :=
  ensures_note fun p₁ h1 =>
    (h p₁ fun _ hex => h1.calls ▸ hex).mono fun _ _ hx => fair_of_calls h1.calls hx

/-- How a service ends after one call: by a justified failure, or with a result where there is no
    reason to blame the request. -/
def Weighs (names : TableNames) (p : Passage) (ex : Exchange) (reason : Prop) (x : Except Failure α)
    (p' : Passage) : Prop :=
  p'.calls = p.calls ++ [ex] ∧
    match x with
    | .ok _ => ¬reason
    | .error e => p'.Justifies names reason e

/-- That is fair where the reason is a trap. -/
theorem Weighs.fair {ex : Exchange} {reason : Prop} (h : Weighs names p ex reason x p')
    (htrap : trap ex ↔ reason) : Fair names trap p x p' := by
  refine ⟨[ex], h.1, ?_⟩
  cases x with
  | ok a => simpa [htrap] using h.2
  | error e => exact ⟨h.2.toTells, by simpa [htrap] using h.2.blames⟩

/-! ## Reading -/

/-- What is read with its stamp: the item that was replied, if its stamp is good, or the reason why
    it cannot be read. -/
theorem ensures_read {site : Site} (call : StoreCall) (stamp : call.Result → Option Text) :
    ((Act.store site call).bind fun item => (Act.ofExcept (Stamp.check (stamp item))).bind fun _ =>
      .done item).Ensures foreign (fun x p' => ∃ reply,
        p'.calls = p.calls ++ [.store call reply] ∧
        ((∃ item, reply = .ok item ∧ Stamp.check (stamp item) = .ok () ∧ x = .ok item) ∨
          (∀ item, reply = .ok item → Stamp.check (stamp item) ≠ .ok ()) ∧
            ∃ e, x = .error e ∧ p'.Suffers site.tables e)) p := by
  refine (ensures_store site call).bind ?_ ?_
  · rintro item p₁ ⟨reply, -, hcalls, hx⟩
    obtain rfl : reply = .ok item := by
      cases reply with
      | ok found => cases hx; rfl
      | error failure => cases hx
    cases hstamp : Stamp.check (stamp item) with
    | ok u => exact ⟨_, hcalls, Or.inl ⟨item, rfl, hstamp, rfl⟩⟩
    | error e =>
      refine ⟨_, hcalls, Or.inr ⟨?_, e, rfl, Or.inr (Stamp.check_complains _ e hstamp)⟩⟩
      intro other hother hgood
      cases hother
      rw [hstamp] at hgood
      cases hgood
  · rintro e p₁ ⟨reply, -, hcalls, hx⟩
    cases reply with
    | ok found => cases hx
    | error failure =>
      have hmem : .store call (.error failure) ∈ p₁.calls := by rw [hcalls]; simp
      exact ⟨_, hcalls, Or.inr ⟨nofun, e, rfl,
        Or.inl ⟨call, failure, hmem, Except.error.inj hx⟩⟩⟩

/-- A reply shows an item of some kind, with a good stamp. -/
def Shows {ι : Type} (stamp : ι → Option Text) (P : ι → Prop) (reply : Except Failure (Option ι)) :
    Prop :=
  ∃ item, reply = .ok (some item) ∧ Stamp.check (stamp item) = .ok () ∧ P item

/-- How an item is looked up by one call: what the reply shows is taken in some way, or else nothing
    is found, or that is reported. -/
def Seeks {ι : Type} (stamp : ι → Option Text) (take : ι → Except Failure (Option ι))
    (names : TableNames) (p : Passage) (ex : Exchange) (reply : Except Failure (Option ι))
    (x : Except Failure (Option ι)) (p' : Passage) : Prop :=
  p'.calls = p.calls ++ [ex] ∧ (Shows stamp (x = take ·) reply ∨
    ¬Shows stamp (fun _ => True) reply ∧ (x = .ok none ∨ ∃ e, x = .error e ∧ p'.Reports names e))

/-- Whoever looks up an item takes what is read, or finds nothing, or reports why it cannot be read. -/
theorem seeks_of_read {ι : Type} {stamp : ι → Option Text} {take : ι → Except Failure (Option ι)}
    {ex : Except Failure (Option ι) → Exchange} {read : Act (Option ι)}
    {next : Except Failure (Option ι) → Act (Option ι)}
    (hread : read.Ensures foreign (fun x p' => ∃ reply, p'.calls = p.calls ++ [ex reply] ∧
      ((∃ found, reply = .ok found ∧ Stamp.check (found.bind stamp) = .ok () ∧ x = .ok found) ∨
        (∀ found, reply = .ok found → Stamp.check (found.bind stamp) ≠ .ok ()) ∧
          ∃ e, x = .error e ∧ p'.Suffers names e)) p)
    (hsome : ∀ item p', (next (.ok (some item))).Ensures foreign
      (fun x p'' => p''.calls = p'.calls ∧ x = take item) p')
    (hnone : ∀ p', (next (.ok none)).Ensures foreign
      (fun x p'' => p''.calls = p'.calls ∧ x = .ok none) p')
    (herror : ∀ e p', p'.Suffers names e → (next (.error e)).Ensures foreign (fun x p'' =>
      p''.calls = p'.calls ∧ (x = .ok none ∨ ∃ e, x = .error e ∧ p''.Reports names e)) p') :
    (read.attempt.bind next).Ensures foreign
      (fun x p' => ∃ reply, Seeks stamp take names p (ex reply) reply x p') p := by
  refine hread.attempt_bind ?_
  rintro x p₁ ⟨reply, h1, ⟨found, rfl, hstamp, rfl⟩ | ⟨hno, e, rfl, hcause⟩⟩
  · cases found with
    | some item =>
      refine (hsome item p₁).mono ?_
      rintro x p₂ ⟨h2, hx⟩
      exact ⟨_, h2.trans h1, Or.inl ⟨item, rfl, hstamp, hx⟩⟩
    | none =>
      refine (hnone p₁).mono ?_
      rintro x p₂ ⟨h2, hx⟩
      refine ⟨_, h2.trans h1, Or.inr ⟨?_, Or.inl hx⟩⟩
      rintro ⟨item, hitem, -⟩
      cases hitem
  · refine (herror e p₁ hcause).mono ?_
    rintro x p₂ ⟨h2, hx⟩
    exact ⟨reply, h2.trans h1, Or.inr ⟨fun ⟨item, hitem, hstamp, _⟩ => hno _ hitem hstamp, hx⟩⟩

theorem shows_iff {ι : Type} {stamp : ι → Option Text} {P : ι → Prop} {item : ι}
    {reply : Except Failure (Option ι)} (hitem : reply = .ok (some item))
    (hstamp : Stamp.check (stamp item) = .ok ()) : Shows stamp P reply ↔ P item := by
  constructor
  · rintro ⟨other, hother, -, hP⟩
    obtain rfl : item = other := Option.some.inj (Except.ok.inj (hitem.symm.trans hother))
    exact hP
  · exact fun hP => ⟨item, hitem, hstamp, hP⟩

/-- What becomes of a look-up is weighed by what is read of the item that the reply shows. -/
theorem weighs_of_seeks {ι : Type} {stamp : ι → Option Text} {take : ι → Except Failure (Option ι)}
    {find : Act (Option ι)} {ex : Except Failure (Option ι) → Exchange}
    (read : Option ι → Except Failure β)
    (h : find.Ensures foreign
      (fun x p' => ∃ reply, Seeks stamp take names p (ex reply) reply x p') p)
    (hnone : ∃ b, read none = .ok b) (hread : ∀ item, Complains ((take item).bind read)) :
    (find.bind fun found => .ofExcept (read found)).Ensures foreign (fun x p' => ∃ reply,
      Weighs names p (ex reply) (Shows stamp (fun item => ∃ e, (take item).bind read = .error e) reply)
        x p') p := by
  -- the reply shows an item, and the end is what is read of it
  have hshown {item : ι} {reply : Except Failure (Option ι)} {y : Except Failure (Option ι)}
      {p₁ : Passage} (h1 : p₁.calls = p.calls ++ [ex reply]) (hitem : reply = .ok (some item))
      (hstamp : Stamp.check (stamp item) = .ok ()) (hy : y = take item) :
      Weighs names p (ex reply)
        (Shows stamp (fun item => ∃ e, (take item).bind read = .error e) reply) (y.bind read) p₁ := by
    refine ⟨h1, ?_⟩
    rw [hy, shows_iff hitem hstamp]
    cases hx : (take item).bind read with
    | ok b => rintro ⟨e, he⟩; cases he
    | error e =>
      have hcomplaint := hread item e hx
      exact ⟨tells_unreported hcomplaint.unreported, iff_of_true hcomplaint.blames ⟨e, rfl⟩⟩
  have hhidden {reply : Except Failure (Option ι)} {P : ι → Prop}
      (hno : ¬Shows stamp (fun _ => True) reply) : ¬Shows stamp P reply :=
    fun ⟨item, hitem, hstamp, _⟩ => hno ⟨item, hitem, hstamp, trivial⟩
  refine h.bind ?_ ?_
  · rintro found p₁ ⟨reply, h1, ⟨item, hitem, hstamp, hx⟩ | ⟨hno, hx⟩⟩
    · exact Act.ensures_ofExcept.2 ⟨reply, hshown h1 hitem hstamp hx⟩
    · obtain rfl : found = none := by
        rcases hx with hx | ⟨e, he, -⟩
        · exact Except.ok.inj hx
        · cases he
      obtain ⟨b, hb⟩ := hnone
      rw [hb]
      exact ⟨reply, h1, hhidden hno⟩
  · rintro e p₁ ⟨reply, h1, ⟨item, hitem, hstamp, hx⟩ | ⟨hno, hx⟩⟩
    · exact ⟨reply, hshown (y := .error e) h1 hitem hstamp hx⟩
    · have he : p₁.Reports names e := by
        rcases hx with hx | ⟨e', he, hreports⟩
        · cases hx
        · obtain rfl := Except.error.inj he
          exact hreports
      exact ⟨reply, h1, ⟨he.isNamed, fun _ => he⟩, iff_of_false he.not_blames (hhidden hno)⟩

end Passage

end Rendezvous
