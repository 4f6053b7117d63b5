/-
  Contact books are private.

  Any number of calls of the functions share the tables, and take their steps in any order.  What
  concerns the contacts of one owner goes on by itself: the calls of all others may be left out,
  and whatever the owner is answered about contacts stays the same.  Two runs are followed side by
  side, one with the others and one without them; a step of the owner's is taken in both, and a
  step of somebody else in the first one only.

  * `Process.Mirrors`, `Pool.Mirrors`: what is the same in both; `Pool.Parts`: whose questions are
    about what; `Pool.Mirrors.play`: the turns of the others may be left out;
  * `Function.contacts_poses`, `Function.others_asks`: what the functions ask in whose name;
  * `Invocation.contacts_private`: the answers to an owner do not depend on the calls of others.
-/
import Rendezvous.Proofs.Attribution
import Rendezvous.Proofs.Partition

namespace Rendezvous

open Act

/-! ## Side by side -/

namespace Process
variable {α : Type} {owner : Text} {p p' : Process α} {t t' : Tables} {clock : Instant}
  {Q : Query → Prop}

/-- Two processes have the same program, and worlds that are the same to whoever asks about
    contacts. -/
structure Mirrors (p p' : Process α) : Prop where
  program : p'.program = p.program
  world : p.world.Resembles p'.world

theorem Mirrors.symm (h : p.Mirrors p') : p'.Mirrors p := ⟨h.program.symm, h.world.symm⟩

/-- Where an owner's contacts are the same, such processes take the same step, if it is about these
    contacts. -/
theorem Mirrors.step (h : p.Mirrors p') (hp : p.program.Poses (Query.InBook owner))
    (hb : t'.book owner = t.book owner) : (p.step t).1.Mirrors (p'.step t').1 ∧
      (p'.step t').2.book owner = (p.step t).2.book owner := by
  by_cases hend : p.outcome? = none
  · obtain ⟨q, next, hask⟩ := exists_ask hend
    have hposes : (Act.ask q next).Poses (Query.InBook owner) := hask ▸ hp
    have hworlds : (p.worldWith t).Resembles (p'.worldWith t') :=
      ⟨h.world.clock, h.world.readings, h.world.faults, h.world.service⟩
    obtain ⟨hreply, hworld, hbook⟩ := hworlds.reply hb hposes.1
    rw [step_ask hask, step_ask (h.program.trans hask), hreply]
    exact ⟨⟨rfl, hworld⟩, hbook⟩
  · have hend' : p'.outcome? ≠ none := by rwa [outcome?, h.program]
    rw [step_ended hend, step_ended hend']
    exact ⟨h, hb⟩

/-- What is left of a program asks no more than it did. -/
theorem poses_step (h : p.program.Poses Q) (t : Tables) : (p.step t).1.program.Poses Q := by
  by_cases hend : p.outcome? = none
  · obtain ⟨q, next, hask⟩ := exists_ask hend
    have hposes : (Act.ask q next).Poses Q := hask ▸ h
    rw [step_ask hask]
    exact hposes.2 _
  · rw [step_ended hend]
    exact h

/-- A process that does not write an owner's contacts leaves them alone. -/
theorem book_step (hp : p.Keeps clock (StoreCall.OffBook owner)) (t : Tables) :
    (p.step t).2.book owner = t.book owner := by
  by_cases hend : p.outcome? = none
  · obtain ⟨q, next, hask⟩ := exists_ask hend
    have hasks : (Act.ask q next).Asks clock (StoreCall.OffBook owner) := hask ▸ hp.asks
    have halone : (p.worldWith t).intruders = [] := hp.alone
    rw [step_ask hask]
    obtain hsame | ⟨call, rfl, hcall⟩ := World.reply_tables halone q
    · rw [hsame]
      rfl
    · rw [hcall]
      exact Tables.book_of_offBook hasks.1 t
  · rw [step_ended hend]

end Process

namespace Pool
variable {ι α : Type}

/-- Some processes ask about the contacts of an owner and no others; the rest of them do not
    write these. -/
structure Parts (owner : Text) (own : ι → Prop) (P : Pool ι α) : Prop where
  inside : ∀ i, own i → (P.processes i).program.Poses (Query.InBook owner)
  outside : ∀ i, ¬own i → ∃ clock, (P.processes i).Keeps clock (StoreCall.OffBook owner)

/-- Two pools are the same as far as it concerns the contacts of an owner. -/
structure Mirrors (owner : Text) (own : ι → Prop) (P P' : Pool ι α) : Prop where
  book : P'.tables.book owner = P.tables.book owner
  process : ∀ i, own i → (P.processes i).Mirrors (P'.processes i)

variable {owner : Text} {own : ι → Prop} {P P' : Pool ι α} {i : ι}

theorem Mirrors.symm (h : Mirrors owner own P P') : Mirrors owner own P' P :=
  ⟨h.book.symm, fun i hi => (h.process i hi).symm⟩

variable [DecidableEq ι]

/-- What every step of a process leaves true, a step of the pool does. -/
theorem step_invariant {I : Process α → Prop} (hstep : ∀ p t, I p → I (p.step t).1) {j : ι}
    (h : I (P.processes j)) (i : ι) : I ((P.step i).processes j) := by
  by_cases hji : j = i
  · subst hji
    rw [step_self]
    exact hstep _ _ h
  · rw [step_of_ne P hji]
    exact h

theorem Parts.step (h : P.Parts owner own) (i : ι) : (P.step i).Parts owner own where
  inside j hj := step_invariant (I := fun p => p.program.Poses (Query.InBook owner))
    (fun _ t hp => Process.poses_step hp t) (h.inside j hj) i
  outside j hj := by
    obtain ⟨clock, hkeeps⟩ := h.outside j hj
    exact ⟨clock, step_invariant (I := fun p => p.Keeps clock (StoreCall.OffBook owner))
      (fun _ t hp => hp.step t) hkeeps i⟩

/-- What concerns the owner is done in both. -/
theorem Mirrors.step_own (h : Mirrors owner own P P') (hP : P.Parts owner own) (hi : own i) :
    Mirrors owner own (P.step i) (P'.step i) := by
  obtain ⟨hprocess, hbook⟩ := (h.process i hi).step (hP.inside i hi) h.book
  refine ⟨hbook, fun j hj => ?_⟩
  by_cases hji : j = i
  · subst hji
    rw [step_self, step_self]
    exact hprocess
  · rw [step_of_ne P hji, step_of_ne P' hji]
    exact h.process j hj

/-- What does not concern the owner may be done in one of them only. -/
theorem Mirrors.step_other (h : Mirrors owner own P P') (hP : P.Parts owner own) (hi : ¬own i) :
    Mirrors owner own (P.step i) P' := by
  obtain ⟨clock, hkeeps⟩ := hP.outside i hi
  refine ⟨h.book.trans (Process.book_step hkeeps P.tables).symm, fun j hj => ?_⟩
  have hji : j ≠ i := fun heq => hi (heq ▸ hj)
  rw [step_of_ne P hji]
  exact h.process j hj

/-- What concerns the contacts of an owner goes on by itself: the turns of others may be left
    out. -/
theorem Mirrors.play (h : Mirrors owner own P P') (hP : P.Parts owner own)
    (hP' : P'.Parts owner own) {kept : ι → Bool} (hkept : ∀ i, own i → kept i = true)
    (turns : List ι) : Mirrors owner own (P.play turns) (P'.play (turns.filter kept)) := by
  induction turns generalizing P P' with
  | nil => exact h
  | cons i turns ih =>
    by_cases hi : own i
    · rw [List.filter_cons_of_pos (hkept i hi)]
      exact ih (h.step_own hP hi) (hP.step i) (hP'.step i)
    · have hleft := h.step_other hP hi
      by_cases hk : kept i = true
      · rw [List.filter_cons_of_pos hk]
        exact ih (hleft.symm.step_other hP' hi).symm (hP.step i) (hP'.step i)
      · rw [List.filter_cons_of_neg hk]
        exact ih hleft (hP.step i) hP'

end Pool

/-! ## What the functions ask -/

/-- Whatever is written in the name of another caller leaves an owner's contacts alone. -/
theorem Query.IsBy.offBook {caller owner : Text} (hne : caller ≠ owner) {q : Query}
    (h : q.IsBy caller) : q.IsAmong (StoreCall.OffBook owner) := by
  have hother {v : Value} (hv : v = .str caller) : v ≠ .str owner := by
    rw [hv]
    exact fun heq => hne (Value.str.inj heq)
  cases q with
  | store call =>
    cases call with
    | putContact item => exact hother h
    | deleteContact o digest => exact hother h
    | _ => trivial
  | _ => trivial

namespace Function
variable {f : Function} {event : Value} {owner : Text} {clock : Instant}

/-- The functions for contacts. -/
def contacts : List Function := [contactGet, contactRemove, contactUpsert]

/-- A function for contacts asks about the contacts of its caller and no others. -/
theorem contacts_poses (hf : f ∈ contacts) (context : Value)
    (h : ∀ request, Request.ofEvent event = .ok request → request.caller = owner) :
    (f.invoke event context).Poses (Query.InBook owner) := by
  have hP : Query.HasIdle (Query.InBook owner) := by
    intro q hq
    cases q with
    | store call => cases hq
    | service name => cases hq
    | _ => exact hq
  refine invoke_poses_of_idle hP fun request haccept => ?_
  obtain rfl := h request (Request.ofEvent_of_accept haccept)
  simp only [contacts, List.mem_cons, List.not_mem_nil, or_false] at hf
  rcases hf with rfl | rfl | rfl
  · exact contactGet_poses hP rfl (fun _ => rfl) rfl
  · exact contactRemove_poses hP rfl fun _ => rfl
  · exact contactUpsert_poses hP rfl fun _ => id

/-- All other calls of the functions leave an owner's contacts alone. -/
theorem others_asks (hf : f ∈ all) (context : Value)
    (h : f ∉ contacts ∨ ∀ request, Request.ofEvent event = .ok request → request.caller ≠ owner) :
    (f.invoke event context).Asks clock (StoreCall.OffBook owner) := by
  refine invoke_asks fun request haccept => Poses.asks ?_
  rcases h with hno | hne
  · have hP : Query.HasHarmless (Query.IsAmong (StoreCall.OffBook owner)) := by
      refine Query.hasHarmless_isAmong fun call hread => ?_
      cases call with
      | putContact item => cases hread
      | deleteContact o digest => cases hread
      | _ => trivial
    have hsend (s : Signal) (_ : s.sender = .str request.caller) (q : Query) (h : q.Sends s) :
        q.IsAmong (StoreCall.OffBook owner) := by
      cases q with
      | store call => cases h
      | _ => trivial
    simp only [all, List.mem_cons, List.not_mem_nil, or_false] at hf
    rcases hf with rfl | rfl | rfl | rfl | rfl | rfl | rfl
    · exact chatAnswer_poses hP.hasQuiet hsend
    · exact chatOffer_poses hP.hasQuiet hsend
    · exact absurd (by simp [contacts]) hno
    · exact absurd (by simp [contacts]) hno
    · exact absurd (by simp [contacts]) hno
    · exact identityGet_poses hP
    · exact identityRegister_poses hP fun _ _ _ _ => trivial
  · have hcaller := hne request (Request.ofEvent_of_accept haccept)
    exact (run_poses hf request).mono fun q hq => hq.offBook hcaller

end Function

/-! ## Runs of calls -/

/-- A call of a function, in a world of its own in all but the tables. -/
structure Invocation where
  function : Function
  event : Value
  context : Value
  world : World

namespace Invocation

/-- The call as a process. -/
def process (c : Invocation) : Process Value := ⟨c.world, c.function.invoke c.event c.context⟩

/-- Who makes the call, if anybody is authenticated. -/
def caller? (c : Invocation) : Option Text :=
  (Request.ofEvent c.event).toOption.map (·.caller)

/-- One of the functions is called, and nobody writes to the tables in the name of the call. -/
structure IsServed (c : Invocation) : Prop where
  known : c.function ∈ Function.all
  alone : c.world.intruders = []

/-- An owner makes a call for contacts. -/
def IsOwn (owner : Text) (c : Invocation) : Prop :=
  c.caller? = some owner ∧ c.function ∈ Function.contacts

/-- The same call is made again, in a world that is the same to whoever asks about contacts.  Other
    services may have been asked for in the meantime, and other signals sent. -/
structure Repeats (c c' : Invocation) : Prop where
  same : c' = { c with world := c'.world }
  world : c.world.Resembles c'.world

variable {c c' : Invocation}

theorem caller_eq {request : Request} (h : Request.ofEvent c.event = .ok request) :
    c.caller? = some request.caller := by
  rw [caller?, h]
  rfl

namespace Repeats
variable (h : c.Repeats c')
include h

theorem isOwn_eq (owner : Text) : c'.IsOwn owner = c.IsOwn owner := by rw [h.same]; rfl

theorem mirrors : c.process.Mirrors c'.process := ⟨by rw [process, process, h.same], h.world⟩

end Repeats

end Invocation

/-- Calls of functions on the same tables. -/
def Pool.serving {ι : Type} (t : Tables) (calls : ι → Invocation) : Pool ι Value :=
  ⟨t, fun i => (calls i).process⟩

/-- How a process of a pool has ended, if it has. -/
def Pool.outcome? {ι α : Type} (P : Pool ι α) (i : ι) : Option (Except Failure α) :=
  (P.processes i).outcome?

namespace Invocation

section
variable {ι : Type} {calls calls' : ι → Invocation} {owner : Text}

theorem serving_parts (h : ∀ i, (calls i).IsServed) (t : Tables) (owner : Text) :
    (Pool.serving t calls).Parts owner fun i => (calls i).IsOwn owner where
  inside i hi := by
    refine Function.contacts_poses hi.2 _ fun request hrequest => ?_
    exact Option.some.inj ((caller_eq hrequest).symm.trans hi.1)
  outside i hi := by
    refine ⟨(calls i).world.clock, ?_, rfl, (h i).alone⟩
    refine Function.others_asks (h i).known _ ?_
    by_cases hf : (calls i).function ∈ Function.contacts
    · refine Or.inr fun request hrequest hcaller => hi ⟨?_, hf⟩
      rw [caller_eq hrequest, hcaller]
    · exact Or.inl hf

/-- **Contact books are private.**  From any run of calls, whatever their order, leave out the calls
    of others, some or all of them, and make the rest of the calls again in the same order.  Every
    call for contacts that the owner makes ends as it did, and with the same answer. -/
theorem contacts_private [DecidableEq ι] (h : ∀ i, (calls i).IsServed)
    (h' : ∀ i, (calls' i).IsServed) (hagain : ∀ i, (calls i).Repeats (calls' i)) (t : Tables)
    (turns : List ι) {kept : ι → Bool} (hkept : ∀ i, (calls i).IsOwn owner → kept i = true) {i : ι}
    (hi : (calls i).IsOwn owner) : ((Pool.serving t calls').play (turns.filter kept)).outcome? i =
      ((Pool.serving t calls).play turns).outcome? i := by
  have hparts' : (Pool.serving t calls').Parts owner fun i => (calls i).IsOwn owner := by
    simpa only [fun i => (hagain i).isOwn_eq owner] using serving_parts h' t owner
  have hmirrors : Pool.Mirrors owner (fun i => (calls i).IsOwn owner) (Pool.serving t calls)
      (Pool.serving t calls') := ⟨rfl, fun j _ => (hagain j).mirrors⟩
  have hplayed := hmirrors.play (serving_parts h t owner) hparts' hkept turns
  rw [Pool.outcome?, Process.outcome?, (hplayed.process i hi).program]
  rfl

end

/-- Two callers: one looks for a contact, and the other puts one at the same address. -/
def calls (container : Container) (puts : Bool) : Invocation where
  function := if puts then Function.contactUpsert else Function.contactGet
  event := if puts then Request.direct "bob" [("addr", .str "0x01"), ("name", .str "0x02")]
    else Request.direct "ann" [("addr", .str "0x01")]
  context := .null
  world := { blankWorld with container := container }

/-- A container in which the contact book was asked for. -/
def usedContainer : Container := (blankWorld.container.resolve (.str "contact_book")).2

/-- The contact is put between the two reads of the look-up. -/
def turns : List Bool :=
  List.replicate 4 false ++ List.replicate 9 true ++ List.replicate 4 false

/-- The look-up is answered as if nothing had been put, also where nobody has asked for the contact
    book before. -/
theorem lookup_private : let before := calls usedContainer; let again := calls blankWorld.container
    (∀ i, (before i).IsServed) ∧ (∀ i, (again i).IsServed) ∧ (∀ i, (before i).Repeats (again i)) ∧
    (before false).IsOwn "ann" ∧ (before true).caller? = some "bob" ∧
    ((Pool.serving .empty before).play turns).tables.contacts.length = 1 ∧
    (((Pool.serving .empty before).play turns).outcome? false).isSome = true ∧
    ((Pool.serving .empty again).play (turns.filter (!·))).outcome? false =
      ((Pool.serving .empty before).play turns).outcome? false := by
  intro before again
  have hserved (container : Container) (i : Bool) : (calls container i).IsServed := by
    refine ⟨?_, rfl⟩
    cases i <;> simp [calls, Function.all]
  have hagain (i : Bool) : (before i).Repeats (again i) := ⟨rfl, rfl, rfl, rfl, rfl⟩
  have hann : (before false).IsOwn "ann" := ⟨rfl, by simp [before, calls, Function.contacts]⟩
  have hbob : (before true).caller? = some "bob" := rfl
  have hkept (i : Bool) (hi : (before i).IsOwn "ann") : (!i) = true := by
    cases i with
    | false => rfl
    | true =>
      have hcaller := hi.1
      rw [hbob] at hcaller
      exact absurd (Option.some.inj hcaller) (by decide)
  exact ⟨hserved _, hserved _, hagain, hann, hbob, by decide +kernel, by decide +kernel,
    contacts_private (hserved _) (hserved _) hagain .empty turns hkept hann⟩

end Invocation

end Rendezvous
