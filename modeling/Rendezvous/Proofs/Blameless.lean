/-
  Requests that are good in themselves.

  An event that is answered with success where nothing is stored and nothing fails has no fault of
  its own.  Elsewhere it is blamed all the same where its function runs into a trap.

  * `Function.blames_iff_trapped`: exactly there is such an event blamed;
  * `Function.garbledRecord_blamed`: a stored record that cannot be decoded is such a trap.
-/
import Rendezvous.Proofs.Containment

namespace Rendezvous.Function

variable {f : Function} {service : Text} {trap : Trap} {w : World} {event context : Value}

/-- **A good request is blamed just for what its calls are replied.**  The response to an event
    that is answered with success where nothing is stored and nothing fails puts the blame on the
    request if and only if the exchanges with the store and the event bus were a trap. -/
theorem blames_iff_trapped (htraps : (f, service, trap) ∈ traps) (hplain : w.IsPlain)
    (hforeign : w.IsForeign) (hwired : w.IsWired)
    (hgood : Handler.Succeeds event ((f.invoke event context).run w.calm).1) :
    ∃ request answer response,
      Request.accept (Request.require f.required) event = .ok request ∧
      ((f.invoke event context).run w).1 = .ok answer ∧
      Handler.deliver event response = .ok answer ∧
      (Response.Blames response ↔
        trap request (w.tableNames service) ((f.invoke event context).exchanges w)) := by
  have hf : f ∈ all := by
    rw [← traps_functions]
    exact List.mem_map.2 ⟨_, htraps, rfl⟩
  have hanswers := invoke_answers (p := ⟨w, []⟩) htraps hwired rfl rfl event context
  obtain ⟨response, hresponse, hdelivers⟩ := Passage.ensures_run hforeign hanswers
  obtain ⟨answer, hanswer, -⟩ | ⟨e, -, hno⟩ := (invoke_returns hf event context).run hplain
  · -- what fails without a call fails where nothing is stored, too
    have hcalled {e : Failure} {now : Instant} (htold : response = Handler.told handlerName now e) :
        (f.invoke event context).exchanges w ≠ [] := by
      intro hnone
      rw [Act.run_calm hnone] at hgood
      refine Handler.not_succeeds hdelivers ?_ hgood
      rw [htold]
      exact Handler.succeeded_told handlerName now e
    cases hresponse with
    | carriedOut haccept hcarried hno =>
      obtain ⟨data, metadata, rfl⟩ := hcarried
      refine ⟨_, answer, _, haccept, hanswer, hdelivers answer hanswer, iff_of_false ?_ hno⟩
      exact fun hblames => Bool.noConfusion hblames.1
    | refused _ _ hnone htold => exact (hcalled htold hnone).elim
    | failed haccept _ hblames htold =>
      refine ⟨_, answer, response, haccept, hanswer, hdelivers answer hanswer, ?_⟩
      rw [htold]
      exact Handler.blames_told.trans (hblames (hcalled htold))
  · exact hno.elim

/-- Looking up the caller's own registration. -/
def lookup : Value := .obj [("caller", .str "ann")]

/-- A world where the record of that caller has an address that is not hexadecimal. -/
def garbledWorld : World :=
  { blankWorld with
    tables := blankWorld.tables.putIdentity (.text "ann") ⟨.str "ann", some "zz", none, none, []⟩ }

/-- The reply is a trap, and the request is blamed for it. -/
theorem garbledRecord_trapped :
    (identityGet, Text.ofString "identity_registry", undecodable) ∈ traps ∧
    garbledWorld.IsPlain ∧ garbledWorld.IsForeign ∧ garbledWorld.IsWired ∧
    Handler.Succeeds lookup ((identityGet.invoke lookup .null).run garbledWorld.calm).1 ∧
    ∃ request response, ((identityGet.invoke lookup .null).run garbledWorld).1 = .ok response ∧
      Response.Blames response ∧
      undecodable request (garbledWorld.tableNames "identity_registry")
        ((identityGet.invoke lookup .null).exchanges garbledWorld) := by
  have htraps : (identityGet, Text.ofString "identity_registry", undecodable) ∈ traps := by
    simp [traps]
  have hplain : garbledWorld.IsPlain := by
    constructor <;> exact List.forall_mem_nil _
  have hforeign : garbledWorld.IsForeign := by
    constructor <;> intro _ h <;> cases h
  have hwired : garbledWorld.IsWired := List.forall_mem_nil _
  have hgood : Handler.Succeeds lookup ((identityGet.invoke lookup .null).run garbledWorld.calm).1 :=
    ⟨_, _, rfl, (Response.delivered_iff rfl).2 rfl, rfl⟩
  obtain ⟨request, answer, response, -, hanswer, hdeliver, hiff⟩ :=
    blames_iff_trapped htraps hplain hforeign hwired hgood
  obtain rfl : response = answer := Except.ok.inj hdeliver
  have hblames : Response.Blames response := by
    obtain rfl := Except.ok.inj (hanswer.symm.trans rfl)
    exact ⟨rfl, Or.inl rfl⟩
  exact ⟨htraps, hplain, hforeign, hwired, hgood, request, response, hanswer, hblames,
    hiff.1 hblames⟩

/-- The registration cannot be read, and the request that asks for it is blamed. -/
theorem garbledRecord_blamed :
    Handler.Succeeds lookup ((identityGet.invoke lookup .null).run garbledWorld.calm).1 ∧
    garbledWorld.faults = [] ∧ garbledWorld.replies = [] ∧
    ∃ response, ((identityGet.invoke lookup .null).run garbledWorld).1 = .ok response ∧
      Response.Blames response := by
  have hgood : Handler.Succeeds lookup ((identityGet.invoke lookup .null).run garbledWorld.calm).1 :=
    ⟨_, _, rfl, (Response.delivered_iff rfl).2 rfl, rfl⟩
  exact ⟨hgood, rfl, rfl, _, rfl, rfl, Or.inl rfl⟩

end Rendezvous.Function
