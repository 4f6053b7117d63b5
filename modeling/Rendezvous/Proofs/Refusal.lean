/-
  The refusal of a registration, as the table library tells it.

  The wording of a refusal is filled into a template that has the name of the table
  in it, so that a brace in the name would be taken for a field.

  * `Template.ofText` of literals and fields: `scan_literal_append`, `scan_field`;
  * `StoreCall.fill_refusalTemplate`: the wording of a refusal that has no brace in it;
  * `StoreCall.explain_cancelled`: a registration whose keys are not free is told as
    a failed transaction.
-/
import Mathlib.Tactic
import Rendezvous.Store.Tables

namespace Rendezvous

namespace Template

/-! ## Taking templates apart -/

/-- A text without braces goes on with the literal that it follows. -/
theorem scan_literal_append {t : Text} (h : ∀ c ∈ t, c.isBrace = false) (seen rest : Text) :
    scan (.literal seen) (t ++ rest) = scan (.literal (t.reverse ++ seen)) rest := by
  induction t generalizing seen with
  | nil => rfl
  | cons c t ih =>
    have hc : ¬c = CodePoint.openBrace ∧ ¬c = CodePoint.closeBrace := by
      simpa [CodePoint.isBrace] using h c (by simp)
    have ih := ih (fun d hd => h d (by simp [hd])) (c :: seen)
    simp [scan, step, hc.1, hc.2, after, ih]

/-- A code point that stands for itself in a path. -/
def isPlain (c : CodePoint) : Bool := !c.isBrace && c ≠ '[' && c ≠ ':' && c ≠ '!'

theorem step_plain {c : CodePoint} (h : isPlain c = true) (seen : Text) :
    step c (.path seen) = .ok ([], .path (c :: seen)) ∧
      step c (.opening seen) = .ok (literals seen, .path [c]) := by
  simp only [isPlain, CodePoint.isBrace, Bool.and_eq_true, Bool.not_eq_true', Bool.or_eq_false_iff,
    decide_eq_true_eq, decide_eq_false_iff_not] at h
  obtain ⟨⟨⟨⟨hopen, hclose⟩, h1⟩, h2⟩, h3⟩ := h
  constructor <;> simp [step, stepPath, hopen, hclose, h1, h2, h3, Except.map]

theorem scan_path {t : Text} (h : ∀ c ∈ t, isPlain c = true) (seen rest : Text) :
    scan (.path seen) (t ++ CodePoint.closeBrace :: rest) =
      (scan (.literal []) rest).after [.field (seen.reverse ++ t) none []] := by
  induction t generalizing seen with
  | nil =>
    have hne : ¬CodePoint.closeBrace = CodePoint.openBrace := by decide
    simp [scan, step, stepPath, hne]
  | cons c t ih =>
    have ih := ih (fun d hd => h d (by simp [hd])) (c :: seen)
    simp [scan, (step_plain (h c (by simp)) seen).1, after, ih]

/-- A field ends the literal that it follows. -/
theorem scan_field {t : Text} (h : ∀ c ∈ t, isPlain c = true) (hne : t ≠ []) (seen rest : Text) :
    scan (.literal seen) (CodePoint.openBrace :: t ++ CodePoint.closeBrace :: rest) =
      (scan (.literal []) rest).after (literals seen ++ [.field t none []]) := by
  obtain ⟨c, t, rfl⟩ := List.exists_cons_of_ne_nil hne
  have hopen : step CodePoint.openBrace (.literal seen) = .ok ([], .opening seen) := by
    simp [step]
  have ht : ∀ d ∈ t, isPlain d = true := fun d hd => h d (by simp [hd])
  have hpath := scan_path ht [c] rest
  simp [scan, hopen, (step_plain (h c (by simp)) seen).2, after, hpath]

/-- A template can be filled in if each piece of it can. -/
theorem exists_fill {values : Object} {t : Text} {pieces : List Piece}
    (h : ofText t = ⟨pieces, none⟩)
    (hpieces : ∀ p ∈ pieces, ∃ text, fillPiece values (fillTo values 1) p = .ok text) :
    ∃ text, fill values t = .ok text := by
  obtain ⟨parts, hparts⟩ :
      ∃ parts, pieces.mapM (fillPiece values (fillTo values 1)) = .ok parts := by
    clear h
    induction pieces with
    | nil => exact ⟨[], rfl⟩
    | cons p pieces ih =>
      obtain ⟨text, htext⟩ := hpieces p (by simp)
      obtain ⟨parts, hparts⟩ := ih fun p hp => hpieces p (by simp [hp])
      exact ⟨text :: parts, by rw [List.mapM_cons, htext, hparts]; rfl⟩
  refine ⟨parts.flatten, ?_⟩
  rw [fill, fillTo, h]
  simp only [hparts]
  rfl

end Template

namespace StoreCall

variable {names : TableNames} {call : StoreCall} {request : Text}

/-! ## The wording of refusals -/

/-- The template of a refusal, its fields set apart. -/
theorem refusalTemplate_eq : refusalTemplate names call request =
    Text.ofString "An error occurred (" ++
      (CodePoint.openBrace :: Text.ofString "error_code" ++ CodePoint.closeBrace ::
        (Text.ofString ") on request (" ++ (request ++ (Text.ofString ") on table (" ++
          (call.table names ++ (Text.ofString ") when calling the " ++
            (CodePoint.openBrace :: Text.ofString "operation_name" ++ CodePoint.closeBrace ::
              (Text.ofString " operation: " ++
                (CodePoint.openBrace :: Text.ofString "error_message" ++
                  CodePoint.closeBrace :: []))))))))) := by
  have hstart : Text.ofString "An error occurred (\x7berror_code\x7d) on request (" =
      Text.ofString "An error occurred (" ++ CodePoint.openBrace ::
        (Text.ofString "error_code" ++ CodePoint.closeBrace :: Text.ofString ") on request (") := rfl
  have hend : Text.ofString
        ") when calling the \x7boperation_name\x7d operation: \x7berror_message\x7d" =
      Text.ofString ") when calling the " ++ CodePoint.openBrace ::
        (Text.ofString "operation_name" ++ CodePoint.closeBrace ::
          (Text.ofString " operation: " ++ CodePoint.openBrace ::
            (Text.ofString "error_message" ++ CodePoint.closeBrace :: []))) := rfl
  simp only [refusalTemplate, hstart, hend, List.append_assoc, List.cons_append]

section
variable (ht : ∀ c ∈ call.table names, c.isBrace = false) (hr : ∀ c ∈ request, c.isBrace = false)
include ht hr

theorem ofText_refusalTemplate :
    ∃ t, Template.ofText (refusalTemplate names call request) =
      ⟨[.literal "An error occurred (", .field "error_code" none [], .literal t,
        .field "operation_name" none [], .literal " operation: ",
        .field "error_message" none []], none⟩ := by
  have plain : ∀ t ∈ [Text.ofString "An error occurred (", Text.ofString ") on request (",
      Text.ofString ") on table (", Text.ofString ") when calling the ",
      Text.ofString " operation: "], ∀ c ∈ t, c.isBrace = false := by
    simp only [List.forall_mem_cons, ← List.all_eq_true, ← Bool.not_eq_true']
    exact ⟨rfl, rfl, rfl, rfl, rfl, by simp⟩
  have name : ∀ t ∈ [Text.ofString "error_code", Text.ofString "operation_name",
      Text.ofString "error_message"], (∀ c ∈ t, Template.isPlain c = true) ∧ t ≠ [] := by
    simp only [List.forall_mem_cons, ← List.all_eq_true]
    exact ⟨⟨rfl, by simp [Text.ofString]⟩, ⟨rfl, by simp [Text.ofString]⟩,
      ⟨rfl, by simp [Text.ofString]⟩, by simp⟩
  obtain ⟨n1, e1⟩ := name (Text.ofString "error_code") (by simp)
  obtain ⟨n2, e2⟩ := name (Text.ofString "operation_name") (by simp)
  obtain ⟨n3, e3⟩ := name (Text.ofString "error_message") (by simp)
  rw [Template.ofText, refusalTemplate_eq, Template.scan_literal_append (plain _ (by simp)),
    Template.scan_field n1 e1, Template.scan_literal_append (plain _ (by simp)),
    Template.scan_literal_append hr, Template.scan_literal_append (plain _ (by simp)),
    Template.scan_literal_append ht, Template.scan_literal_append (plain _ (by simp)),
    Template.scan_field n2 e2, Template.scan_literal_append (plain _ (by simp)),
    Template.scan_field n3 e3]
  simp [Template.after, Template.scan, Template.finish, Template.literals, Text.ofString]

/-- Where neither the name of the table nor the identifier of the request has a brace in it, the
    template is filled in, whatever the code and the message of the refusal. -/
theorem fill_refusalTemplate (r : Refusal) : ∃ text,
    Template.fill (call.refusalFields r) (refusalTemplate names call request) = .ok text := by
  obtain ⟨t, htemplate⟩ := ofText_refusalTemplate ht hr
  refine Template.exists_fill htemplate ?_
  simp only [List.forall_mem_cons]
  exact ⟨⟨_, rfl⟩, ⟨_, rfl⟩, ⟨_, rfl⟩, ⟨_, rfl⟩, ⟨_, rfl⟩, ⟨_, rfl⟩, by simp⟩

end

/-! ## Registrations whose keys are not free -/

variable {record : IdentityItem} {binding : BindingItem}

/-- The refusal of a registration whose keys are not free. -/
def cancellation : Refusal :=
  .make (.str "TransactionCanceledException")
    (.str "Transaction cancelled, please refer cancellation reasons for specific reasons")
    "TransactWriteItems"

/-- A registration whose keys are not free is told as a failed transaction. -/
theorem explain_cancelled (h : ∀ c ∈ names.identities, c.isBrace = false) :
    (StoreCall.register record binding).explain names Tables.cancelled =
      .table .transactWrite "Failed to write transaction items" := by
  have htable : ∀ c ∈ (StoreCall.register record binding).table names, c.isBrace = false := h
  obtain ⟨text, htext⟩ := fill_refusalTemplate htable (List.forall_mem_nil _) cancellation
  have hcause : cause names (.register record binding) (.refused cancellation) = .ok text := htext
  have hcancelled : Tables.cancelled = .remote (.refused cancellation) := rfl
  rw [hcancelled, explain]
  simp only [hcause]
  rfl

end StoreCall

end Rendezvous
