/-
  What the log tells of an event.

  The start of a call is logged with the fields of its event.  The values of some fields are kept
  out of the line, whatever they are; but the body of a gateway event is a text among others, and
  the line shows every letter of it, of whatever fields it is made up.

  * `Log.Veiled`: events that differ only in what is redacted;
  * `Json.print_obj_inj`: an object shows how each of its values is written;
  * `Log.startLine_body_iff`: lines of gateway events differ just where the bodies do;
  * `Log.startLine_reveals`: what a line hides, and what it does not.
-/
import Rendezvous.Dispatch.Request
import Rendezvous.Diagnosis
import Rendezvous.Proofs.Reading
import Rendezvous.World

namespace Rendezvous

/-! ## Objects as they are written -/

/-- A piece stands between what is before it and after it, whatever it is. -/
theorem Text.joinWith_context (separator : Text) (before after : List Text) :
    ∃ left right : Text, ∀ piece,
      joinWith separator (before ++ piece :: after) = left ++ piece ++ right := by
  induction before with
  | nil =>
    cases after with
    | nil => exact ⟨[], [], fun piece => by simp [joinWith]⟩
    | cons next after =>
      refine ⟨[], separator ++ joinWith separator (next :: after), fun piece => ?_⟩
      simp [joinWith]
  | cons first before ih =>
    obtain ⟨left, right, h⟩ := ih
    refine ⟨first ++ separator ++ left, right, fun piece => ?_⟩
    have hcons (pieces : List Text) (hne : pieces ≠ []) :
        joinWith separator (first :: pieces) = first ++ separator ++ joinWith separator pieces := by
      cases pieces with
      | nil => exact absurd rfl hne
      | cons _ _ => rfl
    rw [List.cons_append, hcons _ (by simp), h]
    simp

namespace Json

theorem printFields_append (o o' : Object) :
    printFields (o ++ o') = printFields o ++ printFields o' := by
  induction o with
  | nil => rfl
  | cons field o ih => simp [printFields, ih]

/-- Of two objects that differ in one value only, the text tells how that value is written. -/
theorem print_obj_inj (before after : Object) (key : Text) {v v' : Value} :
    print (.obj (before ++ (key, v) :: after)) = print (.obj (before ++ (key, v') :: after)) ↔
      print v = print v' := by
  obtain ⟨left, right, h⟩ :=
    Text.joinWith_context ", " (printFields before) (printFields after)
  simp [print, printFields_append, printFields, h]

end Json

namespace Log

/-! ## Redaction -/

/-- Whether the values of fields of a name are kept out of the log. -/
def isRedacted (key : Text) : Bool := redactedFields.contains key.foldWord

/-- Two fields of the same name, and with the same value unless it is redacted. -/
structure SameShown (field field' : Text × Value) : Prop where
  name : field'.1 = field.1
  value : isRedacted field.1 = false → field'.2 = field.2

/-- Two objects that differ only in what is redacted. -/
def Veiled (o o' : Object) : Prop := List.Forall₂ SameShown o o'

theorem SameShown.shownField {field field' : Text × Value} (h : SameShown field field') :
    shownField field'.1 field'.2 = shownField field.1 field.2 := by
  rw [h.name, Log.shownField, Log.shownField]
  cases hredacted : isRedacted field.1 with
  | true =>
    have hkey : redactedFields.contains field.1.foldWord = true := hredacted
    rw [if_pos hkey, if_pos hkey]
  | false => rw [h.value hredacted]

theorem Veiled.shownFields {o o' : Object} (h : Veiled o o') : shownFields o' = shownFields o := by
  induction h with
  | nil => rfl
  | @cons field field' o o' hfield _ ih =>
    have hshown : (field'.1, Log.shownField field'.1 field'.2) =
        (field.1, Log.shownField field.1 field.2) := Prod.ext hfield.name hfield.shownField
    exact congrArg₂ List.cons hshown ih

theorem Veiled.keys {o o' : Object} (h : Veiled o o') : Object.keys o' = Object.keys o := by
  induction h with
  | nil => rfl
  | cons hfield _ ih => exact congrArg₂ List.cons hfield.name ih

/-! ## The start of a call -/

/-- The line that the start of a call is logged by. -/
def startLine (function request : Value) (now : Instant) (environment : Value) (event : Object) :
    Text :=
  ((Note.started function (.obj event) request).entry (.str mainSource) []).line now environment

/-- An event with a text as its body, between other fields. -/
def withBody (before : Object) (t : Text) (after : Object) : Object :=
  before ++ ((Text.ofString "body", Value.str t) :: after)

variable (function request : Value) (now : Instant) (environment : Value)

/-- The fields of a line before the one that shows the event. -/
def callFields (event : Object) : Object :=
  [("timestamp", .str now.isoText), ("level", .str Level.info.name),
   ("service", .str mainSource), ("environment", environment),
   ("message", .str ("Lambda function " ++ function.display ++ " started")),
   ("function_name", function), ("request_id", request),
   ("event_keys", .arr ((Object.keys event).map .str))]

theorem startLine_eq (event : Object) : startLine function request now environment event =
    Json.print (.obj (callFields function request now environment event ++
      [(Text.ofString "event", Value.obj (shownFields event))])) := rfl

/-- What is redacted in an event does not show in its line. -/
theorem Veiled.startLine_eq {event event' : Object} (h : Veiled event event') :
    startLine function request now environment event' =
      startLine function request now environment event := by
  rw [Log.startLine_eq, Log.startLine_eq, h.shownFields, callFields, callFields, h.keys]

/-- The lines of two gateway events are the same just where their bodies are: not even the values
    of redacted fields are kept out of a body. -/
theorem startLine_body_iff {before before' after after' : Object} (hb : Veiled before before')
    (ha : Veiled after after') (t t' : Text) :
    startLine function request now environment (withBody before t after) =
        startLine function request now environment (withBody before' t' after') ↔
      t.joined = t'.joined := by
  have hshown (before after : Object) (t : Text) : shownFields (withBody before t after) =
      withBody (shownFields before) t (shownFields after) := by
    rw [shownFields, withBody, List.map_append, List.map_cons]
    rfl
  have hkeys : Object.keys (withBody before' t' after') =
      Object.keys (withBody before t after) := by
    have hnames (before after : Object) (t : Text) : Object.keys (withBody before t after) =
        Object.keys before ++ (Text.ofString "body" :: Object.keys after) := by
      rw [Object.keys, withBody, List.map_append, List.map_cons]
      rfl
    rw [hnames, hnames, hb.keys, ha.keys]
  rw [startLine_eq, startLine_eq, callFields, callFields, hkeys, Json.print_obj_inj, hshown, hshown,
    hb.shownFields, ha.shownFields, withBody, withBody, Json.print_obj_inj, Json.print, Json.print,
    Json.printText_inj]

/-- **What the log reveals.**  The line by which the start of a call is logged does not depend on
    the redacted fields of its event.  But the body of a gateway event it tells letter by letter, so
    that it depends on all fields of the request in it. -/
theorem startLine_reveals :
    (∀ event event' : Object, Veiled event event' →
      startLine function request now environment event' =
        startLine function request now environment event) ∧
    ∀ (before before' after after' : Object) (t t' : Text), Veiled before before' →
      Veiled after after' →
        (startLine function request now environment (withBody before t after) =
          startLine function request now environment (withBody before' t' after') ↔
        t.joined = t'.joined) :=
  ⟨fun _ _ h => h.startLine_eq function request now environment,
    fun _ _ _ _ t t' hb ha => startLine_body_iff function request now environment hb ha t t'⟩

theorem Veiled.refl (o : Object) : Veiled o o :=
  List.forall₂_same.2 fun _ _ => ⟨rfl, fun _ => rfl⟩

/-- An offer, as the body of a request. -/
def offer (payload : Text) : Object := [("offer", .str payload)]

/-- Two offers differ only in what is redacted. -/
theorem veiled_offer (payload payload' : Text) : Veiled (offer payload) (offer payload') := by
  refine .cons ⟨rfl, fun h => ?_⟩ .nil
  have hredacted : isRedacted "offer" = true := rfl
  rw [hredacted] at h
  cases h

/-- The gateway event of an offer, with its JSON text as the body. -/
def gatewayOffer (payload : Text) : Object := withBody [] (Json.print (.obj (offer payload)))
  [("requestContext", .obj [("authorizer", .obj [("claims", .obj [("sub", .str "ann")])])])]

/-- Offers of their own have one line, and their gateway events have two. -/
theorem offers_hidden : Veiled (offer "0x01") (offer "0x02") ∧
    startLine (.str "lambda_handler") .null ⟨0⟩ (.str "test") (offer "0x02") =
      startLine (.str "lambda_handler") .null ⟨0⟩ (.str "test") (offer "0x01") ∧
    startLine (.str "lambda_handler") .null ⟨0⟩ (.str "test") (gatewayOffer "0x02") ≠
      startLine (.str "lambda_handler") .null ⟨0⟩ (.str "test") (gatewayOffer "0x01") := by
  obtain ⟨hhidden, hbody⟩ := startLine_reveals (.str "lambda_handler") .null ⟨0⟩ (.str "test")
  refine ⟨veiled_offer _ _, hhidden _ _ (veiled_offer _ _), fun h => ?_⟩
  have hjoined := (hbody _ _ _ _ _ _ (.refl _) (.refl _)).1 h
  exact absurd hjoined (by decide)

/-- The body of a gateway event is the request in it, and its line tells one offer from another. -/
theorem offers_revealed :
    (∀ payload : Text, payload = "0x01" ∨ payload = "0x02" →
      Request.gatewayBody (gatewayOffer payload) = .ok (.obj (offer payload))) ∧
    Veiled (offer "0x01") (offer "0x02") ∧
    startLine (.str "lambda_handler") .null ⟨0⟩ (.str "test") (gatewayOffer "0x02") ≠
      startLine (.str "lambda_handler") .null ⟨0⟩ (.str "test") (gatewayOffer "0x01") := by
  refine ⟨?_, veiled_offer _ _, fun h => ?_⟩
  · rintro _ (rfl | rfl) <;> rfl
  · have hjoined := (startLine_body_iff _ _ _ _ (.refl _) (.refl _) _ _).1 h
    exact absurd hjoined (by decide)

end Log

end Rendezvous
