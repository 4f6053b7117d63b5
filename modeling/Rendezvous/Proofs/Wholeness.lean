/-
  What is read from JSON text holds whole texts only.

  A scan joins the halves of a surrogate pair that are escaped one after the other.  So from a text
  without surrogates no text is read in which two halves are left apart, and no value with such a
  text in it, at any depth.

  * `Value.Texts`: a property of all texts in a value; `parse_texts`: a value has those of the tokens
    that it is read from;
  * `scanFrom_whole`: the tokens of a text without surrogates hold whole texts;
  * `parse_whole`: so does the value that is read from it.
-/
import Rendezvous.Proofs.Attribution
import Rendezvous.Proofs.Reading

namespace Rendezvous

open Json

/-! ## Texts in values -/

/-- Every text in a value has a property; the names of fields do not count. -/
inductive Value.Texts (P : Text → Prop) : Value → Prop
  | null : Texts P .null
  | bool (b : Bool) : Texts P (.bool b)
  | int (n : Int) : Texts P (.int n)
  | float (x : Binary64) : Texts P (.float x)
  | str {t : Text} : P t → Texts P (.str t)
  | bytes (b : Bytes) : Texts P (.bytes b)
  | arr {items : List Value} : (∀ x ∈ items, Texts P x) → Texts P (.arr items)
  | obj {fields : Object} : (∀ field ∈ fields, Texts P field.2) → Texts P (.obj fields)

/-- Every text in a field of an object has a property. -/
def Object.Texts (P : Text → Prop) (o : Object) : Prop := ∀ field ∈ o, field.2.Texts P

variable {P : Text → Prop}

namespace Object

theorem Texts.put {o : Object} {key : Text} {v : Value} (h : o.Texts P) (hv : v.Texts P) :
    (o.put key v).Texts P := by
  induction o with
  | nil =>
    intro field hfield
    rw [List.mem_singleton.1 hfield]
    exact hv
  | cons entry o ih =>
    have hentry := h entry (by simp)
    have hrest : Texts P o := fun field hfield => h field (by simp [hfield])
    intro field hfield
    rw [Object.put] at hfield
    split at hfield <;> rcases List.mem_cons.1 hfield with rfl | hfield
    · exact hv
    · exact hrest field hfield
    · exact hentry
    · exact ih hrest field hfield

theorem Texts.field? {o : Object} {key : Text} {v : Value} (h : o.Texts P)
    (hv : o.field? key = some v) : v.Texts P := by
  induction o with
  | nil => cases hv
  | cons entry o ih =>
    rw [Object.field?] at hv
    split at hv
    · obtain rfl := Option.some.inj hv
      exact h entry (by simp)
    · exact ih (fun field hfield => h field (by simp [hfield])) hv

end Object

namespace Json

/-! ## The parser -/

/-- The text of a token has a property. -/
def Token.Texts (P : Text → Prop) : Token → Prop
  | .text t => P t
  | .constant v => v.Texts P
  | _ => True

/-- The texts of what is open have a property. -/
def Frame.Texts (P : Text → Prop) : Frame → Prop
  | .list rev => ∀ x ∈ rev, x.Texts P
  | .field before _ => before.Texts P

/-- The texts of what has been read have a property. -/
def Expectation.Texts (P : Text → Prop) : Expectation → Prop
  | .key before => before.Texts P
  | .colon before _ => before.Texts P
  | .next v => v.Texts P
  | _ => True

theorem Numeral.value_texts {n : Numeral} {v : Value} (h : n.value = .ok v) : v.Texts P := by
  unfold Numeral.value at h
  split_ifs at h
  · rw [← Except.ok.inj h]
    exact .int _
  · rw [← Except.ok.inj h]
    exact .float _

theorem startValue_texts {stack stack' : List Frame} {token : Token} {expected : Expectation}
    (ht : token.Texts P) (hs : ∀ frame ∈ stack, frame.Texts P)
    (h : startValue stack token = .ok (expected, stack')) :
    expected.Texts P ∧ ∀ frame ∈ stack', frame.Texts P := by
  cases token with
  | openList =>
    rw [startValue] at h
    split_ifs at h
    cases h
    exact ⟨trivial, List.forall_mem_cons.2 ⟨List.forall_mem_nil _, hs⟩⟩
  | openObject =>
    rw [startValue] at h
    split_ifs at h
    cases h
    exact ⟨trivial, hs⟩
  | text t =>
    cases h
    exact ⟨.str ht, hs⟩
  | constant v =>
    cases h
    exact ⟨ht, hs⟩
  | number n =>
    rw [startValue] at h
    obtain ⟨v, hv, h⟩ := Except.bind_eq_ok.1 h
    cases h
    exact ⟨Numeral.value_texts hv, hs⟩
  | _ => cases h

theorem afterValue_texts {v : Value} {stack stack' : List Frame} {token : Token}
    {expected : Expectation} (hv : v.Texts P) (hs : ∀ frame ∈ stack, frame.Texts P)
    (h : afterValue v stack token = .ok (expected, stack')) :
    expected.Texts P ∧ ∀ frame ∈ stack', frame.Texts P := by
  unfold afterValue at h
  split at h
  · cases h
    obtain ⟨hrev, hs⟩ := List.forall_mem_cons.1 hs
    exact ⟨trivial, List.forall_mem_cons.2 ⟨List.forall_mem_cons.2 ⟨hv, hrev⟩, hs⟩⟩
  · cases h
    obtain ⟨hrev, hs⟩ := List.forall_mem_cons.1 hs
    refine ⟨.arr fun x hx => ?_, hs⟩
    rcases List.mem_cons.1 (List.mem_reverse.1 hx) with rfl | hx
    · exact hv
    · exact hrev x hx
  · cases h
    obtain ⟨hbefore, hs⟩ := List.forall_mem_cons.1 hs
    exact ⟨hbefore.put hv, hs⟩
  · cases h
    obtain ⟨hbefore, hs⟩ := List.forall_mem_cons.1 hs
    exact ⟨.obj (hbefore.put hv), hs⟩
  · cases h

theorem step_texts {expected expected' : Expectation} {stack stack' : List Frame} {token : Token}
    (he : expected.Texts P) (hs : ∀ frame ∈ stack, frame.Texts P) (ht : token.Texts P)
    (h : step expected stack token = .ok (expected', stack')) :
    expected'.Texts P ∧ ∀ frame ∈ stack', frame.Texts P := by
  unfold step at h
  split at h
  · exact startValue_texts ht hs h
  · cases h
    exact ⟨.arr (List.forall_mem_nil _), (List.forall_mem_cons.1 hs).2⟩
  · exact startValue_texts ht hs h
  · cases h
    exact ⟨.obj (List.forall_mem_nil _), hs⟩
  · cases h
    exact ⟨List.forall_mem_nil _, hs⟩
  · cases h
    exact ⟨he, hs⟩
  · cases h
    exact ⟨trivial, List.forall_mem_cons.2 ⟨he, hs⟩⟩
  · exact afterValue_texts he hs h
  · cases h

/-- The texts of a value are those of the tokens that it is read from. -/
theorem run_texts {expected : Expectation} {stack : List Frame} {tokens : List Token} {v : Value}
    (he : expected.Texts P) (hs : ∀ frame ∈ stack, frame.Texts P)
    (ht : ∀ token ∈ tokens, token.Texts P) (h : run expected stack tokens = .ok v) :
    v.Texts P := by
  induction tokens generalizing expected stack with
  | nil =>
    cases stack with
    | nil =>
      cases expected with
      | next v =>
        cases h
        exact he
      | _ => cases h
    | cons frame stack => cases expected <;> cases h
  | cons token tokens ih =>
    rw [run] at h
    obtain ⟨htoken, ht⟩ := List.forall_mem_cons.1 ht
    split at h
    · rename_i hstep
      obtain ⟨he, hs⟩ := step_texts he hs htoken hstep
      exact ih he hs ht h
    · cases h

theorem parse_texts {t : Text} {v : Value} (ht : ∀ token ∈ Token.scan t, token.Texts P)
    (h : parse t = .ok v) : v.Texts P := by
  have start : Expectation.value.Texts P := trivial
  exact run_texts start (List.forall_mem_nil _) ht h

/-! ## The scan -/

namespace Token

/-- What has been read of a string is whole, and ends in a first half only if the scan has noticed
    that. -/
def Scan.IsWhole : Scan → Prop
  | .text rev half | .escape rev half | .digits rev half _ _ =>
    Text.IsWhole rev.reverse ∧ (half = false → ∀ c ∈ rev.head?, c.isHighSurrogate = false)
  | _ => True

theorem isWhole_cons {rev : Text} {c : CodePoint} (h : Text.IsWhole rev.reverse)
    (apart : ∀ high ∈ rev.head?, ¬(high.isHighSurrogate = true ∧ c.isLowSurrogate = true)) :
    Text.IsWhole (c :: rev).reverse := by
  rw [Text.IsWhole, List.isChain_reverse] at h ⊢
  cases rev with
  | nil => exact List.isChain_singleton c
  | cons high rev => exact List.isChain_cons_cons.2 ⟨apart high rfl, h⟩

theorem isWhole_of_cons {rev : Text} {c : CodePoint} (h : Text.IsWhole (c :: rev).reverse) :
    Text.IsWhole rev.reverse := by
  rw [Text.IsWhole, List.isChain_reverse] at h ⊢
  exact h.of_cons

/-- A code point that is no half of a pair leaves a string whole. -/
theorem Scan.isWhole_push {rev : Text} {c : CodePoint} (h : Text.IsWhole rev.reverse)
    (hc : c.isSurrogate = false) : (Scan.text (c :: rev) false).IsWhole := by
  constructor
  · refine isWhole_cons h fun high _ hpair => ?_
    rw [CodePoint.not_low_of_not_surrogate hc] at hpair
    exact Bool.false_ne_true hpair.2
  · rintro - d hd
    obtain rfl := Option.some.inj hd
    exact CodePoint.not_high_of_not_surrogate hc

theorem isSurrogate_ofNat {n : Nat} (h : 0x10000 ≤ n) :
    (CodePoint.ofNat n).isSurrogate = false := by
  unfold CodePoint.ofNat
  split
  · simp [CodePoint.isSurrogate]
    omega
  · rfl

theorem Scan.isWhole_afterEscape {rev : Text} {half : Bool} (h : Text.IsWhole rev.reverse)
    (hhalf : half = false → ∀ c ∈ rev.head?, c.isHighSurrogate = false) (c : CodePoint) :
    (Scan.afterEscape rev half c).IsWhole := by
  unfold Scan.afterEscape
  split
  next hpair =>
    obtain ⟨-, hlow⟩ : half = true ∧ c.isLowSurrogate = true := by simpa using hpair
    cases rev with
    | nil =>
      refine ⟨List.isChain_singleton c, ?_⟩
      rintro - d hd
      obtain rfl := Option.some.inj hd
      cases hhigh : c.isHighSurrogate with
      | false => rfl
      | true => rw [CodePoint.not_low_of_high hhigh] at hlow; cases hlow
    | cons high rev => exact isWhole_push (isWhole_of_cons h) (isSurrogate_ofNat (by omega))
  next hapart =>
    refine ⟨isWhole_cons h fun high hhead hpair => ?_, ?_⟩
    · have hfalse : half = false := by simpa [hpair.2] using hapart
      rw [hhalf hfalse high hhead] at hpair
      exact Bool.false_ne_true hpair.1
    · intro hfalse d hd
      obtain rfl := Option.some.inj hd
      exact hfalse

theorem isSurrogate_of_letterEscape {c d : CodePoint} (h : letterEscape? c = some d) :
    d.isSurrogate = false := by
  unfold letterEscape? at h
  split_ifs at h with hself
  · obtain rfl := Option.some.inj h
    have hself : (c = CodePoint.quotationMark ∨ c = CodePoint.backslash) ∨
      c = CodePoint.ofChar '/' := by simpa using hself
    rcases hself with (rfl | rfl) | rfl <;> rfl
  all_goals
    obtain rfl := Option.some.inj h
    rfl

theorem ofWord_texts (P : Text → Prop) (word : Text) : ∀ token ∈ ofWord word, token.Texts P := by
  have hconstants : ∀ entry ∈ constants, entry.2.Texts P := by
    intro entry hentry
    simp only [constants, List.mem_cons, List.not_mem_nil, or_false] at hentry
    rcases hentry with rfl | rfl | rfl | rfl | rfl | rfl <;> constructor
  unfold ofWord
  split
  next v hv =>
    obtain ⟨before, after, hsplit, -⟩ := List.lookup_eq_some_iff.1 hv
    have hmem : (word, v) ∈ constants := by simp [hsplit]
    exact List.forall_mem_singleton.2 (hconstants _ hmem)
  next =>
    split <;> simp [Token.Texts]

theorem mark_texts {P : Text → Prop} {c : CodePoint} {token : Token} (h : mark? c = some token) :
    token.Texts P := by
  unfold mark? at h
  split_ifs at h
  all_goals
    obtain rfl := Option.some.inj h
    trivial

/-- The tokens of a text without surrogates hold whole texts. -/
theorem scanFrom_whole {t : Text} (ht : t.IsScalar) {scan : Scan} (hs : scan.IsWhole) :
    ∀ token ∈ scanFrom scan t, token.Texts Text.IsWhole := by
  induction t generalizing scan with
  | nil =>
    cases scan with
    | gap => exact List.forall_mem_nil _
    | word rev => exact ofWord_texts _ _
    | _ => exact List.forall_mem_singleton.2 trivial
  | cons c t ih =>
    obtain ⟨hc, ht⟩ := List.forall_mem_cons.1 ht
    have ih {scan : Scan} (hs : scan.IsWhole) := ih ht hs
    have hgap : Scan.gap.IsWhole := trivial
    have hstart : (Scan.text [] false).IsWhole := ⟨List.isChain_nil, by simp⟩
    have hbroken : ∀ token ∈ [Token.broken], token.Texts Text.IsWhole :=
      List.forall_mem_singleton.2 trivial
    cases scan with
    | gap =>
      rw [scanFrom]
      split
      next => exact ih hgap
      next =>
        split
        next => exact ih hstart
        next =>
          split
          next token hmark => exact List.forall_mem_cons.2 ⟨mark_texts hmark, ih hgap⟩
          next => exact ih trivial
    | word rev =>
      rw [scanFrom]
      split
      next => exact List.forall_mem_append.2 ⟨ofWord_texts _ _, ih hgap⟩
      next =>
        split
        next => exact List.forall_mem_append.2 ⟨ofWord_texts _ _, ih hstart⟩
        next =>
          split
          next token hmark =>
            exact List.forall_mem_append.2 ⟨ofWord_texts _ _,
              List.forall_mem_cons.2 ⟨mark_texts hmark, ih hgap⟩⟩
          next => exact ih trivial
    | text rev half =>
      rw [scanFrom]
      split
      next => exact List.forall_mem_cons.2 ⟨hs.1, ih hgap⟩
      next =>
        split
        next => exact ih hs
        next =>
          split
          next => exact hbroken
          next => exact ih (Scan.isWhole_push hs.1 hc)
    | escape rev half =>
      rw [scanFrom]
      split
      next => exact ih hs
      next =>
        split
        next d hd => exact ih (Scan.isWhole_push hs.1 (isSurrogate_of_letterEscape hd))
        next => exact hbroken
    | digits rev half missing value =>
      rw [scanFrom]
      split
      next => exact hbroken
      next =>
        split
        next => exact ih (Scan.isWhole_afterEscape hs.1 hs.2 _)
        next => exact ih hs

end Token

/-- A text without surrogates is read as a value that holds whole texts only. -/
theorem parse_whole {t : Text} {v : Value} (ht : t.IsScalar) (h : parse t = .ok v) :
    v.Texts Text.IsWhole := by
  have hgap : Token.Scan.gap.IsWhole := trivial
  exact parse_texts (Token.scanFrom_whole ht hgap) h

end Json

/-! ## Requests -/

namespace Object

theorem Texts.fieldOrNull {o : Object} (h : o.Texts P) (key : Text) :
    (o.fieldOrNull key).Texts P := by
  rw [Object.fieldOrNull]
  cases hv : o.field? key with
  | none => exact .null
  | some v => exact h.field? hv

end Object

namespace Value
variable {v : Value}

theorem texts_empty : Value.empty.Texts P := .obj (List.forall_mem_nil _)

theorem Texts.orEmpty (h : v.Texts P) : v.orEmpty.Texts P := by
  rw [Value.orEmpty, Value.orElse]
  split
  · exact h
  · exact texts_empty

theorem Texts.fields {o : Object} (h : v.Texts P) (hv : v.fields = .ok o) : o.Texts P := by
  cases h with
  | obj h => cases hv; exact h
  | _ => cases hv

end Value

namespace Request
variable {event : Object}

theorem claims_texts {v : Value} (h : event.Texts P) (hv : claims event = .ok v) : v.Texts P := by
  have hcontext : ((event.field? "requestContext").getD .empty).Texts P := by
    cases he : event.field? "requestContext" with
    | none => exact Value.texts_empty
    | some context => exact h.field? he
  obtain ⟨context, hc, hv⟩ := Except.bind_eq_ok.1 hv
  obtain ⟨authorizer, ha, hv⟩ := Except.bind_eq_ok.1 hv
  have hauthorizer := ((hcontext.fields hc).fieldOrNull "authorizer").orEmpty.fields ha
  dsimp only at hv
  split at hv
  · obtain rfl := Except.ok.inj hv
    exact hauthorizer.fieldOrNull "claims"
  · have htoken : ((authorizer.field? "jwt").getD .empty).Texts P := by
      cases he : authorizer.field? "jwt" with
      | none => exact Value.texts_empty
      | some token => exact hauthorizer.field? he
    obtain ⟨token, ht, hv⟩ := Except.bind_eq_ok.1 hv
    obtain rfl := Except.ok.inj hv
    exact ((htoken.fields ht).fieldOrNull "claims").orEmpty

theorem subject_texts {v : Value} (h : event.Texts P) (hv : subject event = .ok v) :
    v.Texts P := by
  obtain ⟨claims, hc, hv⟩ := Except.bind_eq_ok.1 hv
  have hclaims := claims_texts h hc
  cases claims with
  | obj claims =>
    obtain rfl := Except.ok.inj hv
    cases hclaims with
    | obj hclaims => exact Object.Texts.fieldOrNull hclaims "sub"
  | _ => cases hv

/-- An event from which everything is read as it is written: its texts are whole, and there are no
    surrogates in a body that is text. -/
structure IsLegible (event : Value) : Prop where
  whole : event.Texts Text.IsWhole
  body : ∀ (fields : Object) (t : Text), event = .obj fields →
    fields.field? "body" = some (.str t) → t.IsScalar

theorem IsLegible.fields (h : IsLegible (.obj event)) : event.Texts Text.IsWhole := by
  cases h.whole with
  | obj h => exact h

theorem gatewayBody_whole {body : Value} (h : IsLegible (.obj event))
    (hb : gatewayBody event = .ok body) : body.Texts Text.IsWhole := by
  unfold gatewayBody at hb
  split at hb
  · obtain rfl := Except.ok.inj hb
    exact Value.texts_empty
  · rename_i t _ ht
    cases hparse : Json.parse t with
    | error e => rw [hparse] at hb; cases hb
    | ok v =>
      rw [hparse] at hb
      obtain rfl := Except.ok.inj hb
      have hfield : event.field? "body" = some (.str t) := by
        rw [Object.fieldOrNull] at ht
        cases hbody : event.field? "body" with
        | none => rw [hbody] at ht; cases ht
        | some v => rw [hbody] at ht; exact congrArg some ht
      exact Json.parse_whole (h.body event t rfl hfield) hparse
  · obtain rfl := Except.ok.inj hb
    exact (h.fields.fieldOrNull "body").orEmpty

/-- The request of a legible event holds whole texts only. -/
theorem ofEvent_whole {v : Value} {request : Request} (h : IsLegible v)
    (hr : ofEvent v = .ok request) :
    request.caller.IsWhole ∧ (Value.obj request.body).Texts Text.IsWhole := by
  have hparts := parts_of_ofEvent hr
  cases v with
  | obj event =>
    cases he : isGatewayEvent (.obj event) with
    | true =>
      obtain ⟨hbody, hsubject⟩ := gateway_of_ofEvent he hr
      refine ⟨?_, gatewayBody_whole h hbody⟩
      cases subject_texts h.fields hsubject with
      | str hcaller => exact hcaller
    | false =>
      simp only [parts, he, Bool.false_eq_true, if_false, Except.ok.injEq, Prod.mk.injEq,
        Value.obj.injEq] at hparts
      obtain ⟨rfl, hsubject⟩ := hparts
      have hcaller := h.fields.fieldOrNull "caller"
      rw [hsubject] at hcaller
      refine ⟨?_, h.whole⟩
      cases hcaller with
      | str hcaller => exact hcaller
  | _ => cases hparts

end Request

end Rendezvous
