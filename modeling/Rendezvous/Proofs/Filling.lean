/-
  What goes wrong while a template is filled in.

  A template may be flawed, and its fields may ask a value for what it does not have.  That is
  always a mishap: an unusable value or a defect, and never a failure of the store or of the
  service.

  * `Mishaps.bind`, `Mishaps.mapM` and `Mishaps.foldlM` follow the way the filling-in is put
    together; `Template.fill_mishaps` is what comes of them;
  * `StoreCall.explain_remote`: how the table library tells a remote failure.
-/
import Mathlib.Tactic
import Rendezvous.Store.Tables

namespace Rendezvous

/-- An unusable value or a defect. -/
def Failure.IsMishap : Failure → Prop
  | .unusable _ | .defect _ _ => True
  | _ => False

/-- What fails, if at all, by a mishap. -/
def Mishaps {α : Type} (x : Except Failure α) : Prop := ∀ e, x = .error e → e.IsMishap

namespace Mishaps
variable {α β : Type}

/-! ## Rules -/

@[simp] theorem ok (a : α) : Mishaps (.ok a : Except Failure α) := fun _ h => by cases h

@[simp] theorem unusable (reason : Unusable) :
    Mishaps (.error (.unusable reason) : Except Failure α) := fun _ h => by cases h; trivial

@[simp] theorem badValue (message : Text) :
    Mishaps (.error (.badValue message) : Except Failure α) := unusable _

@[simp] theorem defect (kind : Defect) (message : Text) :
    Mishaps (.error (.defect kind message) : Except Failure α) := fun _ h => by cases h; trivial

theorem bind {x : Except Failure α} {f : α → Except Failure β} (hx : Mishaps x)
    (hf : ∀ a, Mishaps (f a)) : Mishaps (x >>= f) := by
  intro e he
  cases x with
  | ok a => exact hf a e he
  | error e' => cases he; exact hx e rfl

theorem map {x : Except Failure α} (f : α → β) (hx : Mishaps x) : Mishaps (x.map f) := by
  intro e he
  cases x with
  | ok a => cases he
  | error e' => cases he; exact hx e rfl

theorem mapM {f : α → Except Failure β} (hf : ∀ a, Mishaps (f a)) (l : List α) :
    Mishaps (l.mapM f) := by
  induction l with
  | nil => exact ok _
  | cons a l ih =>
    rw [List.mapM_cons]
    exact (hf a).bind fun b => ih.bind fun bs => ok _

theorem foldlM {f : β → α → Except Failure β} (hf : ∀ b a, Mishaps (f b a)) (l : List α) (b : β) :
    Mishaps (l.foldlM f b) := by
  induction l generalizing b with
  | nil => exact ok _
  | cons a l ih => exact (hf b a).bind fun b' => ih b'

end Mishaps

/-! ## Parts of values -/

namespace Value

theorem fields_mishaps (v : Value) : Mishaps v.fields := by
  unfold fields; split
  exacts [.ok _, .defect _ _]

theorem fieldAt_mishaps (key : Text) (v : Value) : Mishaps (v.fieldAt key) := by
  refine (fields_mishaps v).bind fun o => ?_
  split
  exacts [.ok _, .defect _ _]

theorem itemNamed_mishaps (name : Text) (v : Value) : Mishaps (v.itemNamed name) := by
  unfold itemNamed; split
  exacts [fieldAt_mishaps _ _, .defect _ _, .defect _ _, .defect _ _, .defect _ _]

theorem items_mishaps (v : Value) : Mishaps v.items := by
  unfold items; split
  exacts [.ok _, .ok _, .ok _, .ok _, .defect _ _]

theorem itemAt_find_mishaps (place : Nat) (kind : Text) (items : List Value) :
    Mishaps (itemAt.find place kind items) := by
  unfold itemAt.find; split
  exacts [.ok _, .defect _ _]

theorem itemAt_mishaps (place : Nat) (v : Value) : Mishaps (v.itemAt place) := by
  unfold itemAt; split
  exacts [itemAt_find_mishaps _ _ _, itemAt_find_mishaps _ _ _, itemAt_find_mishaps _ _ _,
    .defect _ _, .defect _ _]

end Value

/-! ## Layouts -/

namespace Template.Layout

@[simp] theorem refuse_mishaps {α : Type} (flaw : Flaw) :
    Mishaps (refuse flaw : Except Failure α) :=
  .badValue _

theorem number_mishaps (t : Text) : Mishaps (number t) := by
  unfold number; split <;> simp

theorem separatorOf_mishaps (t : Text) : Mishaps (separatorOf t) := by
  unfold separatorOf; dsimp only; split <;> simp

theorem precisionOf_mishaps (t : Text) : Mishaps (precisionOf t) := by
  unfold precisionOf; split
  · exact .ok _
  · refine (number_mishaps _).bind fun found => ?_
    split
    exacts [refuse_mishaps _, .ok _]

theorem letterOf_mishaps (type whole : Text) (usual : Option CodePoint) (t : Text) :
    Mishaps (letterOf type whole usual t) := by
  unfold letterOf; split <;> simp

theorem checkSeparator_mishaps (separator letter : Option CodePoint) :
    Mishaps (checkSeparator separator letter) := by
  unfold checkSeparator; split
  · split <;> simp
  · exact .ok _

theorem ofText_mishaps (type : Text) (usualAlign : Align) (usualLetter : Option CodePoint)
    (whole : Text) : Mishaps (ofText type usualAlign usualLetter whole) := by
  unfold ofText
  refine (number_mishaps _).bind fun width => ?_
  refine (separatorOf_mishaps _).bind fun separator => ?_
  refine (precisionOf_mishaps _).bind fun precision => ?_
  refine (letterOf_mishaps _ _ _ _).bind fun letter => ?_
  exact (checkSeparator_mishaps _ _).bind fun _ => .ok _

theorem write_mishaps (l : Layout) (p : Parts) : Mishaps (l.write p) := by
  unfold write; dsimp only; split <;> simp

theorem checkText_mishaps (l : Layout) : Mishaps l.checkText := by
  unfold checkText; split_ifs <;> simp

theorem ofTextValue_mishaps (layout t : Text) : Mishaps (ofTextValue layout t) :=
  (ofText_mishaps _ _ _ _).bind fun l => (checkText_mishaps l).bind fun _ => write_mishaps l _

theorem writeBinary_mishaps (l : Layout) (x : Binary64) : Mishaps (l.writeBinary x) := by
  unfold writeBinary; split
  exacts [refuse_mishaps _, write_mishaps _ _]

theorem ofBinary_mishaps (layout : Text) (x : Binary64) : Mishaps (ofBinary layout x) := by
  refine (ofText_mishaps _ _ _ _).bind fun l => ?_
  split
  · exact writeBinary_mishaps l x
  · split
    exacts [writeBinary_mishaps l x, refuse_mishaps _]

theorem writeCharacter_mishaps (l : Layout) (n : Int) : Mishaps (l.writeCharacter n) := by
  have hcharacter : Mishaps (character n) := by unfold character; split_ifs <;> simp
  unfold writeCharacter; split_ifs
  exacts [refuse_mishaps _, refuse_mishaps _, hcharacter.bind fun c => write_mishaps l _]

theorem ofInteger_mishaps (type layout : Text) (n : Int) : Mishaps (ofInteger type layout n) := by
  refine (ofText_mishaps _ _ _ _).bind fun l => ?_
  dsimp only; split_ifs
  · split
    exacts [writeBinary_mishaps l _, .defect _ _]
  · exact refuse_mishaps _
  · exact refuse_mishaps _
  · exact writeCharacter_mishaps l n
  · exact write_mishaps l _
  · exact refuse_mishaps _

end Template.Layout

theorem Value.laidOut_mishaps (layout : Text) (v : Value) : Mishaps (v.laidOut layout) := by
  unfold laidOut; split
  · exact .ok _
  · split
    exacts [Template.Layout.ofTextValue_mishaps _ _, Template.Layout.ofInteger_mishaps _ _ _,
      Template.Layout.ofInteger_mishaps _ _ _, Template.Layout.ofBinary_mishaps _ _, .defect _ _]

/-! ## Things -/

namespace Thing

theorem proper_mishaps (name : Text) (t : Thing) : Mishaps (t.proper name) := by
  unfold proper; split
  · exact .ok _
  · split
    · exact .ok _
    · split
      exacts [.defect _ _, .defect _ _]

theorem memberByKind_mishaps (name : Text) (t : Thing) : Mishaps (t.memberByKind name) := by
  unfold memberByKind valueOf; split
  · split
    exacts [proper_mishaps _ _, .ok _]
  · exact .defect _ _

theorem memberOfKind_mishaps (name : Text) (k : Kind) : Mishaps (memberOfKind name k) := by
  unfold memberOfKind; dsimp only; split
  · split
    exacts [proper_mishaps _ _, .ok _]
  · exact .ok _
  · exact .defect _ _

theorem member_mishaps (name : Text) (t : Thing) : Mishaps (t.member name) := by
  unfold member; split
  · exact memberOfKind_mishaps _ _
  · split
    exacts [memberByKind_mishaps _ _, memberOfKind_mishaps _ _]
  · exact memberByKind_mishaps _ _

theorem item_mishaps (key : Nat ⊕ Text) (t : Thing) : Mishaps (t.item key) := by
  unfold item; split
  · exact (Value.itemAt_mishaps _ _).map _
  · exact (Value.itemNamed_mishaps _ _).map _
  · split
    exacts [.ok _, .defect _ _]
  · exact .defect _ _
  · exact .defect _ _
  · split
    exacts [.ok _, .defect _ _]
  · split
    exacts [.ok _, .defect _ _]
  · exact .defect _ _
  · exact .defect _ _

theorem laidOut_mishaps (layout : Text) (t : Thing) : Mishaps (t.laidOut layout) := by
  unfold laidOut; split
  · exact Value.laidOut_mishaps _ _
  · split
    exacts [.ok _, .defect _ _]

end Thing

/-! ## Templates -/

namespace Template

theorem index?_mishaps (t : Text) : Mishaps (index? t) := by
  have hbounded : Mishaps (bounded (readDigits 0 t)) := by unfold bounded; split <;> simp
  exact hbounded.bind fun found => .ok _

theorem take_mishaps (t : Thing) (step : Path.Step) : Mishaps (take t step) := by
  cases step with
  | member name => exact Thing.member_mishaps name t
  | item name =>
    refine Mishaps.bind ?_ fun key => Thing.item_mishaps key t
    refine (index?_mishaps name).bind fun found => ?_
    split
    exacts [.ok _, .ok _]

theorem named_mishaps (values : Object) (first : Text) : Mishaps (named values first) := by
  refine (index?_mishaps first).bind fun found => ?_
  split
  · exact .defect _ _
  · split
    exacts [.defect _ _, Value.fieldAt_mishaps _ _]

theorem follow_mishaps (values : Object) (path : Text) : Mishaps (follow values path) := by
  refine (named_mishaps _ _).bind fun first => ?_
  refine (Mishaps.foldlM take_mishaps _ _).bind fun thing => ?_
  split
  exacts [.badValue _, .ok _]

theorem convert_mishaps (t : Thing) (conversion : Option CodePoint) :
    Mishaps (convert t conversion) := by
  unfold convert; split
  · exact .ok _
  · split_ifs <;> simp

theorem fillPiece_mishaps (values : Object) {fillLayout : Text → Except Failure Text}
    (h : ∀ layout, Mishaps (fillLayout layout)) (p : Piece) :
    Mishaps (fillPiece values fillLayout p) := by
  cases p with
  | literal t => exact .ok _
  | field path conversion layout =>
    refine (follow_mishaps _ _).bind fun thing => (convert_mishaps _ _).bind fun thing => ?_
    dsimp only; split
    · exact (h _).bind fun layout => Thing.laidOut_mishaps layout thing
    · exact Thing.laidOut_mishaps layout thing

theorem fillTo_mishaps (values : Object) (depth : Nat) (t : Text) :
    Mishaps (fillTo values depth t) := by
  induction depth generalizing t with
  | zero => exact .badValue _
  | succ depth ih =>
    refine (Mishaps.mapM (fillPiece_mishaps values ih) _).bind fun parts => ?_
    split
    exacts [.badValue _, .ok _]

/-- Filling a template in fails, if at all, by a mishap. -/
theorem fill_mishaps (values : Object) (t : Text) : Mishaps (fill values t) :=
  fillTo_mishaps values 2 t

end Template

/-! ## Remote failures -/

namespace Refusal

theorem requestText_mishaps (r : Refusal) : Mishaps r.requestText :=
  (Value.fields_mishaps _).bind fun _ => .ok _

theorem checkReason_mishaps (reason : Value) : Mishaps (checkReason reason) :=
  (Value.itemNamed_mishaps _ _).map _

end Refusal

namespace StoreCall

theorem forM_checkReason_mishaps (reasons : List Value) :
    Mishaps (reasons.forM Refusal.checkReason) := by
  induction reasons with
  | nil => exact .ok _
  | cons reason reasons ih => exact (Refusal.checkReason_mishaps reason).bind fun _ => ih

theorem cause_mishaps (names : TableNames) (call : StoreCall) (e : RemoteError) :
    Mishaps (call.cause names e) := by
  unfold cause; split
  · refine (Refusal.requestText_mishaps _).bind fun request => ?_
    refine (Value.items_mishaps _).bind fun reasons => ?_
    exact (forM_checkReason_mishaps reasons).bind fun _ => Template.fill_mishaps _ _
  · exact .ok _

/-- A remote failure is told as a failure of the operation, or else the telling has failed by a
    mishap. -/
theorem explain_remote (names : TableNames) (call : StoreCall) (e : RemoteError) :
    (∃ text, call.explain names (.remote e) = .table call.fault.1 text) ∨
      ∃ failure, failure.IsMishap ∧ call.cause names e = .error failure ∧
        call.explain names (.remote e) = failure := by
  cases h : call.cause names e with
  | ok text => exact Or.inl ⟨_, by simp only [explain, h]; rfl⟩
  | error failure =>
    exact Or.inr ⟨failure, cause_mishaps names call e failure h, rfl, by simp only [explain, h]⟩

end StoreCall

end Rendezvous
