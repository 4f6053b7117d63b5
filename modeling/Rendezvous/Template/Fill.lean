/-
  Templates filled in with values.

  The first name of a path names one of the values; a number would name a value
  without a name, of which there are none.  The pieces are filled in one after the
  other, and the first failure counts.

  * `Template.follow` goes along a path from the values;
  * `Template.fill` fills a template in.
-/
import Rendezvous.Template.Piece
import Rendezvous.Template.Thing

namespace Rendezvous

namespace Failure

/-- A number where a template has only names for values. -/
def unnumbered (n : Nat) : Failure :=
  .defect .outOfRange
    ("Replacement index " ++ Text.ofNat n ++ " out of range for positional args tuple")

end Failure

namespace Template

/-! ## Paths -/

/-- A number that a template may hold. -/
def bounded {α : Type} : Option α → Except Failure α
  | some x => .ok x
  | none => .error (.badValue hugeNumber)

/-- The number that a text is, if it has digits and nothing else. -/
def index? (t : Text) : Except Failure (Option Nat) := do
  let (n, rest) ← bounded (readDigits 0 t)
  return if !t.isEmpty && rest.isEmpty then some n else none

/-- What the name of an item says: a place if it is a number. -/
def itemKey (name : Text) : Except Failure (Nat ⊕ Text) := do
  match ← index? name with
  | some place => return .inl place
  | none => return .inr name

/-- Where a step leads from a thing. -/
def take (t : Thing) : Path.Step → Except Failure Thing
  | .member name => t.member name
  | .item name => do t.item (← itemKey name)

/-- The value that a path starts from. -/
def named (values : Object) (first : Text) : Except Failure Value := do
  match ← index? first with
  | some n => .error (.unnumbered n)
  | none => if first.isEmpty then .error (.unnumbered 0) else (Value.obj values).fieldAt first

/-- What a path leads to. -/
def follow (values : Object) (path : Text) : Except Failure Thing := do
  let p := Path.ofText path
  let thing ← p.steps.foldlM take (.value (← named values p.first))
  match p.flaw with
  | some flaw => .error (.badValue flaw.message)
  | none => return thing

/-! ## Fields -/

/-- What is said about a letter that is no conversion. -/
def unknownConversion (c : CodePoint) : Text :=
  "Unknown conversion specifier " ++
    if 0x20 < c.val && c.val < 0x7f then [c] else "\\x" ++ Text.ofNatIn 16 c.val

/-- A thing after its conversion to text, if it has one. -/
def convert (t : Thing) : Option CodePoint → Except Failure Thing
  | none => .ok t
  | some c =>
    if c = 's' then .ok (.value (.str t.display))
    else if c = 'r' then .ok (.value (.str t.inspect))
    else if c = 'a' then .ok (.value (.str t.inspect.asciiOnly))
    else .error (.badValue (unknownConversion c))

/-- What is filled in for a piece; `fillLayout` fills in a layout that has fields. -/
def fillPiece (values : Object) (fillLayout : Text → Except Failure Text) :
    Piece → Except Failure Text
  | .literal t => .ok t
  | .field path conversion layout => do
    let thing ← convert (← follow values path) conversion
    let layout ← if layout.contains CodePoint.openBrace then fillLayout layout else pure layout
    thing.laidOut layout

/-- Fills a template in, where templates may stand in each other so deep. -/
def fillTo (values : Object) : (depth : Nat) → Text → Except Failure Text
  | 0, _ => .error (.badValue "Max string recursion exceeded")
  | depth + 1, t => do
    let template := ofText t
    let parts ← template.pieces.mapM (fillPiece values (fillTo values depth))
    match template.flaw with
    | some flaw => .error (.badValue flaw.message)
    | none => return parts.flatten

/-- Fills a template in; its layouts may be templates, but not those in them. -/
def fill (values : Object) (t : Text) : Except Failure Text := fillTo values 2 t

end Template

end Rendezvous
