/-
  Templates: texts with fields that are to be filled in.

  A field stands between braces.  It has a path to what it shows, and may have a
  conversion after an exclamation mark and a layout after a colon; a layout may
  have fields of its own.  A brace that is text is written twice.  The table library words
  refused calls by a template.

  * `Template.ofText` takes a text apart, up to the first place where it is no
    template.
-/
import Rendezvous.Text.Basic

namespace Rendezvous

namespace CodePoint

/-- The brace that opens a field. -/
def openBrace : CodePoint := .ofNat 0x7b

/-- The brace that closes a field. -/
def closeBrace : CodePoint := .ofNat 0x7d

/-- Either brace. -/
def isBrace (c : CodePoint) : Bool := c = openBrace || c = closeBrace

end CodePoint

namespace Template

/-- A piece of a template. -/
inductive Piece where
  | literal (t : Text)
  | field (path : Text) (conversion : Option CodePoint) (layout : Text)
  deriving DecidableEq, Repr

/-- Why a text is no template. -/
inductive Flaw where
  | loneOpening
  | loneClosing
  | braceInPath
  | openPath
  | noConversion
  | noColon
  | openLayout
  deriving DecidableEq, Repr

/-- What is said about a text that is no template. -/
def Flaw.message : Flaw → Text
  | .loneOpening => "Single '\x7b' encountered in format string"
  | .loneClosing => "Single '\x7d' encountered in format string"
  | .braceInPath => "unexpected '\x7b' in field name"
  | .openPath => "expected '\x7d' before end of string"
  | .noConversion => "end of string while looking for conversion specifier"
  | .noColon => "expected ':' after conversion specifier"
  | .openLayout => "unmatched '\x7b' in format spec"

end Template

/-- A text taken apart: its pieces, and why it is no template after them, if it is none. -/
structure Template where
  pieces : List Template.Piece
  flaw : Option Template.Flaw
  deriving DecidableEq, Repr

namespace Template

/-- Where in a template a code point stands.  What was seen of a part is kept with the
    last code point first. -/
inductive Place where
  | literal (seen : Text)
  /-- after an opening brace in a literal -/
  | opening (seen : Text)
  /-- after a closing brace in a literal -/
  | closing (seen : Text)
  | path (seen : Text)
  /-- between brackets in a path, where braces are text -/
  | bracket (seen : Text)
  /-- after an exclamation mark -/
  | mark (path : Text)
  | conversion (path : Text) (conversion : CodePoint)
  /-- in a layout, with so many braces open besides that of the field -/
  | layout (path : Text) (conversion : Option CodePoint) (depth : Nat) (seen : Text)

/-- A literal, unless it is empty. -/
def literals (seen : Text) : List Piece := if seen.isEmpty then [] else [.literal seen.reverse]

/-- The next place after a code point in a path, and the pieces that end there. -/
def stepPath (seen : Text) (c : CodePoint) : Except Flaw (List Piece × Place) :=
  if c = CodePoint.openBrace then .error .braceInPath
  else if c = CodePoint.closeBrace then .ok ([.field seen.reverse none []], .literal [])
  else if c = '[' then .ok ([], .bracket (c :: seen))
  else if c = ':' then .ok ([], .layout seen.reverse none 0 [])
  else if c = '!' then .ok ([], .mark seen.reverse)
  else .ok ([], .path (c :: seen))

/-- The next place after a code point in a layout, and the pieces that end there. -/
def stepLayout (path : Text) (conversion : Option CodePoint) (depth : Nat) (seen : Text)
    (c : CodePoint) : List Piece × Place :=
  if c = CodePoint.openBrace then ([], .layout path conversion (depth + 1) (c :: seen))
  else if c = CodePoint.closeBrace then
    match depth with
    | 0 => ([.field path conversion seen.reverse], .literal [])
    | depth + 1 => ([], .layout path conversion depth (c :: seen))
  else ([], .layout path conversion depth (c :: seen))

/-- The next place after a code point, and the pieces that end there. -/
def step (c : CodePoint) : Place → Except Flaw (List Piece × Place)
  | .literal seen =>
    if c = CodePoint.openBrace then .ok ([], .opening seen)
    else if c = CodePoint.closeBrace then .ok ([], .closing seen)
    else .ok ([], .literal (c :: seen))
  | .opening seen =>
    if c = CodePoint.openBrace then .ok ([], .literal (c :: seen))
    else (stepPath [] c).map fun (pieces, place) => (literals seen ++ pieces, place)
  | .closing seen =>
    if c = CodePoint.closeBrace then .ok ([], .literal (c :: seen)) else .error .loneClosing
  | .path seen => stepPath seen c
  | .bracket seen =>
    .ok ([], if c = ']' then .path (c :: seen) else .bracket (c :: seen))
  | .mark path => .ok ([], .conversion path c)
  | .conversion path conversion =>
    if c = CodePoint.closeBrace then .ok ([.field path (some conversion) []], .literal [])
    else if c = ':' then .ok ([], .layout path (some conversion) 0 [])
    else .error .noColon
  | .layout path conversion depth seen => .ok (stepLayout path conversion depth seen c)

/-- What is left at the end of a text. -/
def finish : Place → Template
  | .literal seen => ⟨literals seen, none⟩
  | .opening _ => ⟨[], some .loneOpening⟩
  | .closing _ => ⟨[], some .loneClosing⟩
  | .path _ | .bracket _ => ⟨[], some .openPath⟩
  | .mark _ => ⟨[], some .noConversion⟩
  | .conversion _ _ | .layout _ _ _ _ => ⟨[], some .openLayout⟩

/-- A template with pieces in front. -/
def after (pieces : List Piece) (t : Template) : Template := { t with pieces := pieces ++ t.pieces }

/-- Takes a text apart from a place on. -/
def scan (place : Place) : Text → Template
  | [] => finish place
  | c :: t =>
    match step c place with
    | .ok (pieces, next) => (scan next t).after pieces
    | .error flaw => ⟨[], some flaw⟩

/-- Takes a text apart. -/
def ofText (t : Text) : Template := scan (.literal []) t

end Template

end Rendezvous
