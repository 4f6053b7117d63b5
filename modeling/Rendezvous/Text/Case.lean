/-
  Letter case, in names of variables (`get_parameter`) and of redacted fields
  (`log_lambda_start`).

  * `upper` is the full uppercase form of Unicode, which may be longer than the
    text (`ß` becomes `SS`);
  * `foldWord` lowercases as far as a comparison with an ASCII word can tell:
    outside `A` to `Z` only the Kelvin sign has a lowercase form within ASCII.
-/
import Rendezvous.Text.CaseTable

namespace Rendezvous

namespace CodePoint

/-- The uppercase form of a code point. -/
def upper (c : CodePoint) : Text :=
  if c.val < 0x80 then
    if 0x61 ≤ c.val && c.val ≤ 0x7a then [ofNat (c.val - 0x20)] else [c]
  else
    match Text.upperExpansions.lookup c.val with
    | some forms => forms.map ofNat
    | none =>
      match Text.upperRuns.findSome? (·.upper? c.val) with
      | some u => [ofNat u]
      | none => [c]

/-- The lowercase form of a code point where that form is an ASCII letter, and
    the code point itself elsewhere. -/
def foldLetter (c : CodePoint) : CodePoint :=
  if 0x41 ≤ c.val && c.val ≤ 0x5a then ofNat (c.val + 0x20)
  else if c.val == 0x212a then 'k'
  else c

end CodePoint

namespace Text

/-- The uppercase form of a text. -/
def upper (t : Text) : Text := t.flatMap CodePoint.upper

/-- The form of a text for comparing it with lowercase ASCII words. -/
def foldWord (t : Text) : Text := t.map CodePoint.foldLetter

end Text

end Rendezvous
