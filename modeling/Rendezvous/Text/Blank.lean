/-
  Blank code points, and text without the blanks around it (`decode_hex`,
  `validate_identity`, `extract_request`).

  The blanks are the white space of Unicode together with the four
  information separators U+001C to U+001F.

  * `strip` removes the blanks on both sides;
  * `strip_strip`: stripping twice is stripping once.
-/
import Rendezvous.Text.Basic

namespace Rendezvous

/-- The blank code points. -/
def CodePoint.isBlank (c : CodePoint) : Bool :=
  (0x09 ≤ c.val && c.val ≤ 0x0d) || (0x1c ≤ c.val && c.val ≤ 0x20) ||
    c.val == 0x85 || c.val == 0xa0 || c.val == 0x1680 ||
    (0x2000 ≤ c.val && c.val ≤ 0x200a) || c.val == 0x2028 || c.val == 0x2029 ||
    c.val == 0x202f || c.val == 0x205f || c.val == 0x3000

namespace Text

/-- Text without the code points of a class on its left. -/
def dropStart (p : CodePoint → Bool) (t : Text) : Text := t.dropWhile p

/-- Text without the code points of a class on its right. -/
def dropEnd (p : CodePoint → Bool) (t : Text) : Text := (t.reverse.dropWhile p).reverse

/-- Text without the blanks on both sides. -/
def strip (t : Text) : Text := dropEnd CodePoint.isBlank (dropStart CodePoint.isBlank t)

/-- Nothing but blanks. -/
def isBlank (t : Text) : Bool := t.strip.isEmpty

/-- Text that does not start in a class is left alone on its left. -/
theorem dropStart_of_head {p : CodePoint → Bool} {t : Text}
    (h : ∀ c, t.head? = some c → p c = false) : dropStart p t = t := by
  cases t with
  | nil => rfl
  | cons c t => simp [dropStart, h c rfl]

/-- What is left starts outside the class. -/
theorem head_dropStart {p : CodePoint → Bool} {t : Text} {c : CodePoint}
    (h : (dropStart p t).head? = some c) : p c = false := by
  have := List.head?_dropWhile_not p t
  rw [dropStart] at h
  simpa only [h] using this

theorem dropStart_dropStart (p : CodePoint → Bool) (t : Text) :
    dropStart p (dropStart p t) = dropStart p t :=
  dropStart_of_head fun _ h => head_dropStart h

theorem dropEnd_eq (p : CodePoint → Bool) (t : Text) :
    dropEnd p t = (dropStart p t.reverse).reverse := rfl

theorem dropEnd_dropEnd (p : CodePoint → Bool) (t : Text) :
    dropEnd p (dropEnd p t) = dropEnd p t := by
  simp only [dropEnd_eq, List.reverse_reverse, dropStart_dropStart]

/-- What is dropped on the right was at the end of the text. -/
theorem dropEnd_append (p : CodePoint → Bool) (t : Text) :
    ∃ tail, t = dropEnd p t ++ tail := by
  refine ⟨(t.reverse.takeWhile p).reverse, ?_⟩
  rw [dropEnd, ← List.reverse_append, List.takeWhile_append_dropWhile, List.reverse_reverse]

/-- Dropping on the right keeps what stands first, as long as anything is left. -/
theorem head_dropEnd {p : CodePoint → Bool} {t : Text} {c : CodePoint}
    (h : (dropEnd p t).head? = some c) : t.head? = some c := by
  obtain ⟨tail, ht⟩ := dropEnd_append p t
  rw [ht, List.head?_append, h]
  rfl

/-- Stripping twice is stripping once. -/
theorem strip_strip (t : Text) : t.strip.strip = t.strip := by
  have start : dropStart CodePoint.isBlank t.strip = t.strip :=
    dropStart_of_head fun _ h => head_dropStart (head_dropEnd h)
  rw [strip, start, strip, dropEnd_dropEnd]

end Text

end Rendezvous
