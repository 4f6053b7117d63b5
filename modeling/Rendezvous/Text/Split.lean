/-
  Text cut at a separator, as settings that are lists are (`get_list_parameter`).

  * `pieces` are the parts between the occurrences of a nonempty separator,
    the occurrences found from the left and never overlapping;
  * `items` are the pieces that hold more than blanks, without the blanks
    around them;
  * `words` are the parts between blanks.
-/
import Rendezvous.Text.Blank

namespace Rendezvous

namespace Text

/-- The pieces of a text whose first `skip` code points belong to an
    occurrence of the separator. -/
def piecesFrom (separator : Text) : (skip : Nat) → Text → List Text
  | _, [] => [[]]
  | skip + 1, _ :: t => piecesFrom separator skip t
  | 0, c :: t =>
    if startsWith separator (c :: t) then
      [] :: piecesFrom separator (separator.length - 1) t
    else
      match piecesFrom separator 0 t with
      | [] => [[c]]
      | piece :: rest => (c :: piece) :: rest

/-- The pieces between the occurrences of a separator. -/
def pieces (separator t : Text) : List Text := piecesFrom separator 0 t

/-- The pieces that are not blank, stripped. -/
def items (separator t : Text) : List Text :=
  ((pieces separator t).map strip).filter (! ·.isEmpty)

/-- The parts of a text between blanks. -/
def words (t : Text) : List Text :=
  items " " (t.map fun (c : CodePoint) => if c.isBlank then ' ' else c)

end Text

end Rendezvous
