/-
  Byte strings, and byte strings of a fixed width.

  * `Bytes.fill` appends zero bytes up to a width;
  * `Bytes.trim` takes trailing zero bytes away.
-/

namespace Rendezvous

/-- A byte string. -/
abbrev Bytes := List UInt8

namespace Bytes

/-- So many zero bytes; none for a negative width. -/
def zeros (width : Int) : Bytes := List.replicate width.toNat 0

/-- A byte string followed by zero bytes up to a width. -/
def fill (width : Int) (bytes : Bytes) : Bytes := bytes ++ zeros (width - bytes.length)

/-- A byte string without the zero bytes at its end. -/
def trim (bytes : Bytes) : Bytes := (bytes.reverse.dropWhile (· == 0)).reverse

theorem length_zeros (width : Nat) : (zeros width).length = width := by
  simp [zeros]

theorem length_fill {width : Nat} {bytes : Bytes} (h : bytes.length ≤ width) :
    (fill width bytes).length = width := by
  simp only [fill, zeros, List.length_append, List.length_replicate]
  omega

/-- A byte string of the full width is left alone. -/
theorem fill_of_length_eq {width : Nat} {bytes : Bytes} (h : bytes.length = width) :
    fill width bytes = bytes := by
  simp [fill, zeros, h]

end Bytes

end Rendezvous
