/-
  Hexadecimal text, as it is written and read in wire and stored values (`encode_hex`,
  `decode_hex`, `storage_hex`, `from_storage_hex`).

  * `Hex.encode` writes two lowercase digits for each byte;
  * `Hex.decode` reads pairs of digits of either case and says why a text is
    refused;
  * `decode_encode`: what is written is read back.
-/
import Rendezvous.Bytes.Basic
import Rendezvous.Text.Basic

namespace Rendezvous.Hex

/-- Why a text is not hexadecimal; the first that applies is reported. -/
inductive Refusal where
  /-- a code point outside ASCII -/
  | notAscii
  /-- an odd number of digits -/
  | oddLength
  /-- something other than a digit -/
  | notDigit
  deriving DecidableEq, Repr

/-- The two digits of a byte. -/
def pair (b : UInt8) : Text :=
  [CodePoint.hexDigit (b.toNat / 16), CodePoint.hexDigit (b.toNat % 16)]

/-- Two lowercase digits for each byte. -/
def encode (bytes : Bytes) : Text := bytes.flatMap pair

/-- The byte of two digits. -/
def byte? (a b : CodePoint) : Option UInt8 :=
  match a.hexValue?, b.hexValue? with
  | some high, some low => some (UInt8.ofNat (16 * high + low))
  | _, _ => none

/-- The bytes of pairs of digits. -/
def pairs? : Text → Option Bytes
  | [] => some []
  | [_] => none
  | a :: b :: rest =>
    match byte? a b, pairs? rest with
    | some byte, some bytes => some (byte :: bytes)
    | _, _ => none

/-- The bytes that code points spell, whatever their range. -/
def decodePairs (t : Text) : Except Refusal Bytes :=
  if t.length % 2 = 1 then .error .oddLength
  else match pairs? t with
    | some bytes => .ok bytes
    | none => .error .notDigit

/-- The bytes that a text spells. -/
def decode (t : Text) : Except Refusal Bytes :=
  if t.all CodePoint.isAscii then decodePairs t else .error .notAscii

/-- What is said about a refused text. -/
def Refusal.message : Refusal → Text
  | .notAscii => "string argument should contain only ASCII characters"
  | .oddLength => "Odd-length string"
  | .notDigit => "Non-hexadecimal digit found"

theorem length_encode (bytes : Bytes) : (encode bytes).length = 2 * bytes.length := by
  induction bytes with
  | nil => rfl
  | cons b bytes ih =>
    simp only [encode, List.flatMap_cons, List.length_append, List.length_cons] at ih ⊢
    simp only [pair, List.length_cons, List.length_nil, ih]
    omega

theorem byte?_pair (b : UInt8) :
    byte? (CodePoint.hexDigit (b.toNat / 16)) (CodePoint.hexDigit (b.toNat % 16)) = some b := by
  have hb : b.toNat < 256 := b.toNat_lt
  have split : 16 * (b.toNat / 16) + b.toNat % 16 = b.toNat := by omega
  simp only [byte?, CodePoint.hexValue?_hexDigit (show b.toNat / 16 < 16 by omega),
    CodePoint.hexValue?_hexDigit (show b.toNat % 16 < 16 by omega), split, UInt8.ofNat_toNat]

theorem pairs?_encode (bytes : Bytes) : pairs? (encode bytes) = some bytes := by
  induction bytes with
  | nil => rfl
  | cons b bytes ih =>
    change pairs? (CodePoint.hexDigit (b.toNat / 16) :: CodePoint.hexDigit (b.toNat % 16) ::
      encode bytes) = _
    simp only [pairs?, byte?_pair, ih]

theorem isAscii_hexDigit {n : Nat} (h : n < 16) : (CodePoint.hexDigit n).isAscii = true := by
  have : ∀ m : Fin 16, (CodePoint.hexDigit m.val).isAscii = true := by decide
  exact this ⟨n, h⟩

theorem isAscii_encode (bytes : Bytes) : (encode bytes).all CodePoint.isAscii = true := by
  induction bytes with
  | nil => rfl
  | cons b bytes ih =>
    have hb : b.toNat < 256 := b.toNat_lt
    change ((CodePoint.hexDigit (b.toNat / 16)).isAscii &&
      ((CodePoint.hexDigit (b.toNat % 16)).isAscii && (encode bytes).all CodePoint.isAscii)) = true
    rw [isAscii_hexDigit (by omega), isAscii_hexDigit (by omega), ih]
    rfl

/-- What is written is read back. -/
theorem decode_encode (bytes : Bytes) : decode (encode bytes) = .ok bytes := by
  have even : ¬(encode bytes).length % 2 = 1 := by rw [length_encode]; omega
  simp only [decode, decodePairs, isAscii_encode, if_true, even, if_false, pairs?_encode]

/-- Different byte strings have different digits. -/
theorem encode_injective {a b : Bytes} (h : encode a = encode b) : a = b := by
  have := congrArg decode h
  simpa only [decode_encode, Except.ok.injEq] using this

end Rendezvous.Hex
