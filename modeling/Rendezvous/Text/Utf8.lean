/-
  UTF-8, in which nicknames are given and shown (`encode_nickname`, `decode_nickname`).

  * `utf8?` encodes a text; the first run of surrogates in it is the reason for
    a refusal;
  * `ofUtf8` decodes any bytes, with one U+FFFD in place of each longest
    beginning of a sequence that is broken off.
-/
import Rendezvous.Text.Basic

namespace Rendezvous

/-! ## Encoding -/

/-- The bytes of a code point in UTF-8; surrogates are treated like their neighbours. -/
def CodePoint.utf8 (c : CodePoint) : List UInt8 :=
  let n := c.val
  if n < 0x80 then [n.toUInt8]
  else if n < 0x800 then [(0xc0 + n / 0x40).toUInt8, (0x80 + n % 0x40).toUInt8]
  else if n < 0x10000 then
    [(0xe0 + n / 0x1000).toUInt8, (0x80 + n / 0x40 % 0x40).toUInt8, (0x80 + n % 0x40).toUInt8]
  else
    [(0xf0 + n / 0x40000).toUInt8, (0x80 + n / 0x1000 % 0x40).toUInt8,
      (0x80 + n / 0x40 % 0x40).toUInt8, (0x80 + n % 0x40).toUInt8]

/-- Neighbouring surrogates in a text: the position of the first and how many follow it. -/
structure SurrogateRun where
  point : CodePoint
  start : Nat
  more : Nat
  deriving DecidableEq, Repr

/-- What is said about text that has no UTF-8 form. -/
def SurrogateRun.message (run : SurrogateRun) : Text :=
  if run.more = 0 then
    "'utf-8' codec can't encode character '\\u" ++ Text.hexFixed 4 run.point.val ++
      "' in position " ++ Text.ofNat run.start ++ ": surrogates not allowed"
  else
    "'utf-8' codec can't encode characters in position " ++ Text.ofNat run.start ++ "-" ++
      Text.ofNat (run.start + run.more) ++ ": surrogates not allowed"

namespace Text

/-- The first run of surrogates, where `start` code points have been read before. -/
def surrogateRunFrom? (start : Nat) : Text → Option SurrogateRun
  | [] => none
  | c :: t =>
    if c.isSurrogate then some ⟨c, start, (t.takeWhile CodePoint.isSurrogate).length⟩
    else surrogateRunFrom? (start + 1) t

/-- The first run of surrogates in a text. -/
def surrogateRun? (t : Text) : Option SurrogateRun := surrogateRunFrom? 0 t

/-- The UTF-8 form of a text without surrogates. -/
def utf8? (t : Text) : Except SurrogateRun (List UInt8) :=
  match t.surrogateRun? with
  | some run => .error run
  | none => .ok (t.flatMap CodePoint.utf8)

/-! ## Decoding -/

/-- A sequence under way: the bits read so far, how many bytes are missing, and
    the bounds of the next byte. -/
structure Utf8Pending where
  bits : Nat
  missing : Nat
  low : Nat
  high : Nat

/-- What a byte means at the start of a sequence. -/
inductive Utf8Start where
  /-- a whole code point -/
  | single (c : CodePoint)
  /-- the first byte of several -/
  | lead (pending : Utf8Pending)
  /-- no sequence starts with this byte -/
  | broken

/-- Classifies the first byte of a sequence.  The bounds of the second byte keep
    out overlong forms, surrogates and what lies beyond the last code point. -/
def utf8Start (b : UInt8) : Utf8Start :=
  let n := b.toNat
  if n < 0x80 then .single (CodePoint.ofNat n)
  else if n < 0xc2 then .broken
  else if n < 0xe0 then .lead ⟨n - 0xc0, 1, 0x80, 0xbf⟩
  else if n = 0xe0 then .lead ⟨0, 2, 0xa0, 0xbf⟩
  else if n = 0xed then .lead ⟨0xd, 2, 0x80, 0x9f⟩
  else if n < 0xf0 then .lead ⟨n - 0xe0, 2, 0x80, 0xbf⟩
  else if n = 0xf0 then .lead ⟨0, 3, 0x90, 0xbf⟩
  else if n < 0xf4 then .lead ⟨n - 0xf0, 3, 0x80, 0xbf⟩
  else if n = 0xf4 then .lead ⟨4, 3, 0x80, 0x8f⟩
  else .broken

/-- The code point that stands for broken bytes. -/
def replacement : CodePoint := .ofNat 0xfffd

/-- Decodes bytes, with a sequence under way or not. -/
def ofUtf8From : Option Utf8Pending → List UInt8 → Text
  | none, [] => []
  | some _, [] => [replacement]
  | none, b :: bytes =>
    match utf8Start b with
    | .single c => c :: ofUtf8From none bytes
    | .lead pending => ofUtf8From (some pending) bytes
    | .broken => replacement :: ofUtf8From none bytes
  | some pending, b :: bytes =>
    if pending.low ≤ b.toNat && b.toNat ≤ pending.high then
      let bits := pending.bits * 0x40 + (b.toNat - 0x80)
      if pending.missing ≤ 1 then CodePoint.ofNat bits :: ofUtf8From none bytes
      else ofUtf8From (some ⟨bits, pending.missing - 1, 0x80, 0xbf⟩) bytes
    else
      match utf8Start b with
      | .single c => replacement :: c :: ofUtf8From none bytes
      | .lead next => replacement :: ofUtf8From (some next) bytes
      | .broken => replacement :: replacement :: ofUtf8From none bytes

/-- The text of bytes in UTF-8, broken sequences replaced. -/
def ofUtf8 (bytes : List UInt8) : Text := ofUtf8From none bytes

end Text

end Rendezvous
