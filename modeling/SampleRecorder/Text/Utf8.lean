/-!
# UTF-8

The encoding of characters as bytes, and a decoder that takes one byte at a time.  Between bytes the decoder keeps the
beginning of a character that is not complete yet, at most three bytes (`Decoder.pending`).  Bytes that cannot go on
to a character are replaced by U+FFFD, once for each longest beginning of a character.  Since the decoder only folds
over the bytes, its result does not depend on how they are cut into chunks (`decode_append`).
-/

namespace SampleRecorder.Text.Utf8

/-- The bytes of a character. -/
def encodeChar (c : Char) : List UInt8 :=
  let n := c.toNat
  if n < 0x80 then [UInt8.ofNat n]
  else if n < 0x800 then [UInt8.ofNat (0xC0 + n / 0x40), UInt8.ofNat (0x80 + n % 0x40)]
  else if n < 0x10000 then
    [UInt8.ofNat (0xE0 + n / 0x1000), UInt8.ofNat (0x80 + n / 0x40 % 0x40), UInt8.ofNat (0x80 + n % 0x40)]
  else
    [UInt8.ofNat (0xF0 + n / 0x40000), UInt8.ofNat (0x80 + n / 0x1000 % 0x40),
     UInt8.ofNat (0x80 + n / 0x40 % 0x40), UInt8.ofNat (0x80 + n % 0x40)]

/-- The bytes of a text. -/
def encode (s : List Char) : List UInt8 :=
  s.flatMap encodeChar

/-- The character that stands for bytes that are none. -/
def replacement : Char := '\ufffd'

/-- What the bytes at the beginning of a text amount to. -/
inductive Head where
  | char (c : Char)
  | incomplete
  | malformed
  deriving DecidableEq, Repr

/-- Whether a byte continues a character. -/
def isTail (b : Nat) : Bool :=
  0x80 ≤ b && b ≤ 0xBF

/-- Whether `b` may follow the first byte `a` of a character of three or four bytes; some values would be too small,
surrogates or beyond the last character. -/
def isSecond (a b : Nat) : Bool :=
  isTail b && (a != 0xE0 || 0xA0 ≤ b) && (a != 0xED || b ≤ 0x9F) && (a != 0xF0 || 0x90 ≤ b) &&
    (a != 0xF4 || b ≤ 0x8F)

/-- What one to four bytes amount to, when all but the last are known to begin a character. -/
def classify (bytes : List Nat) : Head :=
  match bytes with
  | [a] =>
    if a < 0x80 then .char (Char.ofNat a) else if 0xC2 ≤ a && a ≤ 0xF4 then .incomplete else .malformed
  | [a, b] =>
    if a < 0xE0 then
      if isTail b then .char (Char.ofNat ((a - 0xC0) * 0x40 + (b - 0x80))) else .malformed
    else if isSecond a b then .incomplete else .malformed
  | [a, b, c] =>
    if a < 0xF0 then
      if isTail c then .char (Char.ofNat ((a - 0xE0) * 0x1000 + (b - 0x80) * 0x40 + (c - 0x80)))
      else .malformed
    else if isTail c then .incomplete else .malformed
  | [a, b, c, d] =>
    if isTail d then
      .char (Char.ofNat ((a - 0xF0) * 0x40000 + (b - 0x80) * 0x1000 + (c - 0x80) * 0x40 + (d - 0x80)))
    else .malformed
  | _ => .malformed

/-- The characters decoded so far, last first, and the bytes of the one that is not complete. -/
structure Decoder where
  decoded : List Char := []
  pending : List UInt8 := []
  deriving DecidableEq, Repr

namespace Decoder

/-- Takes a byte as the first one of a character. -/
def start (d : Decoder) (b : UInt8) : Decoder :=
  match classify [b.toNat] with
  | .char c => ⟨c :: d.decoded, []⟩
  | .incomplete => ⟨d.decoded, [b]⟩
  | .malformed => ⟨replacement :: d.decoded, []⟩

/-- Takes the next byte.  A byte that cannot go on with the pending ones ends them, and begins anew. -/
def push (d : Decoder) (b : UInt8) : Decoder :=
  if d.pending = [] then d.start b
  else
    match classify ((d.pending ++ [b]).map UInt8.toNat) with
    | .char c => ⟨c :: d.decoded, []⟩
    | .incomplete => ⟨d.decoded, d.pending ++ [b]⟩
    | .malformed => start ⟨replacement :: d.decoded, []⟩ b

end Decoder

/-- The characters that bytes complete, and the bytes left pending, after some bytes were pending before. -/
def decode (pending bytes : List UInt8) : List Char × List UInt8 :=
  let d := bytes.foldl Decoder.push ⟨[], pending⟩
  (d.decoded.reverse, d.pending)

private theorem foldl_push_decoded (bytes : List UInt8) (cs : List Char) (pending : List UInt8) :
    bytes.foldl Decoder.push ⟨cs, pending⟩ =
      ⟨(bytes.foldl Decoder.push ⟨[], pending⟩).decoded ++ cs, (bytes.foldl Decoder.push ⟨[], pending⟩).pending⟩ := by
  have start (cs ds : List Char) (b : UInt8) :
      Decoder.start ⟨ds ++ cs, []⟩ b =
        ⟨(Decoder.start ⟨ds, []⟩ b).decoded ++ cs, (Decoder.start ⟨ds, []⟩ b).pending⟩ := by
    unfold Decoder.start
    cases classify [b.toNat] <;> rfl
  have push (cs : List Char) (pending : List UInt8) (b : UInt8) :
      Decoder.push ⟨cs, pending⟩ b =
        ⟨(Decoder.push ⟨[], pending⟩ b).decoded ++ cs, (Decoder.push ⟨[], pending⟩ b).pending⟩ := by
    unfold Decoder.push
    by_cases h : pending = []
    · subst h
      simpa using start cs [] b
    · simp only [h, ↓reduceIte]
      cases classify ((pending ++ [b]).map UInt8.toNat) with
      | char c => rfl
      | incomplete => rfl
      | malformed => exact start cs [replacement] b
  induction bytes generalizing cs pending with
  | nil => rfl
  | cons b bytes ih =>
    rw [List.foldl_cons, push, ih, List.foldl_cons, ih (Decoder.push ⟨[], pending⟩ b).decoded]
    simp

/-- Decoding two chunks one after the other is decoding them at once. -/
theorem decode_append (pending a b : List UInt8) :
    decode pending (a ++ b) =
      ((decode pending a).1 ++ (decode (decode pending a).2 b).1, (decode (decode pending a).2 b).2) := by
  simp only [decode, List.foldl_append]
  have h := foldl_push_decoded b (a.foldl Decoder.push ⟨[], pending⟩).decoded
    (a.foldl Decoder.push ⟨[], pending⟩).pending
  rw [h]
  simp

end SampleRecorder.Text.Utf8
