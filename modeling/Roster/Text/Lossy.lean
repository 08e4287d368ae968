/-!
# Reading bytes as text

`decodeLossy` reads bytes as UTF-8 and never fails.  Each longest start of a well-formed sequence
that does not go on as it should becomes one replacement character, and reading goes on at the
byte that did not fit.  `decodeLossy_ascii` says that ASCII bytes stand for themselves.
-/

namespace Roster.Text

/-- A sequence that has begun: its bits so far, how many bytes are missing, and the range that the
next byte must lie in. -/
structure Pending where
  /-- The bits read so far. -/
  bits : Nat
  /-- The bytes still missing, at least one. -/
  missing : Nat
  /-- The least next byte. -/
  low : Nat
  /-- The greatest next byte. -/
  high : Nat
deriving DecidableEq, Repr

/-- What the first byte of a sequence gives: characters at once, or a sequence to go on with. -/
def startByte (b : Nat) : List Char × Option Pending :=
  if b < 0x80 then ([Char.ofNat b], none)
  else if 0xC2 ≤ b ∧ b ≤ 0xDF then ([], some ⟨b - 0xC0, 1, 0x80, 0xBF⟩)
  else if b = 0xE0 then ([], some ⟨0, 2, 0xA0, 0xBF⟩)
  else if b = 0xED then ([], some ⟨0xD, 2, 0x80, 0x9F⟩)
  else if 0xE1 ≤ b ∧ b ≤ 0xEF then ([], some ⟨b - 0xE0, 2, 0x80, 0xBF⟩)
  else if b = 0xF0 then ([], some ⟨0, 3, 0x90, 0xBF⟩)
  else if b = 0xF4 then ([], some ⟨4, 3, 0x80, 0x8F⟩)
  else if 0xF1 ≤ b ∧ b ≤ 0xF3 then ([], some ⟨b - 0xF0, 3, 0x80, 0xBF⟩)
  else (['\ufffd'], none)

/-- The characters of the bytes, behind a sequence that may have begun. -/
def decodeFrom : Option Pending → List UInt8 → List Char
  | none, [] => []
  | some _, [] => ['\ufffd']
  | none, b :: bytes =>
      let (out, pending) := startByte b.toNat
      out ++ decodeFrom pending bytes
  | some p, b :: bytes =>
      if p.low ≤ b.toNat ∧ b.toNat ≤ p.high then
        let bits := p.bits * 64 + (b.toNat - 0x80)
        if p.missing ≤ 1 then Char.ofNat bits :: decodeFrom none bytes
        else decodeFrom (some ⟨bits, p.missing - 1, 0x80, 0xBF⟩) bytes
      else
        let (out, pending) := startByte b.toNat
        '\ufffd' :: (out ++ decodeFrom pending bytes)

/-- The bytes as text, with a replacement character for each part that is not UTF-8. -/
def decodeLossy (bytes : List UInt8) : String := String.ofList (decodeFrom none bytes)

theorem decodeFrom_ascii {bytes : List UInt8} (h : ∀ b ∈ bytes, b.toNat < 0x80) :
    decodeFrom none bytes = bytes.map fun b => Char.ofNat b.toNat := by
  induction bytes with
  | nil => rfl
  | cons b bytes ih =>
      have hb := h b (by simp)
      simp [decodeFrom, startByte, hb, ih fun x hx => h x (by simp [hx])]

/-- Every ASCII byte is read as the character of its number. -/
theorem decodeLossy_ascii {bytes : List UInt8} (h : ∀ b ∈ bytes, b.toNat < 0x80) :
    (decodeLossy bytes).toList = bytes.map fun b => Char.ofNat b.toNat := by
  simp [decodeLossy, decodeFrom_ascii h]

/-- A sequence broken off gives one replacement character, and the next byte is read anew. -/
example : decodeFrom none [0x61, 0xE2, 0x82, 0x62, 0xFF, 0xC3]
    = ['a', '\ufffd', 'b', '\ufffd', '\ufffd'] := by decide

/-- A surrogate in three bytes is three faults. -/
example : decodeFrom none [0xED, 0xA0, 0x80] = ['\ufffd', '\ufffd', '\ufffd'] := by decide

example : decodeFrom none [0xF0, 0x9F, 0x98, 0x80, 0xC3, 0xA9] = ['😀', 'é'] := by decide

end Roster.Text
