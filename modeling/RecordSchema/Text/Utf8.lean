/-! # Decoding UTF-8

Bytes are read one sequence at a time. A lead byte fixes how many bytes continue it and the range
of the first of them, which excludes overlong forms, surrogates and code points past the last one.
A fault names the bytes that are to blame and why.
-/
namespace RecordSchema.Text.Utf8

inductive Reason where
  | invalidStart
  | invalidContinuation
  | endOfData
deriving DecidableEq, Repr

/-- The bytes from `start` up to and without `stop` cannot be read. -/
structure Fault where
  lead : UInt8
  start : Nat
  stop : Nat
  reason : Reason
deriving DecidableEq, Repr

/-- How a sequence goes on after its lead byte: the bits that the lead gives, the range of the
second byte and the number of bytes that follow the lead. -/
structure Lead where
  bits : Nat
  least : Nat
  greatest : Nat
  more : Nat

def lead? (b : Nat) : Option Lead :=
  if 0xc2 ≤ b ∧ b ≤ 0xdf then some ⟨b - 0xc0, 0x80, 0xbf, 1⟩
  else if b = 0xe0 then some ⟨0, 0xa0, 0xbf, 2⟩
  else if b = 0xed then some ⟨0xd, 0x80, 0x9f, 2⟩
  else if 0xe1 ≤ b ∧ b ≤ 0xef then some ⟨b - 0xe0, 0x80, 0xbf, 2⟩
  else if b = 0xf0 then some ⟨0, 0x90, 0xbf, 3⟩
  else if 0xf1 ≤ b ∧ b ≤ 0xf3 then some ⟨b - 0xf0, 0x80, 0xbf, 3⟩
  else if b = 0xf4 then some ⟨4, 0x80, 0x8f, 3⟩
  else none

/-- Outcome of reading the bytes that continue a sequence: its code point and the rest, or how
many bytes had been accepted when the reading broke off. -/
inductive Tail where
  | read (code : Nat) (rest : List UInt8)
  | broken (accepted : Nat) (reason : Reason)

def tail : (more least greatest code accepted : Nat) → List UInt8 → Tail
  | 0, _, _, code, _, bs => .read code bs
  | _ + 1, _, _, _, accepted, [] => .broken accepted .endOfData
  | more + 1, least, greatest, code, accepted, b :: bs =>
    if least ≤ b.toNat ∧ b.toNat ≤ greatest then
      tail more 0x80 0xbf (code * 64 + (b.toNat - 0x80)) (accepted + 1) bs
    else .broken accepted .invalidContinuation

theorem tail_read_length {more least greatest code accepted : Nat} {bs : List UInt8} {n rest} :
    tail more least greatest code accepted bs = .read n rest → rest.length ≤ bs.length := by
  induction more generalizing least greatest code accepted bs with
  | zero =>
    intro h
    simp only [tail, Tail.read.injEq] at h
    obtain ⟨_, rfl⟩ := h
    exact Nat.le_refl _
  | succ more ih =>
    intro h
    cases bs with
    | nil => simp [tail] at h
    | cons b bs =>
      simp only [tail] at h
      split at h
      · exact Nat.le_succ_of_le (ih h)
      · simp at h

/-- The characters of a byte sequence whose first byte stands at `position`. -/
def decodeFrom (position : Nat) (bs : List UInt8) : Except Fault (List Char) :=
  match bs with
  | [] => .ok []
  | b :: rest =>
    if b.toNat < 0x80 then (Char.ofNat b.toNat :: ·) <$> decodeFrom (position + 1) rest
    else match lead? b.toNat with
      | none => .error ⟨b, position, position + 1, .invalidStart⟩
      | some l =>
        match h : tail l.more l.least l.greatest l.bits 1 rest with
        | .broken accepted reason => .error ⟨b, position, position + accepted, reason⟩
        | .read code more =>
          have : more.length ≤ rest.length := tail_read_length h
          (Char.ofNat code :: ·) <$> decodeFrom (position + 1 + (rest.length - more.length)) more
termination_by bs.length

def decode (bs : List UInt8) : Except Fault String := String.ofList <$> decodeFrom 0 bs

end RecordSchema.Text.Utf8
