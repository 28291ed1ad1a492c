import HostFacts.Text.CodePoint

/-!
# UTF-8

Files are bytes and are decoded strictly: no overlong form, no surrogate,
nothing above U+10FFFF. The decoder takes one byte at a time and keeps the
sequence that it is in the middle of; the range allowed for the next byte
carries all of those exclusions. A fault names the longest run of bytes that
could still have started a character.
-/

namespace HostFacts.Utf8

/-! ## Encoding -/

def encodeCode (n : Nat) : List UInt8 :=
  if n < 0x80 then [UInt8.ofNat n]
  else if n < 0x800 then [UInt8.ofNat (0xC0 + n / 0x40), UInt8.ofNat (0x80 + n % 0x40)]
  else if n < 0x10000 then
    [UInt8.ofNat (0xE0 + n / 0x1000), UInt8.ofNat (0x80 + n / 0x40 % 0x40),
     UInt8.ofNat (0x80 + n % 0x40)]
  else
    [UInt8.ofNat (0xF0 + n / 0x40000), UInt8.ofNat (0x80 + n / 0x1000 % 0x40),
     UInt8.ofNat (0x80 + n / 0x40 % 0x40), UInt8.ofNat (0x80 + n % 0x40)]

/-- The bytes of a text. A surrogate gets the three bytes that its number would have,
which `decode` refuses. -/
def encode (t : Text) : List UInt8 := t.flatMap fun c => encodeCode c.code

/-! ## Decoding -/

inductive Reason
  | invalidStart
  | invalidContinuation
  | unexpectedEnd
deriving Repr, DecidableEq

def Reason.message : Reason → Text
  | invalidStart => "invalid start byte"
  | invalidContinuation => "invalid continuation byte"
  | unexpectedEnd => "unexpected end of data"

/-- The bytes at `start`, `count` of them and the first one `lead`, are no character. -/
structure Fault where
  reason : Reason
  lead : UInt8
  start : Nat
  count : Nat
deriving Repr, DecidableEq

/-- A sequence begun at `start`: `seen` bytes read that make up `code`, `missing` still to
come, the next of them from `low` to `high`. -/
structure Partial where
  lead : UInt8
  start : Nat
  seen : Nat
  code : Nat
  missing : Nat
  low : Nat
  high : Nat
deriving Repr, DecidableEq

/-- What a byte begins: for one above ASCII the code so far, the number of bytes to come,
and the range of the next one. -/
def leadOf (b : UInt8) : Option (Nat × Nat × Nat × Nat) :=
  let n := b.toNat
  if 0xC2 ≤ n ∧ n ≤ 0xDF then some (n - 0xC0, 1, 0x80, 0xBF)
  else if n = 0xE0 then some (0, 2, 0xA0, 0xBF)
  else if n = 0xED then some (0xD, 2, 0x80, 0x9F)
  else if 0xE1 ≤ n ∧ n ≤ 0xEF then some (n - 0xE0, 2, 0x80, 0xBF)
  else if n = 0xF0 then some (0, 3, 0x90, 0xBF)
  else if 0xF1 ≤ n ∧ n ≤ 0xF3 then some (n - 0xF0, 3, 0x80, 0xBF)
  else if n = 0xF4 then some (4, 3, 0x80, 0x8F)
  else none

/-- Decodes the bytes from `position` on, in the middle of `pending` if there is one, after
the characters of `done`, which is kept backwards. -/
def decodeFrom (position : Nat) (pending : Option Partial) (done : Text) :
    List UInt8 → Except Fault Text
  | [] =>
    match pending with
    | none => .ok done.reverse
    | some p => .error ⟨.unexpectedEnd, p.lead, p.start, p.seen⟩
  | b :: bytes =>
    match pending with
    | none =>
      if b.toNat < 0x80 then
        decodeFrom (position + 1) none (.ofCode b.toNat :: done) bytes
      else
        match leadOf b with
        | none => .error ⟨.invalidStart, b, position, 1⟩
        | some (code, missing, low, high) =>
          decodeFrom (position + 1) (some ⟨b, position, 1, code, missing, low, high⟩) done bytes
    | some p =>
      if p.low ≤ b.toNat ∧ b.toNat ≤ p.high then
        let code := p.code * 0x40 + (b.toNat - 0x80)
        if p.missing ≤ 1 then
          decodeFrom (position + 1) none (.ofCode code :: done) bytes
        else
          decodeFrom (position + 1)
            (some { p with seen := p.seen + 1, code, missing := p.missing - 1,
                           low := 0x80, high := 0xBF }) done bytes
      else .error ⟨.invalidContinuation, p.lead, p.start, p.seen⟩

/-- The text that the bytes stand for. -/
def decode (bytes : List UInt8) : Except Fault Text := decodeFrom 0 none [] bytes

end HostFacts.Utf8
