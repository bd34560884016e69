/-
# UTF-8

Characters as bytes, and bytes as characters. Bytes that are no UTF-8 are not refused: every longest
run that could still have become a character stands for one replacement character, and so does
every byte that begins none.

Main statement: `decode_ascii` (ASCII bytes are the characters of their codes).
-/

namespace Critique.Text.Utf8

/-! ## 1. Writing -/

/-- The bytes of a character. -/
def encodeChar (c : Char) : List Nat :=
  let n := c.toNat
  let tail := fun shift => 0x80 + n / shift % 0x40
  if n < 0x80 then [n]
  else if n < 0x800 then [0xC0 + n / 0x40, tail 1]
  else if n < 0x10000 then [0xE0 + n / 0x1000, tail 0x40, tail 1]
  else [0xF0 + n / 0x40000, tail 0x1000, tail 0x40, tail 1]

/-! ## 2. Reading -/

/-- A character of which some bytes are still to come: how many, between which bounds the next one
must lie, and what the bytes so far are worth. -/
structure Pending where
  left : Nat
  lowest : Nat
  highest : Nat
  value : Nat

/-- The character that a first byte begins. -/
def lead? (b : Nat) : Option Pending :=
  if b < 0xC2 then none
  else if b < 0xE0 then some ⟨1, 0x80, 0xBF, b - 0xC0⟩
  else if b = 0xE0 then some ⟨2, 0xA0, 0xBF, 0⟩
  else if b = 0xED then some ⟨2, 0x80, 0x9F, 0xD⟩
  else if b < 0xF0 then some ⟨2, 0x80, 0xBF, b - 0xE0⟩
  else if b = 0xF0 then some ⟨3, 0x90, 0xBF, 0⟩
  else if b < 0xF4 then some ⟨3, 0x80, 0xBF, b - 0xF0⟩
  else if b = 0xF4 then some ⟨3, 0x80, 0x8F, 4⟩
  else none

/-- Stands for bytes that are no character. -/
def replacement : Char := '\uFFFD'

/-- The characters that a byte completes where no character is pending, and the one that it
begins. -/
def start (b : Nat) : List Char × Option Pending :=
  if b < 0x80 then ([Char.ofNat b], none)
  else
    match lead? b with
    | some pending => ([], some pending)
    | none => ([replacement], none)

/-- The characters that the next byte completes, and the one that is pending after it. -/
def step (pending : Option Pending) (b : Nat) : List Char × Option Pending :=
  match pending with
  | none => start b
  | some p =>
    if p.lowest ≤ b ∧ b ≤ p.highest then
      let value := p.value * 0x40 + (b - 0x80)
      if p.left = 1 then ([Char.ofNat value], none)
      else ([], some ⟨p.left - 1, 0x80, 0xBF, value⟩)
    else
      let (done, next) := start b
      (replacement :: done, next)

/-- The characters of bytes behind a pending character. -/
def decodeFrom : Option Pending → List Nat → List Char
  | none, [] => []
  | some _, [] => [replacement]
  | pending, b :: rest =>
    let (done, next) := step pending b
    done ++ decodeFrom next rest

/-- The characters of bytes. -/
def decode (bytes : List Nat) : List Char :=
  decodeFrom none bytes

/-- ASCII bytes are the characters of their codes. -/
theorem decode_ascii (bytes : List Nat) (h : ∀ b ∈ bytes, b < 0x80) :
    decode bytes = bytes.map Char.ofNat := by
  unfold decode
  induction bytes with
  | nil => rfl
  | cons b rest ih =>
    have hb : b < 0x80 := h b List.mem_cons_self
    have hrest := ih fun x hx => h x (List.mem_cons_of_mem b hx)
    simp [decodeFrom, step, start, hb, hrest]

end Critique.Text.Utf8
