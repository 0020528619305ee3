/-!
# UTF-8

Encoding of characters, and reading bytes one character at a time. A reading step tells bytes that
can still become a character (`incomplete`) from bytes that cannot (`invalid`).
-/

namespace SocketBridge.Utf8

/-- A continuation byte that carries the low six bits of `n`. -/
def tail (n : Nat) : UInt8 := UInt8.ofNat (0x80 + n % 64)

/-- The bytes of one character. -/
def encodeChar (c : Char) : List UInt8 :=
  let n := c.toNat
  if n < 0x80 then [UInt8.ofNat n]
  else if n < 0x800 then [UInt8.ofNat (0xC0 + n / 64), tail n]
  else if n < 0x10000 then [UInt8.ofNat (0xE0 + n / 4096), tail (n / 64), tail n]
  else [UInt8.ofNat (0xF0 + n / 262144), tail (n / 4096), tail (n / 64), tail n]

def encode (cs : List Char) : List UInt8 := cs.flatMap encodeChar

/-- What stands at the front of some bytes. -/
inductive Front
  | done
  | char (c : Char) (rest : List UInt8)
  | incomplete
  | invalid
deriving DecidableEq

def isTail (b : UInt8) : Bool := 0x80 ≤ b && b ≤ 0xBF

/-- How many bytes a character has that starts with `b`; zero when none does. -/
def width (b : UInt8) : Nat :=
  if b < 0x80 then 1
  else if 0xC2 ≤ b && b ≤ 0xDF then 2
  else if 0xE0 ≤ b && b ≤ 0xEF then 3
  else if 0xF0 ≤ b && b ≤ 0xF4 then 4
  else 0

/-- Which bytes may follow a lead byte: overlong forms, surrogates and numbers past the last
code point are cut off here. -/
def isSecond (lead b : UInt8) : Bool :=
  if lead == 0xE0 then 0xA0 ≤ b && b ≤ 0xBF
  else if lead == 0xED then 0x80 ≤ b && b ≤ 0x9F
  else if lead == 0xF0 then 0x90 ≤ b && b ≤ 0xBF
  else if lead == 0xF4 then 0x80 ≤ b && b ≤ 0x8F
  else isTail b

/-- Whether bytes may follow a lead byte, as far as they go. -/
def follows (lead : UInt8) : List UInt8 → Bool
  | [] => true
  | b :: bs => isSecond lead b && bs.all isTail

/-- The payload bits of a lead byte that `count` continuation bytes follow. -/
def leadBits (count : Nat) (b : UInt8) : Nat :=
  if count = 0 then b.toNat else b.toNat % Nat.pow 2 (6 - count)

/-- The code point of a lead byte and the bytes that follow it. -/
def codePoint (lead : UInt8) (bs : List UInt8) : Nat :=
  bs.foldl (fun n b => 64 * n + b.toNat % 64) (leadBits bs.length lead)

/-- Reads one character. -/
def front : List UInt8 → Front
  | [] => .done
  | lead :: r =>
    match width lead with
    | 0 => .invalid
    | count + 1 =>
      if follows lead (r.take count) then
        if count ≤ r.length then .char (Char.ofNat (codePoint lead (r.take count))) (r.drop count)
        else .incomplete
      else .invalid

/-- Reading a character shortens the bytes. -/
theorem length_lt_of_front {bs rest : List UInt8} {c : Char} (h : front bs = .char c rest) :
    rest.length < bs.length := by
  cases bs with
  | nil => cases h
  | cons lead r =>
    unfold front at h
    grind

/-- Why reading ended. -/
inductive End
  | complete
  | incomplete
  | invalid
deriving DecidableEq

/-- Reads as many characters as there are, and tells what is left and why. -/
structure Scan where
  chars : List Char
  rest : List UInt8
  ending : End
deriving DecidableEq

def scan (bs : List UInt8) : Scan :=
  match _h : front bs with
  | .done => ⟨[], bs, .complete⟩
  | .incomplete => ⟨[], bs, .incomplete⟩
  | .invalid => ⟨[], bs, .invalid⟩
  | .char c rest =>
    let s := scan rest
    ⟨c :: s.chars, s.rest, s.ending⟩
termination_by bs.length
decreasing_by exact length_lt_of_front _h

/-- The characters of bytes that are UTF-8 from end to end. -/
def decode? (bs : List UInt8) : Option (List Char) :=
  let s := scan bs
  if s.ending = .complete then some s.chars else none

end SocketBridge.Utf8
