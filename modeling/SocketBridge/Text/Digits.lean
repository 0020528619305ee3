/-!
# Digits

Numbers written in a base up to sixteen: the value of a digit, of a run of digits, and reading
the longest run at the front of a text.
-/

namespace SocketBridge.Text

/-- The value of an ASCII digit that `base` has. -/
def digitValue? (base : Nat) (c : Char) : Option Nat :=
  let value :=
    if '0' ≤ c ∧ c ≤ '9' then c.toNat - 48
    else if 'a' ≤ c ∧ c ≤ 'f' then c.toNat - 87
    else if 'A' ≤ c ∧ c ≤ 'F' then c.toNat - 55
    else base
  if value < base then some value else none

def isDigitOf (base : Nat) (c : Char) : Bool := (digitValue? base c).isSome

/-- The number a run of digits stands for. -/
def valueOf (base : Nat) (cs : List Char) : Nat :=
  cs.foldl (fun n c => base * n + (digitValue? base c).getD 0) 0

/-- How a number may be written: its base, the most digits it may have, whether a zero may lead
other digits, and what it must stay below. -/
structure NumberForm where
  base : Nat
  maxDigits : Option Nat := none
  leadingZeros : Bool := true
  bound : Nat

/-- Whether a run of digits is a number of this form. -/
def NumberForm.admits (form : NumberForm) (ds : List Char) : Bool :=
  !ds.isEmpty && form.maxDigits.all (ds.length ≤ ·) &&
    (form.leadingZeros || ds.length ≤ 1 || ds.head? != some '0') &&
    valueOf form.base ds < form.bound

/-- Takes all digits at the front, whether or not the number could have ended earlier. -/
def NumberForm.read? (form : NumberForm) (cs : List Char) : Option (Nat × List Char) :=
  let ds := cs.takeWhile (isDigitOf form.base)
  if form.admits ds then some (valueOf form.base ds, cs.dropWhile (isDigitOf form.base)) else none

/-- Decimal digits of a natural number. -/
def decimal (n : Nat) : List Char := Nat.toDigits 10 n

/-- Lower-case hexadecimal digits of a natural number. -/
def hexadecimal (n : Nat) : List Char := Nat.toDigits 16 n

end SocketBridge.Text
