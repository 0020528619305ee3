import SocketBridge.Toml.Text

/-!
# Numbers and moments of TOML

Integers of 64 bits in four bases, floating-point numbers, dates and times. Of a float only its
being one is kept, and likewise of a date or time.
-/

namespace SocketBridge.Toml

open Text

/-- Digits of a base; single underscores may stand between them. -/
def readDigits (base : Nat) : (fuel : Nat) → List Char → List Char × List Char
  | 0, cs => ([], cs)
  | fuel + 1, cs =>
    match cs with
    | c :: r =>
      if isDigitOf base c then
        match r with
        | '_' :: d :: r' =>
          if isDigitOf base d then
            let (ds, rest) := readDigits base fuel (d :: r')
            (c :: ds, rest)
          else ([c], r)
        | _ =>
          let (ds, rest) := readDigits base fuel r
          (c :: ds, rest)
      else ([], cs)
    | [] => ([], cs)

/-- At least one digit. -/
def readSomeDigits (base : Nat) : Reader (List Char) := fun cs =>
  match readDigits base cs.length cs with
  | ([], _) => none
  | (ds, r) => some (ds, r)

/-- An optional sign: whether it is a minus. -/
def readSign : List Char → Bool × List Char
  | '-' :: r => (true, r)
  | '+' :: r => (false, r)
  | cs => (false, cs)

/-- A decimal number as it may stand before a point: a zero stands alone. -/
def readWhole : Reader (List Char)
  | '0' :: r => some (['0'], r)
  | cs => readSomeDigits 10 cs

/-- The integer, if 64 bits hold it. -/
def int64? (n : Int) : Option Int :=
  if -9223372036854775808 ≤ n ∧ n ≤ 9223372036854775807 then some n else none

/-- An unsigned integer behind its base mark. -/
def readBased (base : Nat) : Reader Int := fun cs => do
  let (ds, r) ← readSomeDigits base cs
  return (← int64? (valueOf base ds), r)

def readInteger : Reader Int
  | '0' :: 'x' :: r => readBased 16 r
  | '0' :: 'o' :: r => readBased 8 r
  | '0' :: 'b' :: r => readBased 2 r
  | cs => do
    let (minus, r) := readSign cs
    let (ds, r) ← readWhole r
    let n : Int := valueOf 10 ds
    return (← int64? (if minus then -n else n), r)

/-- Whether `digits` times ten to the power `exponent` is past what a double holds, ties going to
infinity: the bound is half a unit above the largest finite double. -/
def overflows (digits : Nat) (exponent : Int) : Bool :=
  let bound := Nat.pow 2 1024 - Nat.pow 2 970
  let size : Int := (decimal digits).length
  if digits = 0 then false
  else if 310 < size + exponent then true
  else if size + exponent < 309 then false
  else if 0 ≤ exponent then bound ≤ digits * Nat.pow 10 exponent.toNat
  else bound * Nat.pow 10 (-exponent).toNat ≤ digits

/-- The exponent of a float. -/
def readExponent : Reader Int
  | c :: r =>
    if c = 'e' ∨ c = 'E' then do
      let (minus, r) := readSign r
      let (ds, r) ← readSomeDigits 10 r
      let n : Int := valueOf 10 ds
      return (if minus then -n else n, r)
    else none
  | [] => none

/-- A float with a fraction, an exponent or both; positive ones must be finite. -/
def readDecimalFloat : Reader Unit := fun cs => do
  let (minus, r) := readSign cs
  let (whole, r) ← readWhole r
  let (fraction, exponent, r) ←
    match r with
    | '.' :: r => do
      let (fraction, r) ← readSomeDigits 10 r
      match readExponent r with
      | some (e, r) => some (fraction, e, r)
      | none => some (fraction, 0, r)
    | r => do
      let (e, r) ← readExponent r
      some ([], e, r)
  let digits := valueOf 10 (whole ++ fraction)
  if !minus && overflows digits (exponent - fraction.length) then none else some ((), r)

def readSpecialFloat : Reader Unit := fun cs =>
  match (readSign cs).2 with
  | 'i' :: 'n' :: 'f' :: r => some ((), r)
  | 'n' :: 'a' :: 'n' :: r => some ((), r)
  | _ => none

def readFloat : Reader Unit := fun cs => (readDecimalFloat cs).orElse fun _ => readSpecialFloat cs

/-- A number of exactly `count` digits between two bounds. -/
def readFixed (count low high : Nat) : Reader Nat := fun cs =>
  let ds := cs.take count
  let n := valueOf 10 ds
  if ds.length = count ∧ ds.all (isDigitOf 10) ∧ low ≤ n ∧ n ≤ high then some (n, cs.drop count)
  else none

def readMark (c : Char) : List Char → Option (List Char)
  | d :: r => if c = d then some r else none
  | [] => none

def daysIn (year month : Nat) : Nat :=
  if month = 2 then
    if year % 4 = 0 ∧ (year % 100 ≠ 0 ∨ year % 400 = 0) then 29 else 28
  else if month = 4 ∨ month = 6 ∨ month = 9 ∨ month = 11 then 30
  else 31

def readDate : Reader Unit := fun cs => do
  let (year, r) ← readFixed 4 0 9999 cs
  let (month, r) ← (readMark '-' r).bind (readFixed 2 1 12)
  let (_, r) ← (readMark '-' r).bind (readFixed 2 1 (daysIn year month))
  return ((), r)

/-- A point with digits behind it, if there is one. -/
def skipFraction : List Char → List Char
  | '.' :: r =>
    if (r.takeWhile (isDigitOf 10)).isEmpty then '.' :: r else r.dropWhile (isDigitOf 10)
  | cs => cs

/-- A time of day; a leap second is allowed. -/
def readTime : Reader Unit := fun cs => do
  let (_, r) ← readFixed 2 0 23 cs
  let (_, r) ← (readMark ':' r).bind (readFixed 2 0 59)
  let (_, r) ← (readMark ':' r).bind (readFixed 2 0 60)
  return ((), skipFraction r)

def readOffset : Reader Unit
  | c :: r =>
    if c = 'Z' ∨ c = 'z' then some ((), r)
    else if c = '+' ∨ c = '-' then do
      let (_, r) ← readFixed 2 0 23 r
      let (_, r) ← (readMark ':' r).bind (readFixed 2 0 59)
      return ((), r)
    else none
  | [] => none

/-- The time and offset behind a date, if there are any. -/
def skipTimeOfDate : List Char → List Char
  | c :: r =>
    if c = 'T' ∨ c = 't' ∨ c = ' ' then
      match readTime r with
      | some (_, r') => match readOffset r' with
        | some (_, r'') => r''
        | none => r'
      | none => c :: r
    else c :: r
  | [] => []

/-- A date, a date with a time, or a time. -/
def readMoment : Reader Unit := fun cs =>
  match readDate cs with
  | some (_, r) => some ((), skipTimeOfDate r)
  | none => readTime cs

end SocketBridge.Toml
