import SocketBridge.Text.Digits

/-!
# Texts and blanks of TOML

Quoted texts in their four forms, comments, line ends and the blanks between tokens. A reader takes
what it reads off the front of the characters and gives the rest.
-/

namespace SocketBridge.Toml

/-- Reads something at the front of a text. -/
abbrev Reader (α : Type) := List Char → Option (α × List Char)

def isGap (c : Char) : Bool := c == ' ' || c == '\t'

def skipGaps (cs : List Char) : List Char := cs.dropWhile isGap

/-- A line feed, with or without a carriage return before it. -/
def dropNewline? : List Char → Option (List Char)
  | '\n' :: r => some r
  | '\r' :: '\n' :: r => some r
  | _ => none

/-- Characters that may stand in a comment or a literal text: tabs and what is no control. -/
def isPlain (c : Char) : Bool := c == '\t' || (' ' ≤ c && c != '\x7f')

/-- Drops a comment up to the line end, if there is one. -/
def skipComment : List Char → List Char
  | '#' :: r => r.dropWhile isPlain
  | cs => cs

/-- The rest of a line that holds nothing more: blanks, a comment, the line end or the end. -/
def endLine (cs : List Char) : Option (List Char) :=
  match skipComment (skipGaps cs) with
  | [] => some []
  | r => dropNewline? r

/-- Drops blanks, line ends and comments that a line end follows. -/
def skipLines : (fuel : Nat) → List Char → List Char
  | 0, cs => cs
  | fuel + 1, cs =>
    let cs := skipGaps cs
    match dropNewline? (skipComment cs) with
    | some r => skipLines fuel r
    | none => cs

def isBasic (c : Char) : Bool := isPlain c && c != '"' && c != '\\'

def isLiteral (c : Char) : Bool := isPlain c && c != '\''

/-- The character of a code point in exactly `count` hexadecimal digits. -/
def readCodePoint (count : Nat) : Reader Char := fun cs =>
  let ds := cs.take count
  let n := Text.valueOf 16 ds
  if ds.length = count ∧ ds.all (Text.isDigitOf 16) ∧ n.isValidChar then
    some (Char.ofNat n, cs.drop count)
  else none

/-- What a backslash stands for together with the characters behind it. -/
def readEscape : Reader Char
  | 'b' :: r => some ('\x08', r)
  | 't' :: r => some ('\t', r)
  | 'n' :: r => some ('\n', r)
  | 'f' :: r => some ('\x0c', r)
  | 'r' :: r => some ('\r', r)
  | '"' :: r => some ('"', r)
  | '\\' :: r => some ('\\', r)
  | 'u' :: r => readCodePoint 4 r
  | 'U' :: r => readCodePoint 8 r
  | _ => none

/-- The rest of a one-line text in double quotes. -/
def readBasicTail : (fuel : Nat) → Reader (List Char)
  | 0, _ => none
  | _ + 1, [] => none
  | fuel + 1, c :: r =>
    if c = '"' then some ([], r)
    else if c = '\\' then do
      let (e, r) ← readEscape r
      let (more, r) ← readBasicTail fuel r
      return (e :: more, r)
    else if isBasic c then do
      let (more, r) ← readBasicTail fuel r
      return (c :: more, r)
    else none

/-- The rest of a one-line text in single quotes. -/
def readLiteralTail (cs : List Char) : Option (List Char × List Char) :=
  match cs.dropWhile isLiteral with
  | '\'' :: r => some (cs.takeWhile isLiteral, r)
  | _ => none

/-- Drops blanks and line ends. -/
def skipBlanks : List Char → List Char
  | '\r' :: '\n' :: r => skipBlanks r
  | c :: r => if isGap c || c == '\n' then skipBlanks r else c :: r
  | [] => []

/-- A line that ends in a backslash goes on at the next character that is no blank. -/
def readContinuation (cs : List Char) : Option (List Char) :=
  (dropNewline? (skipGaps cs)).map skipBlanks

/-- A run of quotes inside a long text. Three end the text, and up to two more before them belong
to it; fewer than three are part of it. -/
inductive QuoteRun
  | inside (count : Nat)
  | final (count : Nat)

def quoteRun (quote : Char) (cs : List Char) : QuoteRun :=
  let n := (cs.takeWhile (· == quote)).length
  if n < 3 then .inside n else .final (min (n - 3) 2)

/-- The rest of a text between three quotes of one kind; `escapes` says whether backslashes
escape. -/
def readLongTail (quote : Char) (escapes : Bool) : (fuel : Nat) → Reader (List Char)
  | 0, _ => none
  | _ + 1, [] => none
  | fuel + 1, c :: r =>
    if c = quote then
      match quoteRun quote (c :: r) with
      | .final n => some (List.replicate n quote, (c :: r).drop (n + 3))
      | .inside n => do
        let (more, r) ← readLongTail quote escapes fuel ((c :: r).drop n)
        return (List.replicate n quote ++ more, r)
    else if escapes && c == '\\' then
      match readContinuation r with
      | some r => readLongTail quote escapes fuel r
      | none => do
        let (e, r) ← readEscape r
        let (more, r) ← readLongTail quote escapes fuel r
        return (e :: more, r)
    else
      match dropNewline? (c :: r) with
      | some r => do
        let (more, r) ← readLongTail quote escapes fuel r
        return ('\n' :: more, r)
      | none =>
        if isPlain c then do
          let (more, r) ← readLongTail quote escapes fuel r
          return (c :: more, r)
        else none

/-- A line end right behind the opening quotes is not part of a long text. -/
def skipFirstNewline (cs : List Char) : List Char := (dropNewline? cs).getD cs

/-- A text in any of its forms. -/
def readText : Reader (List Char)
  | '"' :: '"' :: '"' :: r => readLongTail '"' true (r.length + 1) (skipFirstNewline r)
  | '"' :: r => readBasicTail (r.length + 1) r
  | '\'' :: '\'' :: '\'' :: r => readLongTail '\'' false (r.length + 1) (skipFirstNewline r)
  | '\'' :: r => readLiteralTail r
  | _ => none

end SocketBridge.Toml
