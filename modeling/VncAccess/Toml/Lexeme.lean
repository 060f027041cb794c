import VncAccess.Toml.Value

/-! Blanks, comments, keys and strings of a TOML document. -/

namespace VncAccess.Toml

inductive Fault where
  | malformed
  /-- A decimal numeral of more digits than are read. -/
  | numeralTooLong (digits : Nat)
  /-- Arrays and inline tables within each other beyond what is read. -/
  | nestedTooDeep
  deriving DecidableEq, Repr

abbrev Reader := StateT (List Char) (Except Fault)

namespace Reader

def fail {α : Type} : Reader α := throw .malformed

def ofOption {α : Type} : Option α → Reader α
  | some a => pure a
  | none => fail

def peek : Reader (Option Char) := do return (← get).head?

def skip (n : Nat) : Reader Unit := modify (·.drop n)

/-- Takes the characters as long as they satisfy the test. -/
def takeWhile (test : Char → Bool) : Reader (List Char) := do
  let rest ← get
  set (rest.dropWhile test)
  return rest.takeWhile test

def skipWhile (test : Char → Bool) : Reader Unit := modify (·.dropWhile test)

def startsWith (word : List Char) : Reader Bool := do return word.isPrefixOf (← get)

end Reader

open Reader

def isBlank (c : Char) : Bool := c = ' ' || c = '\t'

def isBlankOrNewline (c : Char) : Bool := isBlank c || c = '\n'

def isControl (c : Char) : Bool := c.toNat < 32 || c.toNat = 127

/-- No comment and no string on one line holds these. -/
def isForbidden (c : Char) : Bool := isControl c && c ≠ '\t'

def isForbiddenInLines (c : Char) : Bool := isForbidden c && c ≠ '\n'

def isBareKeyChar (c : Char) : Bool := c.isAlphanum || c = '-' || c = '_'

/-! ## Blanks and comments -/

def skipBlanks : Reader Unit := skipWhile isBlank

def skipComment : Reader Unit := do
  if (← peek) = some '#' then
    let comment ← takeWhile (· ≠ '\n')
    if comment.any isForbidden then fail

/-- One comment at each turn. -/
def skipLines : Nat → Reader Unit
  | 0 => fail
  | turns + 1 => do
    skipWhile isBlankOrNewline
    if (← peek) = some '#' then
      skipComment
      skipLines turns

/-- Skips everything that may stand between the items of an array. -/
def skipBetweenItems : Reader Unit := do skipLines ((← get).length + 1)

/-! ## Strings -/

/-- The text up to the word, which is read too. -/
def untilWord (word : List Char) : List Char → Option (List Char × List Char)
  | [] => none
  | c :: rest =>
    if word.isPrefixOf (c :: rest) then
      some ([], (c :: rest).drop word.length)
    else
      (untilWord word rest).map fun (before, after) => (c :: before, after)

def takeUntilWord (word : List Char) (forbidden : Char → Bool) : Reader (List Char) := do
  let (before, after) ← ofOption (untilWord word (← get))
  if before.any forbidden then fail
  set after
  return before

def hexValue? (c : Char) : Option Nat :=
  if '0' ≤ c ∧ c ≤ '9' then some (c.toNat - 48)
  else if 'a' ≤ c ∧ c ≤ 'f' then some (c.toNat - 87)
  else if 'A' ≤ c ∧ c ≤ 'F' then some (c.toNat - 55)
  else none

/-- The character with the code point that the next digits give. -/
def codePoint (digits : Nat) : Reader (List Char) := do
  let written := (← get).take digits
  let values ← ofOption (written.mapM hexValue?)
  let n := values.foldl (fun n digit => 16 * n + digit) 0
  skip digits
  if written.length = digits ∧ n.isValidChar then
    return [Char.ofNat n]
  else
    fail

/-- A backslash at the end of a line takes all blanks and line ends after it with it. -/
def lineContinuation : Reader (List Char) := do
  skipBlanks
  match ← peek with
  | none => return []
  | some '\n' =>
    skipWhile isBlankOrNewline
    return []
  | some _ => fail

/-- What an escape stands for; its backslash has been read. -/
def escapeSequence (multiline : Bool) : Reader (List Char) := do
  let some c ← peek | fail
  if multiline && isBlankOrNewline c then
    lineContinuation
  else
    skip 1
    match c with
    | 'b' => return ['\x08']
    | 't' => return ['\t']
    | 'n' => return ['\n']
    | 'f' => return ['\x0c']
    | 'r' => return ['\r']
    | '"' => return ['"']
    | '\\' => return ['\\']
    | 'u' => codePoint 4
    | 'U' => codePoint 8
    | _ => fail

/-- The rest of a string with escapes, its first quotes read. Every turn reads a character. -/
def basicString (multiline : Bool) : Nat → Reader (List Char)
  | 0 => fail
  | turns + 1 => do
    let some c ← peek | fail
    if c = '"' then
      if !multiline then
        skip 1
        return []
      else if ← startsWith ['"', '"', '"'] then
        skip 3
        return []
      else
        skip 1
        return c :: (← basicString multiline turns)
    else if c = '\\' then
      skip 1
      let here ← escapeSequence multiline
      return here ++ (← basicString multiline turns)
    else if (if multiline then isForbiddenInLines c else isForbidden c) then
      fail
    else
      skip 1
      return c :: (← basicString multiline turns)

def oneLineBasic : Reader (List Char) := do
  skip 1
  basicString false ((← get).length + 1)

def oneLineLiteral : Reader (List Char) := do
  skip 1
  takeUntilWord ['\''] isForbidden

/-- Up to two quotes just before the closing three belong to the string. -/
def extraQuotes (quote : Char) : Reader (List Char) := do
  let extra := ((← get).take 2).takeWhile (· = quote)
  skip extra.length
  return extra

def multilineString (quote : Char) : Reader (List Char) := do
  skip 3
  if (← peek) = some '\n' then skip 1
  let content ←
    if quote = '"' then
      basicString true ((← get).length + 1)
    else
      takeUntilWord [quote, quote, quote] isForbiddenInLines
  return content ++ (← extraQuotes quote)

/-! ## Keys -/

def keyPart : Reader Text := do
  match ← peek with
  | some '\'' => return Text.ofChars (← oneLineLiteral)
  | some '"' => return Text.ofChars (← oneLineBasic)
  | _ =>
    let name ← takeWhile isBareKeyChar
    if name = [] then fail
    return Text.ofChars name

/-- The parts of a dotted key, one at each turn, and the blanks after it. -/
def keyParts : Nat → Reader Key
  | 0 => fail
  | turns + 1 => do
    let part ← keyPart
    skipBlanks
    if (← peek) = some '.' then
      skip 1
      skipBlanks
      return part :: (← keyParts turns)
    else
      return [part]

def key : Reader Key := do keyParts ((← get).length + 1)

end VncAccess.Toml
