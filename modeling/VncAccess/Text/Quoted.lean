import VncAccess.Text.Basic
import VncAccess.Text.Printable

/-!
Text between quotes on one visible line: unprintable characters are written as escapes, and the
quote is the double one only where that saves escaping single ones.
-/

namespace VncAccess.Quoted

def hexDigit (n : Nat) : Char :=
  Char.ofNat (if n % 16 < 10 then 48 + n % 16 else 87 + n % 16)

/-- The last `width` hexadecimal digits. -/
def hex : Nat → Nat → List Char
  | 0, _ => []
  | width + 1, n => hex width (n / 16) ++ [hexDigit n]

def escapeCode (n : Nat) : List Char :=
  if n < 0x100 then ['\\', 'x'] ++ hex 2 n
  else if n < 0x10000 then ['\\', 'u'] ++ hex 4 n
  else ['\\', 'U'] ++ hex 8 n

/-- A stray byte `b` stands for the code point `U+DC00 + b`. -/
def strayCode (b : UInt8) : List Char := escapeCode (0xDC00 + b.toNat)

def escape (quote : Char) : Glyph → List Char
  | .stray b => strayCode b
  | .char c =>
    if c = quote ∨ c = '\\' then ['\\', c]
    else if c = '\t' then ['\\', 't']
    else if c = '\n' then ['\\', 'n']
    else if c = '\r' then ['\\', 'r']
    else if Printable.isPrintable c then [c]
    else escapeCode c.toNat

/-- The text with escapes in the place of its stray bytes. -/
def escapeStrays (t : Text) : Text :=
  t.flatMap fun
    | .char c => [.char c]
    | .stray b => Text.ofChars (strayCode b)

def quote (t : Text) : Text :=
  let mark := if t.contains (.char '\'') && !t.contains (.char '"') then '"' else '\''
  Text.ofChars (mark :: t.flatMap (escape mark) ++ [mark])

end VncAccess.Quoted
