import VncAccess.Text.Utf8

/-!
Text as an operator supplies it: characters, and bytes that are part of no character. Reading
bytes as text loses nothing, and only text without stray bytes has a UTF-8 form.
-/

namespace VncAccess

inductive Glyph where
  | char (c : Char)
  /-- A byte that belongs to no UTF-8 sequence. -/
  | stray (b : UInt8)
  deriving DecidableEq, Repr, Inhabited

abbrev Text := List Glyph

namespace Glyph

def bytes : Glyph → Bytes
  | char c => Utf8.encodeChar c
  | stray b => [b]

def char? : Glyph → Option Char
  | char c => some c
  | stray _ => none

end Glyph

namespace Text

def ofChars (cs : List Char) : Text := cs.map .char

def ofString (s : String) : Text := ofChars s.toList

instance : Coe String Text := ⟨ofString⟩

/-- Reads on from a place where `skip` bytes belong to the character before. -/
def readFrom : Nat → Bytes → Text
  | _, [] => []
  | skip + 1, _ :: rest => readFrom skip rest
  | 0, b :: rest =>
    match Utf8.decodeChar? (b :: rest) with
    | some (c, size) => .char c :: readFrom (size - 1) rest
    | none => .stray b :: readFrom 0 rest

/-- Every byte string is text: what is no character stays a stray byte. -/
def ofBytes (bytes : Bytes) : Text := readFrom 0 bytes

/-- The bytes that the text was, or would be, read from. -/
def toBytes (t : Text) : Bytes := t.flatMap Glyph.bytes

/-- The characters, when there are no stray bytes. -/
def chars? (t : Text) : Option (List Char) := t.mapM Glyph.char?

/-- The UTF-8 form, which text with stray bytes does not have. -/
def utf8? (t : Text) : Option Bytes := t.chars?.map (·.flatMap Utf8.encodeChar)

/-- The bytes as characters, when all of them are UTF-8. -/
def decode? (bytes : Bytes) : Option (List Char) := (ofBytes bytes).chars?

/-- The text as a string, stray bytes left out. -/
def toString (t : Text) : String := String.ofList (t.filterMap Glyph.char?)

def newline : Glyph := .char '\n'
def slash : Glyph := .char '/'
def backslash : Glyph := .char '\\'

/-- The pieces between separators, one more than there are separators. -/
def splitOn (separator : Glyph) : Text → List Text
  | [] => [[]]
  | g :: rest =>
    if g = separator then
      [] :: splitOn separator rest
    else
      match splitOn separator rest with
      | [] => [[g]]
      | piece :: pieces => (g :: piece) :: pieces

def joinWith (separator : Text) : List Text → Text
  | [] => []
  | [piece] => piece
  | piece :: pieces => piece ++ separator ++ joinWith separator pieces

end Text

/-! ## Decimal numerals -/

namespace Decimal

def digit (n : Nat) : Char := Char.ofNat (48 + n % 10)

/-- The last `width` digits, with leading zeros. -/
def padded : Nat → Nat → List Char
  | 0, _ => []
  | width + 1, n => padded width (n / 10) ++ [digit n]

/-- As short as possible. -/
def natural (n : Nat) : Text := Text.ofString (Nat.repr n)

def integer : Int → Text
  | .ofNat n => natural n
  | .negSucc n => .char '-' :: natural (n + 1)

/-- The value of a numeral, digit by digit. -/
def value (digits : List Char) : Nat :=
  digits.foldl (fun n c => n * 10 + (c.toNat - 48)) 0

end Decimal
end VncAccess
