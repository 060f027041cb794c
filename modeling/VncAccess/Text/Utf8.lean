/-!
UTF-8, one character at a time: the bytes of a character, and the character at the head of a
byte string.
-/

namespace VncAccess

abbrev Bytes := List UInt8

namespace Utf8

/-- The shortest form of the character, one to four bytes. -/
def encodeChar (c : Char) : Bytes :=
  let n := c.toNat
  if n < 0x80 then
    [.ofNat n]
  else if n < 0x800 then
    [.ofNat (0xC0 + n / 0x40), .ofNat (0x80 + n % 0x40)]
  else if n < 0x10000 then
    [.ofNat (0xE0 + n / 0x1000), .ofNat (0x80 + n / 0x40 % 0x40), .ofNat (0x80 + n % 0x40)]
  else
    [.ofNat (0xF0 + n / 0x40000), .ofNat (0x80 + n / 0x1000 % 0x40),
      .ofNat (0x80 + n / 0x40 % 0x40), .ofNat (0x80 + n % 0x40)]

/-- The six payload bits of a continuation byte. -/
def continuation? (b : UInt8) : Option Nat :=
  if 0x80 ≤ b.toNat ∧ b.toNat < 0xC0 then some (b.toNat - 0x80) else none

/-- The character at the head and the number of its bytes. Overlong forms, surrogates and values
past the last code point are no characters. -/
def decodeChar? : Bytes → Option (Char × Nat)
  | [] => none
  | a :: rest =>
    let lead := a.toNat
    if lead < 0x80 then
      some (Char.ofNat lead, 1)
    else if lead < 0xC0 then
      none
    else if lead < 0xE0 then
      match rest with
      | b :: _ => do
        let n := (lead - 0xC0) * 0x40 + (← continuation? b)
        if 0x80 ≤ n then some (Char.ofNat n, 2) else none
      | [] => none
    else if lead < 0xF0 then
      match rest with
      | b :: c :: _ => do
        let n := ((lead - 0xE0) * 0x40 + (← continuation? b)) * 0x40 + (← continuation? c)
        if 0x800 ≤ n ∧ (n < 0xD800 ∨ 0xE000 ≤ n) then some (Char.ofNat n, 3) else none
      | _ => none
    else if lead < 0xF8 then
      match rest with
      | b :: c :: d :: _ => do
        let high := ((lead - 0xF0) * 0x40 + (← continuation? b)) * 0x40 + (← continuation? c)
        let n := high * 0x40 + (← continuation? d)
        if 0x10000 ≤ n ∧ n < 0x110000 then some (Char.ofNat n, 4) else none
      | _ => none
    else
      none

/-- The first two bytes of a surrogate. -/
def isCutSurrogate : Bytes → Bool
  | [a, b] => a = 0xED && 0xA0 ≤ b && b < 0xC0
  | _ => false

/-- Whether the bytes are the beginning of a character whose end is missing. A surrogate is only
refused once its third byte is there. -/
def isUnfinished (bytes : Bytes) : Bool :=
  isCutSurrogate bytes ||
    [1, 2, 3].any fun missing => [0x80, 0xBF].any fun b =>
      match decodeChar? (bytes ++ List.replicate missing b) with
      | some (_, size) => size = bytes.length + missing
      | none => false

end Utf8
end VncAccess
