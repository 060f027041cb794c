import VncAccess.Des.Cipher
import VncAccess.Failure

/-!
The slots of a password file. A password fills eight bytes with zeros at its end, and every slot is
encrypted under one fixed key, which hides passwords from a glance and from nothing else.
-/

namespace VncAccess.Password

/-- How many bytes of a password are significant. -/
def significantLength : Nat := 8

/-- The fewest bytes of a password entered at a terminal. -/
def shortestLength : Nat := 6

/-- The low eight bits in opposite order. -/
def reverseBits (n : Int) : Nat :=
  (List.range 8).foldl (fun value i => 2 * value + (n.shiftRight i % 2).toNat) 0

def fixedKey : Des.Block := #v[23, 82, 107, 6, 35, 78, 88, 7]

/-- The fixed key as the cipher takes it: its bits are read from the other end of each byte. -/
def cipherKey : Des.Block := fixedKey.map fun b => .ofNat (reverseBits b.toNat)

def encryptBlock (block : Des.Block) : Des.Block :=
  Des.tripleEncrypt cipherKey cipherKey cipherKey block

def decryptBlock (block : Des.Block) : Des.Block :=
  Des.tripleDecrypt cipherKey cipherKey cipherKey block

/-- The password with zeros up to the end of the block. -/
def pad (password : Bytes) : Des.Block := Vector.ofFn fun i => password.getD i.val 0

/-- The bytes up to the last one that is not zero. -/
def trimZeros (bytes : Bytes) : Bytes := (bytes.reverse.dropWhile (· = 0)).reverse

def block? (bytes : Bytes) : Option Des.Block :=
  if h : bytes.length = 8 then some ⟨bytes.toArray, by simp [h]⟩ else none

def encrypt (password : Bytes) : Except ValueFault Bytes :=
  if password.length ≤ significantLength then
    .ok (encryptBlock (pad password)).toList
  else
    .error .passwordTooLong

/-- The password of a slot, without the zeros at its end. -/
def decrypt (slot : Bytes) : Except ValueFault Bytes :=
  match block? slot with
  | some block => .ok (trimZeros (decryptBlock block).toList)
  | none => .error (.slotLength slot.length)

/-- One or two slots: an empty second password has none. -/
def encode (primary : Bytes) (secondary : Option Bytes) : Except ValueFault Bytes := do
  let first ← encrypt primary
  let second ← match secondary with
    | none | some [] => pure []
    | some password => encrypt password
  return first ++ second

end VncAccess.Password
