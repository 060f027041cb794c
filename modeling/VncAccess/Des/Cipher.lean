import VncAccess.Des.Bits
import VncAccess.Des.Tables

/-!
The Data Encryption Standard and its triple form. Encryption and decryption are the same sixteen
rounds with the round keys in opposite orders.
-/

namespace VncAccess.Des

abbrev Half := Bits 32

abbrev RoundKey := Bits 48

/-! ## The round function -/

/-- The outer two of six bits name the row of a box, the inner four the column. -/
def boxIndex (six : Bits 6) : Fin 64 :=
  let row := 2 * six[0].toNat + six[5].toNat
  let column := 8 * six[1].toNat + 4 * six[2].toNat + 2 * six[3].toNat + six[4].toNat
  ⟨(16 * row + column) % 64, Nat.mod_lt _ (by decide)⟩

/-- Replaces each group of six bits by the four of its box's entry. -/
def substitute (bits : Bits 48) : Half :=
  let entries : Vector (Fin 16) 8 := Vector.ofFn fun b =>
    boxes[b][boxIndex (Vector.ofFn fun i => bits.get ⟨6 * b.val + i.val, by omega⟩)]
  Vector.ofFn fun i => (entries.get ⟨i.val / 4, by omega⟩).val.testBit (3 - i.val % 4)

def mix (half : Half) (key : RoundKey) : Half :=
  Bits.select roundPermutation (substitute (Bits.xor (Bits.select expansion half) key))

/-! ## The rounds -/

def round (halves : Half × Half) (key : RoundKey) : Half × Half :=
  (halves.2, Bits.xor halves.1 (mix halves.2 key))

/-- The rounds between the two permutations; the halves change places at the end. -/
def rounds (keys : List RoundKey) (bits : Bits 64) : Bits 64 :=
  let start : Bits (32 + 32) := Bits.select initialPermutation bits
  let (a, b) := keys.foldl round (start.left, start.right)
  Bits.select finalPermutation (b.append a)

def roundKeys (key : Block) : List RoundKey :=
  let chosen : Bits (28 + 28) := Bits.select keyHalves (Bits.ofBlock key)
  rotations.map fun places =>
    Bits.select subkeyChoice ((chosen.left.rotate places).append (chosen.right.rotate places))

def encrypt (key block : Block) : Block :=
  (rounds (roundKeys key) (Bits.ofBlock block)).toBlock

def decrypt (key block : Block) : Block :=
  (rounds (roundKeys key).reverse (Bits.ofBlock block)).toBlock

/-! ## The triple form -/

def tripleEncrypt (first second third block : Block) : Block :=
  encrypt third (decrypt second (encrypt first block))

def tripleDecrypt (first second third block : Block) : Block :=
  decrypt first (encrypt second (decrypt third block))

end VncAccess.Des
