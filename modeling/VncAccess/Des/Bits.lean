import VncAccess.Text.Utf8

/-!
Blocks of bits: choosing bits by a table, and blocks of eight bytes as sixty-four bits.
-/

namespace VncAccess.Des

/-- The most significant bit of the first byte comes first. -/
abbrev Bits (n : Nat) := Vector Bool n

abbrev Block := Vector UInt8 8

namespace Bits

/-- Bit `i` of the result is the bit that the table names at `i`. -/
def select {n m : Nat} (table : Vector (Fin n) m) (bits : Bits n) : Bits m :=
  table.map (bits[·])

def xor {n : Nat} (a b : Bits n) : Bits n := Vector.zipWith Bool.xor a b

def append {n m : Nat} (a : Bits n) (b : Bits m) : Bits (n + m) := a ++ b

def left {n m : Nat} (bits : Bits (n + m)) : Bits n := Vector.ofFn fun i => bits[i.castAdd m]

def right {n m : Nat} (bits : Bits (n + m)) : Bits m := Vector.ofFn fun i => bits[i.natAdd n]

/-- Turns the bits toward the front; those that fall off come in at the end. -/
def rotate {n : Nat} (bits : Bits n) (places : Nat) : Bits n :=
  Vector.ofFn fun i => bits.get ⟨(i.val + places) % n, Nat.mod_lt _ (Nat.zero_lt_of_lt i.isLt)⟩

/-- The number whose binary digits are the bits. -/
def toNat {n : Nat} (bits : Bits n) : Nat := bits.foldl (fun value bit => 2 * value + bit.toNat) 0

def ofBlock (block : Block) : Bits 64 :=
  Vector.ofFn fun i => (block.get ⟨i.val / 8, by omega⟩).toNat.testBit (7 - i.val % 8)

def toBlock (bits : Bits 64) : Block :=
  Vector.ofFn fun j => .ofNat <| toNat <|
    (Vector.ofFn fun i => bits.get ⟨8 * j.val + i.val, by omega⟩ : Bits 8)

end Bits
end VncAccess.Des
