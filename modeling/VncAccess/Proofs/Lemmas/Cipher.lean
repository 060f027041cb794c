import VncAccess.Des.Cipher

/-!
# Decryption undoes encryption

The permutations at both ends undo each other, a round is undone by the same round with the halves
in opposite places, and blocks are their bits.
-/

namespace VncAccess.Des

/-! ## Bits and blocks -/

namespace Bits

theorem getElem_select {n m : Nat} (table : Vector (Fin n) m) (bits : Bits n) (i : Nat)
    (h : i < m) : (select table bits)[i] = bits[table[i]] := by
  simp [select]

theorem select_select {n m : Nat} {table : Vector (Fin n) m} {back : Vector (Fin m) n}
    (undo : ∀ i : Fin n, table.get (back.get i) = i) (bits : Bits n) :
    select back (select table bits) = bits := by
  ext i h
  have same : table[back[i]] = ⟨i, h⟩ := undo ⟨i, h⟩
  rw [getElem_select, Fin.getElem_fin, getElem_select]
  simp only [Fin.getElem_fin] at same ⊢
  simp only [same]

theorem xor_xor {n : Nat} (a b : Bits n) : xor (xor a b) b = a := by
  ext i h
  simp [xor]

theorem left_append {n m : Nat} (a : Bits n) (b : Bits m) : (append a b).left = a := by
  ext i h
  simp [left, append]

theorem right_append {n m : Nat} (a : Bits n) (b : Bits m) : (append a b).right = b := by
  ext i h
  simp [right, append]

theorem append_left_right {n m : Nat} (bits : Bits (n + m)) :
    append bits.left bits.right = bits := by
  ext i h
  by_cases hi : i < n
  · simp [append, left, hi]
  · simp only [append, right, Vector.getElem_append, hi, ↓reduceDIte, Vector.getElem_ofFn]
    simp [show n + (i - n) = i by omega]

theorem testBit_digit (value i : Nat) (bit : Bool) :
    (2 * value + bit.toNat).testBit i = if i = 0 then bit else value.testBit (i - 1) := by
  have small : bit.toNat < 2 := bit.toNat_lt
  cases i with
  | zero =>
      have parity : (2 * value + bit.toNat) % 2 = bit.toNat := by omega
      rw [Nat.testBit_zero, parity, if_pos rfl]
      cases bit <;> rfl
  | succ i =>
      have half : (2 * value + bit.toNat) / 2 = value := by omega
      simp [Nat.testBit_succ, half]

/-- The digits of a number that is read from the front, counted from the back. -/
theorem testBit_digits (digits : List Bool) (i : Nat) :
    (digits.foldl (fun value (bit : Bool) => 2 * value + bit.toNat) 0).testBit i =
      (digits.reverse[i]?).getD false := by
  rw [← digits.reverse_reverse, List.foldl_reverse, List.reverse_reverse]
  generalize digits.reverse = digits
  induction digits generalizing i with
  | nil => simp
  | cons bit digits ih =>
      rw [List.foldr_cons, testBit_digit]
      cases i with
      | zero => simp
      | succ i => simpa using ih i

theorem testBit_toNat {n : Nat} (bits : Bits n) (i : Nat) :
    bits.toNat.testBit i = if h : i < n then bits[n - 1 - i] else false := by
  rw [toNat, ← Vector.foldl_toList, testBit_digits]
  split
  · next h =>
      rw [List.getElem?_reverse (by simpa using h)]
      simp [show n - 1 - i < n by omega]
  · next h =>
      rw [List.getElem?_eq_none (by simpa using h)]
      rfl

theorem getElem_ofBlock (block : Block) (i : Nat) (h : i < 64) :
    (ofBlock block)[i] = block[i / 8].toNat.testBit (7 - i % 8) := by
  simp [ofBlock, Vector.get]

theorem getElem_toBlock (bits : Bits 64) (j : Nat) (h : j < 8) :
    (toBlock bits)[j] =
      UInt8.ofNat (toNat (Vector.ofFn fun i : Fin 8 => bits[8 * j + i.val])) := by
  simp [toBlock, Vector.get]

theorem ofBlock_toBlock (bits : Bits 64) : ofBlock (toBlock bits) = bits := by
  ext i h
  rw [getElem_ofBlock, getElem_toBlock, UInt8.toNat_ofNat', Nat.testBit_mod_two_pow, testBit_toNat]
  have inByte : 7 - i % 8 < 8 := by omega
  have place : 8 * (i / 8) + (8 - 1 - (7 - i % 8)) = i := by omega
  simp [inByte, place]

theorem toBlock_ofBlock (block : Block) : toBlock (ofBlock block) = block := by
  ext j h
  rw [getElem_toBlock]
  have digits : toNat (Vector.ofFn fun i : Fin 8 => (ofBlock block)[8 * j + i.val]) =
      block[j].toNat := by
    refine Nat.eq_of_testBit_eq fun i => ?_
    rw [testBit_toNat]
    split
    · next hi =>
        have byte : (8 * j + (8 - 1 - i)) / 8 = j := by omega
        have place : 7 - (8 * j + (8 - 1 - i)) % 8 = i := by omega
        simp only [Vector.getElem_ofFn, getElem_ofBlock, byte, place]
    · next hi =>
        have small := block[j].toNat_lt
        refine (Nat.testBit_lt_two_pow (Nat.lt_of_lt_of_le small ?_)).symm
        exact Nat.pow_le_pow_right (by decide) (by omega)
  rw [digits, UInt8.ofNat_toNat]

end Bits

/-! ## Rounds -/

/-- The rounds with the keys in the opposite order, on the halves in opposite places. -/
theorem foldl_round_reverse (keys : List RoundKey) (halves : Half × Half) :
    keys.reverse.foldl round (keys.foldl round halves).swap = halves.swap := by
  induction keys generalizing halves with
  | nil => rfl
  | cons key keys ih =>
      rw [List.reverse_cons, List.foldl_append]
      show round (keys.reverse.foldl round (keys.foldl round (round halves key)).swap) key = _
      rw [ih]
      exact Prod.ext rfl (Bits.xor_xor ..)

/-- Both halves of a block of bits, and the block of both. -/
def split (bits : Bits 64) : Half × Half :=
  (@Bits.left 32 32 bits, @Bits.right 32 32 bits)

def joined (halves : Half × Half) : Bits 64 := halves.1.append halves.2

theorem split_joined (halves : Half × Half) : split (joined halves) = halves :=
  Prod.ext (Bits.left_append halves.1 halves.2) (Bits.right_append halves.1 halves.2)

theorem joined_split (bits : Bits 64) : joined (split bits) = bits :=
  @Bits.append_left_right 32 32 bits

theorem rounds_eq (keys : List RoundKey) (bits : Bits 64) :
    rounds keys bits = Bits.select finalPermutation
      (joined (keys.foldl round (split (Bits.select initialPermutation bits))).swap) := rfl

theorem rounds_reverse (keys : List RoundKey) (bits : Bits 64) :
    rounds keys.reverse (rounds keys bits) = bits := by
  have first : ∀ i : Fin 64, finalPermutation[initialPermutation[i]] = i := by decide
  have last : ∀ i : Fin 64, initialPermutation[finalPermutation[i]] = i := by decide
  rw [rounds_eq keys, rounds_eq keys.reverse, Bits.select_select first, split_joined,
    foldl_round_reverse, Prod.swap_swap, joined_split, Bits.select_select last]

theorem decrypt_encrypt (key block : Block) : decrypt key (encrypt key block) = block := by
  rw [decrypt, encrypt, Bits.ofBlock_toBlock, rounds_reverse, Bits.toBlock_ofBlock]

theorem encrypt_decrypt (key block : Block) : encrypt key (decrypt key block) = block := by
  have back := rounds_reverse (roundKeys key).reverse (Bits.ofBlock block)
  rw [List.reverse_reverse] at back
  rw [decrypt, encrypt, Bits.ofBlock_toBlock, back, Bits.toBlock_ofBlock]

theorem tripleDecrypt_tripleEncrypt (first second third block : Block) :
    tripleDecrypt first second third (tripleEncrypt first second third block) = block := by
  rw [tripleDecrypt, tripleEncrypt, decrypt_encrypt, encrypt_decrypt, decrypt_encrypt]

theorem tripleEncrypt_tripleDecrypt (first second third block : Block) :
    tripleEncrypt first second third (tripleDecrypt first second third block) = block := by
  rw [tripleDecrypt, tripleEncrypt, encrypt_decrypt, decrypt_encrypt, encrypt_decrypt]

end VncAccess.Des
