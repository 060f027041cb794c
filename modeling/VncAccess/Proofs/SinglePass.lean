import Mathlib.Algebra.Group.End
import VncAccess.Proofs.Lemmas.Slots

/-!
# One pass under the fixed key

A key permutes the blocks, and the triple form is three such permutations, the second of them taken
back. With one key three times only one is left, so a slot is one pass over the password and the
zeros behind it, and no two blocks have the same slot.
-/

namespace VncAccess

/-! ## Keys as permutations -/

namespace Des

/-- What a key does to blocks. Decryption goes the other way. -/
def permutation (key : Block) : Equiv.Perm Block where
  toFun := encrypt key
  invFun := decrypt key
  left_inv := decrypt_encrypt key
  right_inv := encrypt_decrypt key

/-- What three keys do to blocks. -/
def triplePermutation (first second third : Block) : Equiv.Perm Block where
  toFun := tripleEncrypt first second third
  invFun := tripleDecrypt first second third
  left_inv := tripleDecrypt_tripleEncrypt first second third
  right_inv := tripleEncrypt_tripleDecrypt first second third

theorem triplePermutation_eq (first second third : Block) :
    triplePermutation first second third =
      permutation third * (permutation second)⁻¹ * permutation first := rfl

theorem triplePermutation_self (key : Block) :
    triplePermutation key key key = permutation key := by
  rw [triplePermutation_eq, mul_inv_cancel, one_mul]

theorem tripleEncrypt_self (key block : Block) :
    tripleEncrypt key key key block = encrypt key block :=
  Equiv.congr_fun (triplePermutation_self key) block

theorem tripleDecrypt_self (key block : Block) :
    tripleDecrypt key key key block = decrypt key block :=
  Equiv.congr_fun (congrArg Equiv.symm (triplePermutation_self key)) block

end Des

namespace Password

variable {p q : Bytes}

/-! ## The key -/

theorem shiftRight_mod_two (n i : Nat) :
    ((n : Int).shiftRight i % 2).toNat = (n.testBit i).toNat := by
  have shifted : (n : Int).shiftRight i = ((n >>> i : Nat) : Int) := rfl
  have parity : ((n >>> i : Nat) : Int) % 2 = ((n >>> i % 2 : Nat) : Int) := rfl
  rw [shifted, parity, Int.toNat_natCast, Nat.toNat_testBit, Nat.shiftRight_eq_div_pow]

/-- The bits of a byte change places, the first with the last. -/
theorem testBit_reverseBits (n j : Nat) :
    (reverseBits n).testBit j = (decide (j < 8) && n.testBit (7 - j)) := by
  -- The bits from the lowest on are the digits from the highest on.
  have bits : reverseBits n = ((List.range 8).map n.testBit).foldl
      (fun value (bit : Bool) => 2 * value + bit.toNat) 0 := by
    simp only [reverseBits, shiftRight_mod_two, List.foldl_map]
  rw [bits, Des.Bits.testBit_digits]
  by_cases inside : j < 8
  · rw [List.getElem?_reverse (by simpa using inside)]
    simp [inside, show 8 - 1 - j < 8 by omega]
  · rw [List.getElem?_eq_none (by simpa using inside)]
    simp [inside]

theorem testBit_cipherKey {i j : Nat} (byte : i < 8) (inside : j < 8) :
    cipherKey[i].toNat.testBit j = fixedKey[i].toNat.testBit (7 - j) := by
  have key : cipherKey[i] = .ofNat (reverseBits fixedKey[i].toNat) := by simp [cipherKey]
  rw [key, UInt8.toNat_ofNat', Nat.testBit_mod_two_pow, testBit_reverseBits]
  simp [inside]

example : cipherKey = #v[0xe8, 0x4a, 0xd6, 0x60, 0xc4, 0x72, 0x1a, 0xe0] := by
  decide +kernel

/-! ## Passwords of one block -/

theorem encryptBlock_eq (block : Des.Block) : encryptBlock block = Des.encrypt cipherKey block :=
  Des.tripleEncrypt_self cipherKey block

theorem decryptBlock_eq (block : Des.Block) : decryptBlock block = Des.decrypt cipherKey block :=
  Des.tripleDecrypt_self cipherKey block

theorem pad_eq_pad_iff (short : p.length ≤ 8) (short' : q.length ≤ 8) :
    pad p = pad q ↔ trimZeros p = trimZeros q := by
  have trimmed {p : Bytes} (short : p.length ≤ 8) : trimZeros (pad p).toList = trimZeros p := by
    rw [toList_pad short, trimZeros_append_zeros]
  constructor
  · intro same
    rw [← trimmed short, same, trimmed short']
  · intro same
    rw [← pad_trimZeros (pad p), trimmed short, same, ← trimmed short', pad_trimZeros]

/-- The slots of a password and the password of a slot are one pass each under the fixed key with
the bits of its bytes reversed. The passes undo each other, so only the zeros at the end of a
password do not count. -/
theorem single_pass_permutes :
    (∀ (i j : Nat) (_ : i < 8), j < 8 →
      cipherKey[i].toNat.testBit j = fixedKey[i].toNat.testBit (7 - j)) ∧
    (∀ block, encryptBlock block = Des.encrypt cipherKey block ∧
      decryptBlock block = Des.decrypt cipherKey block) ∧
    (∀ block, decryptBlock (encryptBlock block) = block ∧
      encryptBlock (decryptBlock block) = block) ∧
    (∀ block : Des.Block, encrypt block.toList = .ok (encryptBlock block).toList ∧
      decrypt block.toList = .ok (trimZeros (decryptBlock block).toList)) ∧
    ∀ p q : Bytes, p.length ≤ 8 → q.length ≤ 8 → ∃ slot slot' : Des.Block,
      encrypt p = .ok slot.toList ∧ encrypt q = .ok slot'.toList ∧
        (slot = slot' ↔ trimZeros p = trimZeros q) := by
  refine ⟨fun i j byte inside => testBit_cipherKey byte inside,
    fun block => ⟨encryptBlock_eq block, decryptBlock_eq block⟩,
    fun block => ⟨decryptBlock_encryptBlock block, encryptBlock_decryptBlock block⟩,
    fun block => ⟨?_, ?_⟩, fun p q short short' => ?_⟩
  · have whole : pad block.toList = block := by
      rw [← Vector.toList_inj, toList_pad (by simp)]
      simp
    rw [encrypt_of_short (by simp), slot, whole]
  · rw [decrypt, block?_toList]
  · refine ⟨encryptBlock (pad p), encryptBlock (pad q), encrypt_of_short short,
      encrypt_of_short short', ?_⟩
    rw [← pad_eq_pad_iff short short']
    exact (Function.LeftInverse.injective decryptBlock_encryptBlock).eq_iff

/-- A zero at the end does not count, one inside does. -/
theorem single_pass_permutes_zeros :
    encrypt [97, 98] = encrypt [97, 98, 0] ∧ encrypt [97, 98] ≠ encrypt [97, 0, 98] := by
  obtain ⟨-, -, -, -, passwords⟩ := single_pass_permutes
  obtain ⟨slot, slot', eq, eq', same⟩ := passwords [97, 98] [97, 98, 0] (by decide) (by decide)
  obtain ⟨other, other', eq₂, eq₂', apart⟩ :=
    passwords [97, 98] [97, 0, 98] (by decide) (by decide)
  refine ⟨?_, fun equal => ?_⟩
  · rw [eq, eq', same.mpr (by decide)]
  · rw [eq₂, eq₂', Except.ok.injEq, Vector.toList_inj, apart] at equal
    exact absurd equal (by decide)

end Password
end VncAccess
