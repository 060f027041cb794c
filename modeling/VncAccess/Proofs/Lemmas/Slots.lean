import Mathlib.Data.List.DropRight
import Mathlib.Data.List.TakeWhile
import VncAccess.Password.File
import VncAccess.Proofs.Lemmas.Cipher

/-!
# Slots and the passwords in them

A slot gives back its password but for zeros at the end, and a second slot is there only for a
second password that is not empty. The other way round, any eight bytes are the slot of the password
that they are read as.
-/

namespace VncAccess.Password

variable {password first content : Bytes} {second : Option Bytes}

/-! ## Zeros at the end -/

theorem trimZeros_append_zeros (bytes : Bytes) (n : Nat) :
    trimZeros (bytes ++ List.replicate n 0) = trimZeros bytes := by
  simp only [trimZeros, List.reverse_append, List.reverse_replicate]
  rw [List.dropWhile_append_of_pos]
  intro x hx
  simp [List.eq_of_mem_replicate hx]

theorem trimZeros_eq_nil_iff (bytes : Bytes) : trimZeros bytes = [] ↔ ∀ x ∈ bytes, x = 0 := by
  rw [trimZeros, List.reverse_eq_nil_iff, List.dropWhile_eq_nil_iff]
  simp

theorem trimZeros_trimZeros (bytes : Bytes) : trimZeros (trimZeros bytes) = trimZeros bytes :=
  List.rdropWhile_idempotent (fun x => decide (x = 0)) bytes

/-- Only zeros are taken away. -/
theorem exists_trimZeros_append (bytes : Bytes) :
    ∃ n, trimZeros bytes ++ List.replicate n 0 = bytes := by
  have zeros : bytes.rtakeWhile (· = 0) =
      List.replicate (bytes.rtakeWhile (· = 0)).length 0 :=
    List.eq_replicate_of_mem fun x hx => by simpa using List.mem_rtakeWhile_imp hx
  refine ⟨(bytes.rtakeWhile (· = 0)).length, ?_⟩
  rw [← zeros]
  exact List.rdropWhile_append_rtakeWhile

/-! ## One slot -/

def slot (password : Bytes) : Bytes := (encryptBlock (pad password)).toList

@[simp] theorem length_slot (password : Bytes) : (slot password).length = 8 := by simp [slot]

theorem toList_pad (short : password.length ≤ 8) :
    (pad password).toList = password ++ List.replicate (8 - password.length) 0 := by
  refine List.ext_getElem (by simp; omega) fun i hi _ => ?_
  by_cases inside : i < password.length
  · simp [pad, inside]
  · simp [pad, List.getElem_append, inside]

theorem pad_trimZeros (block : Des.Block) : pad (trimZeros block.toList) = block := by
  obtain ⟨n, restored⟩ := exists_trimZeros_append block.toList
  have length := congrArg List.length restored
  rw [List.length_append, List.length_replicate, block.length_toList] at length
  have missing : 8 - (trimZeros block.toList).length = n := by omega
  rw [← Vector.toList_inj, toList_pad (by omega), missing, restored]

theorem decryptBlock_encryptBlock (block : Des.Block) : decryptBlock (encryptBlock block) = block :=
  Des.tripleDecrypt_tripleEncrypt ..

theorem encryptBlock_decryptBlock (block : Des.Block) : encryptBlock (decryptBlock block) = block :=
  Des.tripleEncrypt_tripleDecrypt ..

theorem block?_toList (block : Des.Block) : block? block.toList = some block := by
  rw [block?, dif_pos block.length_toList]
  rfl

theorem length_le_of_encrypt {bytes : Bytes} (h : encrypt password = .ok bytes) :
    password.length ≤ 8 ∧ bytes = slot password := by
  unfold encrypt at h
  split at h
  · next short =>
      cases h
      exact ⟨short, rfl⟩
  · cases h

theorem decrypt_slot (short : password.length ≤ 8) :
    decrypt (slot password) = .ok (trimZeros password) := by
  rw [decrypt, slot, block?_toList]
  simp only [decryptBlock_encryptBlock, toList_pad short, trimZeros_append_zeros]

/-- A password that eight bytes are the slot of, without zeros at its end. -/
structure Fills (password bytes : Bytes) : Prop where
  short : password.length ≤ 8
  trimmed : trimZeros password = password
  slot_eq : slot password = bytes

theorem Fills.decrypt {bytes : Bytes} (fills : Fills password bytes) :
    decrypt bytes = .ok password := by
  rw [← fills.slot_eq, decrypt_slot fills.short, fills.trimmed]

/-- Any eight bytes are read as the password that they are the slot of. -/
theorem exists_fills {bytes : Bytes} (full : bytes.length = 8) :
    ∃ password, Fills password bytes := by
  obtain ⟨block, rfl⟩ : ∃ block : Des.Block, block.toList = bytes :=
    ⟨⟨bytes.toArray, by simpa using full⟩, rfl⟩
  refine ⟨trimZeros (decryptBlock block).toList, ?_, trimZeros_trimZeros _, ?_⟩
  · obtain ⟨n, restored⟩ := exists_trimZeros_append (decryptBlock block).toList
    have length := congrArg List.length restored
    rw [List.length_append, Vector.length_toList] at length
    omega
  · rw [slot, pad_trimZeros, encryptBlock_decryptBlock]

/-- The slot of nothing is that of zeros. -/
theorem Fills.slot_zeros_iff {bytes : Bytes} (fills : Fills password bytes) :
    bytes = slot (List.replicate 8 0) ↔ password = [] := by
  have same : slot [] = slot (List.replicate 8 0) := by
    rw [slot, slot]
    congr 1
  constructor
  · rintro rfl
    have read := fills.decrypt.symm.trans (decrypt_slot (by simp))
    cases read
    decide
  · rintro rfl
    rw [← fills.slot_eq, same]

/-! ## Both slots -/

theorem encrypt_of_short (short : password.length ≤ 8) : encrypt password = .ok (slot password) :=
  if_pos short

theorem encode_of_empty {bytes : Bytes} (encrypted : encrypt first = .ok bytes)
    (empty : second.getD [] = []) : encode first second = .ok bytes := by
  have alone : encode first none = .ok bytes := by
    simp only [encode, encrypted, bind, Except.bind, pure, Except.pure, List.append_nil]
  rcases second with _ | _ | ⟨b, second⟩
  · exact alone
  · exact alone
  · cases empty

theorem encode_of_filled {second bytes bytes₂ : Bytes} (encrypted : encrypt first = .ok bytes)
    (filled : second ≠ []) (encrypted₂ : encrypt second = .ok bytes₂) :
    encode first (some second) = .ok (bytes ++ bytes₂) := by
  cases second with
  | nil => exact absurd rfl filled
  | cons b second => simp only [encode, encrypted, encrypted₂, bind, Except.bind, pure, Except.pure]

/-- How the slots of two passwords lie one behind the other. -/
inductive Slots (first : Bytes) : Option Bytes → Bytes → Prop where
  | one {second : Option Bytes} : second.getD [] = [] → Slots first second (slot first)
  | two {second : Bytes} : second ≠ [] → second.length ≤ 8 →
      Slots first (some second) (slot first ++ slot second)

theorem slots_of_encode (h : encode first second = .ok content) :
    first.length ≤ 8 ∧ Slots first second content := by
  simp only [encode, bind, Except.bind] at h
  split at h
  · cases h
  next bytes encrypted =>
  obtain ⟨short, rfl⟩ := length_le_of_encrypt encrypted
  refine ⟨short, ?_⟩
  rcases second with _ | _ | ⟨b, rest⟩
  · cases h
    rw [List.append_nil]
    exact .one rfl
  · cases h
    rw [List.append_nil]
    exact .one rfl
  · dsimp only at h
    split at h
    · cases h
    next bytes encrypted =>
    obtain ⟨shorter, rfl⟩ := length_le_of_encrypt encrypted
    cases h
    exact .two nofun shorter

theorem Slots.length (h : Slots first second content) :
    content.length = if second.getD [] = [] then 8 else 16 := by
  cases h with
  | one empty => simp [empty]
  | two some => simp [some]

theorem Slots.take (h : Slots first second content) : content.take 8 = slot first := by
  cases h with
  | one => exact List.take_of_length_le (by simp)
  | two => exact List.take_left' (length_slot first)

theorem Slots.decode (h : Slots first second content) (short : first.length ≤ 8) :
    File.decode content = .ok (trimZeros first,
      if second.getD [] = [] then none else second.map trimZeros) := by
  have primary : decrypt (content.take File.slotLength) = .ok (trimZeros first) := by
    rw [File.slotLength, h.take, decrypt_slot short]
  cases h with
  | one empty =>
      have half : ¬ 2 * File.slotLength ≤ (slot first).length := by simp [File.slotLength]
      simp only [File.decode, primary, half, ↓reduceIte, empty]
      rfl
  | @two second filled shorter =>
      have secondary : ((slot first ++ slot second).drop File.slotLength).take File.slotLength =
          slot second := by
        rw [File.slotLength, List.drop_left' (length_slot first)]
        exact List.take_of_length_le (by simp)
      have whole : 2 * File.slotLength ≤ (slot first ++ slot second).length := by
        simp [File.slotLength]
      simp only [File.decode, primary, secondary, decrypt_slot shorter, whole, ↓reduceIte,
        Option.getD_some, filled]
      rfl

/-! ## The content of any file -/

/-- What of the content of a file comes back when it is read and written again: the first slot, and
a whole second one that is not that of zeros. -/
def kept (content : Bytes) : Bytes :=
  content.take 8 ++
    if 16 ≤ content.length ∧ (content.drop 8).take 8 ≠ slot (List.replicate 8 0) then
      (content.drop 8).take 8
    else
      []

/-- The passwords that the content of a file is read as. -/
inductive Decoded (content : Bytes) : Bytes → Option Bytes → Prop where
  | one {first : Bytes} : content.length < 16 → Fills first (content.take 8) →
      Decoded content first none
  | two {first second : Bytes} : 16 ≤ content.length → Fills first (content.take 8) →
      Fills second ((content.drop 8).take 8) → Decoded content first (some second)

theorem exists_decoded (long : 8 ≤ content.length) :
    ∃ first second, File.decode content = .ok (first, second) ∧ Decoded content first second := by
  have full : (content.take 8).length = 8 := by simp; omega
  obtain ⟨first, fills⟩ := exists_fills full
  by_cases whole : 16 ≤ content.length
  · have full₂ : ((content.drop 8).take 8).length = 8 := by simp; omega
    obtain ⟨second, fills₂⟩ := exists_fills full₂
    refine ⟨first, some second, ?_, .two whole fills fills₂⟩
    simp only [File.decode, File.slotLength, fills.decrypt, fills₂.decrypt, whole]
    rfl
  · refine ⟨first, none, ?_, .one (by omega) fills⟩
    simp only [File.decode, File.slotLength, fills.decrypt, whole]
    rfl

theorem Decoded.encode (decoded : Decoded content first second) :
    encode first (second.filter (· ≠ [])) = .ok (kept content) := by
  cases decoded with
  | one half fills =>
      have short : ¬ 16 ≤ content.length := by omega
      rw [kept, if_neg fun h => short h.1, List.append_nil, ← fills.slot_eq]
      exact encode_of_empty (encrypt_of_short fills.short) rfl
  | @two second whole fills fills₂ =>
      have encrypted := encrypt_of_short fills.short
      by_cases empty : second = []
      · rw [kept, if_neg fun h => h.2 (fills₂.slot_zeros_iff.mpr empty), List.append_nil,
          ← fills.slot_eq]
        exact encode_of_empty encrypted (by subst empty; rfl)
      · rw [kept, if_pos ⟨whole, fun h => empty (fills₂.slot_zeros_iff.mp h)⟩, ← fills.slot_eq,
          ← fills₂.slot_eq, Option.filter_some_pos (by simpa using empty)]
        exact encode_of_filled encrypted empty (encrypt_of_short fills₂.short)

end VncAccess.Password
