import VncAccess.Proofs.UserNames

/-!
# An entry is read as it was written

The two flags have a bit each, and the bytes after them are read as the name. So no entry stands for
two names, nor for two ways to change the list.
-/

namespace VncAccess.AccessList

variable {user user' : List Char} {add add' viewOnly viewOnly' : Bool} {payload : Bytes}

/-! ## The control byte -/

theorem testBit_flag (set : Bool) (n i : Nat) :
    (if set then 1 <<< n else 0).testBit i = (set && i = n) := by
  cases set with
  | false => exact Nat.zero_testBit i
  | true =>
      rw [if_pos rfl, Nat.one_shiftLeft, Nat.testBit_two_pow, Bool.true_and, decide_eq_decide,
        eq_comm]

/-- Each flag has its own bit, and no other bit is ever set. -/
theorem testBit_controlByte (add viewOnly : Bool) (i : Nat) :
    (controlByte add viewOnly).testBit i = (add && i = 0 || viewOnly && i = 4) := by
  rw [controlByte, Nat.testBit_or]
  exact congrArg₂ or (testBit_flag add 0 i) (testBit_flag viewOnly 4 i)

theorem toNat_controlByte (add viewOnly : Bool) :
    (UInt8.ofNat (controlByte add viewOnly)).toNat = controlByte add viewOnly := by
  cases add <;> cases viewOnly <;> rfl

/-! ## The name -/

/-- The UTF-8 form of a name. -/
def nameBytes (user : List Char) : Bytes := user.flatMap String.utf8EncodeChar

theorem ofBytes_nameBytes (user : List Char) : Text.ofBytes (nameBytes user) = .ofChars user := by
  rw [nameBytes, ← funext Utf8.encodeChar_eq, Text.ofBytes_encoded]

theorem entry_ofChars_eq_ok_iff :
    entry (.ofChars user) add viewOnly = .ok payload ↔ 1 ≤ (nameBytes user).length ∧
      (nameBytes user).length ≤ 63 ∧
        payload = .ofNat (controlByte add viewOnly) :: nameBytes user := by
  have encoded : Text.IsUtf8 (nameBytes user) := ⟨user, rfl⟩
  rw [← ofBytes_nameBytes, entry_eq_ok_iff]
  simp only [encoded, true_and]

/-- Reading undoes writing. -/
theorem readEntry_written (user : List Char) (add viewOnly : Bool) :
    readEntry (.ofNat (controlByte add viewOnly) :: nameBytes user) =
      some (.ofChars user, add, viewOnly) := by
  have name : Text.decode? (nameBytes user) = some user := Text.decode?_eq_some_iff.mpr rfl
  simp only [readEntry, name, toNat_controlByte, testBit_controlByte, Option.map_some]
  simp

theorem readEntry_of_entry (written : entry (.ofChars user) add viewOnly = .ok payload) :
    readEntry payload = some (.ofChars user, add, viewOnly) := by
  obtain ⟨-, -, rfl⟩ := entry_ofChars_eq_ok_iff.mp written
  exact readEntry_written user add viewOnly

/-! ## Entries -/

/-- The entry stands for this name and these flags, and keeps to the form of entries. -/
structure Stands (payload : Bytes) (user : List Char) (add viewOnly : Bool) : Prop where
  read : readEntry payload = some (.ofChars user, add, viewOnly)
  filled : 2 ≤ payload.length
  short : payload.length ≤ 64
  bits : ∀ control ∈ payload.head?, ∀ i, control.toNat.testBit i = true → i = 0 ∨ i = 4

theorem stands_of_entry (written : entry (.ofChars user) add viewOnly = .ok payload) :
    Stands payload user add viewOnly := by
  obtain ⟨filled, short, rfl⟩ := entry_ofChars_eq_ok_iff.mp written
  refine ⟨readEntry_written user add viewOnly, Nat.succ_le_succ filled, Nat.succ_le_succ short, ?_⟩
  rintro _ ⟨⟩ i set
  rw [toNat_controlByte, testBit_controlByte] at set
  cases add <;> cases viewOnly <;> simp_all

/-- There is an entry for the names of one byte to sixty-three. It is read as it was written, so
that different names or flags have different entries. -/
theorem entry_read_back :
    (∀ user add viewOnly, (∃ payload, entry (.ofChars user) add viewOnly = .ok payload) ↔
      1 ≤ (nameBytes user).length ∧ (nameBytes user).length ≤ 63) ∧
    (∀ user add viewOnly payload, entry (.ofChars user) add viewOnly = .ok payload →
      Stands payload user add viewOnly) ∧
    ∀ user add viewOnly user' add' viewOnly' payload,
      entry (.ofChars user) add viewOnly = .ok payload →
      entry (.ofChars user') add' viewOnly' = .ok payload →
      (user, add, viewOnly) = (user', add', viewOnly') := by
  refine ⟨fun user add viewOnly => ?_, fun _ _ _ _ => stands_of_entry, ?_⟩
  · simp only [entry_ofChars_eq_ok_iff, exists_and_left, exists_eq, and_true]
  · intro user add viewOnly user' add' viewOnly' payload written written'
    have same := (readEntry_of_entry written).symm.trans (readEntry_of_entry written')
    simp only [Option.some.injEq, Prod.mk.injEq] at same ⊢
    exact ⟨List.map_injective_iff.mpr (fun _ _ => Glyph.char.inj) same.1, same.2⟩

/-- Thirty-two letters of two bytes each are one byte too many. One alone has an entry, which is not
that of the letter without its accent. -/
theorem entry_read_back_accented :
    (¬ ∃ payload, entry (.ofChars (.replicate 32 'é')) true false = .ok payload) ∧
      Stands [0x11, 0xc3, 0xa9] ['é'] true true ∧
      entry (.ofChars ['e']) true true ≠ .ok [0x11, 0xc3, 0xa9] := by
  obtain ⟨fits, stands, apart⟩ := entry_read_back
  have written : entry (.ofChars ['é']) true true = .ok [0x11, 0xc3, 0xa9] := by decide +kernel
  refine ⟨?_, stands _ _ _ _ written, fun written' => ?_⟩
  · rw [fits]
    decide +kernel
  · have same := apart _ _ _ _ _ _ _ written written'
    exact absurd (Prod.ext_iff.mp same).1 (by decide)

end VncAccess.AccessList
