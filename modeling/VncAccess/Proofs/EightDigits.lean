import Mathlib.Data.Int.ModEq
import VncAccess.Proofs.Lemmas.Issuing

/-!
# Eight digits for every number

A password is the last eight decimal digits of the number that was drawn. Each has a slot of eight
bytes in what is sent, so the passwords can be read back from it, and numbers that differ in these
digits are never sent as the same bytes.
-/

namespace VncAccess

/-! ## Digits and their value -/

namespace Decimal

theorem value_concat (digits : List Char) (c : Char) :
    value (digits ++ [c]) = value digits * 10 + (c.toNat - 48) := by
  rw [value, value, List.foldl_concat]

/-- Leading zeros count for nothing, and digits too many are cut off. -/
theorem value_padded (width n : Nat) : value (padded width n) = n % 10 ^ width := by
  induction width generalizing n with
  | zero => exact (Nat.mod_one n).symm
  | succ width ih =>
      rw [padded, value_concat, ih, toNat_digit, Nat.pow_succ', Nat.mod_mul]
      omega

theorem isDigit_of_mem_padded {width n : Nat} {c : Char} (h : c ∈ padded width n) :
    c.isDigit = true := by
  obtain ⟨low, high⟩ := toNat_of_mem_padded h
  simp only [Char.isDigit, Bool.and_eq_true, decide_eq_true_eq]
  exact ⟨UInt32.le_iff_toNat_le.mpr low, UInt32.le_iff_toNat_le.mpr high⟩

end Decimal

namespace OneTime

variable {v v' : Int} {w w' : Option Int}

theorem digits_of_modulus (v : Int) :
    (Decimal.value (Decimal.padded digits (v % modulus).toNat) : Int) = v.fmod (10 ^ 8) := by
  have modulus_eq : modulus = 10 ^ 8 := rfl
  have range := Int.emod_nonneg v (show (10 : Int) ^ 8 ≠ 0 by decide)
  have below := Int.emod_lt_of_pos v (show (0 : Int) < 10 ^ 8 by decide)
  rw [Decimal.value_padded, modulus_eq, Int.fmod_eq_emod_of_nonneg v (by decide), digits]
  omega

/-! ## Slots -/

/-- The number that the bytes of a password stand for. -/
def number (password : Bytes) : Nat := Decimal.value (password.map fun b => .ofNat b.toNat)

theorem number_slot (v : Int) : (number (slot v) : Int) = v.fmod (10 ^ 8) := by
  have read : ∀ c ∈ Decimal.padded digits (v % modulus).toNat,
      Char.ofNat (UInt8.ofNat c.toNat).toNat = c := by
    intro c hc
    have small := small_of_mem_padded c hc
    rw [UInt8.toNat_ofNat', Nat.mod_eq_of_lt (by omega), Char.ofNat_toNat]
  rw [number, slot_eq, List.map_map, Function.comp_def, List.map_congr_left read, List.map_id',
    digits_of_modulus]

theorem slot_eq_slot_iff : slot v = slot v' ↔ v ≡ v' [ZMOD 10 ^ 8] := by
  constructor
  · intro same
    have numbers : v.fmod (10 ^ 8) = v'.fmod (10 ^ 8) := by
      rw [← number_slot, same, number_slot]
    rwa [Int.fmod_eq_emod_of_nonneg v (by decide), Int.fmod_eq_emod_of_nonneg v' (by decide)]
      at numbers
  · intro congruent
    have residues : v % modulus = v' % modulus := congruent
    rw [slot_eq, slot_eq, residues]

theorem slot_ne_nil (v : Int) : slot v ≠ [] :=
  List.ne_nil_of_length_pos (by rw [length_slot]; decide)

/-- A second slot is there or not, and its number counts modulo the digits. -/
theorem flatMap_slot_eq_iff :
    w.toList.flatMap slot = w'.toList.flatMap slot ↔
      Option.Rel (· ≡ · [ZMOD 10 ^ 8]) w w' := by
  cases w with
  | none =>
      cases w' with
      | none => simp
      | some v' => simp [(slot_ne_nil v').symm]
  | some v =>
      cases w' with
      | none => simp [slot_ne_nil v]
      | some v' => simp [slot_eq_slot_iff]

/-! ## What is sent -/

theorem payload?_ofChars {full : List Char} {view : Option (List Char)}
    (ascii : ∀ c ∈ full, c.toNat < 128) (asciiView : ∀ cs ∈ view, ∀ c ∈ cs, c.toNat < 128) :
    payload? (.ofChars full) (view.map .ofChars) =
      some (fitted (Text.ofChars full).toBytes ++
        view.elim [] fun cs => (Text.ofChars cs).toBytes) := by
  rw [payload?_of_ascii (ascii?_ofChars ascii), ← toBytes_ofChars ascii]
  cases view with
  | none => rfl
  | some cs =>
      have ascii := asciiView cs rfl
      rw [Option.map_some, Option.elim_some, ascii?_ofChars ascii, ← toBytes_ofChars ascii]
      rfl

/-- Equal payloads have equal slots. -/
theorem payload?_format_eq_iff :
    payload? (format v) (w.map format) = payload? (format v') (w'.map format) ↔
      v ≡ v' [ZMOD 10 ^ 8] ∧ Option.Rel (· ≡ · [ZMOD 10 ^ 8]) w w' := by
  have lengths : (slot v).length = (slot v').length := by rw [length_slot, length_slot]
  rw [payload?_format, payload?_format, Option.some.injEq, List.flatMap_cons, List.flatMap_cons,
    ← slot_eq_slot_iff, ← flatMap_slot_eq_iff]
  constructor
  · exact fun same => List.append_inj same lengths
  · rintro ⟨first, second⟩
    rw [first, second]

/-- The passwords in a payload, one for each slot. -/
structure Holds (payload : Bytes) (v : Int) (w : Option Int) : Prop where
  length : payload.length = if w.isSome then 16 else 8
  digits : ∀ b ∈ payload, 48 ≤ b.toNat ∧ b.toNat ≤ 57
  full : (number (payload.take 8) : Int) = v.fmod (10 ^ 8)
  view : ∀ view ∈ w, (number (payload.drop 8) : Int) = view.fmod (10 ^ 8)

theorem holds_slots (v : Int) (w : Option Int) : Holds ((v :: w.toList).flatMap slot) v w where
  length := by cases w <;> simp [OneTime.digits]
  digits b hb := by
    obtain ⟨value, -, hb⟩ := List.mem_flatMap.mp hb
    exact digit_of_mem_slot hb
  full := by
    have whole : (slot v).length = 8 := length_slot v
    rw [List.flatMap_cons, List.take_left' whole, number_slot]
  view := by
    rintro view ⟨⟩
    have whole : (slot v).length = 8 := length_slot v
    rw [List.flatMap_cons, List.drop_left' whole, Option.toList_some, List.flatMap_singleton,
      number_slot]

/-- Every number is shown as eight digits. Passwords are sent in slots of eight bytes, whatever
their length is, and for passwords that were formatted the numbers can be read back from the
slots. -/
theorem eight_digits_each :
    (∀ v : Int, ∃ ds : List Char, format v = .ofChars ds ∧ ds.length = 8 ∧
      (∀ c ∈ ds, c.isDigit = true) ∧ (Decimal.value ds : Int) = v.fmod (10 ^ 8)) ∧
    (∀ (full : List Char) (view : Option (List Char)), (∀ c ∈ full, c.toNat < 128) →
      (∀ cs ∈ view, ∀ c ∈ cs, c.toNat < 128) →
      ∃ payload, payload? (.ofChars full) (view.map .ofChars) = some payload ∧
        (payload.take 8).length = 8 ∧
        payload.take 8 = ((Text.ofChars full).toBytes.take 8).rightpad 8 0 ∧
        payload.drop 8 = view.elim [] fun cs => (Text.ofChars cs).toBytes) ∧
    (∀ (v : Int) (w : Option Int), ∃ payload,
      payload? (format v) (w.map format) = some payload ∧ Holds payload v w) ∧
    ∀ (v v' : Int) (w w' : Option Int),
      payload? (format v) (w.map format) = payload? (format v') (w'.map format) ↔
        v ≡ v' [ZMOD 10 ^ 8] ∧ Option.Rel (· ≡ · [ZMOD 10 ^ 8]) w w' := by
  refine ⟨fun v => ?_, fun full view ascii asciiView => ?_, fun v w => ?_, fun _ _ _ _ => ?_⟩
  · exact ⟨_, rfl, Decimal.length_padded .., fun c => Decimal.isDigit_of_mem_padded,
      digits_of_modulus v⟩
  · have whole : (fitted (Text.ofChars full).toBytes).length = 8 := length_fitted _
    refine ⟨_, payload?_ofChars ascii asciiView, ?_, ?_, ?_⟩
    · rw [List.take_left' whole, whole]
    · rw [List.take_left' whole, fitted, digits]
    · rw [List.drop_left' whole]
  · exact ⟨_, payload?_format v w, holds_slots v w⟩
  · exact payload?_format_eq_iff

/-- A first password of three letters does not move the second. -/
theorem eight_digits_each_short :
    payload? (.ofChars ['o', 'n', 'e']) (some (.ofChars ['2'])) =
      some [111, 110, 101, 0, 0, 0, 0, 0, 50] := by
  obtain ⟨-, sent, -⟩ := eight_digits_each
  obtain ⟨payload, made, -, first, second⟩ :=
    sent ['o', 'n', 'e'] (some ['2']) (by simp) (by simp)
  rw [Option.map_some] at made
  rw [made, ← List.take_append_drop 8 payload, first, second]
  decide

end OneTime
end VncAccess
