import VncAccess.Proofs.Conversation
import VncAccess.Proofs.Lemmas.Utf8

/-!
# The name in an entry

A user's name is given as bytes, and an entry holds the bytes as they were given. Names of a length
that no entry has are refused in words. Names that are not UTF-8 are not: there is no entry for them
either, whatever their length is.
-/

namespace VncAccess.AccessList

variable {name payload : Bytes} {add viewOnly : Bool} {f : NameFault}

theorem entry_of_encoded (encoded : Text.IsUtf8 name) :
    entry (.ofBytes name) add viewOnly =
      if name = [] then .error .missing
      else if 63 < name.length then .error .tooLong
      else .ok (.ofNat (controlByte add viewOnly) :: name) := by
  rw [entry, Text.utf8?_ofBytes encoded]
  cases name <;> rfl

theorem entry_of_not_encoded (stray : ¬ Text.IsUtf8 name) :
    entry (.ofBytes name) add viewOnly = .error .unencodable := by
  rw [entry, Text.utf8?_ofBytes_eq_none stray]

/-- Why there is no entry for a name. -/
inductive Unfit (name : Bytes) : NameFault → Prop where
  | missing : name = [] → Unfit name .missing
  | tooLong : Text.IsUtf8 name → 63 < name.length → Unfit name .tooLong
  | unencodable : ¬ Text.IsUtf8 name → Unfit name .unencodable

theorem entry_eq_ok_iff :
    entry (.ofBytes name) add viewOnly = .ok payload ↔ Text.IsUtf8 name ∧ 1 ≤ name.length ∧
      name.length ≤ 63 ∧ payload = .ofNat (controlByte add viewOnly) :: name := by
  by_cases encoded : Text.IsUtf8 name
  · rw [entry_of_encoded encoded]
    split
    · next missing => simp [missing]
    split
    · next long => exact ⟨nofun, fun fits => absurd fits.2.2.1 (Nat.not_le.mpr long)⟩
    · next filled short =>
        have fits : 1 ≤ name.length ∧ name.length ≤ 63 :=
          ⟨List.length_pos_iff.mpr filled, Nat.le_of_not_lt short⟩
        simp [encoded, fits, eq_comm]
  · rw [entry_of_not_encoded encoded]
    exact ⟨nofun, fun fits => absurd fits.1 encoded⟩

theorem entry_eq_error_iff : entry (.ofBytes name) add viewOnly = .error f ↔ Unfit name f := by
  constructor
  · intro refused
    by_cases encoded : Text.IsUtf8 name
    · rw [entry_of_encoded encoded] at refused
      split at refused
      · next missing => cases refused; exact .missing missing
      split at refused
      · next long => cases refused; exact .tooLong encoded long
      · cases refused
    · rw [entry_of_not_encoded encoded] at refused
      cases refused
      exact .unencodable encoded
  · rintro (rfl | ⟨encoded, long⟩ | stray)
    · rfl
    · have filled : name ≠ [] := List.ne_nil_of_length_pos (Nat.lt_trans (by decide) long)
      rw [entry_of_encoded encoded, if_neg filled, if_pos long]
    · exact entry_of_not_encoded stray

/-- The tool has words for what is wrong with the length of a name, and for nothing else. -/
theorem Unfit.reported_iff (unfit : Unfit name f) :
    (∃ message, f.failure = .refused (.username message)) ↔ Text.IsUtf8 name := by
  cases unfit with
  | missing none => exact ⟨fun _ => none ▸ ⟨[], rfl⟩, fun _ => ⟨_, rfl⟩⟩
  | tooLong encoded => exact ⟨fun _ => encoded, fun _ => ⟨_, rfl⟩⟩
  | unencodable stray => exact ⟨nofun, fun encoded => absurd encoded stray⟩

/-- A name of one byte to sixty-three that is UTF-8 is listed as it was given. Any other reaches no
server, and what is said of it is the fault of its length if it is UTF-8. -/
theorem entry_decided (name : Bytes) (add viewOnly : Bool) :
    (∀ payload, entry (.ofBytes name) add viewOnly = .ok payload ↔
      Text.IsUtf8 name ∧ 1 ≤ name.length ∧ name.length ≤ 63 ∧
        payload = .ofNat (controlByte add viewOnly) :: name) ∧
    (∀ f, entry (.ofBytes name) add viewOnly = .error f ↔ Unfit name f) ∧
    ∀ f, Unfit name f →
      ((∃ message, f.failure = .refused (.username message)) ↔ Text.IsUtf8 name) ∧
      ∀ display h,
        (publish (.ofBytes name) add viewOnly display).run h = (.error f.failure, h) := by
  refine ⟨fun _ => entry_eq_ok_iff, fun _ => entry_eq_error_iff, fun f unfit => ?_⟩
  exact ⟨unfit.reported_iff, fun _ _ => publish_of_error (entry_eq_error_iff.mpr unfit)⟩

/-- One byte more than an entry has room for. -/
def longName : Bytes := .replicate 64 117

theorem entry_decided_long :
    entry (.ofBytes longName) true false = .error .tooLong ∧
      ∃ message, NameFault.tooLong.failure = .refused (.username message) := by
  obtain ⟨-, refused, told⟩ := entry_decided longName true false
  have encoded : Text.IsUtf8 longName := ⟨.replicate 64 'u', by decide⟩
  have unfit : Unfit longName .tooLong := .tooLong encoded (by decide)
  exact ⟨(refused _).mpr unfit, (told _ unfit).1.mpr encoded⟩

/-- The length of a name can be right, and nothing is said of it all the same. -/
theorem entry_stray :
    entry (.ofBytes [0xff]) true false = .error .unencodable ∧
      ∀ message, NameFault.unencodable.failure ≠ .refused (.username message) :=
  ⟨by decide +kernel, nofun⟩

end VncAccess.AccessList
