import VncAccess.Proofs.Lemmas.Blindness
import VncAccess.Proofs.Lemmas.Lines

/-!
# Two operators side by side

Two operators give entries of the same lengths, and repeat them rightly at the same times. They are
asked and told the same, and what is kept of their entries has the same lengths.
-/

namespace VncAccess

open Secret

/-! ## At the terminal -/

/-- How long an answer is. An interrupt has no length. -/
def Answer.length : Answer → Option Nat
  | typed bytes => some bytes.length
  | interrupt => none

/-- The hosts differ at most in the answers to come and in their memory. -/
def Host.SameButTyped (s t : Host) : Prop :=
  ∃ answers memory, t = { s with terminal := { s.terminal with answers }, memory }

namespace Password

/-- Of every entry that is to repeat the one before it, whether it does. -/
def verdicts : List Answer → List Bool
  | .typed first :: .typed second :: rest =>
    (significantBytes first == significantBytes second) :: verdicts rest
  | _ => []

/-- Answers that differ in what was typed, but not in its lengths and repetitions. -/
structure Alike (answers answers' : List Answer) : Prop where
  lengths : answers'.map Answer.length = answers.map Answer.length
  verdicts : verdicts answers' = verdicts answers

end Password

namespace Host.SameButTyped

open Password

variable {s t : Host} {entry entry' : Bytes}

theorem asked (same : s.SameButTyped t) (label : Text) :
    (s.asked label).SameButTyped (t.asked label) := by
  obtain ⟨_, _, rfl⟩ := same
  exact ⟨_, _, rfl⟩

theorem passed (same : s.SameButTyped t) : (s.passed entry).SameButTyped (t.passed entry') := by
  obtain ⟨_, _, rfl⟩ := same
  exact ⟨_, _, rfl⟩

theorem keeping (same : s.SameButTyped t) (length : entry'.length = entry.length) :
    (keeping entry s).SameButTyped (keeping entry' t) := by
  have told : discarding entry' s.console = discarding entry s.console := by
    rw [discarding, discarding, length]
  obtain ⟨_, _, rfl⟩ := same
  exact ⟨_, _, by rw [Password.keeping, told]; rfl⟩

theorem warned (same : s.SameButTyped t) (length : entry'.length = entry.length) :
    (warned entry s).SameButTyped (warned entry' t) := by
  have cut : isCut entry' = isCut entry := by
    rw [isCut, isCut, length]
  obtain ⟨_, _, rfl⟩ := same
  rw [Password.warned, Password.warned, cut]
  split <;> exact ⟨_, _, rfl⟩

theorem release (same : s.SameButTyped t) (b b' : Buffer) :
    (release b s).SameButTyped (release b' t) := by
  obtain ⟨_, _, rfl⟩ := same
  exact ⟨_, _, rfl⟩

theorem said (same : s.SameButTyped t) (change : Console → Console) :
    Host.SameButTyped { s with console := change s.console }
      { t with console := change t.console } := by
  obtain ⟨_, _, rfl⟩ := same
  exact ⟨_, _, rfl⟩

end Host.SameButTyped

namespace Password

/-! ### One entry -/

variable {s t : Host} {m m' : Memory} {kept kept' : List Kept}

/-- Both pairs are in use, with passwords of the same lengths. -/
inductive PairsAlike (m m' : Memory) (p : Pair) (now : Memory) (p' : Pair) (now' : Memory) :
    Prop where
  | intro {first first' : Bytes} {second second' : Option Bytes} :
      m.PairInUse now [] p first second → m'.PairInUse now' [] p' first' second' →
      first'.length = first.length → second'.map List.length = second.map List.length →
      PairsAlike m m' p now p' now'

theorem PairsAlike.isSome {now now' : Memory} {p p' : Pair}
    (pairs : PairsAlike m m' p now p' now') : p'.viewOnly.isSome = p.viewOnly.isSome := by
  obtain ⟨use, use', -, length₂⟩ := pairs
  rw [← use.viewOnly, ← use'.viewOnly] at length₂
  simpa using congrArg Option.isSome length₂

end Password

/-! ## From the input -/

/-- The hosts differ at most in the input that is left and in their memory. -/
def Host.SameButPiped (s t : Host) : Prop :=
  ∃ rest memory, t = { s with input := { s.input with rest }, memory }

namespace Password

/-- How long the next lines of a stream are, without their ends. -/
def lengthsAhead (lines : Nat) (stream : Bytes) : List Nat :=
  ((linesOf stream).take lines).map List.length

variable {s t : Host} {m m' : Memory} {kept kept' : List Kept} {lines : Nat}

end Password
end VncAccess
