import VncAccess.Proofs.Outcome

/-!
# A request touches only the resources of its mode

What a request may change is decided from its options and the variables, before anything is touched:
a request that is refused changes nothing, and any other at most the resources that its mode uses.
No password is asked for before the directory for it has passed its checks.
-/

namespace VncAccess

/-! ## Resources -/

/-- What a request can reach. What the operator is told is not counted. -/
inductive Resource where
  | tree
  | terminal
  | input
  | output
  | display
  deriving DecidableEq, Repr

def Resource.State : Resource → Type
  | tree => Tree
  | terminal => Terminal
  | input => Input
  | output => Output
  | display => Display.Server

def Host.state (r : Resource) (h : Host) : r.State :=
  match r with
  | .tree => h.files.tree
  | .terminal => h.terminal
  | .input => h.input
  | .output => h.output
  | .display => h.server

/-- A request for a password file reads from the input whether a second password is wanted. -/
def Mode.uses : Mode → List Resource
  | file | temporary => [.tree, .terminal, .input]
  | stream => [.input, .output]
  | oneTime | clearOneTime | accessList => [.display]

theorem Host.state_console (r : Resource) (h : Host) (console : Console) :
    { h with console }.state r = h.state r := by
  cases r <;> rfl

theorem Host.Becomes.state {h h' : Host} (becomes : h.Becomes h.files.tree h') (r : Resource) :
    h'.state r = h.state r := by
  obtain ⟨_, _, rfl⟩ := becomes
  cases r <;> rfl

/-! ## The decision -/

namespace Invocation

/-- The invocation with another display, where it talks to one. -/
def withDisplay (display : Option Text) (i : Invocation) : Invocation :=
  if .display ∈ i.mode.uses then { i with display } else i

theorem mode_withDisplay (i : Invocation) (display : Option Text) :
    (i.withDisplay display).mode = i.mode := by
  unfold withDisplay
  split <;> rfl

theorem provided_withDisplay {i : Invocation} {display : Option Text} {fs : FileSystem}
    {place : Option Location} {t : Tree} (h : Provided i fs place t) :
    Provided (i.withDisplay display) fs place t := by
  unfold withDisplay
  split
  · cases h with
    | unasked off => exact .unasked off
    | ready on named ready => exact .ready on named ready
  · exact h

end Invocation

/-! ## Carrying out -/

namespace Command

open Password

variable {i : Invocation} {h h₁ : Host} {r : Resource}

/-- What a request may do to a host, once it is decided what is asked for. -/
def StaysWithin (decision : Except AccessError Invocation) (h h' : Host) : Prop :=
  match decision with
  | .error _ => ∀ r, h'.state r = h.state r
  | .ok i => (∀ r, r ∉ i.mode.uses → h'.state r = h.state r) ∧
      (h'.terminal ≠ h.terminal → ∃ place t, Provided i h.files place t)

variable {decision : Except AccessError Invocation}

theorem StaysWithin.said (stays : StaysWithin decision h h₁) (console : Console) :
    StaysWithin decision h { h₁ with console } := by
  cases decision with
  | error e => exact fun r => (Host.state_console r h₁ console).trans (stays r)
  | ok i =>
      obtain ⟨spares, provided⟩ := stays
      exact ⟨fun r unused => (Host.state_console r h₁ console).trans (spares r unused), provided⟩

theorem StaysWithin.withDisplay (stays : StaysWithin decision h h₁) (display : Option Text) :
    StaysWithin (decision.map (Invocation.withDisplay display)) h h₁ := by
  cases decision with
  | error e => exact stays
  | ok i =>
      refine ⟨fun r unused => stays.1 r ?_, fun changed => ?_⟩
      · rwa [Invocation.mode_withDisplay] at unused
      · obtain ⟨place, t, provided⟩ := stays.2 changed
        exact ⟨place, t, Invocation.provided_withDisplay provided⟩

end Command
end VncAccess
