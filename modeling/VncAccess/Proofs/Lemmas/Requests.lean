import VncAccess.Display.Session
import VncAccess.Proofs.Lemmas.Ending

/-!
# What a display server is asked

An exchange under one key begins with lookups of that key. A change comes only after an atom was
found, and nothing comes after the change but the wait for the server.
-/

namespace VncAccess

namespace Display

/-- Lookups of one key that make no new atom. -/
def Lookups (key : Text) (events : List Event) : Prop :=
  ∀ e ∈ events, ∃ atom, e = .lookedUp key true atom

/-- The request that replaces a property by bytes of text. -/
def replacing (atom : Nat) (payload : Bytes) : Event :=
  .changed atom stringType 8 payload replaceMode

/-- What is asked while a connection is open, and what becomes of the properties. Only an exchange
whose change was carried out may end well. -/
inductive Exchange (key : Text) (old : List (Nat × Bytes)) :
    Bool → List Event → List (Nat × Bytes) → Prop where
  | asked {events : List Event} : Lookups key events → Exchange key old false events old
  | refused {events : List Event} {atom : Nat} {payload : Bytes} :
      Lookups key events → .lookedUp key true atom ∈ events → atom ≠ 0 →
      Exchange key old false (events ++ [replacing atom payload]) old
  | changed {events : List Event} {atom : Nat} {payload : Bytes} {done : Bool} :
      Lookups key events → .lookedUp key true atom ∈ events → atom ≠ 0 →
      Exchange key old done (events ++ [replacing atom payload, .synced])
        (Server.putProperty old atom payload)

/-- What one use of a display asks of a server, from the attempt to connect to the end. -/
inductive Conversation (key : Text) (display : Option Text) (s : Server) :
    Bool → List Event → List (Nat × Bytes) → Prop where
  | silent : Conversation key display s false [] s.properties
  | refused : s.refusal ≠ none → Conversation key display s false [.opened display] s.properties
  | held {done : Bool} {events : List Event} {new : List (Nat × Bytes)} :
      s.refusal = none → Exchange key s.properties done events new →
      Conversation key display s done (.opened display :: (events ++ [.closed])) new

theorem Lookups.append {key : Text} {events events' : List Event} (h : Lookups key events)
    (h' : Lookups key events') : Lookups key (events ++ events') := by
  intro e he
  rcases List.mem_append.mp he with he | he
  · exact h e he
  · exact h' e he

theorem Lookups.singleton (key : Text) (atom : Nat) : Lookups key [.lookedUp key true atom] := by
  intro e he
  exact ⟨atom, List.mem_singleton.mp he⟩

end Display

open Display

/-- Between the hosts the server was asked for a key only. -/
def Host.Asked (key : Text) (h h' : Host) : Prop :=
  ∃ events, Lookups key events ∧ h'.server.events = h.server.events ++ events ∧
    h'.server.properties = h.server.properties

/-- Between the hosts lies an exchange with the server. -/
def Host.Exchanged (key : Text) (done : Bool) (h h' : Host) : Prop :=
  ∃ events, h'.server.events = h.server.events ++ events ∧
    Exchange key h.server.properties done events h'.server.properties

/-- Between the hosts lies the use of a display. -/
def Host.Conversed (key : Text) (display : Option Text) (done : Bool) (h h' : Host) : Prop :=
  ∃ events, h'.server.events = h.server.events ++ events ∧
    Conversation key display h.server done events h'.server.properties

namespace Host.Asked

variable {key : Text} {h h₁ h₂ : Host}

theorem refl (h : Host) : h.Asked key h :=
  ⟨[], nofun, (List.append_nil _).symm, rfl⟩

theorem of_server (asked : h.Asked key h₁) (same : h₂.server = h₁.server) : h.Asked key h₂ := by
  obtain ⟨events, lookups, eq, properties⟩ := asked
  exact ⟨events, lookups, same ▸ eq, same ▸ properties⟩

theorem exchanged (asked : h.Asked key h₁) : h.Exchanged key false h₁ := by
  obtain ⟨events, lookups, eq, properties⟩ := asked
  exact ⟨events, eq, properties ▸ .asked lookups⟩

/-- What leaves the server alone adds nothing to what it was asked. -/
theorem bind {α β : Type} {x : Run α} {f : α → Run β} {ok : β → Host → Prop}
    (asked : h.Asked key h₁) (keeps : Keeps Host.server x)
    (next : ∀ a h₂, h.Asked key h₂ → Ends (f a) h₂ ok fun _ h' => h.Exchanged key false h') :
    Ends (x >>= f) h₁ ok fun _ h' => h.Exchanged key false h' := by
  rw [ends_bind]
  exact (keeps h₁).imp (fun a h₂ same => next a h₂ (asked.of_server same))
    fun _ _ same => (asked.of_server same).exchanged

end Host.Asked

namespace Display

@[simp] theorem ends_onServer {α : Type} {request : Server → α × Server} {h : Host}
    {ok : α → Host → Prop} {bad : Failure → Host → Prop} :
    Ends (onServer request) h ok bad ↔
      ok (request h.server).1 { h with server := (request h.server).2 } := Iff.rfl

@[simp] theorem ends_orFail {α : Type} {r : Except Errno α} {h : Host} {ok : α → Host → Prop}
    {bad : Failure → Host → Prop} :
    Ends (orFail r) h ok bad ↔
      match r with
      | .ok a => ok a h
      | .error e => bad (.system (some e)) h := by
  cases r <;> rfl

namespace Session

variable {key : Text} {payload : Bytes} {display : Option Text} {s : Session} {h h₁ : Host}

/-- An atom that is given out was looked up just before. -/
theorem ends_atom (asked : h.Asked key h₁) :
    Ends (s.atom key) h₁
      (fun atom h' => atom ≠ 0 ∧ ∃ events, Lookups key events ∧ .lookedUp key true atom ∈ events ∧
        h'.server.events = h.server.events ++ events ∧
        h'.server.properties = h.server.properties)
      (fun _ h' => h.Asked key h') := by
  obtain ⟨events, lookups, eq, properties⟩ := asked
  have more := lookups.append (.singleton key (h₁.server.atomOf key))
  have eq' : (h₁.server.lookup key).2.events =
      h.server.events ++ (events ++ [.lookedUp key true (h₁.server.atomOf key)]) := by
    simp [Server.lookup, Server.record, eq]
  simp only [atom, ends_bind, ends_onServer]
  split
  · exact ⟨_, more, eq', properties⟩
  · next found =>
      simp only [ends_bind, Run.ends_log, ends_pure]
      exact ⟨found, _, more, List.mem_append_right _ (List.mem_singleton_self _), eq', properties⟩

theorem ends_require (asked : h.Asked key h₁) :
    Ends (s.require key) h₁ (fun _ h' => h.Asked key h')
      (fun _ h' => h.Exchanged key false h') := by
  simp only [require, ends_bind, ends_pure]
  refine (ends_atom asked).imp ?_ fun _ _ left => left.exchanged
  intro atom h' found
  obtain ⟨-, events, lookups, -, eq, properties⟩ := found
  exact ⟨events, lookups, eq, properties⟩

theorem ends_setProperty (asked : h.Asked key h₁) :
    Ends (s.setProperty key payload) h₁ (fun _ h' => h.Exchanged key true h')
      (fun _ h' => h.Exchanged key false h') := by
  simp only [setProperty, ends_bind]
  refine (ends_atom asked).imp ?_ fun _ _ left => left.exchanged
  intro atom h₂ found
  obtain ⟨nonzero, events, lookups, looked, eq, properties⟩ := found
  rw [ends_onServer]
  cases fault : h₂.server.changeFault with
  | some e =>
      simp only [Server.change, fault, ends_orFail]
      refine ⟨events ++ [replacing atom payload], ?_, ?_⟩
      · simp [Server.record, eq, replacing]
      · exact properties ▸ Exchange.refused lookups looked nonzero
  | none =>
      have sent {done : Bool} : Exchange key h.server.properties done
          (events ++ [replacing atom payload, .synced])
          (Server.putProperty h₂.server.properties atom payload) :=
        properties ▸ Exchange.changed lookups looked nonzero
      simp only [Server.change, fault, ends_onServer, ends_orFail, Server.sync]
      split
      · rw [Run.ends_log]
        exact ⟨_, by simp [Server.record, eq, replacing], sent⟩
      · exact ⟨_, by simp [Server.record, eq, replacing], sent⟩

/-- A connection that was opened is closed whatever happens on it. -/
theorem ends_during {α : Type} {body : Session → Run α}
    (exchanges : ∀ s h₁, Ends (body s) h₁ (fun _ h' => h₁.Exchanged key true h')
      (fun _ h' => h₁.Exchanged key false h')) :
    Ends (during display body) h (fun _ h' => h.Conversed key display true h')
      (fun _ h' => h.Conversed key display false h') := by
  have closed {done : Bool} {h₁ h₂ : Host} (accepts : h.server.refusal = none)
      (opened : h₁.server = h.server.record (.opened display))
      (exchanged : h₁.Exchanged key done h₂) :
      h.Conversed key display done { h₂ with server := h₂.server.close } := by
    obtain ⟨events, eq, exchange⟩ := exchanged
    rw [opened] at eq exchange
    exact ⟨_, by simp [Server.close, Server.record, eq], .held accepts exchange⟩
  simp only [during, connect, ends_bind, ends_get, ends_onServer, Server.connect]
  cases refusal : h.server.refusal with
  | some r =>
      simp only [ends_bind, Run.ends_log, Run.ends_refuse]
      exact ⟨_, rfl, .refused (by simp [refusal])⟩
  | none =>
      simp only [ends_pure, Run.ends_always]
      exact (exchanges _ _).imp (fun _ _ => closed refusal rfl) fun _ _ => closed refusal rfl

end Session
end Display
end VncAccess
