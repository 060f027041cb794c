import VncAccess.Proofs.Lemmas.Dialogue
import VncAccess.Proofs.Lemmas.Frames

/-!
# Passwords are wiped

However a request ends, every cell and every buffer that it made is wiped and released. A question
for passwords that is asked alone leaves the buffers of its answer in use, and nothing else.
-/

namespace VncAccess

open Secret Memory

/-- Of all that a computation put into the memory, it leaves only the buffers of its result in use,
and nothing at all where it fails. -/
structure LeavesOnly {α : Type} (x : Run α) (buffers : α → List Buffer) (h : Host) : Prop where
  result : ∀ a h', x.run h = (.ok a, h') → WipedExcept (buffers a) h.memory h'.memory
  failure : ∀ f h', x.run h = (.error f, h') → WipedExcept [] h.memory h'.memory

theorem LeavesOnly.of_ends {α : Type} {x : Run α} {buffers : α → List Buffer} {h : Host}
    (ends : Ends x h (fun a h' => WipedExcept (buffers a) h.memory h'.memory)
      fun _ h' => WipedExcept [] h.memory h'.memory) : LeavesOnly x buffers h where
  result _ _ r := ends.of_ok r
  failure _ _ r := ends.of_error r

namespace Password

variable {h : Host} {m : Memory} {kept : List Kept}

/-! ## Passwords from the input -/

/-- The line itself is wiped, and the buffer of its password stays. -/
theorem ends_readLine_inUse (use : m.InUse h.memory kept) :
    Ends readLine h
      (fun b h' => (b = none ∧ m.InUse h'.memory kept) ∨
        ∃ k : Kept, b = some k.buffer ∧ m.InUse h'.memory (k :: kept))
      (fun _ h' => m.InUse h'.memory kept) := by
  have ahead : m.InUse (advanced h).memory kept := use
  rw [ends_readLine]
  rcases h.input.readLine.1 with f | _ | ⟨b, line⟩
  · exact use
  · exact .inl ⟨rfl, inUse_passed ahead []⟩
  · obtain ⟨k, hk, -, -, use'⟩ :=
      inUse_keeping (inUse_passed ahead (b :: line)) (stripLineEnd (b :: line))
    refine .inr ⟨k, congrArg some hk.symm, ?_⟩
    rw [memory_warned]
    exact use'

theorem ends_readPair (use : m.InUse h.memory []) :
    Ends readPair h
      (fun p h' => ∃ first second, m.PairInUse h'.memory [] p first second)
      (fun _ h' => m.InUse h'.memory []) := by
  have second {k : Kept} (h₁ : Host) (use₁ : m.InUse h₁.memory [k]) :
      Ends (do makePair k.buffer (← Run.onFailure (release k.buffer) readLine)) h₁
        (fun p h' => ∃ first second, m.PairInUse h'.memory [] p first second)
        (fun _ h' => m.InUse h'.memory []) := by
    rw [ends_bind, Run.ends_onFailure]
    refine (ends_readLine_inUse use₁).imp ?_ fun _ _ => InUse.release
    rintro _ h₂ (⟨rfl, use₂⟩ | ⟨k₂, rfl, use₂⟩)
    · exact ⟨k.bytes, none, .one use₂⟩
    · exact ⟨_, _, use₂.pair⟩
  simp only [readPair, ends_bind]
  refine (ends_readLine_inUse use).imp ?_ fun _ _ => id
  rintro _ h₁ (⟨rfl, use₁⟩ | ⟨k, rfl, use₁⟩)
  · exact use₁
  · simp only [ends_bind, ends_get]
    split
    · rw [ends_bind, Run.ends_say]
      exact second { h₁ with console := _ } use₁
    · exact second h₁ use₁

end Password

/-! ## Requests -/

namespace Command

variable {h : Host}

theorem inUse_releasePair {m : Memory} {p : Pair} {first : Bytes} {second : Option Bytes}
    {body : Run Unit} (keeps : Keeps Host.memory body)
    (use : m.PairInUse h.memory [] p first second) :
    Ends (Run.always (Password.releasePair p) body) h
      (fun _ h' => m.InUse h'.memory []) (fun _ h' => m.InUse h'.memory []) := by
  have released {h' : Host} (e : h'.memory = h.memory) : m.InUse (h'.memory.releasePair p) [] :=
    (e ▸ use).releasePair
  rw [Run.ends_always]
  exact (keeps h).imp (fun _ _ e => released e) fun _ _ e => released e

theorem ends_writeFile_inUse {i : Invocation} {m : Memory} (use : m.InUse h.memory []) :
    Ends (writeFile i) h
      (fun _ h' => m.InUse h'.memory []) (fun _ h' => m.InUse h'.memory []) := by
  have asks : Keeps Host.memory Password.askViewOnly :=
    Password.keeps_askViewOnly (fun _ _ => rfl) fun _ _ => rfl
  have same {h₁ h₂ : Host} (e : h₂.memory = h₁.memory) (use : m.InUse h₁.memory []) :
      m.InUse h₂.memory [] := e ▸ use
  simp only [writeFile, ends_bind]
  refine (keeps_provide (fun _ _ => rfl) (fun _ _ => rfl) h).imp ?_ fun _ _ e => same e use
  intro _ h₁ e
  refine (Password.ends_askPair asks (same e use)).imp ?_ fun _ _ => id
  intro p h₂ asked
  obtain ⟨first, second, use₂, -⟩ := asked
  refine (inUse_releasePair (keeps_writePair (fun _ _ => rfl) (fun _ _ => rfl)) use₂).imp ?_
    fun _ _ => id
  exact fun _ _ use₃ => Run.ends_say.mpr use₃

theorem ends_encodeStream_inUse {m : Memory} (use : m.InUse h.memory []) :
    Ends encodeStream h
      (fun _ h' => m.InUse h'.memory []) (fun _ h' => m.InUse h'.memory []) := by
  simp only [encodeStream, ends_bind]
  refine (Password.ends_readPair use).imp ?_ fun _ _ => id
  intro p h₁ read
  obtain ⟨first, second, use₁⟩ := read
  exact inUse_releasePair (Password.File.keeps_writeStream fun _ _ => rfl) use₁

theorem ends_run_inUse {i : Invocation} {m : Memory}
    (hi : i.mode = .file ∨ i.mode = .temporary ∨ i.mode = .stream) (use : m.InUse h.memory []) :
    Ends (run i) h
      (fun _ h' => m.InUse h'.memory []) (fun _ h' => m.InUse h'.memory []) := by
  rcases or_assoc.mpr hi with file | stream
  · exact ends_run_of_file file fun _ => ends_writeFile_inUse use
  · exact ends_run_of_stream stream fun _ => ends_encodeStream_inUse use

end Command

/-- No password outlives a request that writes password files or encodes a stream, and none but
those that are asked for outlives a question. -/
theorem passwords_wiped (h : Host) :
    (∀ i : Invocation, i.mode = .file ∨ i.mode = .temporary ∨ i.mode = .stream →
      WipedExcept [] h.memory ((Command.run i).run h).2.memory) ∧
    LeavesOnly Password.ask (fun b => [b]) h ∧
    (∀ (viewOnly : Option Bool) (confirm : Run Bool), Keeps Host.memory confirm →
      LeavesOnly (Password.askPair viewOnly confirm) Pair.buffers h) ∧
    LeavesOnly Password.readPair Pair.buffers h := by
  have use := InUse.refl h.memory
  refine ⟨?requests, ?asking, ?askingTwo, ?reading⟩
  case requests =>
    intro i hi
    have left := (Command.ends_run_inUse hi use).always
      (p := fun h' : Host => h.memory.InUse h'.memory [])
    exact left.wipedExcept
  case asking =>
    refine .of_ends <| (Password.ends_ask use).imp ?_ fun _ _ left => left.1.wipedExcept
    intro _ h' asked
    obtain ⟨k, rfl, use', -⟩ := asked
    exact use'.wipedExcept
  case askingTwo =>
    intro viewOnly confirm keeps
    refine .of_ends <| (Password.ends_askPair keeps use).imp ?_ fun _ _ => InUse.wipedExcept
    intro p h' asked
    obtain ⟨first, second, use', -⟩ := asked
    exact use'.wipedExcept
  case reading =>
    refine .of_ends <| (Password.ends_readPair use).imp ?_ fun _ _ => InUse.wipedExcept
    intro p h' read
    obtain ⟨first, second, use'⟩ := read
    exact use'.wipedExcept

/-- The second entry differs at first, and the operator interrupts the view-only password. -/
def interruptedHost : Host where
  files := { tree := { entries := [] }, current := [] }
  terminal.answers :=
    [.typed [1, 2, 3, 4, 5, 6], .typed [1, 2, 3, 4, 5, 7], .typed [1, 2, 3, 4, 5, 6],
      .typed [1, 2, 3, 4, 5, 6, 0], .typed [1, 2, 3, 4, 5, 6], .typed [1, 2, 3, 4, 5, 6],
      .typed [7, 6, 5, 4, 3, 2, 1], .interrupt]

def interruptedRequest : Invocation where
  mode := .file
  viewOnly := true
  file := some (.ofText "passwd")

theorem passwords_wiped_interrupted :
    ((Command.run interruptedRequest).run interruptedHost).2.terminal.answers = [] ∧
      WipedExcept [] interruptedHost.memory
        ((Command.run interruptedRequest).run interruptedHost).2.memory ∧
      LeavesOnly (Password.askPair none Password.askViewOnly) Pair.buffers interruptedHost := by
  obtain ⟨requests, -, pairs, -⟩ := passwords_wiped interruptedHost
  refine ⟨by decide +kernel, ?_, ?_⟩
  · exact requests interruptedRequest (.inl rfl)
  · exact pairs none Password.askViewOnly
      (Password.keeps_askViewOnly (fun _ _ => rfl) fun _ _ => rfl)

end VncAccess
