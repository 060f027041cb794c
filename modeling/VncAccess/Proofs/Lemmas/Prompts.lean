import VncAccess.Password.Prompt
import VncAccess.Proofs.Lemmas.Ending
import VncAccess.Proofs.Lemmas.Memory
import VncAccess.Proofs.Lemmas.Utf8

/-!
# How the questions for a password end

One rule for each question and for each line of the input. What is read is put into a cell that is
wiped again within the rule, so that only buffers outlive it.
-/

namespace VncAccess

open Secret

/-- The host once a label has been shown and the answer to it, if any, is gone. -/
def Host.asked (h : Host) (label : Text) : Host :=
  { h with
    terminal := { h.terminal with
      prompts := h.terminal.prompts ++ [label]
      answers := h.terminal.answers.tail } }

/-- The host with an entry in a new cell. -/
def Host.stored (h : Host) (entry : Bytes) : Host :=
  { h with memory := (h.memory.store entry).2 }

/-- The host after a new cell has held an entry. -/
def Host.passed (h : Host) (entry : Bytes) : Host := h.stored (Secret.zeros entry)

namespace Password

/-- The console after it was logged how much of an entry is not kept. -/
def discarding (entry : Bytes) (c : Console) : Console :=
  if significantLength < entry.length then
    c.note "vncpasswd.utils.secure"
      ("Discarding " ++ Decimal.natural (entry.length - significantLength) ++
        " bytes beyond the significant length")
  else
    c

/-- What is kept of an entry. -/
def significantBytes (entry : Bytes) : Bytes := entry.take significantLength

/-- The host with a new buffer of the significant bytes of an entry. -/
def keeping (entry : Bytes) (h : Host) : Host :=
  { h with
    memory := (h.memory.hold (significantBytes entry) (some significantLength)).2
    console := discarding entry h.console }

def isCut (entry : Bytes) : Bool := significantLength < entry.length

def warned (entry : Bytes) (h : Host) : Host :=
  if isCut entry then { h with console := h.console.hear truncationWarning } else h

variable {h : Host} {bad : Failure → Host → Prop}

theorem truncated_eq (m : Memory) (entry : Bytes) :
    m.truncated entry significantLength =
      .ok ((⟨m.holdings.length⟩, isCut entry),
        (m.hold (significantBytes entry) (some significantLength)).2) := by
  have hlen : ¬ (significantLength : Int) < (significantBytes entry).length := by
    simp only [significantBytes, List.length_take]; omega
  have hsig : Memory.significant entry significantLength = significantBytes entry := by
    simp [Memory.significant, significantBytes, significantLength]
  simp only [Memory.truncated, Memory.newBuffer, hsig, if_neg hlen]
  simp [bind, Except.bind, pure, Except.pure, isCut, Memory.hold_eq]

@[simp] theorem ends_keepSignificant {entry : Bytes} {ok : Buffer × Bool → Host → Prop} :
    Ends (keepSignificant entry) h ok bad ↔
      ok (⟨h.memory.holdings.length⟩, isCut entry) (keeping entry h) := by
  by_cases hc : significantLength < entry.length <;>
    simp [keepSignificant, hc, truncated_eq, keeping, discarding]

@[simp] theorem ends_store {entry : Bytes} {ok : Cell → Host → Prop} :
    Ends (store entry) h ok bad ↔ ok ⟨h.memory.cells.length⟩ (h.stored entry) := Iff.rfl

@[simp] theorem read_stored (h : Host) (entry : Bytes) :
    (h.stored entry).memory.read ⟨h.memory.cells.length⟩ = entry :=
  Memory.read_store ..

@[simp] theorem wipe_stored (h : Host) (entry : Bytes) :
    wipe ⟨h.memory.cells.length⟩ (h.stored entry) = h.passed entry := by
  simp [wipe, onMemory, Host.stored, Host.passed, Memory.wipe_store]

@[simp] theorem wipe_keeping_stored (h : Host) (entry kept : Bytes) :
    wipe ⟨h.memory.cells.length⟩ (keeping kept (h.stored entry)) =
      keeping kept (h.passed entry) := by
  simp [wipe, onMemory, keeping, Host.stored, Host.passed, Memory.wipe_hold_store]

/-! ## At the terminal -/

theorem ends_prompt {label : Text} {ok : Cell → Host → Prop} :
    Ends (prompt label) h ok bad ↔
      match h.terminal.answers with
      | .typed entry :: _ =>
        ok ⟨(h.asked label).memory.cells.length⟩ ((h.asked label).stored entry)
      | .interrupt :: _ => bad .interrupted (h.asked label)
      | [] => bad (.refused (.inputClosed "Can't get password: not a tty?")) (h.asked label) := by
  simp only [prompt, ends_bind, ends_get, ends_modify]
  rcases ht : h.terminal.answers with _ | ⟨_ | _, _⟩ <;>
    simp [Host.asked, ht]

theorem ends_askFirst {ok : Buffer → Host → Prop} :
    Ends askFirst h ok bad ↔
      match h.terminal.answers with
      | .typed entry :: _ =>
        if entry.length < shortestLength then
          bad (.refused .passwordTooShort) ((h.asked firstLabel).passed entry)
        else
          ok ⟨h.memory.holdings.length⟩
            (warned entry (keeping entry ((h.asked firstLabel).passed entry)))
      | .interrupt :: _ => bad .interrupted (h.asked firstLabel)
      | [] =>
        bad (.refused (.inputClosed "Can't get password: not a tty?")) (h.asked firstLabel) := by
  simp only [askFirst, ends_bind, ends_prompt]
  rcases ht : h.terminal.answers with _ | ⟨entry | _, _⟩
  · rfl
  · by_cases hs : entry.length < shortestLength
    · simp [hs]
    · simp only [Run.ends_always, ends_bind, ends_get, read_stored, hs, ↓reduceIte,
        ends_keepSignificant, wipe_keeping_stored]
      cases hc : isCut entry <;> simp only [warned, hc, reduceIte, Bool.false_eq_true,
        ends_bind, ends_pure, Run.ends_say] <;> rfl
  · rfl

theorem ends_askSecond {ok : Buffer → Host → Prop} :
    Ends askSecond h ok bad ↔
      match h.terminal.answers with
      | .typed entry :: _ =>
        ok ⟨h.memory.holdings.length⟩ (keeping entry ((h.asked secondLabel).passed entry))
      | .interrupt :: _ => bad .interrupted (h.asked secondLabel)
      | [] =>
        bad (.refused (.inputClosed "Can't get password: not a tty?")) (h.asked secondLabel) := by
  simp only [askSecond, ends_bind, ends_prompt]
  rcases ht : h.terminal.answers with _ | ⟨entry | _, _⟩
  · rfl
  · simp only [ends_get, read_stored, ends_keepSignificant, ends_modify, wipe_keeping_stored,
      ends_pure]
    rfl
  · rfl

theorem ends_askViewOnly {ok : Bool → Host → Prop} :
    Ends askViewOnly h ok bad ↔
      let asked := { h with
        console := h.console.hear
          (.plain "Would you like to enter a view-only password (y/n)? " "")
        input := h.input.readTextLine.2 }
      match h.input.readTextLine.1 with
      | .ok line => ok (isYes line) asked
      | .error f => bad f asked := by
  simp only [askViewOnly, ends_bind, Run.ends_say, ends_get, ends_modify]
  rcases h.input.readTextLine with ⟨_ | _, _⟩ <;> rfl

/-! ## From the input -/

/-- The host once a line of the input, or its fault, is behind. -/
def advanced (h : Host) : Host := { h with input := h.input.readLine.2 }

theorem ends_nextLine {ok : Bytes → Host → Prop} :
    Ends nextLine h ok bad ↔
      match h.input.readLine.1 with
      | .ok line => ok line (advanced h)
      | .error f => bad f (advanced h) := by
  simp only [nextLine, ends_bind, ends_get, ends_modify]
  rcases hr : h.input.readLine with ⟨_ | _, _⟩ <;> simp only [advanced, hr] <;> rfl

theorem ends_readLine {ok : Option Buffer → Host → Prop} :
    Ends readLine h ok bad ↔
      match h.input.readLine.1 with
      | .ok [] => ok none ((advanced h).passed [])
      | .ok (b :: line) =>
        ok (some ⟨h.memory.holdings.length⟩)
          (warned (stripLineEnd (b :: line))
            (keeping (stripLineEnd (b :: line)) ((advanced h).passed (b :: line))))
      | .error f => bad f (advanced h) := by
  simp only [readLine, ends_bind, ends_nextLine]
  rcases h.input.readLine.1 with f | _ | ⟨b, line⟩
  · rfl
  · simp only [ends_store, Run.ends_always, reduceIte, ends_pure, wipe_stored]
  · simp only [ends_store, Run.ends_always, reduceIte, reduceCtorEq, ends_bind,
      ends_keepSignificant, ends_pure, wipe_keeping_stored]
    cases hc : isCut (stripLineEnd (b :: line)) <;> simp only [warned, hc, reduceIte,
      Bool.false_eq_true, ends_bind, ends_pure, Run.ends_say] <;> rfl

end Password
end VncAccess
