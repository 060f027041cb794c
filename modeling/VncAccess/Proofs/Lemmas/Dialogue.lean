import VncAccess.Proofs.Lemmas.Prompts

/-!
# The dialogue for a password

`Confirms answers password rest` says what the answers of a terminal confirm: the first password
that is typed twice, with the answers that are left. `ends_ask` relates the dialogue to it, and says
what becomes of the memory.
-/

namespace VncAccess

open Secret Memory

/-- The hosts differ at most in what a dialogue at the terminal changes. -/
def Host.Talked (h h' : Host) : Prop :=
  ∃ terminal memory console, h' = { h with terminal, memory, console }

namespace Host.Talked

variable {h h' h'' : Host}

theorem refl (h : Host) : h.Talked h := ⟨_, _, _, rfl⟩

theorem trans : h.Talked h' → h'.Talked h'' → h.Talked h''
  | ⟨_, _, _, e⟩, ⟨_, _, _, e'⟩ => by subst e e'; exact ⟨_, _, _, rfl⟩

end Host.Talked

namespace Password

/-- The answers up to `rest` confirm a password: every cycle before the last has two entries that
differ in their significant bytes, and the last has two that agree. -/
inductive Confirms : List Answer → Bytes → List Answer → Prop where
  | agree {first second : Bytes} {rest : List Answer} :
      shortestLength ≤ first.length → significantBytes first = significantBytes second →
      Confirms (.typed first :: .typed second :: rest) (significantBytes first) rest
  | again {first second password : Bytes} {answers rest : List Answer} :
      shortestLength ≤ first.length → significantBytes first ≠ significantBytes second →
      Confirms answers password rest →
      Confirms (.typed first :: .typed second :: answers) password rest

theorem Confirms.length {answers rest : List Answer} {password : Bytes}
    (h : Confirms answers password rest) :
    shortestLength ≤ password.length ∧ password.length ≤ significantLength := by
  induction h with
  | agree long _ =>
      simp only [significantBytes, List.length_take, shortestLength, significantLength] at long ⊢
      omega
  | again _ _ _ ih => exact ih

/-! ## The host along the way -/

variable {h : Host} {m : Memory} {kept : List Kept}

@[simp] theorem memory_warned (entry : Bytes) (h : Host) : (warned entry h).memory = h.memory := by
  unfold warned; split <;> rfl

@[simp] theorem terminal_warned (entry : Bytes) (h : Host) :
    (warned entry h).terminal = h.terminal := by
  unfold warned; split <;> rfl

theorem talked_asked (h : Host) (label : Text) : h.Talked (h.asked label) := ⟨_, _, _, rfl⟩

theorem talked_passed (h : Host) (entry : Bytes) : h.Talked (h.passed entry) := ⟨_, _, _, rfl⟩

theorem talked_keeping (h : Host) (entry : Bytes) : h.Talked (keeping entry h) := ⟨_, _, _, rfl⟩

theorem talked_release (h : Host) (b : Buffer) : h.Talked (release b h) := ⟨_, _, _, rfl⟩

theorem talked_warned (h : Host) (entry : Bytes) : h.Talked (warned entry h) := by
  unfold warned; split
  · exact ⟨_, _, _, rfl⟩
  · exact .refl h

theorem inUse_passed (use : m.InUse h.memory kept) (entry : Bytes) :
    m.InUse (h.passed entry).memory kept :=
  use.store (Memory.zeros_eq_zero entry)

theorem inUse_keeping (use : m.InUse h.memory kept) (entry : Bytes) :
    ∃ k : Kept, k.buffer = ⟨h.memory.holdings.length⟩ ∧ k.bytes = significantBytes entry ∧
      k.capacity = some significantLength ∧ m.InUse (keeping entry h).memory (k :: kept) :=
  ⟨_, rfl, rfl, rfl, use.hold (significantBytes entry) (some significantLength)⟩

/-! ## One entry -/

/-- A buffer holds the significant bytes of the answer that was read. -/
structure Entered (m : Memory) (kept : List Kept) (h : Host) (entry : Bytes) (k : Kept)
    (h' : Host) : Prop where
  bytes : k.bytes = significantBytes entry
  answers : h.terminal.answers = .typed entry :: h'.terminal.answers
  use : m.InUse h'.memory (k :: kept)
  talked : h.Talked h'

/-- The entry is compared with the one before it. -/
theorem Entered.sameContents {h' : Host} {first second : Bytes} {k k₂ : Kept}
    (entered : Entered m (k :: kept) h second k₂ h') (bytes : k.bytes = significantBytes first) :
    h'.memory.sameContents k.buffer k₂.buffer =
      (significantBytes first == significantBytes second) := by
  rw [Memory.sameContents, entered.use.contents (by simp), entered.use.contents (by simp), bytes,
    entered.bytes]

theorem entered_keeping (use : m.InUse h.memory kept) {entry : Bytes} {answers : List Answer}
    (ht : h.terminal.answers = .typed entry :: answers) (label : Text) :
    ∃ k : Kept, k.buffer = ⟨h.memory.holdings.length⟩ ∧
      Entered m kept h entry k (keeping entry ((h.asked label).passed entry)) := by
  have asked : m.InUse (h.asked label).memory kept := use
  obtain ⟨k, hk, hb, -, use'⟩ := inUse_keeping (inUse_passed asked entry) entry
  refine ⟨k, hk, hb, ?_, use', ?_⟩
  · show _ = _ :: h.terminal.answers.tail
    rw [ht]; rfl
  · exact ((talked_asked ..).trans (talked_passed ..)).trans (talked_keeping ..)

theorem ends_first (use : m.InUse h.memory kept) :
    Ends askFirst h
      (fun b h' => ∃ entry k, k.buffer = b ∧ shortestLength ≤ entry.length ∧
        Entered m kept h entry k h')
      (fun _ h' => m.InUse h'.memory kept ∧ h.Talked h') := by
  rw [ends_askFirst]
  rcases ht : h.terminal.answers with _ | ⟨entry | _, answers⟩
  · exact ⟨use, talked_asked ..⟩
  · dsimp only
    split
    · exact ⟨inUse_passed (h := h.asked firstLabel) use entry,
        (talked_asked ..).trans (talked_passed ..)⟩
    · obtain ⟨k, hk, entered⟩ := entered_keeping use ht firstLabel
      refine ⟨entry, k, hk, by omega, entered.bytes, ?_, ?_,
        entered.talked.trans (talked_warned ..)⟩
      · rw [terminal_warned]; exact entered.answers
      · rw [memory_warned]; exact entered.use
  · exact ⟨use, talked_asked ..⟩

theorem ends_second (use : m.InUse h.memory kept) :
    Ends askSecond h
      (fun b h' => ∃ entry k, k.buffer = b ∧ Entered m kept h entry k h')
      (fun _ h' => m.InUse h'.memory kept ∧ h.Talked h') := by
  rw [ends_askSecond]
  rcases ht : h.terminal.answers with _ | ⟨entry | _, answers⟩
  · exact ⟨use, talked_asked ..⟩
  · obtain ⟨k, hk, entered⟩ := entered_keeping use ht secondLabel
    exact ⟨entry, k, hk, entered⟩
  · exact ⟨use, talked_asked ..⟩

/-! ## Asking until both entries agree -/

/-- Each cycle releases its two buffers, except for the first of those that agree. -/
theorem ends_askWithin (cycles : Nat) {h : Host} (use : m.InUse h.memory kept) :
    Ends (askWithin cycles) h
      (fun b h' => ∃ k : Kept, k.buffer = b ∧ m.InUse h'.memory (k :: kept) ∧
        Confirms h.terminal.answers k.bytes h'.terminal.answers ∧ h.Talked h')
      (fun _ h' => m.InUse h'.memory kept ∧ h.Talked h') := by
  induction cycles generalizing h with
  | zero => exact ⟨use, .refl h⟩
  | succ cycles ih =>
      simp only [askWithin, ends_bind]
      refine (ends_first use).imp ?_ fun _ _ => id
      intro _ h₁ entered
      obtain ⟨first, k₁, rfl, long, entered₁⟩ := entered
      rw [Run.ends_onFailure]
      refine (ends_second entered₁.use).imp ?_ ?_
      · intro _ h₂ entered
        obtain ⟨second, k₂, rfl, entered₂⟩ := entered
        have talked := entered₁.talked.trans entered₂.talked
        have answers : h.terminal.answers =
            .typed first :: .typed second :: h₂.terminal.answers := by
          rw [entered₁.answers, entered₂.answers]
        have same := entered₂.sameContents entered₁.bytes
        have use₃ := entered₂.use.release
        simp only [Run.ends_always, ends_bind, ends_get, same]
        by_cases agreed : significantBytes first = significantBytes second
        · simp only [agreed, beq_self_eq_true, ↓reduceIte, ends_bind, Run.ends_log, ends_pure]
          refine ⟨k₁, rfl, use₃, ?_, talked.trans ⟨_, _, _, rfl⟩⟩
          rw [answers, entered₁.bytes]
          exact .agree long agreed
        · simp only [beq_eq_false_iff_ne.mpr agreed, Bool.false_eq_true, ↓reduceIte, ends_bind,
            ends_pure, ends_modify, Run.ends_say]
          refine (ih use₃.release).imp ?_ ?_
          · intro _ h₄ asked
            obtain ⟨k, rfl, use₄, confirms, talked'⟩ := asked
            refine ⟨k, rfl, use₄, ?_, talked.trans (Host.Talked.trans ⟨_, _, _, rfl⟩ talked')⟩
            rw [answers]
            exact .again long agreed confirms
          · intro _ h₄ left
            obtain ⟨use₄, talked'⟩ := left
            exact ⟨use₄, talked.trans (Host.Talked.trans ⟨_, _, _, rfl⟩ talked')⟩
      · intro _ h₂ left
        obtain ⟨use₂, talked⟩ := left
        exact ⟨use₂.release, (entered₁.talked.trans talked).trans (talked_release ..)⟩

theorem ends_ask (use : m.InUse h.memory kept) :
    Ends ask h
      (fun b h' => ∃ k : Kept, k.buffer = b ∧ m.InUse h'.memory (k :: kept) ∧
        Confirms h.terminal.answers k.bytes h'.terminal.answers ∧ h.Talked h')
      (fun _ h' => m.InUse h'.memory kept ∧ h.Talked h') :=
  ends_askWithin _ use

/-! ## A pair of passwords -/

/-- How a pair of passwords comes about: a first one is confirmed, then a second one if it is
wanted. -/
inductive Paired (viewOnly : Option Bool) (confirm : Run Bool) (h : Host) :
    Bytes → Option Bytes → Host → Prop where
  | one {first : Bytes} {h₁ h₂ : Host} :
      Confirms h.terminal.answers first h₁.terminal.answers → h.Talked h₁ →
      (wantsViewOnly viewOnly confirm).run h₁ = (.ok false, h₂) →
      Paired viewOnly confirm h first none h₂
  | two {first second : Bytes} {h₁ h₂ h₃ : Host} :
      Confirms h.terminal.answers first h₁.terminal.answers → h.Talked h₁ →
      (wantsViewOnly viewOnly confirm).run h₁ = (.ok true, h₂) →
      Confirms h₂.terminal.answers second h₃.terminal.answers → h₂.Talked h₃ →
      Paired viewOnly confirm h first (some second) h₃

theorem keeps_askViewOnly {γ : Type} {p : Host → γ} (hc : ∀ h console, p { h with console } = p h)
    (hi : ∀ h input, p { h with input } = p h) : Keeps p askViewOnly := by
  refine (Run.keeps_say hc).bind fun _ => keeps_get.bind fun h => ?_
  refine (keeps_modify fun _ => hi _ _).bind fun _ => ?_
  split
  · exact keeps_pure
  · exact keeps_throw

theorem keeps_wantsViewOnly {γ : Type} {p : Host → γ} {viewOnly : Option Bool} {confirm : Run Bool}
    (hp : ∀ h console, p { h with console } = p h) (hc : Keeps p confirm) :
    Keeps p (wantsViewOnly viewOnly confirm) := by
  rcases viewOnly with _ | _ | _
  · exact hc
  · exact keeps_pure
  · exact (Run.keeps_say hp).bind fun _ => keeps_pure

theorem keeps_ask {γ : Type} {p : Host → γ} (talks : ∀ h h', h.Talked h' → p h' = p h) :
    Keeps p ask := by
  intro h
  refine (ends_ask (Memory.InUse.refl h.memory)).imp ?_ ?_
  · intro _ _ asked
    obtain ⟨_, _, _, _, talked⟩ := asked
    exact talks _ _ talked
  · intro _ _ left
    exact talks _ _ left.2

theorem keeps_askPair {γ : Type} {p : Host → γ} {viewOnly : Option Bool} {confirm : Run Bool}
    (talks : ∀ h h', h.Talked h' → p h' = p h) (hc : Keeps p confirm) :
    Keeps p (askPair viewOnly confirm) := by
  have makes {b : Buffer} {b₂ : Option Buffer} : Keeps p (makePair b b₂) :=
    fun _ => talks _ _ ⟨_, _, _, rfl⟩
  refine (keeps_ask talks).bind fun primary => Keeps.bind ?_ fun _ => makes
  refine Run.keeps_onFailure (fun _ => talks _ _ (talked_release ..)) ?_
  have silent (h : Host) (console : Console) : p { h with console } = p h :=
    talks _ _ ⟨_, _, _, rfl⟩
  refine (keeps_wantsViewOnly silent hc).bind fun wanted => .ite ?_ keeps_pure
  exact (keeps_ask talks).bind fun _ => keeps_pure

theorem ends_askPair {viewOnly : Option Bool} {confirm : Run Bool} (hc : Keeps Host.memory confirm)
    (use : m.InUse h.memory kept) :
    Ends (askPair viewOnly confirm) h
      (fun p h' => ∃ first second, m.PairInUse h'.memory kept p first second ∧
        Paired viewOnly confirm h first second h')
      (fun _ h' => m.InUse h'.memory kept) := by
  have wants : Keeps Host.memory (wantsViewOnly viewOnly confirm) :=
    keeps_wantsViewOnly (fun _ _ => rfl) hc
  simp only [askPair, ends_bind]
  refine (ends_ask use).imp ?_ fun _ _ => And.left
  intro _ h₁ asked
  obtain ⟨k, rfl, use₁, confirms, talked⟩ := asked
  rw [Run.ends_onFailure, ends_bind]
  refine .of_run ?_ ?_
  · intro wanted h₂ run
    have use₂ : m.InUse h₂.memory (k :: kept) := by
      have := wants.run h₁
      rw [run] at this
      rwa [this]
    cases wanted with
    | false => exact ⟨k.bytes, none, .one use₂, .one confirms talked run⟩
    | true =>
        simp only [reduceIte, ends_bind, ends_pure]
        refine (ends_ask use₂).imp ?_ fun _ _ left => left.1.release
        intro _ h₃ asked
        obtain ⟨k₂, rfl, use₃, confirms₂, talked₂⟩ := asked
        have long : k₂.bytes ≠ [] := by
          have := confirms₂.length.1
          intro e
          simp [e, shortestLength] at this
        have pair := use₃.pair
        rw [if_neg long] at pair
        exact ⟨k.bytes, some k₂.bytes, pair,
          .two confirms talked run confirms₂ (talked₂.trans ⟨_, _, _, rfl⟩)⟩
  · intro f h₂ run
    have := wants.run h₁
    rw [run] at this
    exact InUse.release (this ▸ use₁)

end Password
end VncAccess
