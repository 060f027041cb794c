import VncAccess.Proofs.Lemmas.Dialogue

/-!
# What is asked, answered and said

The dialogue for a password, for every sequence of answers: cycles of two entries that differ, and
then one that ends it. Of each cycle it is said which labels are shown, which notices are written,
and which answers are gone.
-/

namespace VncAccess

open Secret Memory

/-! ## What is shown -/

def Line.isVerbatim (l : Line) : Bool :=
  match l.notice with
  | .verbatim _ => true
  | _ => false

/-- The notices are written, in this order, and nothing else but lines of the log. -/
def Console.Says (c c' : Console) (notices : List Notice) : Prop :=
  ∃ lines, c' = c.plus lines ∧ lines.filter (!·.isVerbatim) = notices.map c.line

/-- The labels are shown at the terminal, and the notices are written. -/
structure Host.Shows (h h' : Host) (labels : List Text) (notices : List Notice) : Prop where
  labels : h'.terminal.prompts = h.terminal.prompts ++ labels
  notices : h.console.Says h'.console notices

section Showing

variable {c c' c'' : Console} {h h' h'' : Host} {labels labels' : List Text}
  {notices notices' : List Notice}

theorem Console.Says.refl (c : Console) : c.Says c [] := ⟨[], plus_nil.symm, rfl⟩

theorem Console.Says.trans (first : c.Says c' notices) (second : c'.Says c'' notices') :
    c.Says c'' (notices ++ notices') := by
  obtain ⟨lines, rfl, said⟩ := first
  obtain ⟨lines', rfl, said'⟩ := second
  refine ⟨lines ++ lines', plus_plus .., ?_⟩
  rw [List.filter_append, List.map_append, said, said']
  rfl

theorem Console.says_note (c : Console) (part : String) (message : Text) :
    c.Says (c.note part message) [] := by
  unfold note
  split
  · exact ⟨[c.line _], rfl, rfl⟩
  · exact .refl c

theorem Host.Shows.refl (h : Host) : h.Shows h [] [] := ⟨by simp, .refl _⟩

theorem Host.Shows.trans (first : h.Shows h' labels notices)
    (second : h'.Shows h'' labels' notices') :
    h.Shows h'' (labels ++ labels') (notices ++ notices') where
  labels := by rw [second.labels, first.labels, List.append_assoc]
  notices := first.notices.trans second.notices

end Showing

namespace Password

/-- What the operator is told of an entry. -/
def warnings (entry : Bytes) : List Notice :=
  if significantLength < entry.length then [truncationWarning] else []

def mismatchNotice : Notice := .plain (mismatchMessage ++ [Text.newline]) [Text.newline]

section Steps

variable {h : Host}

theorem shows_asked (h : Host) (label : Text) : h.Shows (h.asked label) [label] [] :=
  ⟨rfl, .refl _⟩

theorem shows_passed (h : Host) (entry : Bytes) : h.Shows (h.passed entry) [] [] :=
  ⟨(List.append_nil _).symm, .refl _⟩

theorem shows_keeping (h : Host) (entry : Bytes) : h.Shows (keeping entry h) [] [] := by
  refine ⟨(List.append_nil _).symm, ?_⟩
  show h.console.Says (discarding entry h.console) []
  unfold discarding
  split
  · exact h.console.says_note ..
  · exact .refl _

theorem shows_warned (h : Host) (entry : Bytes) : h.Shows (warned entry h) [] (warnings entry) := by
  unfold warned warnings isCut
  by_cases cut : significantLength < entry.length
  · simp only [cut, decide_true, ↓reduceIte]
    exact ⟨(List.append_nil _).symm, [h.console.line truncationWarning], rfl, rfl⟩
  · simp only [cut, decide_false, Bool.false_eq_true, ↓reduceIte]
    exact .refl h

theorem shows_release (h : Host) (b : Buffer) : h.Shows (release b h) [] [] :=
  ⟨(List.append_nil _).symm, .refl _⟩

end Steps

/-! ## Cycles -/

/-- Both entries of a cycle are compared, and they differ. -/
structure Mismatch (cycle : Bytes × Bytes) : Prop where
  long : shortestLength ≤ cycle.1.length
  differ : significantBytes cycle.1 ≠ significantBytes cycle.2

def answered (cycles : List (Bytes × Bytes)) : List Answer :=
  cycles.flatMap fun c => [.typed c.1, .typed c.2]

/-- The labels that are shown in cycles without agreement. -/
def asked (cycles : List (Bytes × Bytes)) : List Text :=
  cycles.flatMap fun _ => [firstLabel, secondLabel]

/-- The notices that are written in cycles without agreement. -/
def told (cycles : List (Bytes × Bytes)) : List Notice :=
  cycles.flatMap fun c => warnings c.1 ++ [mismatchNotice]

def noAnswer : Failure := .refused (.inputClosed "Can't get password: not a tty?")

/-- What the answers to the last cycle make of it: its result, the answers that are left, the labels
that are shown and the notices that are written. -/
inductive Last :
    List Answer → Except Failure Bytes → List Answer → List Text → List Notice → Prop where
  | closed : Last [] (.error noAnswer) [] [firstLabel] []
  | interrupted {rest : List Answer} :
      Last (.interrupt :: rest) (.error .interrupted) rest [firstLabel] []
  | short {first : Bytes} {rest : List Answer} : first.length < shortestLength →
      Last (.typed first :: rest) (.error (.refused .passwordTooShort)) rest [firstLabel] []
  | closedAgain {first : Bytes} : shortestLength ≤ first.length →
      Last [.typed first] (.error noAnswer) [] [firstLabel, secondLabel] (warnings first)
  | interruptedAgain {first : Bytes} {rest : List Answer} : shortestLength ≤ first.length →
      Last (.typed first :: .interrupt :: rest) (.error .interrupted) rest
        [firstLabel, secondLabel] (warnings first)
  | agreed {first second : Bytes} {rest : List Answer} : shortestLength ≤ first.length →
      significantBytes first = significantBytes second →
      Last (.typed first :: .typed second :: rest) (.ok (significantBytes first)) rest
        [firstLabel, secondLabel] (warnings first)

/-- Any answers are some cycles of entries that differ, and a last cycle. -/
theorem exists_cycles : (answers : List Answer) → ∃ cycles last result rest labels notices,
    answers = answered cycles ++ last ∧ (∀ c ∈ cycles, Mismatch c) ∧
      Last last result rest labels notices
  | [] => ⟨[], [], _, _, _, _, rfl, nofun, .closed⟩
  | .interrupt :: rest => ⟨[], _, _, _, _, _, rfl, nofun, .interrupted⟩
  | .typed first :: rest => by
      by_cases short : first.length < shortestLength
      · exact ⟨[], _, _, _, _, _, rfl, nofun, .short short⟩
      have long := Nat.le_of_not_lt short
      match rest with
      | [] => exact ⟨[], _, _, _, _, _, rfl, nofun, .closedAgain long⟩
      | .interrupt :: rest => exact ⟨[], _, _, _, _, _, rfl, nofun, .interruptedAgain long⟩
      | .typed second :: rest =>
          by_cases agreed : significantBytes first = significantBytes second
          · exact ⟨[], _, _, _, _, _, rfl, nofun, .agreed long agreed⟩
          obtain ⟨cycles, last, result, left, labels, notices, rfl, mismatch, ends⟩ :=
            exists_cycles rest
          refine ⟨(first, second) :: cycles, last, result, left, labels, notices, rfl, ?_, ends⟩
          exact List.forall_mem_cons.mpr ⟨⟨long, agreed⟩, mismatch⟩

/-! ## One cycle -/

/-- The host once the first entry of a cycle is kept. -/
def typedFirst (entry : Bytes) (h : Host) : Host :=
  warned entry (keeping entry ((h.asked firstLabel).passed entry))

/-- The host once the second entry of a cycle is kept. -/
def typedSecond (entry : Bytes) (h : Host) : Host :=
  keeping entry ((h.asked secondLabel).passed entry)

section OneCycle

variable {h : Host} {first second : Bytes} {rest : List Answer} {bad : Failure → Host → Prop}

theorem shows_typedFirst (h : Host) (entry : Bytes) :
    h.Shows (typedFirst entry h) [firstLabel] (warnings entry) := by
  have kept := ((shows_asked h firstLabel).trans (shows_passed _ entry)).trans
    (shows_keeping _ entry)
  exact kept.trans (shows_warned _ entry)

theorem shows_typedSecond (h : Host) (entry : Bytes) :
    h.Shows (typedSecond entry h) [secondLabel] [] :=
  ((shows_asked h secondLabel).trans (shows_passed _ entry)).trans (shows_keeping _ entry)

theorem answers_typedFirst (answers : h.terminal.answers = .typed first :: rest) :
    (typedFirst first h).terminal.answers = rest := by
  rw [typedFirst, terminal_warned]
  show h.terminal.answers.tail = rest
  rw [answers, List.tail_cons]

theorem answers_typedSecond (answers : h.terminal.answers = .typed second :: rest) :
    (typedSecond second h).terminal.answers = rest := by
  show h.terminal.answers.tail = rest
  rw [answers, List.tail_cons]

theorem ends_askFirst_typed {ok : Buffer → Host → Prop}
    (answers : h.terminal.answers = .typed first :: rest) (long : shortestLength ≤ first.length) :
    Ends askFirst h ok bad ↔ ok ⟨h.memory.holdings.length⟩ (typedFirst first h) := by
  rw [ends_askFirst, answers]
  dsimp only
  rw [if_neg (Nat.not_lt.mpr long)]
  rfl

theorem ends_askSecond_typed {ok : Buffer → Host → Prop}
    (answers : h.terminal.answers = .typed second :: rest) :
    Ends askSecond h ok bad ↔ ok ⟨h.memory.holdings.length⟩ (typedSecond second h) := by
  rw [ends_askSecond, answers]
  rfl

theorem entered_typedFirst {m : Memory} {kept : List Kept} (use : m.InUse h.memory kept)
    (answers : h.terminal.answers = .typed first :: rest) :
    ∃ k : Kept, k.buffer = ⟨h.memory.holdings.length⟩ ∧
      Entered m kept h first k (typedFirst first h) := by
  obtain ⟨k, hk, entered⟩ := entered_keeping use answers firstLabel
  refine ⟨k, hk, entered.bytes, ?_, ?_, entered.talked.trans (talked_warned ..)⟩
  · rw [typedFirst, terminal_warned]
    exact entered.answers
  · rw [typedFirst, memory_warned]
    exact entered.use

/-- The host once both entries of a cycle are kept. -/
def typedBoth (first second : Bytes) (h : Host) : Host := typedSecond second (typedFirst first h)

/-- The two buffers of a cycle. -/
def candidate (h : Host) : Buffer := ⟨h.memory.holdings.length⟩

def confirmation (first : Bytes) (h : Host) : Buffer :=
  ⟨(typedFirst first h).memory.holdings.length⟩

theorem answers_typedBoth (answers : h.terminal.answers = .typed first :: .typed second :: rest) :
    (typedBoth first second h).terminal.answers = rest :=
  answers_typedSecond (answers_typedFirst answers)

theorem shows_typedBoth (h : Host) (first second : Bytes) :
    h.Shows (typedBoth first second h) [firstLabel, secondLabel] (warnings first) := by
  have shows := (shows_typedFirst h first).trans (shows_typedSecond (typedFirst first h) second)
  rwa [List.append_nil] at shows

theorem inUse_typedBoth (answers : h.terminal.answers = .typed first :: .typed second :: rest) :
    ∃ k k₂ : Kept, k.buffer = candidate h ∧ k₂.buffer = confirmation first h ∧
      k.bytes = significantBytes first ∧ k₂.bytes = significantBytes second ∧
      h.memory.InUse (typedBoth first second h).memory [k₂, k] := by
  obtain ⟨k, hk, entered⟩ := entered_typedFirst (InUse.refl h.memory) answers
  obtain ⟨k₂, hk₂, entered₂⟩ :=
    entered_keeping entered.use (answers_typedFirst answers) secondLabel
  exact ⟨k, k₂, hk, hk₂, entered.bytes, entered₂.bytes, entered₂.use⟩

/-- A cycle of two entries ends with the first one if they agree, and else it starts again. -/
theorem ends_askWithin_typed {ok : Buffer → Host → Prop} {cycles : Nat}
    (answers : h.terminal.answers = .typed first :: .typed second :: rest)
    (long : shortestLength ≤ first.length) :
    Ends (askWithin (cycles + 1)) h ok bad ↔
      if significantBytes first = significantBytes second then
        ok (candidate h) (release (confirmation first h) { typedBoth first second h with
          console := (typedBoth first second h).console.note "vncpasswd.prompt"
            "Password confirmed" })
      else
        Ends (askWithin cycles)
          { release (candidate h) (release (confirmation first h) (typedBoth first second h)) with
            console := (typedBoth first second h).console.hear mismatchNotice } ok bad := by
  obtain ⟨k, k₂, hk, hk₂, bytes, bytes₂, use⟩ := inUse_typedBoth answers
  have same : (typedSecond second (typedFirst first h)).memory.sameContents
      ⟨h.memory.holdings.length⟩ ⟨(typedFirst first h).memory.holdings.length⟩ =
        (significantBytes first == significantBytes second) := by
    show (typedBoth first second h).memory.sameContents (candidate h) (confirmation first h) = _
    rw [Memory.sameContents, ← hk, ← hk₂, use.contents (by simp), use.contents (by simp), bytes,
      bytes₂]
  simp only [askWithin, ends_bind]
  rw [ends_askFirst_typed answers long, Run.ends_onFailure,
    ends_askSecond_typed (answers_typedFirst answers)]
  simp only [Run.ends_always, ends_bind, ends_get, same]
  by_cases agreed : significantBytes first = significantBytes second
  · simp only [agreed, beq_self_eq_true, ↓reduceIte, ends_bind, Run.ends_log, ends_pure]
    rfl
  · simp only [agreed, beq_eq_false_iff_ne.mpr agreed, Bool.false_eq_true, ↓reduceIte, ends_bind,
      ends_pure, ends_modify, Run.ends_say]
    rfl

theorem shows_unverified (h : Host) (first : Bytes) :
    h.Shows (release (candidate h) ((typedFirst first h).asked secondLabel))
      [firstLabel, secondLabel] (warnings first) := by
  have shows := ((shows_typedFirst h first).trans (shows_asked _ secondLabel)).trans
    (shows_release _ (candidate h))
  simpa using shows

theorem shows_confirmed (h : Host) (b : Buffer) :
    h.Shows (release b { h with
      console := h.console.note "vncpasswd.prompt" "Password confirmed" }) [] [] :=
  ⟨(List.append_nil _).symm, h.console.says_note ..⟩

theorem shows_mismatch (h : Host) (b b₂ : Buffer) :
    h.Shows { release b (release b₂ h) with console := h.console.hear mismatchNotice } []
      [mismatchNotice] :=
  ⟨(List.append_nil _).symm, [h.console.line mismatchNotice], rfl, rfl⟩

end OneCycle

/-! ## All cycles -/

/-- How a dialogue has ended, with a result for the password that was asked for. -/
structure Ended (h h' : Host) (rest : List Answer) (labels : List Text) (notices : List Notice) :
    Prop where
  answers : h'.terminal.answers = rest
  shows : h.Shows h' labels notices

variable {h : Host} {result : Except Failure Bytes} {rest : List Answer} {labels : List Text}
  {notices : List Notice}

theorem ends_askWithin_last (fuel : Nat)
    (last : Last h.terminal.answers result rest labels notices) :
    Ends (askWithin (fuel + 1)) h
      (fun b h' => result = .ok (h'.memory.contents b) ∧ Ended h h' rest labels notices)
      (fun f h' => result = .error f ∧ Ended h h' rest labels notices) := by
  generalize answers : h.terminal.answers = script at last
  cases last with
  | closed =>
      rw [askWithin, ends_bind, ends_askFirst, answers]
      exact ⟨rfl, by simp [Host.asked, answers], shows_asked ..⟩
  | interrupted =>
      rw [askWithin, ends_bind, ends_askFirst, answers]
      exact ⟨rfl, by simp [Host.asked, answers], shows_asked ..⟩
  | short short =>
      rw [askWithin, ends_bind, ends_askFirst, answers]
      dsimp only
      rw [if_pos short]
      refine ⟨rfl, ?_, (shows_asked ..).trans (shows_passed ..)⟩
      show h.terminal.answers.tail = rest
      rw [answers, List.tail_cons]
  | @closedAgain first long =>
      rw [askWithin, ends_bind, ends_askFirst_typed answers long, ends_bind, Run.ends_onFailure,
        ends_askSecond, answers_typedFirst answers]
      refine ⟨rfl, ?_, shows_unverified h first⟩
      show (typedFirst first h).terminal.answers.tail = []
      rw [answers_typedFirst answers, List.tail_nil]
  | @interruptedAgain first rest long =>
      rw [askWithin, ends_bind, ends_askFirst_typed answers long, ends_bind, Run.ends_onFailure,
        ends_askSecond, answers_typedFirst answers]
      refine ⟨rfl, ?_, shows_unverified h first⟩
      show (typedFirst first h).terminal.answers.tail = rest
      rw [answers_typedFirst answers, List.tail_cons]
  | @agreed first second rest long agreed =>
      obtain ⟨k, k₂, hk, hk₂, bytes, -, use⟩ := inUse_typedBoth answers
      rw [ends_askWithin_typed answers long, if_pos agreed]
      refine ⟨congrArg Except.ok ?_, answers_typedBoth answers, ?_⟩
      · rw [← bytes, ← hk, ← hk₂]
        exact (use.release.contents (by simp)).symm
      · have shows := (shows_typedBoth h first second).trans
          (shows_confirmed _ (confirmation first h))
        rwa [List.append_nil, List.append_nil] at shows

/-- A cycle of entries that differ leaves the rest of the answers to the cycles after it. -/
theorem ends_askWithin_mismatch {first second : Bytes} (fuel : Nat) {ok : Buffer → Host → Prop}
    {bad : Failure → Host → Prop} (mismatch : Mismatch (first, second))
    (answers : h.terminal.answers = .typed first :: .typed second :: rest)
    (again : ∀ h', Ended h h' rest [firstLabel, secondLabel] (warnings first ++ [mismatchNotice]) →
      Ends (askWithin fuel) h' ok bad) :
    Ends (askWithin (fuel + 1)) h ok bad := by
  rw [ends_askWithin_typed answers mismatch.long, if_neg mismatch.differ]
  refine again _ ⟨answers_typedBoth answers, ?_⟩
  have shows := (shows_typedBoth h first second).trans
    (shows_mismatch _ (candidate h) (confirmation first h))
  rwa [List.append_nil] at shows

theorem Ended.trans {h₁ h₂ : Host} {rest' : List Answer} {labels' : List Text}
    {notices' : List Notice} (first : Ended h h₁ rest labels notices)
    (second : Ended h₁ h₂ rest' labels' notices') :
    Ended h h₂ rest' (labels ++ labels') (notices ++ notices') :=
  ⟨second.answers, first.shows.trans second.shows⟩

/-- The cycles are gone through one after the other, if the fuel outlasts them. -/
theorem ends_askWithin_cycles (cycles : List (Bytes × Bytes)) {last : List Answer} {fuel : Nat}
    (enough : cycles.length < fuel) (answers : h.terminal.answers = answered cycles ++ last)
    (mismatch : ∀ c ∈ cycles, Mismatch c) (ends : Last last result rest labels notices) :
    Ends (askWithin fuel) h
      (fun b h' => result = .ok (h'.memory.contents b) ∧
        Ended h h' rest (asked cycles ++ labels) (told cycles ++ notices))
      (fun f h' => result = .error f ∧
        Ended h h' rest (asked cycles ++ labels) (told cycles ++ notices)) := by
  induction cycles generalizing h fuel with
  | nil =>
      obtain ⟨fuel, rfl⟩ : ∃ less, fuel = less + 1 := ⟨fuel - 1, by simp at enough; omega⟩
      exact ends_askWithin_last fuel (answers ▸ ends)
  | cons c cycles ih =>
      obtain ⟨fuel, rfl⟩ : ∃ less, fuel = less + 1 := ⟨fuel - 1, by simp at enough; omega⟩
      obtain ⟨differs, mismatch⟩ := List.forall_mem_cons.mp mismatch
      refine ends_askWithin_mismatch fuel differs answers fun h₁ ended => ?_
      have grown {h' : Host}
          (done : Ended h₁ h' rest (asked cycles ++ labels) (told cycles ++ notices)) :
          Ended h h' rest (asked (c :: cycles) ++ labels) (told (c :: cycles) ++ notices) := by
        have whole := ended.trans done
        rw [← List.append_assoc, ← List.append_assoc] at whole
        exact whole
      refine (ih (by simpa using enough) ended.answers mismatch).imp ?_ ?_
      · exact fun b h' done => ⟨done.1, grown done.2⟩
      · exact fun f h' done => ⟨done.1, grown done.2⟩

theorem ends_ask_cycles {cycles : List (Bytes × Bytes)} {last : List Answer}
    (answers : h.terminal.answers = answered cycles ++ last) (mismatch : ∀ c ∈ cycles, Mismatch c)
    (ends : Last last result rest labels notices) :
    (ask.run h).1.map (ask.run h).2.memory.contents = result ∧
      Ended h (ask.run h).2 rest (asked cycles ++ labels) (told cycles ++ notices) := by
  have enough : cycles.length < h.terminal.answers.length + 1 := by
    have length : (answered cycles).length = 2 * cycles.length := by
      simp [answered, List.length_flatMap, List.map_const', Nat.mul_comm]
    rw [answers, List.length_append, length]
    omega
  have done : Ends ask h _ _ := ends_askWithin_cycles cycles enough answers mismatch ends
  rcases run : ask.run h with ⟨f | b, h'⟩
  · obtain ⟨rfl, ended⟩ := done.of_error run
    exact ⟨rfl, ended⟩
  · obtain ⟨rfl, ended⟩ := done.of_ok run
    exact ⟨rfl, ended⟩

theorem Last.length {last : List Answer} {password : Bytes}
    (ends : Last last (.ok password) rest labels notices) :
    shortestLength ≤ password.length ∧ password.length ≤ significantLength := by
  cases ends with
  | agreed long =>
      simp only [significantBytes, List.length_take, shortestLength, significantLength] at long ⊢
      omega

/-- What the terminal and the console show if the terminal is closed after these answers. -/
def closedAfter (answers : List Answer) (h : Host) : Host :=
  (ask.run { h with terminal.answers := answers }).2

/-- How a dialogue for a password goes. -/
structure Dialogue (h : Host) (outcome : Except Failure Buffer × Host) : Prop where
  cycles : ∃ cycles last result rest labels notices,
    h.terminal.answers = answered cycles ++ last ∧ (∀ c ∈ cycles, Mismatch c) ∧
      Last last result rest labels notices ∧ outcome.1.map outcome.2.memory.contents = result ∧
      Ended h outcome.2 rest (asked cycles ++ labels) (told cycles ++ notices)
  length : ∀ b, outcome.1 = .ok b → 6 ≤ (outcome.2.memory.contents b).length ∧
    (outcome.2.memory.contents b).length ≤ 8
  /-- At the first question of a cycle only the cycles before it have been spoken of. -/
  first : ∀ cycles, (∀ c ∈ cycles, Mismatch c) →
    h.Shows (closedAfter (answered cycles) h) (asked cycles ++ [firstLabel]) (told cycles)
  /-- At the second question there has been the warning of what is cut off. -/
  second : ∀ cycles entry, (∀ c ∈ cycles, Mismatch c) → 6 ≤ entry.length →
    h.Shows (closedAfter (answered cycles ++ [.typed entry]) h)
      (asked cycles ++ [firstLabel, secondLabel]) (told cycles ++ warnings entry)

/-- Whatever the answers are, the dialogue ends with the first cycle that is not a mismatch, and
nothing is read after it. -/
theorem ask_dialogue (h : Host) : Dialogue h (ask.run h) where
  cycles := by
    obtain ⟨cycles, last, result, rest, labels, notices, answers, mismatch, ends⟩ :=
      exists_cycles h.terminal.answers
    exact ⟨cycles, last, result, rest, labels, notices, answers, mismatch, ends,
      ends_ask_cycles answers mismatch ends⟩
  length b returned := by
    obtain ⟨cycles, last, result, rest, labels, notices, answers, mismatch, ends⟩ :=
      exists_cycles h.terminal.answers
    obtain ⟨rfl, -⟩ := ends_ask_cycles answers mismatch ends
    rw [returned] at ends
    exact ends.length
  first cycles mismatch := by
    have closed := (ends_ask_cycles (h := { h with terminal.answers := answered cycles })
      (List.append_nil _).symm mismatch .closed).2.shows
    rw [List.append_nil] at closed
    exact ⟨closed.labels, closed.notices⟩
  second cycles entry mismatch long := by
    have closed := (ends_ask_cycles
      (h := { h with terminal.answers := answered cycles ++ [.typed entry] }) rfl mismatch
      (.closedAgain long)).2.shows
    exact ⟨closed.labels, closed.notices⟩

end Password
end VncAccess
