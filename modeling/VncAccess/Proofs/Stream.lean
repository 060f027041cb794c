import VncAccess.Command
import VncAccess.Proofs.Lemmas.Lines
import VncAccess.Proofs.Lemmas.Slots

/-!
# A stream is encrypted

From the lines of its input a request writes the slots of the first two passwords, and it warns of
what is cut off and of an empty password.
-/

namespace VncAccess

open Secret

namespace Password

variable {h : Host} {m : Memory} {first slot slot₂ content : Bytes} {second : Option Bytes}
  {rest : List Bytes}

/-! ## The slots -/

theorem encrypt_significantBytes (entry : Bytes) :
    ∃ slot, encrypt (significantBytes entry) = .ok slot := by
  have short : (significantBytes entry).length ≤ significantLength := by
    simp only [significantBytes, List.length_take]
    omega
  rw [encrypt, if_pos short]
  exact ⟨_, rfl⟩

/-- What lines of passwords are encrypted to: the first one, and behind it the second if there is
one that is not empty. Further lines do not count. -/
inductive Encrypted : List Bytes → Bytes → Prop where
  | one {first slot : Bytes} {rest : List Bytes} : encrypt (significantBytes first) = .ok slot →
      (rest.head?.map significantBytes).getD [] = [] → Encrypted (first :: rest) slot
  | two {first second slot slot₂ : Bytes} {rest : List Bytes} :
      encrypt (significantBytes first) = .ok slot → significantBytes second ≠ [] →
      encrypt (significantBytes second) = .ok slot₂ →
      Encrypted (first :: second :: rest) (slot ++ slot₂)

theorem encode_lines (first : Bytes) (rest : List Bytes) :
    ∃ content, Encrypted (first :: rest) content ∧
      encode (significantBytes first) (rest.head?.map significantBytes) = .ok content := by
  obtain ⟨slot, encrypted⟩ := encrypt_significantBytes first
  by_cases empty : (rest.head?.map significantBytes).getD [] = []
  · exact ⟨slot, .one encrypted empty, encode_of_empty encrypted empty⟩
  · cases rest with
    | nil => exact absurd rfl empty
    | cons second rest =>
        obtain ⟨slot₂, encrypted₂⟩ := encrypt_significantBytes second
        exact ⟨slot ++ slot₂, .two encrypted empty encrypted₂,
          encode_of_filled encrypted empty encrypted₂⟩

/-! ## The warnings -/

def emptyWarning : Notice := .warning "empty password read"

def heardFirst (first : Bytes) (c : Console) : Console :=
  if significantBytes first = [] then (heard first c).hear emptyWarning else heard first c

/-- The console after the first line and perhaps a second one were read. -/
def heardBoth (first : Bytes) (rest : List Bytes) (c : Console) : Console :=
  rest.head?.elim (heardFirst first c) (heard · (heardFirst first c))

def cutWarnings (line : Bytes) : List Notice := if isCut line then [truncationWarning] else []

def firstWarnings (line : Bytes) : List Notice :=
  cutWarnings line ++ if significantBytes line = [] then [emptyWarning] else []

/-- What is told of the lines, in this order. -/
def warningsFor : List Bytes → List Notice
  | [] => []
  | first :: rest => firstWarnings first ++ rest.head?.elim [] cutWarnings

theorem heard_of_quiet {c : Console} (quiet : c.logging = false) (line : Bytes) :
    heard line c = (cutWarnings line).foldl Console.add c := by
  have silent : discarding line c = c := by
    simp only [discarding, Console.note, quiet, Bool.false_eq_true, ↓reduceIte, ite_self]
  rw [heard, silent, cutWarnings]
  split <;> rfl

theorem logging_foldl_add (notices : List Notice) (c : Console) :
    (notices.foldl Console.add c).logging = c.logging := by
  induction notices generalizing c with
  | nil => rfl
  | cons n notices ih => exact ih (c.add n)

theorem heardFirst_of_quiet {c : Console} (quiet : c.logging = false) (line : Bytes) :
    heardFirst line c = (firstWarnings line).foldl Console.add c := by
  rw [heardFirst, heard_of_quiet quiet, firstWarnings, List.foldl_append]
  split <;> rfl

theorem heardBoth_of_quiet {c : Console} (quiet : c.logging = false) (first : Bytes)
    (rest : List Bytes) :
    heardBoth first rest c = (warningsFor (first :: rest)).foldl Console.add c := by
  rw [heardBoth, heardFirst_of_quiet quiet, warningsFor, List.foldl_append]
  cases rest with
  | nil => rfl
  | cons second rest => exact heard_of_quiet ((logging_foldl_add ..).trans quiet) second

/-! ## Reading both lines -/

theorem output_of_reads {h' : Host} (reads : Reads h h') : h'.output = h.output := by
  obtain ⟨_, _, _, rfl⟩ := reads.rest
  rfl

theorem ends_secondLine {k : Kept} (use : m.InUse h.memory [k]) :
    Ends (do makePair k.buffer (← Run.onFailure (release k.buffer) readLine)) h
      (fun p h' => ∃ second, m.PairInUse h'.memory [] p k.bytes second ∧
        encode k.bytes second =
          encode k.bytes ((linesOf h.input.rest).head?.map significantBytes) ∧
        h'.output = h.output ∧
        h'.console = (linesOf h.input.rest).head?.elim h.console (heard · h.console))
      (fun f _ => f = .system none ∧ h.input.isFaulty = true) := by
  rw [ends_bind, Run.ends_onFailure]
  refine (ends_line use).imp ?_ fun _ _ failed => ⟨failed.1, failed.2.1⟩
  rintro _ h₁ (⟨rfl, -, ended, missing⟩ | ⟨second, k₂, rfl, read⟩)
  · have output := output_of_reads missing.reads
    rw [ended]
    exact ⟨none, .one missing.use, rfl, output, missing.console⟩
  · have output := output_of_reads read.reads
    rw [read.lines]
    refine ⟨_, read.use.pair, ?_, output, read.console⟩
    rw [read.bytes]
    by_cases empty : significantBytes second = []
    · rw [if_pos empty]
      exact congrArg (fun bytes => encode k.bytes (some bytes)) empty.symm
    · rw [if_neg empty]
      rfl

/-- A pair holds the passwords of the first two lines. An empty second one does not count. -/
structure LinesRead (m : Memory) (h : Host) (p : Pair) (h' : Host) (first : Bytes)
    (rest : List Bytes) (second : Option Bytes) : Prop where
  lines : linesOf h.input.rest = first :: rest
  pair : m.PairInUse h'.memory [] p (significantBytes first) second
  encodes : encode (significantBytes first) second =
    encode (significantBytes first) (rest.head?.map significantBytes)
  output : h'.output = h.output
  console : h'.console = heardBoth first rest h.console

/-- Whether the reading of one of the first two lines fails. -/
def Unreadable (input : Input) : Prop :=
  input.isFaulty = true ∨ input.readLine.2.isFaulty = true

theorem not_unreadable {input : Input} (readable : input.faultAt = none) : ¬ Unreadable input := by
  rintro (faulty | faulty)
  · rw [Input.isFaulty_of_faultless readable] at faulty
    cases faulty
  · rw [Input.isFaulty_of_faultless (input.readLine_advances.1.trans readable)] at faulty
    cases faulty

theorem Reads.isFaulty {h' : Host} (reads : Reads h h') :
    h'.input.isFaulty = h.input.readLine.2.isFaulty := by
  obtain ⟨faultAt, linesRead⟩ := h.input.readLine_advances
  simp only [Input.isFaulty, reads.faultAt, reads.linesRead, faultAt, linesRead]

theorem ends_lines (use : m.InUse h.memory []) :
    Ends readPair h
      (fun p h' => ∃ first rest second, LinesRead m h p h' first rest second)
      (fun f h' =>
        (linesOf h.input.rest = [] ∧ f = .refused (.inputClosed "Could not read password") ∧
          h'.output = h.output ∧ h'.console = h.console) ∨
        f = .system none ∧ Unreadable h.input) := by
  simp only [readPair, ends_bind]
  refine (ends_line use).imp ?_ fun _ _ failed => .inr ⟨failed.1, .inl failed.2.1⟩
  rintro _ h₁ (⟨rfl, -, ended, missing⟩ | ⟨first, k, rfl, read⟩)
  · exact .inl ⟨ended, rfl, output_of_reads missing.reads, missing.console⟩
  · have contents : h₁.memory.contents k.buffer = significantBytes first := by
      rw [read.use.contents (List.mem_cons_self ..), read.bytes]
    have output := output_of_reads read.reads
    -- Whether or not a warning comes between the lines, the second one is read in the same way.
    have goesOn (h₂ : Host) (told : h₂ = { h₁ with console := heardFirst first h.console }) :
        Ends (do makePair k.buffer (← Run.onFailure (release k.buffer) readLine)) h₂
          (fun p h' => ∃ first rest second, LinesRead m h p h' first rest second)
          (fun f _ => f = .system none ∧ Unreadable h.input) := by
      subst told
      refine (ends_secondLine (h := { h₁ with console := heardFirst first h.console })
        read.use).imp ?_ ?_
      · rintro p h₃ ⟨second, pair, encodes, output₂, console⟩
        rw [read.bytes] at pair encodes
        exact ⟨first, linesOf h₁.input.rest, second, read.lines, pair, encodes,
          output₂.trans output, console⟩
      · rintro f h₃ ⟨rfl, faulty⟩
        exact ⟨rfl, .inr (read.reads.isFaulty ▸ faulty)⟩
    simp only [ends_bind, ends_get, contents]
    by_cases empty : significantBytes first = []
    · rw [if_pos empty, ends_bind, Run.ends_say]
      refine (goesOn _ ?_).imp (fun _ _ => id) fun _ _ => .inr
      rw [heardFirst, if_pos empty, read.console]
      rfl
    · rw [if_neg empty]
      refine (goesOn _ ?_).imp (fun _ _ => id) fun _ _ => .inr
      rw [heardFirst, if_neg empty, ← read.console]

theorem LinesRead.encoded {p : Pair} {h' : Host} (read : LinesRead m h p h' first rest second) :
    ∃ content, encode (significantBytes first) (rest.head?.map significantBytes) = .ok content ∧
      h'.memory.encode p.primary p.viewOnly = .ok content := by
  obtain ⟨content, -, encoded⟩ := encode_lines first rest
  refine ⟨content, encoded, ?_⟩
  rw [read.pair.encode, read.encodes, encoded]

end Password

/-! ## Requests -/

namespace Command

open Password

variable {h : Host}

theorem emit_of_faultless {o : Output} (accepts : o.fault = none) (bytes : Bytes) :
    o.emit bytes = (.ok (), { o with written := o.written ++ bytes }) := by
  rw [Output.emit, accepts]

/-- What was written for the lines of a stream, and what was said. -/
structure StreamEncoded (h h' : Host) (first : Bytes) (rest : List Bytes) (content : Bytes) :
    Prop where
  lines : linesOf h.input.rest = first :: rest
  encoded : encode (significantBytes first) (rest.head?.map significantBytes) = .ok content
  written : h'.output.written = h.output.written ++ content
  console : h'.console = heardBoth first rest h.console

theorem ends_encodeStream (readable : h.input.faultAt = none) (accepts : h.output.fault = none) :
    Ends encodeStream h
      (fun _ h' => ∃ first rest content, StreamEncoded h h' first rest content)
      (fun f h' => linesOf h.input.rest = [] ∧
        f = .refused (.inputClosed "Could not read password") ∧
        h'.output = h.output ∧ h'.console = h.console) := by
  simp only [encodeStream, ends_bind]
  refine (ends_lines (Memory.InUse.refl h.memory)).imp ?_ ?_
  · rintro p h₁ ⟨first, rest, second, read⟩
    obtain ⟨content, encoded, encoded₁⟩ := read.encoded
    have emitted := emit_of_faultless (read.output ▸ accepts) content
    simp only [Run.ends_always, File.writeStream, ends_bind, ends_get, Run.ends_ofValue, encoded₁,
      Run.ends_emit, emitted]
    refine ⟨first, rest, content, read.lines, encoded, ?_, read.console⟩
    exact congrArg (·.written ++ content) read.output
  · rintro f h₁ (closed | ⟨-, unreadable⟩)
    · exact closed
    · exact absurd unreadable (not_unreadable readable)

theorem StreamEncoded.encrypted {h' : Host} {first : Bytes} {rest : List Bytes} {content : Bytes}
    (done : StreamEncoded h h' first rest content) : Encrypted (first :: rest) content := by
  obtain ⟨content', encrypted, encoded⟩ := encode_lines first rest
  cases done.encoded.symm.trans encoded
  exact encrypted

theorem run_of_quiet {i : Invocation} (hi : i.mode = .stream) (quiet : h.console.verbose = false)
    (unlogged : h.console.logging = false) {ok : Unit → Host → Prop} {bad : Failure → Host → Prop} :
    Ends (run i) h ok bad ↔ Ends encodeStream h ok bad := by
  simp only [run, ends_bind, Run.ends_log, Run.ends_say, hi, Console.note, Console.hear, unlogged,
    quiet, Bool.false_eq_true, ↓reduceIte]

/-- On an empty input a request to encode a stream fails and writes nothing. On any other it writes
what the lines are encrypted to, and says no more than it has to warn of. -/
theorem stream_encrypted (i : Invocation) (h : Host) (hi : i.mode = .stream)
    (quiet : h.console.verbose = false) (unlogged : h.console.logging = false)
    (readable : h.input.faultAt = none) (accepts : h.output.fault = none) :
    (h.input.rest = [] → ∃ h',
      (run i).run h = (.error (.refused (.inputClosed "Could not read password")), h') ∧
        h'.output.written = h.output.written ∧ h'.console = h.console) ∧
    (h.input.rest ≠ [] → ∃ h' content, (run i).run h = (.ok (), h') ∧
      Encrypted (linesOf h.input.rest) content ∧
        h'.output.written = h.output.written ++ content ∧
        h'.console = (warningsFor (linesOf h.input.rest)).foldl Console.add h.console) := by
  have ends := (run_of_quiet hi quiet unlogged).mpr (ends_encodeStream readable accepts)
  rcases r : (run i).run h with ⟨f | _, h'⟩
  · obtain ⟨ended, rfl, output, console⟩ := ends.of_error r
    refine ⟨fun _ => ⟨h', rfl, congrArg _ output, console⟩, fun filled => ?_⟩
    exact absurd (linesOf_eq_nil_iff.mp ended) filled
  · obtain ⟨first, rest, content, done⟩ := ends.of_ok r
    have lines := done.lines
    refine ⟨fun empty => ?_, fun _ => ⟨h', content, rfl, ?_, done.written, ?_⟩⟩
    · rw [linesOf_eq_nil_iff.mpr empty] at lines
      cases lines
    · exact lines ▸ done.encrypted
    · rw [done.console, lines, heardBoth_of_quiet unlogged]

/-- A first line that is too long, with a carriage return before its newline, and an empty second
one. The last line has no newline, and does not count. -/
def pipedHost : Host where
  files := { tree := { entries := [] }, current := [] }
  input.rest := [115, 101, 99, 114, 101, 116, 49, 50, 51, 13, 10, 13, 10, 120]

def pipedRequest : Invocation where
  mode := .stream

theorem stream_encrypted_piped :
    ∃ h' content, (run pipedRequest).run pipedHost = (.ok (), h') ∧
      Encrypted [[115, 101, 99, 114, 101, 116, 49, 50, 51], [], [120]] content ∧
        h'.output.written = content ∧
        h'.console = Console.add {} truncationWarning := by
  obtain ⟨-, encrypted⟩ :=
    stream_encrypted pipedRequest pipedHost rfl rfl rfl rfl rfl
  exact encrypted nofun

end Command
end VncAccess
