import VncAccess.Proofs.Lemmas.Dialogue

/-!
# The lines of a stream

`linesOf stream` cuts a stream at its newlines. A stream that is read line by line gives these lines
one after the other, and none once they are used up.
-/

namespace VncAccess

/-! ## The first line and what follows -/

namespace Input

variable {stream line rest : Bytes} {i : Input}

theorem splitLine_of_notMem (only : newline ∉ stream) : splitLine stream = (stream, []) := by
  induction stream with
  | nil => rfl
  | cons b stream ih =>
      have other : b ≠ newline := (List.ne_of_not_mem_cons only).symm
      rw [splitLine, if_neg other, ih (List.not_mem_of_not_mem_cons only)]

theorem splitLine_append (first : newline ∉ line) :
    splitLine (line ++ newline :: rest) = (line ++ [newline], rest) := by
  induction line with
  | nil => rfl
  | cons b line ih =>
      have other : b ≠ newline := (List.ne_of_not_mem_cons first).symm
      rw [List.cons_append, splitLine, if_neg other, ih (List.not_mem_of_not_mem_cons first)]
      rfl

theorem splitLine_cons (b : UInt8) (stream : Bytes) :
    ∃ line, (splitLine (b :: stream)).1 = b :: line := by
  rw [splitLine]
  split
  · exact ⟨[], rfl⟩
  · exact ⟨(splitLine stream).1, rfl⟩

/-- Nothing is lost where the first line is split off. -/
theorem splitLine_joined (stream : Bytes) :
    (splitLine stream).1 ++ (splitLine stream).2 = stream := by
  induction stream with
  | nil => rfl
  | cons b stream ih =>
      rw [splitLine]
      split
      · rfl
      · exact congrArg (b :: ·) ih

theorem cases_newline (stream : Bytes) :
    newline ∉ stream ∨ ∃ line rest, newline ∉ line ∧ stream = line ++ newline :: rest := by
  by_cases ends : newline ∈ stream
  · obtain ⟨line, rest, eq, first⟩ := List.eq_append_cons_of_mem ends
    exact .inr ⟨line, rest, first, eq⟩
  · exact .inl ends

theorem isFaulty_of_faultless (readable : i.faultAt = none) : i.isFaulty = false := by
  simp [isFaulty, readable]

theorem readLine_of_sound (sound : i.isFaulty = false) :
    i.readLine = (.ok (splitLine i.rest).1,
      { i with linesRead := i.linesRead + 1, rest := (splitLine i.rest).2 }) := by
  simp only [readLine, sound, Bool.false_eq_true, ↓reduceIte]

theorem readLine_of_faulty (faulty : i.isFaulty = true) :
    i.readLine = (.error (.system none), { i with linesRead := i.linesRead + 1 }) := by
  simp only [readLine, faulty, ↓reduceIte]

theorem readLine_advances (i : Input) :
    i.readLine.2.faultAt = i.faultAt ∧ i.readLine.2.linesRead = i.linesRead + 1 := by
  cases faulty : i.isFaulty with
  | true => rw [readLine_of_faulty faulty]; exact ⟨rfl, rfl⟩
  | false => rw [readLine_of_sound faulty]; exact ⟨rfl, rfl⟩

end Input

namespace Password

open Secret

/-! ## All lines -/

/-- A line that stood before a newline, without a carriage return at its end. -/
def withoutReturn (line : Bytes) : Bytes :=
  if line.getLast? = some 13 then line.dropLast else line

/-- The pieces of a stream between its newlines. Each that a newline ends is finished in some way,
and what follows the last newline is a piece if it is not empty. -/
def linesBy (finish : Bytes → Bytes) (stream : Bytes) : List Bytes :=
  let pieces := stream.splitOn Input.newline
  pieces.dropLast.map finish ++ pieces.getLast?.toList.filter (· ≠ [])

/-- The lines of a stream without their ends. -/
def linesOf (stream : Bytes) : List Bytes := linesBy withoutReturn stream

/-- The lines of a stream as they stand there, with their newlines. -/
def cutLines (stream : Bytes) : List Bytes := linesBy (· ++ [Input.newline]) stream

variable {stream line rest : Bytes} {finish : Bytes → Bytes}

theorem linesBy_of_notMem (only : Input.newline ∉ stream) (filled : stream ≠ []) :
    linesBy finish stream = [stream] := by
  simp [linesBy, List.splitOn_eq_singleton only, filled]

theorem linesBy_append (first : Input.newline ∉ line) :
    linesBy finish (line ++ Input.newline :: rest) = finish line :: linesBy finish rest := by
  have more : rest.splitOn Input.newline ≠ [] := List.splitOn_ne_nil _ _
  simp only [linesBy, List.splitOn_append_cons_self_of_not_mem first]
  rw [List.dropLast_cons_of_ne_nil more, List.map_cons, List.cons_append,
    List.getLast?_cons_of_ne_nil more]

theorem stripLineEnd_of_notMem (only : Input.newline ∉ line) : stripLineEnd line = line := by
  have none : line.getLast? ≠ some 10 := fun last => only (List.mem_of_getLast? last)
  rw [stripLineEnd, if_neg none]

theorem stripLineEnd_append (line : Bytes) :
    stripLineEnd (line ++ [Input.newline]) = withoutReturn line := by
  have last : (line ++ [Input.newline]).getLast? = some 10 := List.getLast?_concat
  rw [stripLineEnd, if_pos last, List.dropLast_concat]
  rfl

/-- The next line that is read is the first of those that are left. -/
theorem linesOf_eq_cons (filled : stream ≠ []) :
    linesOf stream =
      stripLineEnd (Input.splitLine stream).1 :: linesOf (Input.splitLine stream).2 := by
  rcases Input.cases_newline stream with only | ⟨line, rest, first, rfl⟩
  · rw [linesOf, linesBy_of_notMem only filled, Input.splitLine_of_notMem only,
      stripLineEnd_of_notMem only]
    rfl
  · rw [linesOf, linesBy_append first, Input.splitLine_append first, stripLineEnd_append]
    rfl

def LineEnd (e : Bytes) : Prop := e = [Input.newline] ∨ e = [13, Input.newline]

theorem withoutReturn_concat (line : Bytes) : withoutReturn (line ++ [13]) = line := by
  rw [withoutReturn, if_pos List.getLast?_concat, List.dropLast_concat]

/-- The end of a line is no part of it, whichever of the two it is. -/
theorem linesOf_lineEnd {e : Bytes} (noNewline : Input.newline ∉ line)
    (noReturn : line.getLast? ≠ some 13) (he : LineEnd e) (rest : Bytes) :
    linesOf (line ++ e ++ rest) = line :: linesOf rest := by
  rcases he with rfl | rfl
  · rw [List.append_assoc, List.singleton_append]
    rw [linesOf, linesBy_append noNewline, withoutReturn, if_neg noReturn]
    rfl
  · have noNewline' : Input.newline ∉ line ++ [13] := by
      simp only [List.mem_append, not_or]
      exact ⟨noNewline, by decide⟩
    have eq : line ++ [13, Input.newline] ++ rest = line ++ [13] ++ Input.newline :: rest := by
      simp only [List.append_assoc, List.cons_append, List.nil_append]
    rw [eq, linesOf, linesBy_append noNewline', withoutReturn_concat]
    rfl

theorem linesOf_eq_nil_iff : linesOf stream = [] ↔ stream = [] := by
  constructor
  · intro none
    by_cases filled : stream = []
    · exact filled
    · rw [linesOf_eq_cons filled] at none
      cases none
  · rintro rfl
    rfl

theorem cutLines_eq_cons (filled : stream ≠ []) :
    cutLines stream = (Input.splitLine stream).1 :: cutLines (Input.splitLine stream).2 := by
  rcases Input.cases_newline stream with only | ⟨line, rest, first, rfl⟩
  · rw [cutLines, linesBy_of_notMem only filled, Input.splitLine_of_notMem only]
    rfl
  · rw [cutLines, linesBy_append first, Input.splitLine_append first]
    rfl

/-! ## Reading a line -/

/-- The console after a line was read. -/
def heard (entry : Bytes) (c : Console) : Console :=
  if isCut entry then (discarding entry c).hear truncationWarning else discarding entry c

theorem console_warned_keeping (entry : Bytes) (h : Host) :
    (warned entry (keeping entry h)).console = heard entry h.console := by
  unfold warned heard
  split <;> rfl

theorem input_warned (entry : Bytes) (h : Host) : (warned entry h).input = h.input := by
  unfold warned
  split <;> rfl

variable {h h' : Host} {m : Memory} {kept : List Kept}

/-- The hosts differ at most in what the reading of one line changes. -/
structure Reads (h h' : Host) : Prop where
  rest : ∃ input memory console, h' = { h with input, memory, console }
  input : h'.input = h.input.readLine.2

theorem Reads.faultAt (reads : Reads h h') : h'.input.faultAt = h.input.faultAt :=
  reads.input ▸ h.input.readLine_advances.1

theorem Reads.linesRead (reads : Reads h h') : h'.input.linesRead = h.input.linesRead + 1 :=
  reads.input ▸ h.input.readLine_advances.2

/-- What is left when the reading of a line does not fail. -/
theorem Reads.left (reads : Reads h h') (sound : h.input.isFaulty = false) :
    h'.input.rest = (Input.splitLine h.input.rest).2 := by
  rw [reads.input, Input.readLine_of_sound sound]

theorem reads_advanced (h : Host) : Reads h (advanced h) where
  rest := ⟨_, _, _, rfl⟩
  input := rfl

theorem Reads.passed (reads : Reads h h') (line : Bytes) : Reads h (h'.passed line) where
  rest := by
    obtain ⟨input, memory, console, rfl⟩ := reads.rest
    exact ⟨_, _, _, rfl⟩
  input := reads.input

theorem Reads.warned (reads : Reads h h') (entry : Bytes) :
    Reads h (warned entry (keeping entry h')) where
  rest := by
    obtain ⟨input, memory, console, rfl⟩ := reads.rest
    unfold Password.warned
    split <;> exact ⟨_, _, _, rfl⟩
  input := by
    rw [input_warned]
    exact reads.input

/-- A buffer holds what is kept of the first of the lines. -/
structure LineRead (m : Memory) (kept : List Kept) (h : Host) (entry : Bytes) (k : Kept)
    (h' : Host) : Prop where
  sound : h.input.isFaulty = false
  bytes : k.bytes = significantBytes entry
  capacity : k.capacity = some significantLength
  lines : linesOf h.input.rest = entry :: linesOf h'.input.rest
  use : m.InUse h'.memory (k :: kept)
  reads : Reads h h'
  console : h'.console = heard entry h.console

/-- No line was read: nothing was left, or the reading failed. -/
structure LineMissing (m : Memory) (kept : List Kept) (h h' : Host) : Prop where
  use : m.InUse h'.memory kept
  reads : Reads h h'
  console : h'.console = h.console

theorem ends_line (use : m.InUse h.memory kept) :
    Ends readLine h
      (fun b h' =>
        (b = none ∧ h.input.isFaulty = false ∧ linesOf h.input.rest = [] ∧
          LineMissing m kept h h') ∨
        ∃ entry k, b = some k.buffer ∧ LineRead m kept h entry k h')
      (fun f h' => f = .system none ∧ h.input.isFaulty = true ∧ LineMissing m kept h h') := by
  have ahead : m.InUse (advanced h).memory kept := use
  have reads := reads_advanced h
  rw [ends_readLine]
  cases sound : h.input.isFaulty with
  | true =>
      rw [Input.readLine_of_faulty sound]
      exact ⟨rfl, rfl, ahead, reads, rfl⟩
  | false =>
      have read := Input.readLine_of_sound sound
      rw [read]
      rcases rest : h.input.rest with _ | ⟨b, stream⟩
      · exact .inl ⟨rfl, rfl, rfl, inUse_passed ahead [], reads.passed [], rfl⟩
      · obtain ⟨line, head⟩ := Input.splitLine_cons b stream
        rw [head]
        obtain ⟨k, hk, bytes, capacity, use'⟩ :=
          inUse_keeping (inUse_passed ahead (b :: line)) (stripLineEnd (b :: line))
        refine .inr ⟨stripLineEnd (b :: line), k, congrArg some hk.symm, sound, bytes, capacity,
          ?lines, ?use, (reads.passed _).warned _, console_warned_keeping ..⟩
        case lines =>
          rw [rest, linesOf_eq_cons (List.cons_ne_nil b stream), head, input_warned]
          show _ = _ :: linesOf h.input.readLine.2.rest
          rw [read, rest]
        case use =>
          rw [memory_warned]
          exact use'

end Password
end VncAccess
