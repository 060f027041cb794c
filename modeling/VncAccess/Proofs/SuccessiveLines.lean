import Mathlib.Data.List.Forall2
import VncAccess.Proofs.Lemmas.Lines

/-!
# Passwords line by line

Each call takes the next line of a stream, whatever its bytes, and gives the password on it. Once
the stream is used up, the calls give none.
-/

namespace VncAccess.Password

open Secret

/-- The passwords on so many lines, read one after the other. -/
def readLines : Nat → Run (List (Option Buffer))
  | 0 => return []
  | count + 1 => do
    let read ← readLines count
    return read ++ [← readLine]

variable {h h' : Host} {m : Memory} {kept kept' : List Kept} {entry : Option Bytes}
  {b : Option Buffer}

/-! ## One call -/

/-- What one call makes of the bytes that are left: `line` is the next line as it stands there, and
`entry` is the line without its end. -/
structure NextLine (line entry : Option Bytes) (h : Host) (b : Option Buffer) (h' : Host) :
    Prop where
  consumed : line.getD [] ++ h'.input.rest = h.input.rest
  exhausted : b = none ↔ h.input.rest = []
  held : ∀ b' ∈ b, ∃ e ∈ entry, h'.memory.contents b' = e.take 8 ∧
    h'.memory.isReleased b' = false ∧ (h'.memory.holding b').capacity = some 8
  console : h'.console = entry.elim h.console (heard · h.console)

/-- The buffer that was given for an entry is in use. There is none where there was no entry. -/
inductive Carries (kept : List Kept) : Option Bytes → Option Buffer → Prop where
  | nothing : Carries kept none none
  | entry {k : Kept} {e : Bytes} : k ∈ kept → k.bytes = significantBytes e →
      k.capacity = some significantLength → Carries kept (some e) (some k.buffer)

theorem Carries.mono (carries : Carries kept entry b) (more : kept ⊆ kept') :
    Carries kept' entry b := by
  cases carries with
  | nothing => exact .nothing
  | entry hk bytes capacity => exact .entry (more hk) bytes capacity

theorem Carries.held (carries : Carries kept entry b) (use : m.InUse h.memory kept) :
    ∀ b' ∈ b, ∃ e ∈ entry, h.memory.contents b' = e.take 8 ∧
      h.memory.isReleased b' = false ∧ (h.memory.holding b').capacity = some 8 := by
  cases carries with
  | nothing => exact nofun
  | @entry k e hk bytes capacity =>
      rintro _ ⟨⟩
      have holding := use.holding hk
      refine ⟨e, rfl, ?_, ?_, ?_⟩
      · rw [use.contents hk, bytes]
        rfl
      · rw [Memory.isReleased, holding]
        rfl
      · rw [holding, capacity]
        rfl

/-- The next line was read, and all that was in use before still is. -/
structure Took (m : Memory) (kept kept' : List Kept) (h : Host) (b : Option Buffer) (h' : Host) :
    Prop where
  more : kept ⊆ kept'
  use : m.InUse h'.memory kept'
  carries : Carries kept' (linesOf h.input.rest).head? b
  next : NextLine (cutLines h.input.rest).head? (linesOf h.input.rest).head? h b h'
  cut : cutLines h'.input.rest = (cutLines h.input.rest).tail
  lines : linesOf h'.input.rest = (linesOf h.input.rest).tail
  readable : h'.input.faultAt = none

theorem LineMissing.took (missing : LineMissing m kept h h') (readable : h.input.faultAt = none)
    (nothing : h.input.rest = []) : Took m kept kept h none h' := by
  have left := missing.reads.left (Input.isFaulty_of_faultless readable)
  rw [nothing] at left
  refine ⟨List.Subset.refl _, missing.use, ?_, ?_, ?_, ?_,
    missing.reads.faultAt.trans readable⟩
  · rw [nothing]
    exact .nothing
  · rw [nothing]
    exact ⟨left.trans nothing.symm, by simp [nothing], nofun, missing.console⟩
  · rw [nothing, left]
    rfl
  · rw [nothing, left]
    rfl

theorem LineRead.took {e : Bytes} {k : Kept} (read : LineRead m kept h e k h')
    (readable : h.input.faultAt = none) : Took m kept (k :: kept) h (some k.buffer) h' := by
  have filled : h.input.rest ≠ [] := by
    intro nothing
    have lines := read.lines
    rw [nothing] at lines
    cases lines
  have left := read.reads.left read.sound
  have carries : Carries (k :: kept) (linesOf h.input.rest).head? (some k.buffer) := by
    rw [read.lines]
    exact .entry (List.mem_cons_self ..) read.bytes read.capacity
  refine ⟨List.subset_cons_self .., read.use, carries, ?_, ?_, ?_,
    read.reads.faultAt.trans readable⟩
  · refine ⟨?_, by simp [filled], carries.held read.use, ?_⟩
    · rw [cutLines_eq_cons filled, left]
      exact Input.splitLine_joined _
    · rw [read.lines]
      exact read.console
  · rw [cutLines_eq_cons filled, left]
    rfl
  · rw [read.lines]
    rfl

theorem ends_readLine_took (use : m.InUse h.memory kept) (readable : h.input.faultAt = none) :
    Ends readLine h (fun b h' => ∃ kept', Took m kept kept' h b h') (fun _ _ => False) := by
  refine (ends_line use).imp ?_ ?_
  · rintro _ h' (⟨rfl, -, ended, missing⟩ | ⟨e, k, rfl, read⟩)
    · exact ⟨kept, missing.took readable (linesOf_eq_nil_iff.mp ended)⟩
    · exact ⟨k :: kept, read.took readable⟩
  · rintro _ _ ⟨-, faulty, -⟩
    rw [Input.isFaulty_of_faultless readable] at faulty
    cases faulty

/-! ## Many calls -/

/-- What so many calls have given, and what they have left. -/
structure Series (h : Host) (count : Nat) (read : List (Option Buffer)) (kept : List Kept)
    (h' : Host) : Prop where
  use : h.memory.InUse h'.memory kept
  cut : cutLines h'.input.rest = (cutLines h.input.rest).drop count
  lines : linesOf h'.input.rest = (linesOf h.input.rest).drop count
  consumed : ((cutLines h.input.rest).take count).flatten ++ h'.input.rest = h.input.rest
  readable : h'.input.faultAt = none
  carries : List.Forall₂ (Carries kept)
    ((List.range count).map ((linesOf h.input.rest)[·]?)) read
  console : h'.console =
    ((linesOf h.input.rest).take count).foldl (fun c entry => heard entry c) h.console

theorem Series.took {count : Nat} {read : List (Option Buffer)} {h₂ : Host}
    (series : Series h count read kept h') (took : Took h.memory kept kept' h' b h₂) :
    Series h (count + 1) (read ++ [b]) kept' h₂ where
  use := took.use
  cut := by rw [took.cut, series.cut, List.tail_drop]
  lines := by rw [took.lines, series.lines, List.tail_drop]
  consumed := by
    have next := took.next.consumed
    have piece : (cutLines h.input.rest)[count]?.toList.flatten =
        (cutLines h.input.rest)[count]?.getD [] := by
      cases (cutLines h.input.rest)[count]? <;> simp
    rw [series.cut, List.head?_drop] at next
    rw [List.take_add_one, List.flatten_append, List.append_assoc, piece, next, series.consumed]
  readable := took.readable
  carries := by
    have last := took.carries
    rw [series.lines, List.head?_drop] at last
    rw [List.range_succ, List.map_append]
    exact List.rel_append (series.carries.imp fun _ _ carries => carries.mono took.more)
      (.cons last .nil)
  console := by
    have next := took.next.console
    rw [series.lines, List.head?_drop, series.console] at next
    rw [List.take_add_one, List.foldl_append, next]
    cases (linesOf h.input.rest)[count]? <;> rfl

theorem ends_readLines (readable : h.input.faultAt = none) (count : Nat) :
    Ends (readLines count) h (fun read h' => ∃ kept, Series h count read kept h')
      (fun _ _ => False) := by
  induction count with
  | zero => exact ⟨[], .refl _, rfl, rfl, rfl, readable, .nil, rfl⟩
  | succ count ih =>
      simp only [readLines, ends_bind, ends_pure]
      refine ih.imp ?_ fun _ _ => id
      rintro read h₁ ⟨kept, series⟩
      refine (ends_readLine_took series.use series.readable).imp ?_ fun _ _ => id
      rintro b h₂ ⟨kept', took⟩
      exact ⟨kept', series.took took⟩

/-! ## Passwords written on lines -/

/-- A password that comes back from a line of its own as it was written. -/
structure Fitting (password : Bytes) : Prop where
  short : password.length ≤ significantLength
  noNewline : Input.newline ∉ password
  noReturn : password.getLast? ≠ some 13

/-- Passwords with the ends of their lines. -/
def written (lines : List (Bytes × Bytes)) : Bytes := lines.flatMap fun l => l.1 ++ l.2

variable {lines : List (Bytes × Bytes)}

theorem linesOf_written (fits : ∀ l ∈ lines, Fitting l.1 ∧ LineEnd l.2) :
    linesOf (written lines) = lines.map Prod.fst := by
  induction lines with
  | nil => rfl
  | cons l lines ih =>
      obtain ⟨⟨fitting, ends⟩, fits⟩ := List.forall_mem_cons.mp fits
      rw [written, List.flatMap_cons, ← written]
      rw [linesOf_lineEnd fitting.noNewline fitting.noReturn ends, ih fits, List.map_cons]

theorem heard_of_short {e : Bytes} (short : e.length ≤ significantLength) (c : Console) :
    heard e c = c := by
  have whole : ¬ significantLength < e.length := Nat.not_lt.mpr short
  simp only [heard, isCut, discarding, whole, decide_false, Bool.false_eq_true, ↓reduceIte]

theorem foldl_heard_of_short {entries : List Bytes}
    (short : ∀ e ∈ entries, e.length ≤ significantLength) (c : Console) :
    entries.foldl (fun c e => heard e c) c = c := by
  induction entries with
  | nil => rfl
  | cons e entries ih =>
      obtain ⟨first, short⟩ := List.forall_mem_cons.mp short
      rw [List.foldl_cons, heard_of_short first, ih short]

/-- What the buffers hold is what is kept of the entries. -/
theorem contents_of_carries {entries : List (Option Bytes)} {read : List (Option Buffer)}
    (carries : List.Forall₂ (Carries kept) entries read) (use : m.InUse h.memory kept) :
    read.map (Option.map h.memory.contents) = entries.map (Option.map significantBytes) := by
  induction carries with
  | nil => rfl
  | cons first _ ih =>
      rw [List.map_cons, List.map_cons, ih]
      cases first with
      | nothing => rfl
      | entry hk bytes _ => rw [Option.map_some, Option.map_some, use.contents hk, bytes]

theorem Series.written {count : Nat} {read : List (Option Buffer)}
    (series : Series h count read kept h') (fits : ∀ l ∈ lines, Fitting l.1 ∧ LineEnd l.2)
    (rest : h.input.rest = written lines) :
    read.map (Option.map h'.memory.contents) =
        (List.range count).map (fun i => lines[i]?.map Prod.fst) ∧
      h'.console = h.console := by
  have entries := linesOf_written fits
  constructor
  · rw [contents_of_carries series.carries series.use, rest, entries, List.map_map]
    refine List.map_congr_left fun i _ => ?_
    rw [Function.comp_apply, List.getElem?_map]
    rcases found : lines[i]? with _ | l
    · rfl
    · have short := (fits l (List.mem_of_getElem? found)).1.short
      exact congrArg some (List.take_of_length_le short)
  · rw [series.console, rest, entries]
    refine foldl_heard_of_short ?_ _
    intro e he
    obtain ⟨l, hl, rfl⟩ := List.mem_map.mp (List.mem_of_mem_take he)
    exact (fits l hl).1.short

/-- Whatever a stream holds, each call takes one line of it, and none is given only when nothing is
left. Passwords that were written on lines come back as they were, without a warning, and after
them none. -/
theorem line_after_line (h : Host) (readable : h.input.faultAt = none) :
    (∀ count, ∃ read h₁ b h₂, (readLines count).run h = (.ok read, h₁) ∧
      readLine.run h₁ = (.ok b, h₂) ∧
      ((cutLines h.input.rest).take count).flatten ++ h₁.input.rest = h.input.rest ∧
      NextLine (cutLines h.input.rest)[count]? (linesOf h.input.rest)[count]? h₁ b h₂) ∧
    ∀ lines, (∀ l ∈ lines, Fitting l.1 ∧ LineEnd l.2) → h.input.rest = written lines →
      ∀ count, ∃ read h', (readLines count).run h = (.ok read, h') ∧
        read.map (Option.map h'.memory.contents) =
          (List.range count).map (fun i => lines[i]?.map Prod.fst) ∧
        h'.console = h.console := by
  constructor
  · intro count
    obtain ⟨read, h₁, run, kept, series⟩ := (ends_readLines readable count).returns
    obtain ⟨b, h₂, run', kept', took⟩ := (ends_readLine_took series.use series.readable).returns
    have next := took.next
    rw [series.cut, series.lines, List.head?_drop, List.head?_drop] at next
    exact ⟨read, h₁, b, h₂, run, run', series.consumed, next⟩
  · intro lines fits rest count
    obtain ⟨read, h', run, kept, series⟩ := (ends_readLines readable count).returns
    exact ⟨read, h', run, series.written fits rest⟩

/-- Three passwords, the second with a carriage return that ends no line, the third empty. -/
def pastedLines : List (Bytes × Bytes) :=
  [([115, 101, 99, 114, 101, 116], [13, 10]), ([13, 120], [10]), ([], [13, 10])]

def pastedHost : Host where
  files := { tree := { entries := [] }, current := [] }
  input.rest := written pastedLines

theorem line_after_line_pasted :
    (∃ read h₁ b h₂, (readLines 1).run pastedHost = (.ok read, h₁) ∧
      readLine.run h₁ = (.ok b, h₂) ∧
      [115, 101, 99, 114, 101, 116, 13, 10] ++ h₁.input.rest = written pastedLines ∧
      NextLine (some [13, 120, 10]) (some [13, 120]) h₁ b h₂) ∧
    ∃ read h', (readLines 4).run pastedHost = (.ok read, h') ∧
      read.map (Option.map h'.memory.contents) =
        [some [115, 101, 99, 114, 101, 116], some [13, 120], some [], none] ∧
      h'.console = {} := by
  obtain ⟨each, back⟩ := line_after_line pastedHost rfl
  have fits : ∀ l ∈ pastedLines, Fitting l.1 ∧ LineEnd l.2 := by
    simp only [pastedLines, List.forall_mem_cons]
    exact ⟨⟨⟨by decide, by decide, by decide⟩, .inr rfl⟩,
      ⟨⟨by decide, by decide, by decide⟩, .inl rfl⟩,
      ⟨⟨by decide, by decide, by decide⟩, .inr rfl⟩, nofun⟩
  exact ⟨each 1, back pastedLines fits rfl 4⟩

end VncAccess.Password
