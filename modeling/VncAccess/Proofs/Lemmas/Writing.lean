import VncAccess.Proofs.Lemmas.Dialogue
import VncAccess.Proofs.Lemmas.Frames
import VncAccess.Proofs.Lemmas.Looking
import VncAccess.Proofs.Lemmas.Slots

/-!
# How a request for a password file ends

First the directory is made ready, then the passwords are asked for, and only then the file is
written. A request that stops on the way leaves at most a new, empty directory, and beside it a
temporary file that the system did not remove.
-/

namespace VncAccess

open Secret FileSystem

/-! ## The passwords that are chosen -/

namespace Password

/-- Whether a second password is wanted: the request says so, or else the line of the input. -/
def Wanted (viewOnly : Bool) (input : Input) (wanted : Bool) : Prop :=
  viewOnly = true ∧ wanted = true ∨
    viewOnly = false ∧ ∃ line, input.readTextLine.1 = .ok line ∧ isYes line = wanted

/-- What the answers at the terminal make of the question for passwords. -/
inductive Chosen (viewOnly : Bool) (input : Input) (answers : List Answer) :
    Bytes → Option Bytes → Prop where
  | one {first : Bytes} {rest : List Answer} :
      Confirms answers first rest → Wanted viewOnly input false →
      Chosen viewOnly input answers first none
  | two {first second : Bytes} {rest rest' : List Answer} :
      Confirms answers first rest → Wanted viewOnly input true → Confirms rest second rest' →
      Chosen viewOnly input answers first (some second)

variable {h : Host} {viewOnly : Bool} {first : Bytes} {second : Option Bytes}

theorem ends_wantsViewOnly :
    Ends (wantsViewOnly (if viewOnly then some true else none) askViewOnly) h
      (fun wanted _ => Wanted viewOnly h.input wanted)
      (fun f _ => viewOnly = false ∧ h.input.readTextLine.1 = .error f) := by
  cases viewOnly with
  | true =>
      simp only [↓reduceIte, wantsViewOnly, ends_bind, Run.ends_say, ends_pure]
      exact .inl ⟨rfl, rfl⟩
  | false =>
      simp only [Bool.false_eq_true, ↓reduceIte, wantsViewOnly, ends_askViewOnly]
      split
      · next line read => exact .inr ⟨rfl, line, read, rfl⟩
      · next f failed => exact ⟨trivial, failed⟩

theorem Paired.chosen {h' : Host}
    (paired : Paired (if viewOnly then some true else none) askViewOnly h first second h') :
    Chosen viewOnly h.input h.terminal.answers first second := by
  have input {h₁ : Host} (talked : h.Talked h₁) : h₁.input = h.input := by
    obtain ⟨_, _, _, rfl⟩ := talked
    rfl
  have keeps : Keeps Host.terminal
      (wantsViewOnly (if viewOnly then some true else none) askViewOnly) :=
    keeps_wantsViewOnly (fun _ _ => rfl) (keeps_askViewOnly (fun _ _ => rfl) fun _ _ => rfl)
  cases paired with
  | one confirms talked run =>
      exact .one confirms (input talked ▸ ends_wantsViewOnly.of_ok run)
  | two confirms talked run confirms₂ =>
      have terminal := (keeps _).of_ok run
      rw [terminal] at confirms₂
      exact .two confirms (input talked ▸ ends_wantsViewOnly.of_ok run) confirms₂

theorem keeps_files_askPair {wish : Option Bool} : Keeps Host.files (askPair wish askViewOnly) :=
  keeps_askPair (fun _ _ ⟨_, _, _, e⟩ => e ▸ rfl)
    (keeps_askViewOnly (fun _ _ => rfl) fun _ _ => rfl)

/-- A second password that was chosen is not empty, and has its slot. -/
theorem Chosen.slots {input : Input} {answers : List Answer} {content : Bytes}
    (chosen : Chosen viewOnly input answers first second) (slots : Slots first second content) :
    content.length = if second.isSome then 16 else 8 := by
  rw [slots.length]
  cases chosen with
  | one => rfl
  | @two second _ _ _ _ confirms =>
      have filled : second ≠ [] := by
        rintro rfl
        cases confirms.length.1
      simp [filled]

end Password

/-! ## The directory -/

/-- The tree with the directory of a request in it, and where the directory is. -/
inductive Provided (i : Invocation) (fs : FileSystem) : Option Location → Tree → Prop where
  | unasked : i.makeDirectory = false → Provided i fs none fs.tree
  | ready {path : Path} {l : Location} {t : Tree} : i.makeDirectory = true →
      i.directory = some path → fs.Ready path i.strict l t → Provided i fs (some l) t

/-- A tree that a request may have before it writes: the one it found, or that with a new, empty
directory. -/
def Begun (i : Invocation) (fs : FileSystem) (t : Tree) : Prop :=
  t = fs.tree ∨ ∃ path l, i.makeDirectory = true ∧ i.directory = some path ∧ fs.Made path l t ∧
    ∀ k, k ≠ l → t.lookup k = fs.tree.lookup k ∧ (l <+: k → t.lookup k = none)

/-- A tree that a request may stop at: one that it has before it writes, or what an attempt to write
the file leaves of it. -/
inductive Stopped (i : Invocation) (fs : FileSystem) : Tree → Prop where
  | before {t : Tree} : Begun i fs t → Stopped i fs t
  | writing {t t' : Tree} {path : Path} : Begun i fs t → i.file = some path →
      { fs with tree := t }.Abandoned path t' → Stopped i fs t'

namespace Stopped

variable {i : Invocation} {fs : FileSystem} {t : Tree}

theorem untouched : Stopped i fs fs.tree := .before (.inl rfl)

/-- Where the system removes files, nothing is left but a directory. -/
theorem begun (h : Stopped i fs t) (removes : ∀ fault ∈ fs.faults, fault.call ≠ .unlink) :
    Begun i fs t := by
  cases h with
  | before begun => exact begun
  | writing begun _ abandoned => exact abandoned.eq_tree removes ▸ begun

/-- Whatever was there is there as it was. -/
theorem kept (h : Stopped i fs t) {l : Location} {e : Entry} (found : fs.tree.lookup l = some e) :
    t.lookup l = some e := by
  have first {t : Tree} (begun : Begun i fs t) : t.lookup l = some e := by
    obtain rfl | ⟨_, k, -, -, made, others⟩ := begun
    · exact found
    · have ne : l ≠ k := by
        rintro rfl
        cases found.symm.trans made.free
      exact (others l ne).1.trans found
  cases h with
  | before begun => exact first begun
  | writing begun _ abandoned =>
      cases abandoned with
      | nothing => exact first begun
      | @temporary k _ _ _ fresh _ =>
          have ne : l ≠ k := by
            rintro rfl
            cases (first begun).symm.trans fresh.free
          exact (Tree.lookup_put_ne ne).trans (first begun)

end Stopped

namespace FileSystem

variable {fs : FileSystem} {p : Path} {strict : Bool} {l : Location} {t : Tree}

theorem Made.lookup (h : fs.Made p l t) :
    t.lookup l = some (.directory (newDirectoryMode fs l) fs.owner) :=
  (resolve_eq_ok_iff.mp h.resolve).2.lookup_taken

theorem Made.others (h : fs.Made p l t) {k : Location} (ne : k ≠ l) :
    t.lookup k = fs.tree.lookup k := by
  cases h with
  | intro => exact Tree.lookup_put_ne ne

/-- The new directory is all that is new, and nothing is in it. -/
theorem Made.empty (h : fs.Made p l t) (wf : fs.tree.WellFormed) (k : Location) (ne : k ≠ l) :
    t.lookup k = fs.tree.lookup k ∧ (l <+: k → t.lookup k = none) := by
  have same := h.others ne
  exact ⟨same, fun below => same.trans (wf.nothing_below h.free below)⟩

theorem Ready.lookup (h : fs.Ready p strict l t) :
    ∃ mode, t.lookup l = some (.directory mode fs.caller) ∧ (strict = true → mode % 0o100 = 0) := by
  cases h with
  | found resolved closed => exact ⟨_, (leads_of_resolve resolved).lookup_taken, closed⟩
  | made made owned =>
      exact ⟨_, owned ▸ made.lookup, fun _ => newDirectoryMode_closed fs l⟩

end FileSystem

namespace Provided

variable {i : Invocation} {fs : FileSystem} {place : Option Location} {t : Tree}

theorem wellFormed (h : Provided i fs place t) (wf : fs.tree.WellFormed) : t.WellFormed := by
  cases h with
  | unasked => exact wf
  | ready _ _ ready =>
      cases ready with
      | found => exact wf
      | made made => exact made.wellFormed wf

theorem begun (h : Provided i fs place t) (wf : fs.tree.WellFormed) : Begun i fs t := by
  cases h with
  | unasked => exact .inl rfl
  | ready on named ready =>
      cases ready with
      | found => exact .inl rfl
      | made made => exact .inr ⟨_, _, on, named, made, made.empty wf⟩

theorem directory (h : Provided i fs place t) :
    ∀ k ∈ place, ∃ mode, t.lookup k = some (.directory mode fs.caller) ∧
      (i.strict = true → mode % 0o100 = 0) := by
  cases h with
  | unasked => nofun
  | ready _ _ ready =>
      rintro _ ⟨⟩
      exact ready.lookup

theorem others (h : Provided i fs place t) (k : Location) :
    t.lookup k = fs.tree.lookup k ∨ k ∈ place ∧ fs.tree.lookup k = none ∧
      t.lookup k = some (.directory (newDirectoryMode fs k) fs.owner) := by
  cases h with
  | unasked => exact .inl rfl
  | @ready _ l _ _ _ ready =>
      cases ready with
      | found => exact .inl rfl
      | made made =>
          by_cases ne : k = l
          · subst ne
            exact .inr ⟨rfl, made.free, made.lookup⟩
          · exact .inl (made.others ne)

end Provided

namespace Command

variable {i : Invocation} {h h₁ : Host}

theorem ends_provide (wf : h.files.tree.WellFormed) (becomes : h.Becomes h.files.tree h₁) :
    Ends (provide i) h₁
      (fun _ h' => ∃ place t, Provided i h.files place t ∧ h.Becomes t h')
      (fun _ h' => ∃ t, Begun i h.files t ∧ h.Becomes t h') := by
  cases on : i.makeDirectory with
  | false =>
      simp only [provide, on, Bool.false_eq_true, ↓reduceIte, ends_pure]
      exact ⟨none, _, .unasked on, becomes⟩
  | true =>
      simp only [provide, on, ↓reduceIte, ends_bind, Run.ends_say]
      cases named : i.directory with
      | none => exact ⟨_, .inl rfl, becomes.said _⟩
      | some path =>
          refine (Password.Directory.ends_ensure wf (becomes.said _)).imp ?_ ?_
          · intro _ _ done
            obtain ⟨l, t, ready, becomes⟩ := done
            exact ⟨some l, t, .ready on named ready, becomes⟩
          · rintro _ _ ⟨-, t, rfl | ⟨l, made⟩, becomes⟩
            · exact ⟨_, .inl rfl, becomes⟩
            · exact ⟨t, .inr ⟨path, l, on, named, made, made.empty wf⟩, becomes⟩

theorem ends_writePair {pair : Pair} (wf : h.files.tree.WellFormed) :
    Ends (writePair i pair) h
      (fun _ h' => ∃ path l content, i.file = some path ∧
        h.memory.encode pair.primary pair.viewOnly = .ok content ∧ h.files.Names path l ∧
        h'.files.tree = h.files.tree.put l (.file 0o600 h.files.owner content))
      (fun _ h' => h'.files.tree = h.files.tree ∨
        ∃ path, i.file = some path ∧ h.files.Abandoned path h'.files.tree) := by
  cases named : i.file with
  | none =>
      simp only [writePair, named]
      exact .inl rfl
  | some path =>
      simp only [writePair, named, ends_bind, Run.ends_say]
      refine (Password.File.ends_persist pair.primary pair.viewOnly path wf).imp ?_ ?_
      · intro _ _ done
        obtain ⟨l, content, console, encoded, names, rfl⟩ := done
        exact ⟨path, l, content, rfl, encoded, names, rfl⟩
      · intro _ _ left
        obtain ⟨t, calls, abandoned, rfl⟩ := left
        exact .inr ⟨path, rfl, abandoned⟩

end Command

/-- What a request for a password file comes to when it goes well. The directory, where one was
looked after, is at `place`, and the file at `l`. -/
structure Written (i : Invocation) (h h' : Host) (place : Option Location) (l : Location)
    (first : Bytes) (second : Option Bytes) (content : Bytes) : Prop where
  chosen : Password.Chosen i.viewOnly h.input h.terminal.answers first second
  encoded : Password.encode first second = .ok content
  slots : content.length = if second.isSome then 16 else 8
  reported : ∃ line, h'.console.lines.getLast? = some line ∧ line.notice = .success ("Wrote " ++
    (if second.isSome then Text.ofString "full-control and view-only passwords" else "password") ++
      " to " ++ Command.fileText i)
  named : ∃ t path, Provided i h.files place t ∧ i.file = some path ∧
    { h.files with tree := t }.Names path l
  directory : ∀ k ∈ place, ∃ mode,
    h'.files.tree.lookup k = some (.directory mode h.files.caller) ∧
      (i.mode = .temporary → mode % 0o100 = 0)
  file : h'.files.tree.lookup l = some (.file 0o600 h.files.owner content)
  others : ∀ k, k ≠ l → h'.files.tree.lookup k = h.files.tree.lookup k ∨
    k ∈ place ∧ h.files.tree.lookup k = none ∧
      h'.files.tree.lookup k = some (.directory (newDirectoryMode h.files k) h.files.owner)

/-- With the file put where the path leads, the directory stays as it was made ready. -/
theorem Written.of_put {i : Invocation} {h h' : Host} {place : Option Location} {t : Tree}
    {path : Path} {l : Location} {first : Bytes} {second : Option Bytes} {content : Bytes}
    (closed : i.mode = .temporary → i.strict = true) (provided : Provided i h.files place t)
    (path_eq : i.file = some path) (names : { h.files with tree := t }.Names path l)
    (tree : h'.files.tree = t.put l (.file 0o600 h.files.owner content))
    (chosen : Password.Chosen i.viewOnly h.input h.terminal.answers first second)
    (encoded : Password.encode first second = .ok content)
    (reported : ∃ line, h'.console.lines.getLast? = some line ∧
      line.notice = .success ("Wrote " ++ (if second.isSome then
        Text.ofString "full-control and view-only passwords" else "password") ++ " to " ++
          Command.fileText i)) : Written i h h' place l first second content := by
  have elsewhere {k : Location} (ne : k ≠ l) : h'.files.tree.lookup k = t.lookup k := by
    rw [tree, Tree.lookup_put_ne ne]
  constructor
  case chosen => exact chosen
  case encoded => exact encoded
  case slots => exact chosen.slots (Password.slots_of_encode encoded).2
  case reported => exact reported
  case named => exact ⟨t, path, provided, path_eq, names⟩
  case directory =>
    intro k hk
    obtain ⟨mode, found, strict⟩ := provided.directory k hk
    have dir : t.isDirectory k = true := Tree.isDirectory_iff.mpr ⟨mode, _, found⟩
    have ne := Tree.ne_of_isDirectory dir names.isDirectory_eq_false
    exact ⟨mode, (elsewhere ne).trans found, fun temporary => strict (closed temporary)⟩
  case file => rw [tree, Tree.lookup_put_self names.ne_nil]
  case others =>
    intro k ne
    have eq := elsewhere ne
    rcases provided.others k with same | ⟨hk, free, new⟩
    · exact .inl (eq.trans same)
    · exact .inr ⟨hk, free, eq.trans new⟩

namespace Command

variable {i : Invocation} {h h₁ : Host}

theorem reported_hear (c : Console) (message : Text) :
    ∃ line, (c.hear (.success message)).lines.getLast? = some line ∧
      line.notice = .success message :=
  ⟨_, List.getLast?_concat, rfl⟩

theorem ends_writeFile (closed : i.mode = .temporary → i.strict = true)
    (wf : h.files.tree.WellFormed) (becomes : h.Becomes h.files.tree h₁) :
    Ends (writeFile i) h₁
      (fun _ h' => ∃ place l first second content, Written i h h' place l first second content)
      (fun _ h' => Stopped i h.files h'.files.tree) := by
  have asks : Keeps Host.memory Password.askViewOnly :=
    Password.keeps_askViewOnly (fun _ _ => rfl) fun _ _ => rfl
  simp only [writeFile, ends_bind]
  refine (ends_provide wf becomes).imp ?_ ?_
  · intro _ h₂ provide
    obtain ⟨place, t, provided, _, _, rfl⟩ := provide
    refine ((Password.ends_askPair asks (Memory.InUse.refl _)).and
      (Password.keeps_files_askPair _)).imp ?_ ?_
    · intro pair h₃ asked
      obtain ⟨⟨first, second, use, paired⟩, files⟩ := asked
      have same : pair.viewOnly.isSome = second.isSome := by
        rw [← use.viewOnly, Option.isSome_map]
      have wf₃ : h₃.files.tree.WellFormed := files ▸ provided.wellFormed wf
      rw [Run.ends_always]
      refine (ends_writePair wf₃).imp ?_ ?_
      · intro _ h₄ done
        obtain ⟨path, l, content, named, encoded, names, tree⟩ := done
        rw [files] at names tree
        rw [use.encode] at encoded
        rw [Run.ends_say, written, same]
        exact ⟨place, l, first, second, content, .of_put closed provided named names.of_calls tree
          paired.chosen encoded (reported_hear ..)⟩
      · intro _ h₄ left
        rw [files] at left
        obtain same | ⟨path, named, abandoned⟩ := left
        · exact .before (same ▸ provided.begun wf)
        · exact .writing (provided.begun wf) named abandoned.of_calls
    · intro _ h₃ left
      obtain ⟨-, files⟩ := left
      exact .before (congrArg FileSystem.tree files ▸ provided.begun wf)
  · intro _ h₂ left
    obtain ⟨t, begun, becomes⟩ := left
    exact .before (becomes.tree ▸ begun)

end Command
end VncAccess
