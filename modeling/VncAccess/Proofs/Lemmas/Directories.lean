import Mathlib.Data.List.Induction
import VncAccess.Password.Directory
import VncAccess.Proofs.Lemmas.Replacing

/-!
# How a directory is made ready

A directory that was ready is left alone. One that was made is new and empty, and it stays even
where it is not accepted afterwards.
-/

namespace VncAccess

/-! ## What an entry is -/

/-- The type of an entry is read off above its mode. -/
theorem Entry.status_isDirectory {e : Entry} (small : e.mode < 0o10000)
    (dir : e.status.isDirectory = true) : ∃ mode owner, e = .directory mode owner := by
  cases e with
  | directory mode owner => exact ⟨mode, owner, rfl⟩
  | file mode owner content =>
      replace small : mode < 0o10000 := small
      replace dir : (0o100000 + mode) / 0o10000 % 0o20 = 0o4 := of_decide_eq_true dir
      omega
  | link target => simp [status, Status.isDirectory] at dir

theorem status_isOpenToOthers (mode : Nat) (owner : Int) :
    (Entry.directory mode owner).status.isOpenToOthers = decide (mode % 0o100 ≠ 0) := by
  have : (0o40000 + mode) % 0o100 = mode % 0o100 := by omega
  simp [Entry.status, Status.isOpenToOthers, this]

namespace Tree

variable {t : Tree} {l k : Location}

/-- In a well-formed tree nothing is below a free name. -/
theorem WellFormed.nothing_below (wf : t.WellFormed) (free : t.lookup l = none)
    (below : l <+: k) : t.lookup k = none := by
  obtain ⟨rest, rfl⟩ := below
  induction rest using List.reverseRecOn with
  | nil => rwa [List.append_nil]
  | append_singleton rest name ih =>
      cases found : t.lookup (l ++ (rest ++ [name])) with
      | none => rfl
      | some e =>
          have dir := wf.dropLast found
          rw [← List.append_assoc, List.dropLast_concat] at dir
          obtain ⟨_, _, dir⟩ := isDirectory_iff.mp dir
          rw [ih] at dir
          cases dir

end Tree

namespace FileSystem

variable {fs : FileSystem} {p : Path}

theorem newDirectoryMode_eq (fs : FileSystem) (l : Location) :
    newDirectoryMode fs l = fs.masked 0o700 ∨
      newDirectoryMode fs l = fs.masked 0o700 + 0o2000 := by
  unfold newDirectoryMode
  split
  · next mode owner found =>
      rcases Nat.mod_two_eq_zero_or_one (mode / 0o2000) with off | on
      · exact .inl (by rw [off, Nat.zero_mul, Nat.add_zero])
      · exact .inr (by rw [on, Nat.one_mul])
  · exact .inl rfl

/-- A new directory is closed to everyone but its owner, if not to him too. -/
theorem newDirectoryMode_closed (fs : FileSystem) (l : Location) :
    newDirectoryMode fs l % 0o100 = 0 := by
  have closed : fs.masked 0o700 % 0o100 = 0 := masked_closed rfl
  rcases newDirectoryMode_eq fs l with eq | eq <;> omega

theorem newDirectoryMode_lt (fs : FileSystem) (l : Location) :
    newDirectoryMode fs l < 0o10000 := by
  have small : fs.masked 0o700 < 0o1000 := masked_lt (by decide)
  rcases newDirectoryMode_eq fs l with eq | eq <;> omega

theorem ends_lstat :
    Ends (lstat p) fs
      (fun status fs' => fs' = fs.counted .lstat ∧ ∃ l e,
        fs.tree.resolve fs.owner fs.current false p = .ok (.taken l e) ∧ status = e.status)
      (fun e fs' => fs' = fs.counted .lstat ∧ (p.hasNul = false → e ≠ .embeddedNul)) := by
  simp only [lstat, entryAt, ends_bind, ends_enter, ends_locate]
  split
  · simp
  split
  · next nul => simp [nul]
  split
  · next s resolved =>
      split
      · next l e => exact ⟨rfl, l, e, resolved, rfl⟩
      · simp
  · simp

theorem ends_lstat_of_resolve {l : Location} {e : Entry} {ok : Status → FileSystem → Prop}
    {bad : CallError → FileSystem → Prop} (faultless : fs.faultAt .lstat = none)
    (noNul : p.hasNul = false)
    (resolved : fs.tree.resolve fs.owner fs.current false p = .ok (.taken l e)) :
    Ends (lstat p) fs ok bad ↔ ok e.status (fs.counted .lstat) := by
  simp only [lstat, entryAt, ends_bind, ends_enter, faultless, ends_locate, noNul]
  simp [counted, resolved]

/-- The tree with a directory for its owner alone where a path leads to a free name. -/
inductive Made (fs : FileSystem) (p : Path) : Location → Tree → Prop where
  | intro {l : Location} : fs.tree.resolve fs.owner fs.current false p = .ok (.free l) →
      Made fs p l (fs.tree.put l (.directory (newDirectoryMode fs l) fs.owner))

theorem ends_makeDirectory :
    Ends (makeDirectory p) fs
      (fun _ fs' => ∃ l t, fs.Made p l t ∧ fs' = { fs.counted .makeDirectory with tree := t })
      (fun e fs' => fs' = fs.counted .makeDirectory ∧ (p.hasNul = false → e ≠ .embeddedNul)) := by
  simp only [makeDirectory, ends_bind, ends_enter, ends_locate]
  split
  · simp
  split
  · next nul => simp [nul]
  split
  · next s resolved =>
      split
      · simp
      · next l =>
          simp only [ends_bind, ends_demand]
          split
          · exact ⟨l, _, .intro resolved, rfl⟩
          · simp
  · simp

namespace Made

variable {t : Tree} {l : Location}

theorem free (h : fs.Made p l t) : fs.tree.lookup l = none := by
  cases h with
  | intro resolved => exact (leads_of_resolve resolved).lookup_free.1

theorem wellFormed (h : fs.Made p l t) (wf : fs.tree.WellFormed) : t.WellFormed := by
  cases h with
  | intro resolved =>
      obtain ⟨free, parent⟩ := (leads_of_resolve resolved).lookup_free
      exact wf.put parent (newDirectoryMode_lt fs _) (Tree.isDirectory_of_free free)

/-- The path leads to the new directory. -/
theorem resolve (h : fs.Made p l t) :
    t.resolve fs.owner fs.current false p =
      .ok (.taken l (.directory (newDirectoryMode fs l) fs.owner)) := by
  cases h with
  | intro resolved =>
      obtain ⟨short, way⟩ := resolve_eq_ok_iff.mp resolved
      have notLink : ∀ target,
          Entry.directory (newDirectoryMode fs l) fs.owner ≠ .link target := nofun
      exact resolve_eq_ok_iff.mpr ⟨short, way.put_of_free notLink id⟩

end Made

/-- A path leads to a directory of the caller's own, which was there or is new. -/
inductive Ready (fs : FileSystem) (p : Path) (strict : Bool) : Location → Tree → Prop where
  | found {l : Location} {mode : Nat} :
      fs.tree.resolve fs.owner fs.current false p = .ok (.taken l (.directory mode fs.caller)) →
      (strict = true → mode % 0o100 = 0) → Ready fs p strict l fs.tree
  | made {l : Location} {t : Tree} : fs.Made p l t → fs.owner = fs.caller → Ready fs p strict l t

/-- Trees on the way to a directory that is ready. -/
def Attempted (fs : FileSystem) (p : Path) (t : Tree) : Prop := t = fs.tree ∨ ∃ l, fs.Made p l t

end FileSystem

/-- A host with another tree, after some calls and messages. -/
def Host.Becomes (h : Host) (t : Tree) (h' : Host) : Prop :=
  ∃ console calls, h' = { h with console, files := { h.files with tree := t, calls } }

namespace Host.Becomes

variable {h h₁ h₂ : Host} {t t' : Tree}

theorem refl (h : Host) : h.Becomes h.files.tree h := ⟨_, _, rfl⟩

theorem said (h : h₁.Becomes t h₂) (console : Console) : h₁.Becomes t { h₂ with console } := by
  obtain ⟨_, _, rfl⟩ := h
  exact ⟨_, _, rfl⟩

theorem called (h : h₁.Becomes t h₂) (call : Call) :
    h₁.Becomes t { h₂ with files := h₂.files.counted call } := by
  obtain ⟨_, _, rfl⟩ := h
  exact ⟨_, _, rfl⟩

theorem tree (h : h₁.Becomes t h₂) : h₂.files.tree = t := by
  obtain ⟨_, _, rfl⟩ := h
  rfl

end Host.Becomes

namespace Password.Directory

open FileSystem

variable {h h₁ : Host} {path : Path} {strict : Bool} {t : Tree}

theorem judge_eq_ok {status : Status} {caller : Int}
    (h : judge path status caller strict = .ok ()) :
    status.isDirectory = true ∧ status.owner = caller ∧
      (strict = true → status.isOpenToOthers = false) := by
  unfold judge at h
  split at h
  · cases h
  next dir =>
  split at h
  · cases h
  next owned =>
  split at h
  · cases h
  next closed =>
  exact ⟨by simpa using dir, by simpa using owned, fun on => by simpa [on] using closed⟩

theorem judge_eq_error {status : Status} {caller : Int} {e : AccessError}
    (h : judge path status caller strict = .error e) : ∃ reason, e = .fileAccess path reason := by
  unfold judge at h
  split at h
  · cases h
    exact ⟨_, rfl⟩
  split at h
  · cases h
    exact ⟨_, rfl⟩
  split at h
  · cases h
    exact ⟨_, rfl⟩
  · cases h

/-- A failure to use what the path leads to, if the system takes the path at all. -/
def Barred (path : Path) (f : Failure) : Prop :=
  path.hasNul = false → ∃ reason, f = .refused (.fileAccess path reason)

theorem barred_failed {doing : Text} {e : CallError}
    (numbered : path.hasNul = false → e ≠ .embeddedNul) :
    Barred path (e.failure (failed path doing)) := by
  intro noNul
  cases e with
  | errno e => exact ⟨_, rfl⟩
  | embeddedNul => exact absurd rfl (numbered noNul)

theorem ends_check {status : Status} :
    Ends (check path status strict) h
      (fun _ h' => (∃ console, h' = { h with console }) ∧ status.isDirectory = true ∧
        status.owner = h.files.caller ∧ (strict = true → status.isOpenToOthers = false))
      (fun f h' => Barred path f ∧ h' = h) := by
  simp only [check, ends_bind, ends_get]
  split
  · next judged =>
      obtain ⟨reason, rfl⟩ := judge_eq_error judged
      exact ⟨fun _ => ⟨reason, rfl⟩, rfl⟩
  · next judged =>
      rw [Run.ends_log]
      exact ⟨⟨_, rfl⟩, judge_eq_ok judged⟩

/-- What an accepted status says of the entry that it is the status of. -/
theorem eq_directory {e : Entry} {l : Location} {caller : Int} (wf : t.WellFormed)
    (found : t.lookup l = some e) (dir : e.status.isDirectory = true)
    (owned : e.status.owner = caller) (closed : strict = true → e.status.isOpenToOthers = false) :
    ∃ mode, e = .directory mode caller ∧ (strict = true → mode % 0o100 = 0) := by
  obtain ⟨mode, owner, rfl⟩ := Entry.status_isDirectory (wf.mode_lt found) dir
  obtain rfl : owner = caller := owned
  refine ⟨mode, rfl, fun on => ?_⟩
  simpa [status_isOpenToOthers] using closed on

/-- The directory is looked at again once it is there. -/
theorem ends_inspect (wf : h.files.tree.WellFormed) (attempted : h.files.Attempted path t)
    (becomes : h.Becomes t h₁) :
    Ends (do
        let status ← Run.filesOr (failed path "Error in lstat() for ") (FileSystem.lstat path)
        check path status strict
        Run.say (.verbose ("Using directory " ++ path.text))) h₁
      (fun _ h' => ∃ l t, h.files.Ready path strict l t ∧ h.Becomes t h')
      (fun f h' => Barred path f ∧ ∃ t, h.files.Attempted path t ∧ h.Becomes t h') := by
  have wf' : t.WellFormed := by
    rcases attempted with rfl | ⟨l, made⟩
    · exact wf
    · exact made.wellFormed wf
  simp only [ends_bind, Run.ends_filesOr]
  refine ends_lstat.imp ?_ ?_
  · intro _ _ looked
    obtain ⟨rfl, l, e, resolved, rfl⟩ := looked
    refine ends_check.imp ?_ ?_
    · intro _ _ checked
      obtain ⟨⟨console, rfl⟩, dir, owned, closed⟩ := checked
      rw [Run.ends_say]
      have done := ((becomes.called .lstat).said console).said
      obtain ⟨_, _, rfl⟩ := becomes
      obtain ⟨mode, rfl, ownersOnly⟩ :=
        eq_directory wf' (leads_of_resolve resolved).lookup_taken dir owned closed
      refine ⟨l, t, ?_, done _⟩
      rcases attempted with rfl | ⟨l', made⟩
      · exact .found resolved ownersOnly
      · have same := made.resolve.symm.trans resolved
        simp only [Except.ok.injEq, Tree.Spot.taken.injEq, Entry.directory.injEq] at same
        obtain ⟨rfl, -, owned⟩ := same
        exact .made made owned
    · rintro f _ ⟨barred, rfl⟩
      exact ⟨barred, t, attempted, becomes.called .lstat⟩
  · rintro e _ ⟨rfl, numbered⟩
    exact ⟨barred_failed numbered, t, attempted, becomes.called .lstat⟩

theorem ends_make (becomes : h.Becomes h.files.tree h₁) :
    Ends (make path) h₁ (fun _ h' => ∃ l t, h.files.Made path l t ∧ h.Becomes t h')
      (fun f h' => Barred path f ∧ h.Becomes h.files.tree h') := by
  simp only [make, ends_bind, Run.ends_say, Run.ends_filesOr, Run.ends_log]
  refine ends_makeDirectory.imp ?_ ?_
  · intro _ _ new
    obtain ⟨l, t, made, rfl⟩ := new
    obtain ⟨_, _, rfl⟩ := becomes
    cases made with
    | intro resolved => exact ⟨l, _, .intro resolved, _, _, rfl⟩
  · rintro e _ ⟨rfl, numbered⟩
    obtain ⟨_, _, rfl⟩ := becomes
    exact ⟨barred_failed numbered, _, _, rfl⟩

/-- The directory is ready, or at most a new one is left that is not. -/
theorem ends_ensure (wf : h.files.tree.WellFormed) (becomes : h.Becomes h.files.tree h₁) :
    Ends (ensure path strict) h₁
      (fun _ h' => ∃ l t, h.files.Ready path strict l t ∧ h.Becomes t h')
      (fun f h' => Barred path f ∧ ∃ t, h.files.Attempted path t ∧ h.Becomes t h') := by
  have looked := becomes.called .lstat
  unfold ensure
  rw [ends_bind, Run.ends_files]
  refine ends_lstat.imp ?_ ?_
  · rintro _ _ ⟨rfl, -⟩
    exact ends_inspect wf (.inl rfl) looked
  · rintro (e | _) _ ⟨rfl, numbered⟩
    · dsimp only
      split
      · rw [ends_bind]
        refine (ends_make looked).imp ?_ fun _ _ failed => ⟨failed.1, _, .inl rfl, failed.2⟩
        intro _ h₁ new
        obtain ⟨l, t, made, becomes⟩ := new
        exact ends_inspect wf (.inr ⟨l, made⟩) becomes
      · exact ⟨barred_failed (e := .errno e) nofun, _, .inl rfl, looked⟩
    · exact ⟨fun noNul => absurd rfl (numbered noNul), _, .inl rfl, looked⟩

end Password.Directory
end VncAccess
