import VncAccess.Proofs.Lemmas.Writing

/-!
# The directory is the caller's own, or it is refused

What is there is judged and never changed. What is made is made for its owner alone, and a
directory that was accepted once is accepted again.
-/

namespace VncAccess

namespace FileSystem

/-- The path itself, not a link at its end, leads to a directory of the caller's own, which is
closed to all others where that is asked for. -/
def Owned (fs : FileSystem) (path : Path) (strict : Bool) (t : Tree) : Prop :=
  ∃ l mode, t.resolve fs.owner fs.current false path = .ok (.taken l (.directory mode fs.caller)) ∧
    (strict = true → mode % 0o100 = 0)

/-- One directory more is in the tree, where the path led to nothing: it is empty and for its owner
alone. -/
structure Added (fs : FileSystem) (path : Path) (t : Tree) (l : Location) (mode : Nat) : Prop where
  resolve : fs.tree.resolve fs.owner fs.current false path = .ok (.free l)
  nothing : fs.tree.lookup l = none
  entry : t.lookup l = some (.directory mode fs.owner)
  closed : mode % 0o100 = 0
  empty : ∀ k, k ≠ l → l <+: k → t.lookup k = none
  others : ∀ k, k ≠ l → t.lookup k = fs.tree.lookup k

/-- The same user makes the calls, from the same directory. -/
structure SameCaller (fs fs' : FileSystem) : Prop where
  current : fs'.current = fs.current
  owner : fs'.owner = fs.owner
  caller : fs'.caller = fs.caller

variable {fs fs' : FileSystem} {path : Path} {strict : Bool} {l : Location} {t : Tree}

theorem Made.added (made : fs.Made path l t) (wf : fs.tree.WellFormed) :
    fs.Added path t l (newDirectoryMode fs l) where
  resolve := by cases made with | intro resolved => exact resolved
  nothing := made.free
  entry := made.lookup
  closed := newDirectoryMode_closed fs l
  empty k ne := (made.empty wf k ne).2
  others _ := made.others

theorem Ready.attempted (ready : fs.Ready path strict l t) : fs.Attempted path t := by
  cases ready with
  | found => exact .inl rfl
  | made made => exact .inr ⟨l, made⟩

theorem Ready.owned (ready : fs.Ready path strict l t) : fs.Owned path strict t := by
  cases ready with
  | found resolved ownersOnly => exact ⟨l, _, resolved, ownersOnly⟩
  | made made owned =>
      have resolved := made.resolve
      rw [Owned, ← owned]
      exact ⟨l, _, resolved, fun _ => newDirectoryMode_closed ..⟩

theorem Attempted.wellFormed (attempted : fs.Attempted path t) (wf : fs.tree.WellFormed) :
    t.WellFormed := by
  rcases attempted with rfl | ⟨l, made⟩
  · exact wf
  · exact made.wellFormed wf

theorem Attempted.unchanged_or_added (attempted : fs.Attempted path t) (wf : fs.tree.WellFormed) :
    t = fs.tree ∨ ∃ l mode, fs.Added path t l mode :=
  attempted.imp id fun ⟨l, made⟩ => ⟨l, _, made.added wf⟩

theorem Owned.of_sameCaller (owned : fs.Owned path strict t) (same : fs.SameCaller fs') :
    fs'.Owned path strict t := by
  rwa [Owned, same.current, same.owner, same.caller]

end FileSystem

namespace Password.Directory

open FileSystem

variable {h : Host} {path : Path} {strict : Bool}

theorem judge_directory {mode : Nat} {caller : Int} (small : mode < 0o10000)
    (ownersOnly : strict = true → mode % 0o100 = 0) :
    judge path (Entry.directory mode caller).status caller strict = .ok () := by
  have dir : (Entry.directory mode caller).status.isDirectory = true := by
    have : (0o40000 + mode) / 0o10000 % 0o20 = 0o4 := by omega
    simp [Entry.status, Status.isDirectory, this]
  have closed : (strict && (Entry.directory mode caller).status.isOpenToOthers) = false := by
    cases strict with
    | false => rfl
    | true => simp [status_isOpenToOthers, ownersOnly rfl]
  have owner : (Entry.directory mode caller).status.owner = caller := rfl
  simp [judge, dir, owner, closed]

theorem ends_check_of_judge {status : Status}
    (judged : judge path status h.files.caller strict = .ok ()) :
    Ends (check path status strict) h (fun _ h' => ∃ console, h' = { h with console })
      fun _ _ => False := by
  simp only [check, ends_bind, ends_get]
  rw [judged]
  exact Run.ends_log.mpr ⟨_, rfl⟩

/-- A directory of the caller's own is accepted, and nothing is done to it. -/
theorem ends_ensure_of_owned (wf : h.files.tree.WellFormed) (noNul : path.hasNul = false)
    (faultless : ∀ f ∈ h.files.faults, f.call ≠ .lstat)
    (owned : h.files.Owned path strict h.files.tree) :
    Ends (ensure path strict) h (fun _ h' => h.Becomes h.files.tree h') fun _ _ => False := by
  obtain ⟨l, mode, resolved, ownersOnly⟩ := owned
  have small := wf.mode_lt (leads_of_resolve resolved).lookup_taken
  have again : (h.files.counted .lstat).faultAt .lstat = none := faultAt_eq_none faultless
  simp only [ensure, ends_bind, Run.ends_files, Run.ends_filesOr]
  rw [ends_lstat_of_resolve (faultAt_eq_none faultless) noNul resolved]
  rw [ends_lstat_of_resolve again noNul resolved]
  refine (ends_check_of_judge (judge_directory small ownersOnly)).imp ?_ fun _ _ => id
  rintro _ _ ⟨console, rfl⟩
  exact Run.ends_say.mpr ⟨_, _, rfl⟩

/-- How it ends to make a directory ready. -/
structure Secured (path : Path) (strict : Bool) (h : Host) (outcome : Except Failure Unit × Host) :
    Prop where
  refused : ∀ f, outcome.1 = .error f → ∃ reason, f = .refused (.fileAccess path reason)
  owned : outcome.1 = .ok () → h.files.Owned path strict outcome.2.files.tree
  tree : outcome.2.files.tree = h.files.tree ∨
    ∃ l mode, h.files.Added path outcome.2.files.tree l mode
  again : outcome.1 = .ok () → ∀ h₁ : Host, h₁.files.tree = outcome.2.files.tree →
    h.files.SameCaller h₁.files → (∀ f ∈ h₁.files.faults, f.call ≠ .lstat) →
    ∃ h₂, (ensure path strict).run h₁ = (.ok (), h₂) ∧ h₁.Becomes h₁.files.tree h₂

/-- The directory is accepted only where it is the caller's own, and all other entries are as they
were, whichever calls fail. -/
theorem ensure_secured (path : Path) (strict : Bool) (h : Host) (wf : h.files.tree.WellFormed)
    (noNul : path.hasNul = false) : Secured path strict h ((ensure path strict).run h) := by
  have ends : Ends (ensure path strict) h _ _ := ends_ensure wf (.refl h)
  rcases r : (ensure path strict).run h with ⟨f | _, h'⟩
  · obtain ⟨barred, t, attempted, becomes⟩ := ends.of_error r
    obtain ⟨reason, rfl⟩ := barred noNul
    refine ⟨?_, nofun, ?_, nofun⟩
    · rintro _ ⟨⟩
      exact ⟨reason, rfl⟩
    · exact becomes.tree ▸ attempted.unchanged_or_added wf
  · obtain ⟨l, t, ready, becomes⟩ := ends.of_ok r
    obtain rfl := becomes.tree
    refine ⟨nofun, fun _ => ready.owned, ready.attempted.unchanged_or_added wf, ?_⟩
    intro _ h₁ sameTree sameCaller faultless
    have owned : h₁.files.Owned path strict h₁.files.tree :=
      sameTree ▸ ready.owned.of_sameCaller sameCaller
    have wf₁ : h₁.files.tree.WellFormed := sameTree ▸ ready.attempted.wellFormed wf
    obtain ⟨⟨⟩, h₂, run, done⟩ := (ends_ensure_of_owned wf₁ noNul faultless owned).returns
    exact ⟨h₂, run, done⟩

/-- The directory is made, but the system does not let it be looked at afterwards. -/
def hiddenHost : Host where
  files := {
    tree := { entries := [([[104, 111, 109, 101]], .directory 0o755 0)] }
    current := []
    faults := [⟨.lstat, 2, ⟨5⟩⟩] }

/-- The attempt fails and leaves the new directory, which the next one accepts. -/
theorem ensure_secured_hidden :
    let first := (ensure (.ofText "home/.vnc") true).run hiddenHost
    (∃ reason, first.1 = .error (.refused (.fileAccess (.ofText "home/.vnc") reason))) ∧
      (∃ l mode, hiddenHost.files.Added (.ofText "home/.vnc") first.2.files.tree l mode) ∧
      ((ensure (.ofText "home/.vnc") true).run first.2).1 = .ok () := by
  intro first
  have secured : Secured (.ofText "home/.vnc") true hiddenHost first :=
    ensure_secured (.ofText "home/.vnc") true hiddenHost (by decide) (by decide)
  have fails : first.1.isOk = false := by decide +kernel
  have grown : first.2.files.tree ≠ hiddenHost.files.tree := by decide +kernel
  refine ⟨?_, secured.tree.resolve_left grown, by decide +kernel⟩
  rcases stopped : first.1 with f | _
  · obtain ⟨reason, rfl⟩ := secured.refused f stopped
    exact ⟨reason, rfl⟩
  · rw [stopped] at fails
    cases fails

end Password.Directory
end VncAccess
