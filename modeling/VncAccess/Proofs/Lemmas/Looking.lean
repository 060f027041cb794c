import VncAccess.Settings
import VncAccess.Proofs.Lemmas.Directories

/-!
# What only looks

Reading the settings changes nothing on the host but the count of the calls.
-/

namespace VncAccess

/-- The call changes nothing but the list of the calls. -/
def FileCall.Looks {α : Type} (c : FileCall α) : Prop :=
  ∀ fs, Ends c fs (fun _ fs' => ∃ calls, fs' = { fs with calls })
    (fun _ fs' => ∃ calls, fs' = { fs with calls })

namespace FileSystem

variable {p : Path}

theorem looks_stat : FileCall.Looks (stat p) := by
  intro fs
  simp only [stat, entryAt, ends_bind, ends_enter, ends_locate]
  split
  · exact ⟨_, rfl⟩
  split
  · exact ⟨_, rfl⟩
  split
  · split <;> exact ⟨_, rfl⟩
  · exact ⟨_, rfl⟩

theorem looks_readFile : FileCall.Looks (readFile p) := by
  intro fs
  simp only [readFile, entryAt, ends_bind, ends_enter, ends_locate]
  split
  · exact ⟨_, rfl⟩
  split
  · exact ⟨_, rfl⟩
  split
  · split
    · simp only [ends_pure, ends_get]
      split
      · exact ⟨_, rfl⟩
      · split <;> exact ⟨_, rfl⟩
    · exact ⟨_, rfl⟩
  · exact ⟨_, rfl⟩

end FileSystem

section Keeping

variable {γ : Type} {p : Host → γ}
  (hcalls : ∀ (h : Host) calls, p { h with files := { h.files with calls } } = p h)

include hcalls in
theorem Run.keeps_files_of_looks {α : Type} {c : FileCall α} (looks : c.Looks) :
    Keeps p (Run.files c) := by
  intro h
  rw [Run.ends_files]
  refine (looks h.files).imp ?_ ?_
  · intro _ _ done
    obtain ⟨calls, rfl⟩ := done
    exact hcalls h calls
  · rintro (e | _) _ ⟨calls, rfl⟩ <;> exact hcalls h calls

include hcalls in
theorem Run.keeps_filesOr_of_looks {α : Type} {c : FileCall α} (looks : c.Looks)
    {report : Errno → AccessError} : Keeps p (Run.filesOr report c) := by
  refine (Run.keeps_files_of_looks hcalls looks).bind fun r => ?_
  cases r with
  | ok => exact keeps_pure
  | error => exact keeps_throw

theorem keeps_forM {α : Type} {f : α → Run Unit} (hf : ∀ a, Keeps p (f a)) (l : List α) :
    Keeps p (l.forM f) := by
  induction l with
  | nil => exact keeps_pure
  | cons a l ih => exact (hf a).bind fun _ => ih

namespace Settings

theorem keeps_homeFor {name : Text} : Keeps p (homeFor name) := by
  refine keeps_get.bind fun h => .ite keeps_throw_bind ?_
  dsimp only
  split
  · exact keeps_throw
  · exact .ite keeps_throw_bind keeps_pure

theorem keeps_expandHome {path : Path} : Keeps p (expandHome path) := by
  unfold expandHome
  split
  · split
    · exact keeps_homeFor.bind fun _ => keeps_pure
    · exact keeps_pure
  · exact keeps_pure

theorem keeps_pathOf {given : Option Path} : Keeps p (pathOf given) := by
  cases given with
  | some path => exact keeps_expandHome
  | none => exact (keeps_expandHome.bind fun _ => keeps_pure).bind fun _ => keeps_expandHome

include hcalls

theorem keeps_isPresent {path : Path} : Keeps p (isPresent path) := by
  refine .ite keeps_pure ?_
  refine (Run.keeps_files_of_looks hcalls FileSystem.looks_stat).bind fun r => ?_
  cases r with
  | ok => exact keeps_pure
  | error e => exact keeps_pure.ite keeps_throw

theorem keeps_load {given : Option Path} : Keeps p (load given) := by
  refine keeps_pathOf.bind fun path => (keeps_isPresent hcalls).bind fun present => ?_
  refine .ite ?_ keeps_pure
  refine (Run.keeps_filesOr_of_looks hcalls FileSystem.looks_readFile).bind fun content => ?_
  refine keeps_get.bind fun h => ?_
  split
  · exact keeps_pure
  · exact keeps_throw

end Settings
end Keeping

/-- The host but for what was said, and for how often the system was called. -/
def Host.standing (h : Host) : Host :=
  { h with console := {}, files := { h.files with calls := [] } }

theorem Host.becomes_of_standing {h h' : Host} (same : h'.standing = h.standing) :
    h.Becomes h.files.tree h' := by
  obtain ⟨⟨_, _, _, _, _, _, _⟩, _, _, _, _, _, _, _, _, _, _⟩ := h'
  simp only [standing, Host.mk.injEq, FileSystem.mk.injEq] at same
  obtain ⟨⟨rfl, rfl, rfl, rfl, rfl, rfl, -⟩, rfl, rfl, rfl, rfl, rfl, -, rfl, rfl, rfl, rfl⟩ := same
  exact ⟨_, _, rfl⟩

/-- What leaves a host standing can come after anything else that does. -/
theorem Host.Becomes.ends {h h₁ : Host} {α : Type} {x : Run α}
    (becomes : h.Becomes h.files.tree h₁) (keeps : Keeps Host.standing x) :
    Ends x h₁ (fun _ h' => h.Becomes h.files.tree h') (fun _ h' => h.Becomes h.files.tree h') := by
  have same : h₁.standing = h.standing := by
    obtain ⟨_, _, rfl⟩ := becomes
    rfl
  exact (keeps h₁).imp (fun _ _ e => becomes_of_standing (e.trans same))
    fun _ _ e => becomes_of_standing (e.trans same)

end VncAccess
