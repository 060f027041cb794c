import VncAccess.Proofs.Lemmas.Calls

/-!
# Which failures are possible

`Safe q p x` says that from a state of which `q` holds, `x` fails in no way but those of which `p`
holds, and that `q` holds again afterwards. It is carried through every way to build a computation.
A system call on a path without zero bytes is safe in this sense: it fails only with an error
number.
-/

namespace VncAccess

variable {ε σ α β : Type}

def Safe (q : σ → Prop) (p : ε → Prop) (x : ExceptT ε (StateM σ) α) : Prop :=
  ∀ s, q s → Ends x s (fun _ => q) (fun e s' => p e ∧ q s')

section Rules

variable {q : σ → Prop} {p : ε → Prop} {x : ExceptT ε (StateM σ) α}
  {f : α → ExceptT ε (StateM σ) β}

theorem safe_pure {a : α} : Safe q p (pure a : ExceptT ε (StateM σ) α) := fun _ holds => holds

theorem safe_throw {e : ε} (he : p e) : Safe q p (throw e : ExceptT ε (StateM σ) α) :=
  fun _ holds => ⟨he, holds⟩

theorem safe_throw_bind {e : ε} (he : p e) :
    Safe q p ((throw e : ExceptT ε (StateM σ) α) >>= f) := fun _ holds => ⟨he, holds⟩

theorem safe_modify {g : σ → σ} (hg : ∀ s, q s → q (g s)) :
    Safe q p (modify g : ExceptT ε (StateM σ) PUnit) := fun s holds => hg s holds

/-- The state that is read is one of which `q` holds. -/
theorem safe_get_bind {f : σ → ExceptT ε (StateM σ) β} (hf : ∀ s, q s → Safe q p (f s)) :
    Safe q p ((get : ExceptT ε (StateM σ) σ) >>= f) := fun s holds => hf s holds s holds

theorem Safe.bind (hx : Safe q p x) (hf : ∀ a, Safe q p (f a)) : Safe q p (x >>= f) := by
  intro s holds
  rw [ends_bind]
  exact (hx s holds).imp (fun a s' => hf a s') fun _ _ => id

theorem Safe.imp {p' : ε → Prop} (hx : Safe q p x) (weaker : ∀ e, p e → p' e) : Safe q p' x :=
  fun s holds => (hx s holds).imp (fun _ _ => id) fun _ _ failed => ⟨weaker _ failed.1, failed.2⟩

theorem Safe.ite {c : Prop} [Decidable c] {y : ExceptT ε (StateM σ) α} (hx : c → Safe q p x)
    (hy : ¬ c → Safe q p y) : Safe q p (if c then x else y) := by
  split
  · exact hx ‹_›
  · exact hy ‹_›

end Rules

/-! ## Text without zero bytes -/

/-- No byte is zero, as in every text that the system hands to a program. -/
def Text.Clean (t : Text) : Prop := 0 ∉ t.toBytes

instance (t : Text) : Decidable t.Clean := inferInstanceAs (Decidable (0 ∉ t.toBytes))

namespace Text

variable {t t' : Text}

theorem Clean.of_subset (clean : t.Clean) (sub : t' ⊆ t) : t'.Clean := by
  intro zero
  obtain ⟨g, hg, hz⟩ := List.mem_flatMap.mp zero
  exact clean (List.mem_flatMap.mpr ⟨g, sub hg, hz⟩)

theorem Clean.append (clean : t.Clean) (clean' : t'.Clean) : (t ++ t').Clean := by
  simp only [Clean, toBytes, List.flatMap_append, List.mem_append, not_or]
  exact ⟨clean, clean'⟩

theorem Clean.nul_notMem (clean : t.Clean) : Glyph.char '\x00' ∉ t :=
  fun nul => clean (List.mem_flatMap.mpr ⟨_, nul, by decide⟩)

theorem subset_of_mem_splitOn {separator : Glyph} {t piece : Text}
    (h : piece ∈ splitOn separator t) : piece ⊆ t := by
  induction t generalizing piece with
  | nil =>
      rw [splitOn, List.mem_singleton] at h
      rw [h]
      exact List.Subset.refl []
  | cons g rest ih =>
      unfold splitOn at h
      split at h
      · rcases List.mem_cons.mp h with rfl | h
        · exact List.nil_subset _
        · exact List.subset_cons_of_subset _ (ih h)
      split at h
      · rw [List.mem_singleton.mp h]
        simp
      · next first pieces split =>
          rcases List.mem_cons.mp h with rfl | h
          · exact List.cons_subset_cons _ (ih (split ▸ List.mem_cons_self ..))
          · exact List.subset_cons_of_subset _ (ih (split ▸ List.mem_cons_of_mem _ h))

end Text

namespace Path

variable {p : Path}

def Clean (p : Path) : Prop := ∀ name ∈ p.names, name.Clean

theorem clean_ofText {t : Text} (clean : t.Clean) : (ofText t).Clean :=
  fun _ h => clean.of_subset (Text.subset_of_mem_splitOn (List.mem_filter.mp h).1)

theorem Clean.child {name : Text} (clean : p.Clean) (named : name.Clean) :
    (p.child name).Clean := by
  have last := clean_ofText named
  unfold Path.child join
  split
  · exact List.forall_mem_append.mpr ⟨clean, last⟩
  · exact last

theorem Clean.parent (clean : p.Clean) : p.parent.Clean :=
  fun _ h => clean _ (List.dropLast_subset _ h)

theorem Clean.hasNul (clean : p.Clean) : p.hasNul = false := by
  rw [Path.hasNul, List.any_eq_false]
  intro name h
  simpa using (clean name h).nul_notMem

end Path

/-! ## System calls -/

namespace FileSystem

/-- The names on the way to the working directory have no zero byte. -/
def Grounded (fs : FileSystem) : Prop := ∀ name ∈ fs.current, (0 : UInt8) ∉ name

instance (fs : FileSystem) : Decidable fs.Grounded :=
  inferInstanceAs (Decidable (∀ name ∈ fs.current, (0 : UInt8) ∉ name))

/-- The system can name the working directory, and the faults are set. -/
def Sound (faults : List Fault) (fs : FileSystem) : Prop := fs.Grounded ∧ fs.faults = faults

/-- Only an error number keeps the call from being carried out. -/
abbrev Numbered (faults : List Fault) (c : FileCall α) : Prop :=
  Safe (Sound faults) (· ≠ .embeddedNul) c

variable {faults : List Fault} {p : Path}

theorem numbered_fail {e : Errno} : Numbered faults (FileCall.fail e : FileCall α) :=
  safe_throw nofun

theorem numbered_ofExcept {r : Except Errno α} : Numbered faults (FileCall.ofExcept r) := by
  cases r with
  | ok a => exact safe_pure
  | error e => exact numbered_fail

theorem numbered_enter {call : Call} : Numbered faults (enter call) := by
  intro fs sound
  rw [ends_enter]
  split
  · exact ⟨nofun, sound⟩
  · exact sound

theorem numbered_locate {followLast : Bool} (clean : p.Clean) :
    Numbered faults (locate followLast p) := by
  intro fs sound
  rw [ends_locate, if_neg (by simp [clean.hasNul])]
  split
  · exact sound
  · exact ⟨nofun, sound⟩

theorem numbered_demand {permission : Permission} {l : Location} :
    Numbered faults (demand permission l) := by
  intro fs sound
  rw [ends_demand]
  split
  · exact sound
  · exact ⟨nofun, sound⟩

theorem numbered_modifyTree {f : Tree → Tree} : Numbered faults (modifyTree f) :=
  safe_modify fun _ sound => sound

theorem numbered_lstat (clean : p.Clean) : Numbered faults (lstat p) := by
  refine numbered_enter.bind fun _ => Safe.bind ?_ fun _ => safe_pure
  refine (numbered_locate clean).bind fun s => ?_
  cases s with
  | taken => exact safe_pure
  | free => exact numbered_fail

theorem numbered_makeDirectory (clean : p.Clean) : Numbered faults (makeDirectory p) := by
  refine numbered_enter.bind fun _ => (numbered_locate clean).bind fun s => ?_
  cases s with
  | taken => exact numbered_fail
  | free => exact numbered_demand.bind fun _ => safe_get_bind fun _ _ => numbered_modifyTree

theorem spelledLocation_clean {current : Location} (grounded : ∀ name ∈ current, (0 : UInt8) ∉ name)
    (clean : p.Clean) : ∀ name ∈ spelledLocation current p, (0 : UInt8) ∉ name := by
  have step (here : Location) (names : List Bytes) (h : ∀ name ∈ here, (0 : UInt8) ∉ name)
      (ahead : ∀ name ∈ names, (0 : UInt8) ∉ name) :
      ∀ name ∈ names.foldl simplifyName here, (0 : UInt8) ∉ name := by
    induction names generalizing here with
    | nil => exact h
    | cons name names ih =>
        obtain ⟨first, rest⟩ := List.forall_mem_cons.mp ahead
        refine ih _ ?_ rest
        unfold simplifyName
        split
        · exact fun other found => h other (List.dropLast_subset _ found)
        · exact List.forall_mem_append.mpr ⟨h, List.forall_mem_singleton.mpr first⟩
  refine step _ _ ?_ (List.forall_mem_map.mpr clean)
  unfold Tree.startOf
  split
  · exact grounded
  · nofun

theorem numbered_createTemporary (clean : p.Clean) : Numbered faults (createTemporary p) := by
  refine numbered_enter.bind fun _ => safe_get_bind fun fs sound => ?_
  refine .ite (fun zero => ?_) fun _ => ?_
  · obtain ⟨name, found, zero⟩ := List.any_eq_true.mp zero
    exact absurd (List.contains_iff_mem.mp zero) (spelledLocation_clean sound.1 clean name found)
  refine .ite (fun _ => safe_throw_bind nofun) fun _ => ?_
  refine numbered_ofExcept.bind fun s => ?_
  rcases s with ⟨l, _ | _ | _⟩ | l
  · refine numbered_demand.bind fun _ => numbered_demand.bind fun _ => ?_
    split
    · exact numbered_modifyTree.bind fun _ => safe_pure
    · exact numbered_fail
  · exact numbered_fail
  · exact numbered_fail
  · exact numbered_fail

theorem numbered_changeMode {l : Location} {mode : Nat} : Numbered faults (changeMode l mode) :=
  numbered_enter.bind fun _ => numbered_modifyTree

theorem numbered_write {l : Location} {content : Bytes} : Numbered faults (write l content) :=
  numbered_enter.bind fun _ => numbered_modifyTree

theorem numbered_rename {source : Location} (clean : p.Clean) :
    Numbered faults (rename source p) := by
  refine numbered_enter.bind fun _ => (numbered_locate clean).bind fun s => ?_
  refine .ite (fun _ => safe_throw_bind nofun) fun _ => ?_
  cases s with
  | free => exact numbered_demand.bind fun _ => numbered_modifyTree
  | taken target e =>
      refine .ite (fun _ => safe_throw_bind nofun) fun _ => numbered_demand.bind fun _ => ?_
      cases e with
      | directory => exact numbered_fail
      | file | link => exact numbered_modifyTree

end FileSystem
end VncAccess
