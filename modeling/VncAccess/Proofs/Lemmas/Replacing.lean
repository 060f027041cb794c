import VncAccess.Password.File
import VncAccess.Proofs.Lemmas.Calls

/-!
# How a file is replaced

The temporary file comes and goes without a trace: either the new file stands where the path leads,
or the tree is as it was. Only where the system does not remove files may a temporary one stay.
-/

namespace VncAccess

/-- The files with another tree, and with the calls that were made on the way. -/
def FileSystem.after (fs : FileSystem) (tree : Tree) (calls : List Call) : FileSystem :=
  { fs with tree, calls := fs.calls ++ calls }

def Host.withFiles (h : Host) (files : FileSystem) : Host := { h with files }

namespace FileSystem

variable {fs : FileSystem} {temporary l : Location} {p : Path} {mode : Nat} {owner : Int}
  {content : Bytes}

/-- The calls of a replacement that goes well. -/
def replacing : List Call := [.create, .changeMode, .write, .rename]

theorem Names.of_put (wf : fs.tree.WellFormed) (free : fs.tree.lookup temporary = none)
    {calls : List Call}
    (h : (fs.after (fs.tree.put temporary (.file mode owner content)) calls).Names p l) :
    fs.Names p l := by
  have back {s : Tree.Spot} (usable : p.Usable)
      (resolved : (fs.tree.put temporary (.file mode owner content)).resolve fs.owner fs.current
        false p = .ok s) :
      ∃ s', fs.tree.resolve fs.owner fs.current false p = .ok s' ∧
        (s' = s ∨ s' = .free temporary ∧ s = .taken temporary (.file mode owner content)) := by
    obtain ⟨short, way⟩ := resolve_eq_ok_iff.mp resolved
    obtain ⟨s', way', same⟩ := way.of_put wf free
      fun none => absurd (List.map_eq_nil_iff.mp none) usable.named
    exact ⟨s', resolve_eq_ok_iff.mpr ⟨short, way'⟩, same⟩
  cases h with
  | free usable resolved =>
      obtain ⟨s', resolved', rfl | ⟨-, h⟩⟩ := back usable resolved
      · exact .free usable resolved'
      · cases h
  | taken usable resolved notDir =>
      obtain ⟨s', resolved', rfl | ⟨rfl, h⟩⟩ := back usable resolved
      · exact .taken usable resolved' notDir
      · cases h
        exact .free usable resolved'

/-- A path leads to its last name without the entry that has this name. -/
def Direct (fs : FileSystem) (p : Path) (l : Location) : Prop :=
  (fs.tree.erase l).resolve fs.owner fs.current false p = .ok (.free l)

/-- What replaced the entry is found under the path again. -/
theorem Direct.resolve_put (h : fs.Direct p l) :
    (fs.tree.put l (.file mode owner content)).resolve fs.owner fs.current true p =
      .ok (.taken l (.file mode owner content)) := by
  obtain ⟨short, way⟩ := resolve_eq_ok_iff.mp h
  have notLink : ∀ target, Entry.file mode owner content ≠ .link target := nofun
  rw [← Tree.put_erase]
  exact resolve_eq_ok_iff.mpr ⟨short, way.put_of_free notLink nofun⟩

/-- Only a link can stand in its own way. -/
theorem Names.crooked (wf : fs.tree.WellFormed) (h : fs.Names p l) (indirect : ¬ fs.Direct p l) :
    (∃ target, fs.tree.lookup l = some (.link target)) ∧ p.text.toBytes.length ≤ Tree.pathLimit ∧
      fs.tree.Crooked fs.owner Tree.linkLimit (Tree.startOf fs.current p)
        (p.names.map Text.toBytes) l := by
  have noDir := h.isDirectory_eq_false
  cases h with
  | free usable resolved =>
      refine absurd ?_ indirect
      rw [Direct, Tree.erase_of_free (leads_of_resolve resolved).lookup_free.1]
      exact resolved
  | taken usable resolved =>
      obtain ⟨short, way⟩ := resolve_eq_ok_iff.mp resolved
      have named : p.names.map Text.toBytes ≠ [] :=
        fun none => usable.named (List.map_eq_nil_iff.mp none)
      rcases way.erase wf noDir (fun none => absurd none named) with direct | ⟨link, crooked⟩
      · exact absurd (resolve_eq_ok_iff.mpr ⟨short, direct⟩) indirect
      · obtain ⟨target, rfl⟩ := link
        exact ⟨⟨target, way.lookup_taken⟩, short, crooked⟩

/-- A path that stands in its own way leads nowhere once a file is at its end. -/
theorem Names.not_direct (wf : fs.tree.WellFormed) (h : fs.Names p l) (indirect : ¬ fs.Direct p l) :
    (∃ target, fs.tree.lookup l = some (.link target)) ∧ ∀ mode owner content,
      (fs.tree.put l (.file mode owner content)).resolve fs.owner fs.current true p =
        .error .notDirectory := by
  obtain ⟨link, short, crooked⟩ := h.crooked wf indirect
  refine ⟨link, fun mode owner content => ?_⟩
  rw [Tree.resolve, if_neg (Nat.not_lt.mpr short)]
  exact crooked.dead true mode owner content

/-- A path to a file does not stand in its own way. -/
theorem Names.direct_of_file (wf : fs.tree.WellFormed) (h : fs.Names p l) {f : Location}
    {mode : Nat} {owner : Int} {content : Bytes}
    (resolved : fs.tree.resolve fs.owner fs.current true p =
      .ok (.taken f (.file mode owner content))) : fs.Direct p l := by
  by_cases direct : fs.Direct p l
  · exact direct
  · obtain ⟨-, -, crooked⟩ := h.crooked wf direct
    have way := leads_of_resolve resolved
    have dir := crooked.noFile way.walk
    rw [Tree.isDirectory_of_lookup way.lookup_taken nofun] at dir
    cases dir

end FileSystem

namespace FileSystem

variable {fs : FileSystem}

/-- The files with a temporary one, which is open to nobody but its owner. -/
inductive Drafted (fs : FileSystem) (temporary : Location) : FileSystem → Prop where
  | intro {mode : Nat} {content : Bytes} {calls : List Call} : mode % 0o100 = 0 →
      Drafted fs temporary (fs.after (fs.tree.put temporary (.file mode fs.owner content)) calls)

theorem Drafted.counted {temporary : Location} {fs' : FileSystem} (h : fs.Drafted temporary fs')
    (call : Call) : fs.Drafted temporary (fs'.counted call) := by
  obtain @⟨mode, content, calls, closed⟩ := h
  have more : fs.Drafted temporary
      (fs.after (fs.tree.put temporary (.file mode fs.owner content)) (calls ++ [call])) :=
    .intro closed
  simpa [after, FileSystem.counted] using more

/-- What is left of an attempt to write a file where a path leads: nothing, or, where the system
does not remove files, a temporary one that is open to nobody but its owner. -/
inductive Abandoned (fs : FileSystem) (path : Path) : Tree → Prop where
  | nothing : Abandoned fs path fs.tree
  | temporary {l : Location} {mode : Nat} {content : Bytes} : fs.Retains →
      fs.Temporary path.parent l → mode % 0o100 = 0 →
      Abandoned fs path (fs.tree.put l (.file mode fs.owner content))

theorem Abandoned.of_calls {path : Path} {t : Tree} {calls : List Call}
    (h : { fs with calls }.Abandoned path t) : fs.Abandoned path t := by
  cases h with
  | nothing => exact .nothing
  | temporary retains fresh closed =>
      exact .temporary retains ⟨fresh.free, fresh.named, fresh.parent⟩ closed

theorem Abandoned.eq_tree {path : Path} {t : Tree} (h : fs.Abandoned path t)
    (removes : ∀ fault ∈ fs.faults, fault.call ≠ .unlink) : t = fs.tree := by
  cases h with
  | nothing => rfl
  | temporary retains =>
      obtain ⟨fault, set, isUnlink⟩ := retains
      exact absurd isUnlink (removes fault set)

end FileSystem

namespace Password.File

open Secret FileSystem

variable {h : Host} {path : Path} {content : Bytes} {temporary : Location}

/-- The temporary file gets its mode and its content, or stays as closed as it was. -/
theorem ends_fill (fs : FileSystem) (root : temporary ≠ []) {before : Nat}
    (closed : before % 0o100 = 0) (calls : List Call) :
    Ends (do FileSystem.changeMode temporary mode; FileSystem.write temporary content)
      (fs.after (fs.tree.put temporary (.file before fs.owner [])) calls)
      (fun _ fs' => fs' = fs.after (fs.tree.put temporary (.file mode fs.owner content))
        (calls ++ [.changeMode, .write]))
      (fun _ fs' => fs.Drafted temporary fs') := by
  have made {t : Tree} {mode : Nat} : (t.put temporary (.file mode fs.owner [])).lookup temporary =
      some (.file mode fs.owner []) := Tree.lookup_put_self root
  rw [ends_bind]
  refine (ends_changeMode made).imp ?_ ?_
  · rintro _ _ rfl
    refine (ends_write made).imp ?_ ?_
    · rintro _ _ rfl
      simp [after, counted]
    · rintro _ _ rfl
      have drafted : fs.Drafted temporary
          (fs.after (fs.tree.put temporary (.file mode fs.owner []))
            (calls ++ [.changeMode])) := .intro rfl
      simpa [after, counted] using drafted.counted .write
  · rintro _ _ rfl
    exact (Drafted.intro closed).counted .changeMode

/-- How an attempt to write a file ends that does not go well. -/
def Left (path : Path) (h h' : Host) : Prop :=
  ∃ t calls, h.files.Abandoned path t ∧ h' = h.withFiles (h.files.after t calls)

/-- The temporary file is removed, or the system does not remove files. -/
theorem ends_discard {fs : FileSystem} (fresh : h.files.Temporary path.parent temporary)
    (drafted : h.files.Drafted temporary fs) :
    Ends (discard temporary) (h.withFiles fs) (fun _ h' => Left path h h')
      (fun _ h' => Left path h h') := by
  obtain @⟨mode, content, calls, closed⟩ := drafted
  rw [discard, ends_bind, Run.ends_files]
  refine ends_unlink.imp ?_ ?_
  · rintro _ _ rfl
    refine ⟨h.files.tree, calls ++ [.unlink], .nothing, ?_⟩
    simp [Host.withFiles, after, counted, Tree.erase_put_of_free fresh.free]
  · rintro _ _ ⟨rfl, ⟨-, missing⟩ | ⟨fault, set, isUnlink, rfl⟩⟩
    · cases (Tree.lookup_put_self (Tree.ne_nil_of_free fresh.free)).symm.trans missing
    · have left : Left path h (h.withFiles
          ((h.files.after (h.files.tree.put temporary (.file mode h.files.owner content))
            calls).counted .unlink)) := by
        refine ⟨h.files.tree.put temporary (.file mode h.files.owner content),
          calls ++ [.unlink], .temporary ⟨fault, set, isUnlink⟩ fresh closed, ?_⟩
        simp [after, counted]
      dsimp only
      split
      · exact left
      · exact left

theorem ends_replace (wf : h.files.tree.WellFormed) :
    Ends (replace path content) h
      (fun _ h' => ∃ l, h.files.Names path l ∧ h' = h.withFiles
        (h.files.after (h.files.tree.put l (.file mode h.files.owner content)) replacing))
      (fun _ h' => Left path h h') := by
  simp only [replace, ends_bind, Run.ends_filesOr]
  refine ends_createTemporary.imp ?_ ?_
  · intro temporary _ created
    obtain ⟨fresh, rfl⟩ := created
    have root := Tree.ne_nil_of_free fresh.free
    have closed : h.files.masked 0o600 % 0o100 = 0 := masked_closed rfl
    rw [Run.ends_cleaning, ends_bind, Run.ends_filesOr]
    refine (ends_fill h.files root closed [.create]).imp ?_ ?_
    · rintro _ _ rfl
      rw [Run.ends_filesOr]
      refine ends_rename.imp ?_ ?_
      · intro _ _ renamed
        obtain ⟨l, names, rfl⟩ := renamed
        refine ⟨l, names.of_put wf fresh.free, ?_⟩
        simp [Host.withFiles, after, counted, replacing, Tree.move_put_of_free fresh.free]
      · rintro e _ rfl
        exact ends_discard fresh ((Drafted.intro rfl).counted .rename)
    · intro e _ drafted
      exact ends_discard fresh drafted
  · rintro e _ rfl
    exact ⟨_, [.create], .nothing, rfl⟩

theorem ends_persist (primary : Buffer) (secondary : Option Buffer) (path : Path)
    (wf : h.files.tree.WellFormed) :
    Ends (persist primary secondary path) h
      (fun _ h' => ∃ l content console, h.memory.encode primary secondary = .ok content ∧
        h.files.Names path l ∧ h' = { h with
          console
          files := h.files.after (h.files.tree.put l (.file mode h.files.owner content))
            replacing })
      (fun _ h' => Left path h h') := by
  simp only [persist, ends_bind, ends_get, Run.ends_ofValue]
  split
  · next content encoded =>
      refine (ends_replace wf).imp ?_ fun _ _ => id
      intro _ _ replaced
      obtain ⟨l, names, rfl⟩ := replaced
      rw [Run.ends_log]
      exact ⟨l, content, _, encoded, names, rfl⟩
  · exact ⟨_, [], .nothing, by simp [Host.withFiles, after]⟩

end Password.File
end VncAccess
