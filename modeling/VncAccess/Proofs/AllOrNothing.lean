import VncAccess.Proofs.Lemmas.Frames
import VncAccess.Proofs.Lemmas.Replacing

/-!
# A password file is written whole or not at all

Nobody finds half a file, whatever makes the writing fail, and nobody finds a temporary one that was
left behind, unless the system fails to remove it.
-/

namespace VncAccess

open Secret

/-- The trees differ in one entry only. -/
structure Tree.Replaced (before after : Tree) (l : Location) (e : Entry) : Prop where
  entry : after.lookup l = some e
  others : ∀ l', l' ≠ l → after.lookup l' = before.lookup l'

theorem Tree.replaced_put {t : Tree} {l : Location} {e : Entry} (hl : l ≠ []) :
    t.Replaced (t.put l e) l e where
  entry := lookup_put_self hl
  others _ h := lookup_put_ne h

namespace Password.File

/-- How an attempt ends to write two passwords to where a path leads. -/
structure AllOrNothing (primary : Buffer) (secondary : Option Buffer) (path : Path) (h : Host)
    (outcome : Except Failure Unit × Host) : Prop where
  buffers : outcome.2.memory = h.memory
  written : outcome.1 = .ok () → ∃ l content,
    h.memory.encode primary secondary = .ok content ∧ h.files.Names path l ∧
      h.files.tree.Replaced outcome.2.files.tree l (.file 0o600 h.files.owner content)
  untouched : ∀ f, outcome.1 = .error f → (∀ fault ∈ h.files.faults, fault.call ≠ .unlink) →
    outcome.2.files.tree = h.files.tree
  abandoned : ∀ f, outcome.1 = .error f → h.files.Abandoned path outcome.2.files.tree

/-- Either the entry that the path names is a new file of its owner's alone, with the passwords as
they are encoded, and all others are as before, or the tree is, where the system removes files. The
passwords stay with the caller. -/
theorem persist_all_or_nothing (primary : Buffer) (secondary : Option Buffer) (path : Path)
    (h : Host) (wf : h.files.tree.WellFormed) :
    AllOrNothing primary secondary path h ((persist primary secondary path).run h) := by
  have ends := ends_persist primary secondary path wf
  rcases r : (persist primary secondary path).run h with ⟨f | _, h'⟩
  · obtain ⟨t, calls, abandoned, rfl⟩ := ends.of_error r
    exact ⟨rfl, nofun, fun _ _ => abandoned.eq_tree, fun _ _ => abandoned⟩
  · obtain ⟨l, content, console, encoded, names, rfl⟩ := ends.of_ok r
    refine ⟨rfl, fun _ => ⟨l, content, encoded, names, ?_⟩, nofun, nofun⟩
    exact Tree.replaced_put names.ne_nil

/-- The path is a link to another file. -/
def linkedHost : Host where
  files := {
    tree := { entries := [([[100]], .directory 0o700 0), ([[100], [112]], .link [113]),
      ([[100], [113]], .file 0o644 0 [1, 2, 3])] }
    current := [[100]] }
  memory := { cells := [[1, 2, 3]], holdings := [⟨some ⟨0⟩, none⟩] }

theorem persist_all_or_nothing_link :
    linkedHost.files.tree.WellFormed ∧
      AllOrNothing ⟨0⟩ none (.ofText "p") linkedHost
        ((persist ⟨0⟩ none (.ofText "p")).run linkedHost) :=
  ⟨by decide, persist_all_or_nothing ⟨0⟩ none (.ofText "p") linkedHost (by decide)⟩

end Password.File
end VncAccess
