import VncAccess.Proofs.Lemmas.Memory
import VncAccess.Proofs.Lemmas.Replacing
import VncAccess.Proofs.Lemmas.Slots

/-!
# What was written is read again

The passwords of a file come back as they were given, but for zeros at the end. Only a link that a
path leads through before it is replaced keeps the new file from being found.
-/

namespace VncAccess.Password.File

open Secret FileSystem

variable {h h' : Host} {path : Path} {content : Bytes}

theorem ends_holdPair {first : Bytes} {second : Option Bytes} :
    Ends (holdPair first second) h
      (fun p h' => h.memory.PairInUse h'.memory [] p first (second.filter (· ≠ [])))
      (fun _ _ => False) := by
  have use := (Memory.InUse.refl h.memory).hold first none
  show h.memory.PairInUse _ [] _ _ _
  cases second with
  | none => exact .one use
  | some bytes =>
      have filled : (some bytes).filter (· ≠ []) = if bytes = [] then none else some bytes := by
        by_cases empty : bytes = [] <;> simp [empty]
      rw [filled]
      exact (use.hold bytes none).pair

/-- How two passwords are read: without the zeros at their ends, and the second one only where some
of it is left. -/
structure Restored (first : Bytes) (second : Option Bytes) (h : Host) (p : Pair) : Prop where
  primary : h.memory.contents p.primary = trimZeros first
  absent : p.viewOnly = none ↔ ∀ s ∈ second, ∀ x ∈ s, x = 0
  viewOnly : ∀ b ∈ p.viewOnly, ∃ s ∈ second, h.memory.contents b = trimZeros s

/-- What a second password comes back as. -/
def returned (second : Option Bytes) : Option Bytes := (second.map trimZeros).filter (· ≠ [])

theorem returned_eq_none_iff (second : Option Bytes) :
    returned second = none ↔ ∀ s ∈ second, ∀ x ∈ s, x = 0 := by
  cases second with
  | none => simp [returned]
  | some s => simp [returned, trimZeros_eq_nil_iff]

/-- A second slot that was never written is as one of which nothing is left. -/
theorem filter_decoded (second : Option Bytes) :
    Option.filter (· ≠ []) (if second.getD [] = [] then none else second.map trimZeros) =
      returned second := by
  split
  · next empty =>
      cases second with
      | none => rfl
      | some s =>
          obtain rfl : s = [] := empty
          rfl
  · rfl

theorem restored {first : Bytes} {second : Option Bytes} {m : Memory} {p : Pair}
    (use : m.PairInUse h.memory [] p (trimZeros first) (returned second)) :
    Restored first second h p where
  primary := use.primary
  absent := by
    rw [← returned_eq_none_iff, ← use.viewOnly]
    simp
  viewOnly b hb := by
    have kept := use.viewOnly
    rw [Option.mem_def.mp hb, Option.map_some] at kept
    obtain ⟨some, -⟩ := Option.filter_eq_some_iff.mp kept.symm
    obtain ⟨s, hs, eq⟩ := Option.map_eq_some_iff.mp some
    exact ⟨s, hs, eq.symm⟩

theorem ends_load {l : Location} {first : Bytes} {second : Option Bytes}
    (faultless : h.files.faultAt .readFile = none) (noNul : path.hasNul = false)
    (resolved : h.files.tree.resolve h.files.owner h.files.current true path =
      .ok (.taken l (.file mode h.files.owner content)))
    (short : first.length ≤ 8) (slots : Slots first second content) :
    Ends (load path) h (fun p h' => Restored first second h' p) (fun _ _ => False) := by
  have permitted : (Entry.file mode h.files.owner content).permits h.files.owner .read = true := by
    simp [Entry.permits, mode, Permission.bit]
  have long : ¬ content.length < slotLength := by
    rw [slots.length, slotLength]
    split <;> omega
  simp only [load, ends_bind, Run.ends_filesOr, ends_readFile faultless noNul resolved permitted]
  rw [if_neg long, ends_bind, Run.ends_ofValue, slots.decode short]
  dsimp only
  refine ends_holdPair.imp (fun p h' use => ?_) fun _ _ => id
  rw [filter_decoded] at use
  exact restored use

theorem ends_load_of_error {e : Errno} (faultless : h.files.faultAt .readFile = none)
    (noNul : path.hasNul = false)
    (resolved : h.files.tree.resolve h.files.owner h.files.current true path = .error e) :
    Ends (load path) h (fun _ _ => False) fun f _ => f = .refused (.fileAccess path
      ("Cannot read password file " ++ path.text ++ ": " ++ e.message)) := by
  simp only [load, ends_bind, Run.ends_filesOr, ends_readFile_of_error faultless noNul resolved]
  rfl

/-! ## Written and read -/

/-- A file of two passwords at a place that a path names: eight bytes for each, the first of which
depend on the first password alone. -/
structure Holds (first : Bytes) (second : Option Bytes) (path : Path) (h h' : Host) (l : Location) :
    Prop where
  names : h.files.Names path l
  entry : ∃ content, h'.files.tree.lookup l = some (.file 0o600 h.files.owner content) ∧
    content.length = (if second.getD [] = [] then 8 else 16) ∧ content.take 8 = slot first

/-- The passwords are read as they were written, if the path does not lead through the link that
was replaced. If it does, the file is not found. -/
theorem load_persisted (primary : Buffer) (secondary : Option Buffer) (path : Path) (h h' : Host)
    (wf : h.files.tree.WellFormed) (readable : ∀ f ∈ h.files.faults, f.call ≠ .readFile)
    (written : (persist primary secondary path).run h = (.ok (), h')) :
    ∃ l, Holds (h.memory.contents primary) (secondary.map h.memory.contents) path h h' l ∧
      (h.files.Direct path l → ∃ p h'', (load path).run h' = (.ok p, h'') ∧
        Restored (h.memory.contents primary) (secondary.map h.memory.contents) h'' p) ∧
      (¬ h.files.Direct path l → (∃ target, h.files.tree.lookup l = some (.link target)) ∧
        ∃ h'', (load path).run h' = (.error (.refused (.fileAccess path
          ("Cannot read password file " ++ path.text ++ ": " ++ "Not a directory"))), h'')) := by
  obtain ⟨l, content, console, encoded, names, rfl⟩ :=
    (ends_persist primary secondary path wf).of_ok written
  obtain ⟨short, slots⟩ := slots_of_encode encoded
  have found := Tree.lookup_put_self (t := h.files.tree)
    (e := .file mode h.files.owner content) names.ne_nil
  let after := h.files.after (h.files.tree.put l (.file mode h.files.owner content)) replacing
  have faultless : after.faultAt .readFile = none := faultAt_eq_none readable
  have noNul := names.usable.noNul
  refine ⟨l, ⟨names, content, found, slots.length, slots.take⟩, fun direct => ?_, fun crooked => ?_⟩
  · have load := ends_load (h := { h with console, files := after }) faultless noNul
      direct.resolve_put short slots
    exact load.returns
  · obtain ⟨link, dead⟩ := names.not_direct wf crooked
    have load := ends_load_of_error (h := { h with console, files := after }) faultless noNul
      (dead mode h.files.owner content)
    obtain ⟨_, h'', run, rfl⟩ := load.fails
    exact ⟨link, h'', run⟩

/-- The second password is zeros only. -/
def plainHost : Host where
  files := { tree := { entries := [([[100]], .directory 0o700 0), ([[100], [112]], .link [113])] }
             current := [[100]] }
  memory := { cells := [[115, 101, 99, 114, 101, 116, 0], [0, 0]]
              holdings := [⟨some ⟨0⟩, none⟩, ⟨some ⟨1⟩, none⟩] }

theorem load_persisted_plain :
    ∃ h' l, (persist ⟨0⟩ (some ⟨1⟩) (.ofText "p")).run plainHost = (.ok (), h') ∧
      Holds [115, 101, 99, 114, 101, 116, 0] (some [0, 0]) (.ofText "p") plainHost h' l := by
  have returns : ((persist ⟨0⟩ (some ⟨1⟩) (.ofText "p")).run plainHost).1.isOk = true := by
    decide +kernel
  rcases written : (persist ⟨0⟩ (some ⟨1⟩) (.ofText "p")).run plainHost with ⟨_ | _, h'⟩
  · rw [written] at returns
    cases returns
  · obtain ⟨l, holds, -⟩ := load_persisted ⟨0⟩ (some ⟨1⟩) (.ofText "p") plainHost h' (by decide)
      (by decide) written
    exact ⟨h', l, rfl, holds⟩

/-- A link that leads to its own directory is followed first, and then replaced. -/
def loopHost : Host where
  files := { tree := { entries := [([[76]], .link [46])] }, current := [] }
  memory := { cells := [[115, 101, 99, 114, 101, 116, 49]], holdings := [⟨some ⟨0⟩, none⟩] }

theorem load_persisted_loop :
    ((persist ⟨0⟩ none (.ofText "L/L")).run loopHost).1.isOk = true ∧
      ((load (.ofText "L/L")).run ((persist ⟨0⟩ none (.ofText "L/L")).run loopHost).2).1.isOk =
        false := by
  decide +kernel

end VncAccess.Password.File
