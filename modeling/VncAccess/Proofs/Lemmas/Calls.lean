import VncAccess.Proofs.Lemmas.Ending
import VncAccess.Proofs.Lemmas.Ways

/-!
# How system calls end

A call is counted first. What it changes in the tree, it changes only when it is carried out.
-/

namespace VncAccess

/-- A path that the system takes and that has a last name. -/
structure Path.Usable (p : Path) : Prop where
  noNul : p.hasNul = false
  named : p.names ≠ []

namespace FileSystem

def counted (fs : FileSystem) (call : Call) : FileSystem := { fs with calls := fs.calls ++ [call] }

/-- A path names a place where no directory is: the last name is not followed if it is a link. -/
inductive Names (fs : FileSystem) (p : Path) : Location → Prop where
  | free {l : Location} : p.Usable →
      fs.tree.resolve fs.owner fs.current false p = .ok (.free l) → Names fs p l
  | taken {l : Location} {e : Entry} : p.Usable →
      fs.tree.resolve fs.owner fs.current false p = .ok (.taken l e) →
      (∀ mode owner, e ≠ .directory mode owner) → Names fs p l

/-- A free name for a temporary file, in the directory that a path spells. -/
structure Temporary (fs : FileSystem) (directory : Path) (l : Location) : Prop where
  free : fs.tree.lookup l = none
  named : ∃ n, l.getLast? = some (temporaryName n)
  parent : ∃ mode owner,
    fs.tree.walk fs.owner true Tree.linkLimit [] (spelledLocation fs.current directory) =
      .ok (.taken l.dropLast (.directory mode owner))

/-- Some call to remove a file is set to fail. -/
def Retains (fs : FileSystem) : Prop := ∃ fault ∈ fs.faults, fault.call = .unlink

/-- The caller may read a file with this content under the path. -/
structure Reads (fs : FileSystem) (path : Path) (content : Bytes) : Prop where
  noNul : path.hasNul = false
  file : ∃ l mode owner,
    fs.tree.resolve fs.owner fs.current true path = .ok (.taken l (.file mode owner content)) ∧
      (Entry.file mode owner content).permits fs.owner .read = true

variable {fs : FileSystem} {α : Type} {ok : α → FileSystem → Prop}
  {bad : CallError → FileSystem → Prop}

@[simp] theorem ends_fail {e : Errno} :
    Ends (FileCall.fail e : FileCall α) fs ok bad ↔ bad (.errno e) fs := Iff.rfl

@[simp] theorem ends_ofExcept {r : Except Errno α} :
    Ends (FileCall.ofExcept r) fs ok bad ↔
      match r with
      | .ok a => ok a fs
      | .error e => bad (.errno e) fs := by
  cases r <;> rfl

theorem faultAt_eq_none {call : Call} (h : ∀ f ∈ fs.faults, f.call ≠ call) :
    fs.faultAt call = none := by
  rw [faultAt, Option.map_eq_none_iff, List.find?_eq_none]
  intro f hf found
  exact h f hf (of_decide_eq_true found).1

theorem mem_of_faultAt {call : Call} {e : Errno} (h : fs.faultAt call = some e) :
    ∃ fault ∈ fs.faults, fault.call = call ∧ fault.errno = e := by
  rw [faultAt, Option.map_eq_some_iff] at h
  obtain ⟨fault, found, rfl⟩ := h
  have fits := List.find?_some found
  exact ⟨fault, List.mem_of_find?_eq_some found, (of_decide_eq_true fits).1, rfl⟩

theorem ends_enter {call : Call} {ok : Unit → FileSystem → Prop} :
    Ends (enter call) fs ok bad ↔
      match fs.faultAt call with
      | some e => bad (.errno e) (fs.counted call)
      | none => ok () (fs.counted call) := by
  simp only [enter, ends_bind, ends_get, ends_set]
  cases fs.faultAt call <;> rfl

theorem ends_locate {followLast : Bool} {p : Path} {ok : Tree.Spot → FileSystem → Prop} :
    Ends (locate followLast p) fs ok bad ↔
      if p.hasNul then bad .embeddedNul fs
      else match fs.tree.resolve fs.owner fs.current followLast p with
        | .ok s => ok s fs
        | .error e => bad (.errno e) fs := by
  cases hp : p.hasNul
  · simp only [locate, hp, ends_bind, ends_get, ends_ofExcept, Bool.false_eq_true, ↓reduceIte]
    cases fs.tree.resolve fs.owner fs.current followLast p <;> rfl
  · simp [locate, hp]

@[simp] theorem ends_demand {p : Permission} {l : Location} {ok : Unit → FileSystem → Prop} :
    Ends (demand p l) fs ok bad ↔
      if fs.tree.permits fs.owner p l then ok () fs else bad (.errno .accessDenied) fs := by
  cases hp : fs.tree.permits fs.owner p l <;> simp [demand, hp]

@[simp] theorem ends_modifyTree {f : Tree → Tree} {ok : Unit → FileSystem → Prop} :
    Ends (modifyTree f) fs ok bad ↔ ok () { fs with tree := f fs.tree } := Iff.rfl

theorem resolve_eq_ok_iff {t : Tree} {user : Int} {current : Location} {followLast : Bool}
    {p : Path} {s : Tree.Spot} :
    t.resolve user current followLast p = .ok s ↔
      p.text.toBytes.length ≤ Tree.pathLimit ∧
        t.Leads user followLast Tree.linkLimit (Tree.startOf current p)
          (p.names.map Text.toBytes) s := by
  rw [← Tree.walk_eq_ok_iff, Tree.resolve]
  split
  · next long => simp [Nat.not_le.mpr long]
  · next short => simp [Nat.le_of_not_lt short]

theorem leads_of_resolve {followLast : Bool} {p : Path} {s : Tree.Spot}
    (h : fs.tree.resolve fs.owner fs.current followLast p = .ok s) :
    fs.tree.Leads fs.owner followLast Tree.linkLimit (Tree.startOf fs.current p)
      (p.names.map Text.toBytes) s :=
  (resolve_eq_ok_iff.mp h).2

namespace Names

variable {p : Path} {l : Location}

theorem isDirectory_eq_false (h : fs.Names p l) : fs.tree.isDirectory l = false := by
  cases h with
  | free _ resolved => exact Tree.isDirectory_of_free (leads_of_resolve resolved).lookup_free.1
  | taken _ resolved notDir =>
      exact Tree.isDirectory_of_lookup (leads_of_resolve resolved).lookup_taken notDir

theorem usable (h : fs.Names p l) : p.Usable := by
  cases h with
  | free usable | taken usable => exact usable

theorem ne_nil (h : fs.Names p l) : l ≠ [] := by
  rintro rfl
  cases h.isDirectory_eq_false

theorem of_calls {calls : List Call} (h : { fs with calls }.Names p l) : fs.Names p l := by
  cases h with
  | free usable resolved => exact .free usable resolved
  | taken usable resolved notDir => exact .taken usable resolved notDir

end Names

/-! ## The calls that look at a file and read it -/

theorem ends_stat {p : Path} {ok : Status → FileSystem → Prop} (faultless : fs.faultAt .stat = none)
    (noNul : p.hasNul = false) {l : Location} {e : Entry}
    (resolved : fs.tree.resolve fs.owner fs.current true p = .ok (.taken l e)) :
    Ends (stat p) fs ok bad ↔ ok e.status (fs.counted .stat) := by
  simp only [stat, entryAt, ends_bind, ends_enter, faultless, ends_locate, noNul]
  simp [counted, resolved]

section Reading

variable {p : Path} {ok : Bytes → FileSystem → Prop}

theorem ends_readFile (faultless : fs.faultAt .readFile = none) (noNul : p.hasNul = false)
    {l : Location} {mode : Nat} {owner : Int} {content : Bytes}
    (resolved :
      fs.tree.resolve fs.owner fs.current true p = .ok (.taken l (.file mode owner content)))
    (permitted : (Entry.file mode owner content).permits fs.owner .read = true) :
    Ends (readFile p) fs ok bad ↔ ok content (fs.counted .readFile) := by
  simp only [readFile, entryAt, ends_bind, ends_enter, faultless, ends_locate, noNul]
  simp [counted, resolved, permitted]

theorem ends_readFile_of_error {e : Errno} (faultless : fs.faultAt .readFile = none)
    (noNul : p.hasNul = false) (resolved : fs.tree.resolve fs.owner fs.current true p = .error e) :
    Ends (readFile p) fs ok bad ↔ bad (.errno e) (fs.counted .readFile) := by
  simp only [readFile, entryAt, ends_bind, ends_enter, faultless, ends_locate, noNul]
  simp [counted, resolved]

end Reading

/-! ## The calls that write a file -/

/-- A new entry is no more open than it was asked to be. -/
theorem masked_closed {mode : Nat} (closed : mode % 0o100 = 0) : fs.masked mode % 0o100 = 0 :=
  calc fs.masked mode % 0o100
    _ = (mode % 0o100) ^^^ ((mode &&& fs.umask) % 0o100) := Nat.xor_mod_two_pow (n := 6)
    _ = (mode % 0o100) ^^^ ((mode % 0o100) &&& (fs.umask % 0o100)) :=
        congrArg _ (Nat.and_mod_two_pow (n := 6))
    _ = 0 := by rw [closed, Nat.zero_and, Nat.xor_self]

theorem masked_lt {mode : Nat} (small : mode < 0o1000) : fs.masked mode < 0o1000 :=
  Nat.xor_lt_two_pow (n := 9) small (Nat.lt_of_le_of_lt Nat.and_le_left small)

theorem freshName_eq {t : Tree} {directory l : Location} (h : freshName t directory = some l) :
    t.lookup l = none ∧ ∃ n, l = directory ++ [temporaryName n] := by
  have free := List.find?_some h
  obtain ⟨n, -, rfl⟩ := List.mem_map.mp (List.mem_of_find?_eq_some h)
  exact ⟨Option.isNone_iff_eq_none.mp free, n, rfl⟩

theorem ends_createTemporary {directory : Path} :
    Ends (createTemporary directory) fs
      (fun temporary fs' => fs.Temporary directory temporary ∧
        fs' = { fs.counted .create with
          tree := fs.tree.put temporary (.file (fs.masked 0o600) fs.owner []) })
      (fun _ fs' => fs' = fs.counted .create) := by
  simp only [createTemporary, ends_bind, ends_enter]
  split
  · simp
  simp only [ends_get]
  split
  · simp
  split
  · simp
  simp only [ends_bind, ends_ofExcept]
  split
  · next s walk =>
      split
      · next l mode owner =>
          simp only [ends_bind, ends_demand]
          split
          · split
            · split
              · next temporary fresh =>
                  obtain ⟨free, n, rfl⟩ := freshName_eq fresh
                  refine ⟨⟨free, ⟨n, List.getLast?_concat⟩, mode, owner, ?_⟩, rfl⟩
                  rw [List.dropLast_concat]
                  exact walk
              · simp
            · simp
          · simp
      · simp
      · simp
  · simp

theorem ends_changeMode {l : Location} {mode mode' : Nat} {owner : Int} {content : Bytes}
    (found : fs.tree.lookup l = some (.file mode' owner content)) :
    Ends (changeMode l mode) fs
      (fun _ fs' => fs' = { fs.counted .changeMode with
        tree := fs.tree.put l (.file mode owner content) })
      (fun _ fs' => fs' = fs.counted .changeMode) := by
  simp only [changeMode, ends_bind, ends_enter]
  split
  · simp
  · simp [counted, found]

theorem ends_write {l : Location} {mode : Nat} {owner : Int} {content content' : Bytes}
    (found : fs.tree.lookup l = some (.file mode owner content')) :
    Ends (write l content) fs
      (fun _ fs' => fs' = { fs.counted .write with
        tree := fs.tree.put l (.file mode owner content) })
      (fun _ fs' => fs' = fs.counted .write) := by
  simp only [write, ends_bind, ends_enter]
  split
  · simp
  · simp [counted, found]

theorem ends_rename {source : Location} {p : Path} :
    Ends (rename source p) fs
      (fun _ fs' => ∃ l, fs.Names p l ∧
        fs' = { fs.counted .rename with tree := fs.tree.move source l })
      (fun _ fs' => fs' = fs.counted .rename) := by
  simp only [rename, ends_bind, ends_enter, ends_locate]
  split
  · simp
  split
  · simp
  next noNul =>
  split
  · next s resolved =>
      split
      · simp
      next named =>
      have usable : p.Usable := by
        refine ⟨by simpa using noNul, fun none => ?_⟩
        simp [endsInName, none] at named
      split
      · next target e =>
          split
          · simp
          simp only [ends_bind, ends_demand]
          split
          · split
            · simp
            · next notDir =>
                exact ⟨target, .taken usable resolved notDir, rfl⟩
          · simp
      · next target =>
          simp only [ends_bind, ends_demand]
          split
          · exact ⟨target, .free usable resolved, rfl⟩
          · simp
  · simp

/-- Whatever keeps a file from being removed is set to do so, unless the file is missing. -/
theorem ends_unlink {l : Location} :
    Ends (unlink l) fs
      (fun _ fs' => fs' = { fs.counted .unlink with tree := fs.tree.erase l })
      (fun e fs' => fs' = fs.counted .unlink ∧ (e = .errno .noEntry ∧ fs.tree.lookup l = none ∨
        ∃ fault ∈ fs.faults, fault.call = .unlink ∧ e = .errno fault.errno)) := by
  rw [unlink, ends_bind, ends_enter]
  split
  · next e fails =>
      obtain ⟨fault, set, isUnlink, rfl⟩ := mem_of_faultAt fails
      exact ⟨rfl, .inr ⟨fault, set, isUnlink, rfl⟩⟩
  rw [ends_bind, ends_get]
  split
  · next missing => exact ⟨rfl, .inl ⟨rfl, Option.isNone_iff_eq_none.mp missing⟩⟩
  · rfl

end FileSystem
end VncAccess
