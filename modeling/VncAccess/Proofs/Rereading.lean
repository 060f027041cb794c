import VncAccess.Proofs.Lemmas.Looking
import VncAccess.Proofs.RoundTrip

/-!
# What was read is written again

A file of at least one slot is read as passwords, whatever its bytes are. These passwords are
written as the slots that they were read from, and read again as the same passwords.
-/

namespace VncAccess.Password.File

open Secret FileSystem

variable {h h' : Host} {path : Path} {content first : Bytes} {second : Option Bytes} {p : Pair}

/-! ## Passwords without zeros at the end -/

/-- The passwords end in no zeros, and the second one is not empty. -/
structure Stripped (first : Bytes) (second : Option Bytes) : Prop where
  first : trimZeros first = first
  second : ∀ s ∈ second, trimZeros s = s ∧ s ≠ []

theorem stripped_of_decoded (decoded : Decoded content first second) :
    Stripped first (second.filter (· ≠ [])) := by
  cases decoded with
  | one _ fills => exact ⟨fills.trimmed, nofun⟩
  | two _ fills fills₂ =>
      refine ⟨fills.trimmed, fun s hs => ?_⟩
      obtain ⟨same, filled⟩ := Option.filter_eq_some_iff.mp hs
      cases same
      exact ⟨fills₂.trimmed, by simpa using filled⟩

theorem length_of_decoded (decoded : Decoded content first second) : first.length ≤ 8 := by
  cases decoded with
  | one _ fills | two _ fills => exact fills.short

/-- Nothing of such passwords is lost. -/
theorem Restored.same (restored : Restored first second h p) (stripped : Stripped first second) :
    h.memory.contents p.primary = first ∧ p.viewOnly.map h.memory.contents = second := by
  refine ⟨restored.primary.trans stripped.first, ?_⟩
  cases second with
  | none => rw [restored.absent.mpr nofun, Option.map_none]
  | some s =>
      obtain ⟨trimmed, filled⟩ := stripped.second s rfl
      cases found : p.viewOnly with
      | none =>
          have zeros := restored.absent.mp found s rfl
          exact absurd (trimmed.symm.trans ((trimZeros_eq_nil_iff s).mpr zeros)) filled
      | some b =>
          obtain ⟨_, ⟨⟩, read⟩ := restored.viewOnly b found
          rw [Option.map_some, read, trimmed]

/-! ## Reading -/

theorem ends_load_of_reads (reads : h.files.Reads path content)
    (faultless : h.files.faultAt .readFile = none) :
    Ends (load path) h
      (fun p h' => 8 ≤ content.length ∧ ∃ first second, Decoded content first second ∧
        h.memory.PairInUse h'.memory [] p first (second.filter (· ≠ [])))
      (fun f _ => content.length < 8 ∧ f = .refused (.fileAccess path
        ("Password file " ++ path.text ++ " is too short"))) := by
  obtain ⟨l, mode, owner, resolved, permitted⟩ := reads.file
  simp only [load, ends_bind, Run.ends_filesOr,
    ends_readFile faultless reads.noNul resolved permitted]
  by_cases short : content.length < slotLength
  · rw [if_pos short]
    exact ⟨short, rfl⟩
  · have long : 8 ≤ content.length := Nat.le_of_not_lt short
    obtain ⟨first, second, decode, decoded⟩ := exists_decoded long
    rw [if_neg short, ends_bind, Run.ends_ofValue, decode]
    exact ends_holdPair.imp (fun p h' use => ⟨long, first, second, decoded, use⟩)
      fun _ _ => False.elim

theorem keeps_load {γ : Type} {p : Host → γ}
    (hcalls : ∀ (h : Host) calls, p { h with files := { h.files with calls } } = p h)
    (hm : ∀ h memory, p { h with memory } = p h) : Keeps p (load path) := by
  refine (Run.keeps_filesOr_of_looks hcalls looks_readFile).bind fun content => ?_
  exact .ite keeps_throw_bind (Run.keeps_ofValue.bind fun _ h => hm h _)

/-- Reading changes nothing of the files but how often the system was called. -/
theorem files_of_load {r : Except Failure Pair} (run : (load path).run h = (r, h')) :
    ∃ calls, h'.files = { h.files with calls } := by
  have keeps : Keeps (fun h => { h.files with calls := [] }) (load path) :=
    keeps_load (fun _ _ => rfl) fun _ _ => rfl
  have same := keeps.run h
  rw [run] at same
  exact ⟨h'.files.calls, congrArg (fun fs => { fs with calls := h'.files.calls }) same⟩

/-! ## Writing -/

/-- A file with the content, for its owner alone, stands where the path leads. -/
structure Placed (path : Path) (content : Bytes) (h h' : Host) (l : Location) : Prop where
  names : h.files.Names path l
  entry : h'.files.tree.lookup l = some (.file 0o600 h.files.owner content)

theorem wellFormed_of_names {l : Location} (wf : h.files.tree.WellFormed)
    (names : h.files.Names path l) (content : Bytes) :
    (h.files.tree.put l (.file mode h.files.owner content)).WellFormed := by
  have parent : h.files.tree.isDirectory l.dropLast = true := by
    cases names with
    | free _ resolved => exact (leads_of_resolve resolved).lookup_free.2
    | taken _ resolved => exact wf.dropLast (leads_of_resolve resolved).lookup_taken
  refine wf.put parent ?_ names.isDirectory_eq_false
  show mode < 0o10000
  decide

theorem placed_of_persist {primary : Buffer} {secondary : Option Buffer}
    (wf : h.files.tree.WellFormed) (encoded : h.memory.encode primary secondary = .ok content)
    (written : (persist primary secondary path).run h = (.ok (), h')) :
    ∃ l, Placed path content h h' l := by
  obtain ⟨l, _, _, encoded', names, rfl⟩ := (ends_persist primary secondary path wf).of_ok written
  cases encoded.symm.trans encoded'
  exact ⟨l, names, Tree.lookup_put_self names.ne_nil⟩

/-- What is done once the passwords are encoded. -/
theorem persist_run {primary : Buffer} {secondary : Option Buffer}
    (encoded : h.memory.encode primary secondary = .ok content) :
    (persist primary secondary path).run h = (do
      replace path content
      Run.log "vncpasswd.store" ("Wrote " ++ Decimal.natural (content.length / slotLength) ++
        " password slot(s) to " ++ path.text)).run h := by
  show (Run.ofValue (h.memory.encode primary secondary) >>= fun content => _).run h = _
  rw [encoded]
  rfl

/-! ## Read, written and read again -/

/-- Both pairs hold the same passwords. -/
structure SamePasswords (p : Pair) (m : Memory) (p' : Pair) (m' : Memory) : Prop where
  primary : m'.contents p'.primary = m.contents p.primary
  viewOnly : p'.viewOnly.map m'.contents = p.viewOnly.map m.contents

theorem SamePasswords.encode {p' : Pair} {m m' : Memory} (same : SamePasswords p m p' m') :
    m'.encode p'.primary p'.viewOnly = m.encode p.primary p.viewOnly := by
  rw [Memory.encode, Memory.encode, same.primary, same.viewOnly]

/-- The passwords of a pair are read under the path, and they are written as this content to
whatever path. -/
def Reread (path : Path) (content : Bytes) (p : Pair) (m : Memory) (h : Host) : Prop :=
  ∃ p' h', (load path).run h = (.ok p', h') ∧ SamePasswords p m p' h'.memory ∧
    ∀ path' h'', (persist p'.primary p'.viewOnly path').run h' = (.ok (), h'') →
      ∃ l, Placed path' content h' h'' l

/-- What becomes of a pair that was read from a file with this content. -/
structure Reproduced (path : Path) (content : Bytes) (p : Pair) (h : Host) : Prop where
  short : (h.memory.contents p.primary).length ≤ 8
  encoded : h.memory.encode p.primary p.viewOnly = .ok (kept content)
  persisted : ∀ path' h', (persist p.primary p.viewOnly path').run h = (.ok (), h') →
    ∃ l, Placed path' (kept content) h h' l ∧
      (h.files.Direct path' l → Reread path' (kept content) p h.memory h') ∧
      (¬ h.files.Direct path' l → (∃ target, h.files.tree.lookup l = some (.link target)) ∧
        ∃ h'', (load path').run h' = (.error (.refused (.fileAccess path'
          ("Cannot read password file " ++ path'.text ++ ": " ++ "Not a directory"))), h'')) ∧
      (path' = path → h.files.Direct path' l)

/-- Passwords without zeros at the end are read as they were written, if the path does not lead
through the link that was replaced. If it does, the file is not found. -/
theorem reread_of_persist (wf : h.files.tree.WellFormed)
    (readable : ∀ f ∈ h.files.faults, f.call ≠ .readFile)
    (stripped : Stripped (h.memory.contents p.primary) (p.viewOnly.map h.memory.contents))
    (encoded : h.memory.encode p.primary p.viewOnly = .ok content)
    (written : (persist p.primary p.viewOnly path).run h = (.ok (), h')) :
    ∃ l, Placed path content h h' l ∧
      (h.files.Direct path l → Reread path content p h.memory h') ∧
      (¬ h.files.Direct path l → (∃ target, h.files.tree.lookup l = some (.link target)) ∧
        ∃ h'', (load path).run h' = (.error (.refused (.fileAccess path
          ("Cannot read password file " ++ path.text ++ ": " ++ "Not a directory"))), h'')) := by
  obtain ⟨l, content', console, encoded', names, rfl⟩ :=
    (ends_persist p.primary p.viewOnly path wf).of_ok written
  cases encoded.symm.trans encoded'
  obtain ⟨short, slots⟩ := slots_of_encode encoded
  have wf' := wellFormed_of_names wf names content
  let after := h.files.after (h.files.tree.put l (.file mode h.files.owner content)) replacing
  have faultless : after.faultAt .readFile = none := faultAt_eq_none readable
  refine ⟨l, ⟨names, Tree.lookup_put_self names.ne_nil⟩, fun direct => ?_, fun crooked => ?_⟩
  · have ends := ends_load (h := { h with console, files := after }) faultless names.usable.noNul
      direct.resolve_put short slots
    obtain ⟨p', h', run, restored⟩ := ends.returns
    obtain ⟨primary, viewOnly⟩ := restored.same stripped
    have same : SamePasswords p h.memory p' h'.memory := ⟨primary, viewOnly⟩
    obtain ⟨calls, files⟩ := files_of_load run
    have wf₁ : h'.files.tree.WellFormed := files ▸ wf'
    refine ⟨p', h', run, same, fun path' h'' again => ?_⟩
    exact placed_of_persist wf₁ (same.encode.trans encoded) again
  · obtain ⟨link, dead⟩ := names.not_direct wf crooked
    have ends := ends_load_of_error (h := { h with console, files := after }) faultless
      names.usable.noNul (dead mode h.files.owner content)
    obtain ⟨_, h'', run, rfl⟩ := ends.fails
    exact ⟨link, h'', run⟩

/-- A file of fewer bytes than one slot is refused. Any other is read as passwords that are written
as the slots in it and read again as the same passwords. Only a path that leads through the link at
its own end keeps them from being found, and that is never the path that they were read from. -/
theorem load_reproduced (path : Path) (h : Host) (content : Bytes) (wf : h.files.tree.WellFormed)
    (reads : h.files.Reads path content) (readable : ∀ f ∈ h.files.faults, f.call ≠ .readFile) :
    (content.length < 8 → ∃ h', (load path).run h = (.error (.refused (.fileAccess path
      ("Password file " ++ path.text ++ " is too short"))), h')) ∧
    (8 ≤ content.length → ∃ p h', (load path).run h = (.ok p, h') ∧
      Reproduced path content p h') := by
  have ends := ends_load_of_reads reads (faultAt_eq_none readable)
  rcases run : (load path).run h with ⟨f | p, h'⟩
  · obtain ⟨short, rfl⟩ := ends.of_error run
    exact ⟨fun _ => ⟨h', rfl⟩, fun long => by omega⟩
  · obtain ⟨long, first, second, decoded, use⟩ := ends.of_ok run
    refine ⟨fun short => by omega, fun _ => ⟨p, h', rfl, ?_⟩⟩
    have stripped := stripped_of_decoded decoded
    rw [← use.primary, ← use.viewOnly] at stripped
    have encoded := use.encode.trans decoded.encode
    obtain ⟨calls, files⟩ := files_of_load run
    have wf' : h'.files.tree.WellFormed := files ▸ wf
    have readable' : ∀ f ∈ h'.files.faults, f.call ≠ .readFile := files ▸ readable
    refine ⟨use.primary ▸ length_of_decoded decoded, encoded, fun path' h'' written => ?_⟩
    obtain ⟨l, placed, direct, crooked⟩ :=
      reread_of_persist wf' readable' stripped encoded written
    refine ⟨l, placed, direct, crooked, ?_⟩
    rintro rfl
    obtain ⟨f, fileMode, owner, resolved, -⟩ := reads.file
    have resolved' : h'.files.tree.resolve h'.files.owner h'.files.current true path' =
        .ok (.taken f (.file fileMode owner content)) := by
      rw [files]
      exact resolved
    exact placed.names.direct_of_file wf' resolved'

/-- Behind the second slot is part of another. -/
def longContent : Bytes := (List.range 20).map .ofNat

def longHost : Host where
  files := { tree := { entries := [([[102]], .file 0o600 0 longContent)] }, current := [] }

theorem load_reproduced_long :
    ∃ p h', (load (.ofText "f")).run longHost = (.ok p, h') ∧
      Reproduced (.ofText "f") longContent p h' := by
  have resolved : longHost.files.tree.resolve 0 [] true (.ofText "f") =
      .ok (.taken [[102]] (.file 0o600 0 longContent)) := by decide +kernel
  have reads : longHost.files.Reads (.ofText "f") longContent :=
    ⟨by decide, _, _, _, resolved, by decide⟩
  exact (load_reproduced (.ofText "f") longHost longContent (by decide) reads nofun).2 (by decide)

/-- A link that leads to its own directory, and a file beside it. -/
def crookedHost : Host where
  files := {
    tree := {
      entries := [([[76]], .link [46]),
        ([[102]], .file 0o600 0 [180, 171, 158, 140, 78, 0, 86, 7])] }
    current := [] }

/-- What was read from the file is not found again under the path through the link. -/
theorem reread_crooked :
    ((load (.ofText "f")).run crookedHost).1.toOption = some ⟨⟨0⟩, none⟩ ∧
      ((persist ⟨0⟩ none (.ofText "L/L")).run ((load (.ofText "f")).run crookedHost).2).1.isOk =
        true ∧
      ((load (.ofText "L/L")).run ((persist ⟨0⟩ none (.ofText "L/L")).run
        ((load (.ofText "f")).run crookedHost).2).2).1.isOk = false := by
  have read : ((load (.ofText "f")).run crookedHost).1.toOption = some ⟨⟨0⟩, none⟩ := by
    decide +kernel
  refine ⟨read, ?_⟩
  have reads : crookedHost.files.Reads (.ofText "f") [180, 171, 158, 140, 78, 0, 86, 7] :=
    ⟨by decide, [[102]], 0o600, 0, by decide +kernel, by decide⟩
  have ends := ends_load_of_reads reads rfl
  rcases run : (load (.ofText "f")).run crookedHost with ⟨f | p, h⟩
  · rw [run] at read
    cases read
  · rw [run] at read
    cases read
    obtain ⟨-, _, _, decoded, use⟩ := ends.of_ok run
    have host : h = ((load (.ofText "f")).run crookedHost).2 := by rw [run]
    -- What is written does not matter here, so that nothing is ever decrypted.
    rw [persist_run (use.encode.trans decoded.encode), host]
    decide +kernel

end VncAccess.Password.File
