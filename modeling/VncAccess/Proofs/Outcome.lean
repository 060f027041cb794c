import VncAccess.Proofs.Lemmas.Writing

/-!
# What a command for a password file leaves

A command that ends with status zero has written the file that it says it has written. One that ends
in any other way leaves the files as they were, but for a directory that may be new and empty, and
for a temporary file where the system does not remove it.
-/

namespace VncAccess

open Secret FileSystem

/-! ## From the words to the request -/

theorem eq_ok_of_bind {ε α β : Type} {x : Except ε α} {f : α → Except ε β} {b : β}
    (done : x >>= f = .ok b) : ∃ a, x = .ok a ∧ f a = .ok b := by
  cases x with
  | error e => cases done
  | ok a => exact ⟨a, rfl, done⟩

namespace Invocation

variable {environment : List (Text × Text)} {r : Request} {i : Invocation}

theorem mode_of_oneTimeFor (asked : oneTimeFor r = .ok i) :
    i.mode = .oneTime ∨ i.mode = .clearOneTime := by
  unfold oneTimeFor at asked
  repeat' split at asked
  all_goals cases asked
  · exact .inr rfl
  · exact .inl rfl

theorem mode_of_accessListFor (asked : accessListFor r = .ok i) : i.mode = .accessList := by
  unfold accessListFor at asked
  repeat' split at asked
  all_goals cases asked
  rfl

/-- A request that talks to no server asks for the same whatever the display. -/
theorem ofRequest_display (asked : ofRequest environment r = .ok i)
    (hi : i.mode = .file ∨ i.mode = .temporary ∨ i.mode = .stream) (display : Option Text) :
    ofRequest environment { r with display } = .ok i := by
  unfold ofRequest at asked ⊢
  dsimp only
  split at asked
  · cases asked
  next compatible =>
  rw [if_neg compatible]
  split at asked
  · rcases mode_of_oneTimeFor asked with hm | hm <;> rw [hm] at hi <;> simp at hi
  next repeated =>
  rw [if_neg repeated]
  split at asked
  · rw [mode_of_accessListFor asked] at hi
    simp at hi
  next nobody =>
  rw [if_neg nobody]
  exact asked

/-- What a request may ask for that talks to no server. -/
inductive Chosen (environment : List (Text × Text)) (r : Request) : Invocation → Prop where
  | stream : Chosen environment r { mode := .stream, viewOnly := r.viewOnly }
  | named {name : Text} : r.file = some name →
      Chosen environment r
        { mode := .file, viewOnly := r.viewOnly, file := some (.ofText name) }
  | temporary {directory : Path} : temporaryDirectory environment = .ok directory →
      Chosen environment r (fileIn .temporary r directory)
  | default {directory : Path} : defaultDirectory environment = .ok directory →
      Chosen environment r (fileIn .file r directory)

theorem chosen_of_ofRequest (asked : ofRequest environment r = .ok i)
    (hi : i.mode = .file ∨ i.mode = .temporary ∨ i.mode = .stream) :
    Chosen environment r i := by
  unfold ofRequest at asked
  split at asked
  · cases asked
  split at asked
  · rcases mode_of_oneTimeFor asked with hm | hm <;> rw [hm] at hi <;> simp at hi
  split at asked
  · rw [mode_of_accessListFor asked] at hi
    simp at hi
  split at asked
  · unfold streamFor at asked
    repeat' split at asked
    all_goals cases asked
    exact .stream
  split at asked
  · next name named =>
      unfold namedFileFor at asked
      repeat' split at asked
      all_goals cases asked
      exact .named named
  split at asked
  · obtain ⟨directory, found, ⟨⟩⟩ := eq_ok_of_bind asked
    exact .temporary found
  · obtain ⟨directory, found, ⟨⟩⟩ := eq_ok_of_bind asked
    exact .default found

/-- The directory for temporary files must be closed to others. -/
theorem strict_of_temporary (asked : ofRequest environment r = .ok i)
    (temporary : i.mode = .temporary) : i.strict = true := by
  cases chosen_of_ofRequest asked (.inr (.inl temporary)) with
  | stream | named | default => cases temporary
  | temporary => rfl

end Invocation

namespace Command

/-- The words ask for an invocation, with the variables of a host. -/
def Asks (words : List Text) (h : Host) (i : Invocation) : Prop :=
  ∃ o rest o', CommandLine.parse words = .ok (.carryOut o rest) ∧ o.withRest rest = .ok o' ∧
    Invocation.ofRequest h.environment o'.request = .ok i

variable {i : Invocation} {h h₁ : Host}

def Wrote (i : Invocation) (h h' : Host) : Prop :=
  ∃ place l first second content, Written i h h' place l first second content

/-- Status zero stands for a file that was written, and any other for a request that stopped. -/
structure Settled (i : Invocation) (h : Host) (status : Nat) (h' : Host) : Prop where
  wrote : status = 0 → Wrote i h h'
  stopped : status ≠ 0 → Stopped i h.files h'.files.tree

theorem Settled.succeeded {h' : Host} (wrote : Wrote i h h') : Settled i h 0 h' where
  wrote _ := wrote
  stopped other := absurd rfl other

theorem Settled.failed {h' : Host} (stopped : Stopped i h.files h'.files.tree) :
    Settled i h 1 h' where
  wrote zero := absurd zero Nat.one_ne_zero
  stopped _ := stopped

theorem becomes_toned {t : Tree} {off : Prop} [Decidable off] (becomes : h.Becomes t h₁) :
    h.Becomes t (if off then setConsole withoutColour h₁ else h₁) := by
  split
  · exact becomes.said _
  · exact becomes

theorem ends_reportRefusal {e : AccessError} :
    Ends (reportRefusal e) h (fun _ h' => ∃ console, h' = { h with console })
      (fun _ _ => False) := by
  simp only [reportRefusal, Run.sayError, ends_bind, Run.ends_say]
  split
  · exact ⟨_, rfl⟩
  · exact ⟨_, rfl⟩
  · exact Run.ends_say.mpr ⟨_, rfl⟩

theorem ends_reportMistake {m : CommandLine.Mistake} :
    Ends (reportMistake m) h (fun status h' => status = 1 ∧ h'.files = h.files)
      (fun _ _ => False) := by
  unfold reportMistake
  dsimp only
  split <;> exact ⟨rfl, rfl⟩

section Request

variable {o : CommandLine.Options} {bad : Failure → Host → Prop}

/-- What is read and said before it is decided what to do leaves the files as they are. The settings
take part in the decision by a display only. -/
theorem ends_perform_of_run {noColour : Bool} {ok : Unit → Host → Prop}
    (stops : ∀ f h', h.Becomes h.files.tree h' → bad f h')
    (runs : ∀ i display h', h.Becomes h.files.tree h' →
      Invocation.ofRequest h.environment { o.request with display } = .ok i →
      Ends (run i) h' ok bad)
    (becomes : h.Becomes h.files.tree h₁) : Ends (perform o noColour) h₁ ok bad := by
  have silent (h : Host) (console : Console) : { h with console }.standing = h.standing := rfl
  simp only [perform, ends_bind]
  refine (becomes.ends (Settings.keeps_load fun _ _ => rfl)).imp ?_ stops
  rintro ⟨settings, warnings⟩ h₂ becomes
  dsimp only
  rw [ends_ite_modify, ends_bind]
  refine ((becomes_toned becomes).ends (keeps_forM (fun _ => Run.keeps_say silent) warnings)).imp
    ?_ stops
  intro _ h₃ becomes
  have environment : h₃.environment = h.environment := by
    obtain ⟨_, _, rfl⟩ := becomes
    rfl
  rw [ends_bind, ends_get, environment]
  split
  · next i asked => exact runs i _ h₃ becomes asked
  · exact stops _ _ becomes

/-- Options are carried out on the host but for its console, and what is refused is reported. -/
theorem ends_carryOut_of_perform {ok : Nat → Host → Prop} {stopped : Failure → Host → Prop}
    (performs : ∀ noColour console,
      Ends (perform o noColour) { h with console } (fun _ h' => ok 0 h') stopped)
    (refuses : ∀ e h' console, stopped (.refused e) h' → ok 1 { h' with console })
    (fails : ∀ f h', stopped f h' → bad f h') : Ends (carryOut o) h ok bad := by
  have toned {noColour : Bool} {console : Console} {off : Prop} [Decidable off] :
      Ends (perform o noColour)
        (if off then setConsole withoutColour { h with console } else { h with console })
        (fun _ h' => ok 0 h') stopped := by
    split <;> exact performs _ _
  unfold carryOut
  rw [ends_bind, ends_modify, ends_bind, Run.ends_environmentValue]
  dsimp only
  rw [ends_ite_modify, ends_bind, Run.ends_attempt]
  refine toned.imp (fun _ _ done => done) ?_
  intro f h' stopped
  cases f with
  | refused e =>
      dsimp only
      rw [ends_bind]
      refine ends_reportRefusal.imp ?_ fun _ _ => False.elim
      rintro _ _ ⟨console', rfl⟩
      exact refuses e h' console' stopped
  | _ => exact fails _ h' stopped

end Request

theorem ends_run (hi : i.mode = .file ∨ i.mode = .temporary)
    (closed : i.mode = .temporary → i.strict = true) (wf : h.files.tree.WellFormed)
    (becomes : h.Becomes h.files.tree h₁) :
    Ends (run i) h₁ (fun _ h' => Wrote i h h') (fun _ h' => Stopped i h.files h'.files.tree) :=
  ends_run_of_file hi fun console => ends_writeFile closed wf (becomes.said console)

theorem ends_perform {o : CommandLine.Options} {noColour : Bool}
    (asked : Invocation.ofRequest h.environment o.request = .ok i)
    (hi : i.mode = .file ∨ i.mode = .temporary) (wf : h.files.tree.WellFormed)
    (becomes : h.Becomes h.files.tree h₁) :
    Ends (perform o noColour) h₁ (fun _ h' => Wrote i h h')
      (fun _ h' => Stopped i h.files h'.files.tree) := by
  refine ends_perform_of_run (fun _ _ becomes => .before (.inl becomes.tree)) ?_ becomes
  intro j display h' becomes asked'
  cases asked'.symm.trans (Invocation.ofRequest_display asked (hi.imp_right .inl) display)
  exact ends_run hi (Invocation.strict_of_temporary asked) wf becomes

theorem ends_carryOut {o : CommandLine.Options}
    (asked : Invocation.ofRequest h.environment o.request = .ok i)
    (hi : i.mode = .file ∨ i.mode = .temporary) (wf : h.files.tree.WellFormed) :
    Ends (carryOut o) h (fun status h' => Settled i h status h')
      (fun _ h' => Stopped i h.files h'.files.tree) := by
  refine ends_carryOut_of_perform (fun _ console => ?_) (fun _ _ _ stopped => .failed stopped)
    fun _ _ stopped => stopped
  exact (ends_perform asked hi wf ((Host.Becomes.refl h).said console)).imp
    (fun _ _ wrote => .succeeded wrote) fun _ _ stopped => stopped

theorem ends_complete {o : CommandLine.Options} {rest : List Text} :
    Ends (complete o rest) h
      (fun r h' => h' = h ∧ (r = o.withRest rest ∨ ∃ m, r = .error m)) (fun _ h' => h' = h) := by
  unfold complete
  dsimp only
  split
  · exact rfl
  rw [ends_bind, ends_get]
  split
  · exact ⟨rfl, .inr ⟨_, rfl⟩⟩
  · exact ⟨rfl, .inl rfl⟩

theorem ends_obey {words : List Text} (asks : Asks words h i)
    (hi : i.mode = .file ∨ i.mode = .temporary) (wf : h.files.tree.WellFormed) :
    Ends (obey words) h (fun status h' => Settled i h status h')
      (fun _ h' => Stopped i h.files h'.files.tree) := by
  obtain ⟨o, rest, o', parsed, completed, asked⟩ := asks
  simp only [obey, parsed, ends_bind]
  refine ends_complete.imp ?_ ?_
  · rintro r _ ⟨rfl, rfl | ⟨m, rfl⟩⟩
    · rw [completed]
      exact ends_carryOut asked hi wf
    · refine ends_reportMistake.imp ?_ fun _ _ => False.elim
      intro _ h₁ reported
      obtain ⟨rfl, same⟩ := reported
      exact .failed (.before (.inl (congrArg FileSystem.tree same)))
  · rintro _ _ rfl
    exact .untouched

/-- An interrupt and an output that nobody reads end with status one. -/
theorem ends_main_of_obey {words : List Text} {ok : Nat → Host → Prop}
    {stopped bad : Failure → Host → Prop} (obeys : Ends (obey words) h ok stopped)
    (quits : ∀ f h' console, stopped f h' → ok 1 { h' with console })
    (fails : ∀ f h', stopped f h' → bad f h') : Ends (main words) h ok bad := by
  unfold main
  rw [ends_bind, Run.ends_attempt]
  refine obeys.imp (fun _ _ done => done) ?_
  intro f h' stopped
  cases f with
  | interrupted => exact quits _ h' _ stopped
  | _ =>
      dsimp only
      split
      · exact quits _ h' h'.console stopped
      · exact fails _ h' stopped

theorem ends_main {words : List Text} (asks : Asks words h i)
    (hi : i.mode = .file ∨ i.mode = .temporary) (wf : h.files.tree.WellFormed) :
    Ends (main words) h (fun status h' => Settled i h status h')
      (fun _ h' => Stopped i h.files h'.files.tree) :=
  ends_main_of_obey (ends_obey asks hi wf) (fun _ _ _ stopped => .failed stopped)
    fun _ _ stopped => stopped

/-- What a request that does not end well does to the files, and what it does not. -/
structure Spared (i : Invocation) (fs : FileSystem) (t : Tree) : Prop where
  stopped : Stopped i fs t
  /-- Where the system removes files, the request leaves no file of its own. -/
  begun : (∀ fault ∈ fs.faults, fault.call ≠ .unlink) → Begun i fs t
  kept : ∀ l e, fs.tree.lookup l = some e → t.lookup l = some e

/-- Whatever words ask for a password file, status zero says that it was written, and anything else
that nothing was touched that was there. -/
theorem file_written_or_untouched (words : List Text) (h : Host) (i : Invocation)
    (asks : Asks words h i) (hi : i.mode = .file ∨ i.mode = .temporary)
    (wf : h.files.tree.WellFormed) :
    (((main words).run h).1 = .ok 0 → Wrote i h ((main words).run h).2) ∧
      (((main words).run h).1 ≠ .ok 0 →
        Spared i h.files ((main words).run h).2.files.tree) := by
  have ends := ends_main asks hi wf
  have spared {t : Tree} (stopped : Stopped i h.files t) : Spared i h.files t :=
    ⟨stopped, stopped.begun, fun _ _ => stopped.kept⟩
  rcases run : (main words).run h with ⟨f | status, h'⟩
  · refine ⟨?_, fun _ => spared (ends.of_error run)⟩
    rintro ⟨⟩
  · have settled := ends.of_ok run
    refine ⟨?_, fun other =>
      spared (settled.stopped fun zero => other (congrArg Except.ok zero))⟩
    rintro ⟨⟩
    exact settled.wrote rfl

/-- A home that passes its group on to what is made in it. The password is typed twice, and the line
says no to another one. -/
def sharedHost : Host where
  files := { tree := { entries := [([[104, 111, 109, 101]], .directory 0o2755 0)] }, current := [] }
  environment := [("HOME", "home")]
  terminal.answers :=
    [.typed [115, 101, 99, 114, 101, 116, 49], .typed [115, 101, 99, 114, 101, 116, 49]]
  input.rest := [110, 10]

def sharedRequest : Invocation :=
  Invocation.fileIn .file {} ((Path.ofText "home").child ".vnc")

theorem file_written_or_untouched_shared :
    Wrote sharedRequest sharedHost ((main []).run sharedHost).2 := by
  have asks : Asks [] sharedHost sharedRequest := ⟨{}, [], {}, rfl, rfl, rfl⟩
  have status : ((main []).run sharedHost).1.toOption = some 0 := by decide +kernel
  obtain ⟨wrote, -⟩ :=
    file_written_or_untouched [] sharedHost sharedRequest asks (.inl rfl) (by decide)
  refine wrote ?_
  rcases run : ((main []).run sharedHost).1 with f | n
  · rw [run] at status
    cases status
  · rw [run] at status
    cases status
    rfl

/-- The umask takes from the owner the right to read what is new. -/
def maskedHost : Host :=
  { sharedHost with files := {
      tree := { entries := [([[104, 111, 109, 101]], .directory 0o755 0)] }
      current := []
      umask := 0o400 } }

/-- The file system becomes read-only before the rename. -/
def frozenHost : Host :=
  { sharedHost with files := { sharedHost.files with
      faults := [⟨.rename, 1, ⟨30⟩⟩, ⟨.unlink, 1, ⟨30⟩⟩] } }

/-- The new directory is not of mode 700 in such a home or under such a umask. Where the system
neither renames nor removes the temporary file, it stays, and the failure is the system's own. -/
theorem shared_masked_frozen :
    (((main []).run sharedHost).1.toOption = some 0 ∧
      ((main []).run sharedHost).2.files.tree.lookup [[104, 111, 109, 101], [46, 118, 110, 99]] =
        some (.directory 0o2700 0)) ∧
    (((main []).run maskedHost).1.toOption = some 0 ∧
      ((main []).run maskedHost).2.files.tree.lookup [[104, 111, 109, 101], [46, 118, 110, 99]] =
        some (.directory 0o300 0)) ∧
    ((main []).run frozenHost).1 = .error (.system (some ⟨30⟩)) ∧
      (((main []).run frozenHost).2.files.tree.lookup
        [[104, 111, 109, 101], [46, 118, 110, 99], temporaryName 0]).map Entry.status =
          some ⟨0o100600, 0⟩ := by
  decide +kernel

end Command
end VncAccess
