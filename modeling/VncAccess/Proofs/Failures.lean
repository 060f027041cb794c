import VncAccess.Proofs.Lemmas.Safe
import VncAccess.Proofs.Outcome
import VncAccess.Proofs.Stream

/-!
# Which failures leave a request

Whatever goes wrong with the directory, the passwords, the password file or the output is reported
in words of the tool's own. Only a failure to read the input is passed on as it is, and one to
remove a temporary file.
-/

namespace VncAccess

open Secret FileSystem

/-! ## Failures with words -/

/-- The tool has words for the failure, or the operator interrupted. -/
inductive Failure.Foreseen : Failure → Prop where
  | refused {e : AccessError} : Foreseen (.refused e)
  | interrupted : Foreseen .interrupted

/-- The system does not remove a file, and its reason is passed on. -/
def Failure.Unremoved (faults : List Fault) (f : Failure) : Prop :=
  ∃ fault ∈ faults, fault.call = .unlink ∧ f = .system (some fault.errno)

namespace Run

variable {α : Type} {x : Run α} {faults : List Fault}

/-- In a working directory that the system can name, only failures with words are possible. -/
abbrev Foresees (faults : List Fault) (x : Run α) : Prop :=
  Safe (fun h => h.files.Sound faults) Failure.Foreseen x

theorem foresees_refuse {e : AccessError} : Foresees faults (refuse e : Run α) :=
  safe_throw .refused

theorem foresees_say {n : Notice} : Foresees faults (say n) := fun _ sound => ends_say.mpr sound

theorem foresees_log {part : String} {message : Text} : Foresees faults (log part message) :=
  fun _ sound => ends_log.mpr sound

theorem foresees_files {c : FileCall α} (numbered : Numbered faults c) :
    Foresees faults (files c) := by
  intro h sound
  rw [ends_files]
  refine (numbered h.files sound).imp (fun _ _ sound => sound) ?_
  rintro (e | _) _ ⟨other, sound⟩
  · exact sound
  · exact absurd rfl other

theorem foresees_filesOr {c : FileCall α} {report : Errno → AccessError}
    (numbered : Numbered faults c) : Foresees faults (filesOr report c) := by
  refine (foresees_files numbered).bind fun r => ?_
  cases r with
  | ok a => exact safe_pure
  | error e => exact foresees_refuse

section CleaningUp

variable {q : Host → Prop} {p : Failure → Prop}

theorem safe_always {c : Host → Host} (hc : ∀ h, q h → q (c h)) (hx : Safe q p x) :
    Safe q p (always c x) := fun h holds =>
  ends_always.mpr ((hx h holds).imp (fun _ _ => hc _) fun _ _ failed =>
    ⟨failed.1, hc _ failed.2⟩)

theorem safe_cleaning {cleanUp : Run Unit} (hc : Safe q p cleanUp) (hx : Safe q p x) :
    Safe q p (cleaning cleanUp x) := fun h holds =>
  ends_cleaning.mpr ((hx h holds).imp (fun _ _ => id) fun _ h' failed =>
    (hc h' failed.2).imp (fun _ _ holds' => ⟨failed.1, holds'⟩) fun _ _ => id)

theorem safe_onFailure {c : Host → Host} (hc : ∀ h, q h → q (c h)) (hx : Safe q p x) :
    Safe q p (onFailure c x) :=
  safe_cleaning (safe_modify hc) hx

end CleaningUp

end Run

/-! ## The directory -/

namespace Password.Directory

open Run

variable {path : Path} {strict : Bool} {faults : List Fault}

theorem foresees_check {status : Status} : Foresees faults (check path status strict) := by
  refine safe_get_bind fun h _ => ?_
  split
  · exact foresees_refuse
  · exact foresees_log

theorem foresees_make (clean : path.Clean) : Foresees faults (make path) :=
  foresees_say.bind fun _ =>
    (foresees_filesOr (numbered_makeDirectory clean)).bind fun _ => foresees_log

theorem foresees_ensure (clean : path.Clean) : Foresees faults (ensure path strict) := by
  have rest : Foresees faults (do
      let status ← Run.filesOr (failed path "Error in lstat() for ") (FileSystem.lstat path)
      check path status strict
      Run.say (.verbose ("Using directory " ++ path.text))) :=
    (foresees_filesOr (numbered_lstat clean)).bind fun _ =>
      foresees_check.bind fun _ => foresees_say
  refine (foresees_files (numbered_lstat clean)).bind fun r => ?_
  cases r with
  | ok status => exact rest
  | error e =>
      refine .ite (fun _ => ?_) fun _ => ?_
      · exact (foresees_make clean).bind fun _ => rest
      · exact safe_throw_bind .refused

end Password.Directory

/-! ## The passwords -/

namespace Password

open Run

variable {h : Host} {faults : List Fault}

theorem sound_of_talked {h' : Host} (talked : h.Talked h') (sound : h.files.Sound faults) :
    h'.files.Sound faults := by
  obtain ⟨_, _, _, rfl⟩ := talked
  exact sound

theorem foresees_askFirst : Foresees faults askFirst := by
  intro h sound
  rw [ends_askFirst]
  rcases h.terminal.answers with _ | ⟨entry | _, answers⟩
  · exact ⟨.refused, sound⟩
  · dsimp only
    split
    · exact ⟨.refused, sound⟩
    · exact sound_of_talked (talked_warned ..) sound
  · exact ⟨.interrupted, sound⟩

theorem foresees_askSecond : Foresees faults askSecond := by
  intro h sound
  rw [ends_askSecond]
  rcases h.terminal.answers with _ | ⟨entry | _, answers⟩
  · exact ⟨.refused, sound⟩
  · exact sound
  · exact ⟨.interrupted, sound⟩

theorem foresees_askWithin (cycles : Nat) : Foresees faults (askWithin cycles) := by
  induction cycles with
  | zero => exact foresees_refuse
  | succ cycles again =>
      have releases (b : Buffer) (h : Host) (sound : h.files.Sound faults) :
          (release b h).files.Sound faults := sound
      have compares (candidate confirmation : Buffer) : Foresees faults (do
          let agreed := (← get).memory.sameContents candidate confirmation
          if agreed then Run.log "vncpasswd.prompt" "Password confirmed"
          return agreed) :=
        safe_get_bind fun _ _ =>
          .ite (fun _ => foresees_log.bind fun _ => safe_pure) fun _ => safe_pure
      refine foresees_askFirst.bind fun candidate => ?_
      refine (safe_onFailure (releases _) foresees_askSecond).bind fun confirmation => ?_
      refine (safe_always (releases _) (compares _ _)).bind fun agreed => ?_
      refine .ite (fun _ => safe_pure) fun _ => ?_
      exact (safe_modify (releases _)).bind fun _ => foresees_say.bind fun _ => again

theorem foresees_ask : Foresees faults ask := safe_get_bind fun _ _ => foresees_askWithin _

/-- Only the reply whether there is to be a second password is read from the input. -/
theorem ends_askPair_foresees (sound : h.files.Sound faults) (viewOnly : Bool) :
    Ends (askPair (if viewOnly then some true else none) askViewOnly) h (fun _ _ => True)
      (fun f _ => f.Foreseen ∨ viewOnly = false ∧ h.input.readTextLine.1 = .error f) := by
  have input {h₁ : Host} (talked : h.Talked h₁) : h₁.input = h.input := by
    obtain ⟨_, _, _, rfl⟩ := talked
    rfl
  have keepsFiles : Keeps Host.files
      (wantsViewOnly (if viewOnly then some true else none) askViewOnly) :=
    keeps_wantsViewOnly (fun _ _ => rfl) (keeps_askViewOnly (fun _ _ => rfl) fun _ _ => rfl)
  have asks : Ends ask h (fun _ h₁ => h.Talked h₁) (fun f _ => f.Foreseen) := by
    refine ((foresees_ask h sound).and (ends_ask (Memory.InUse.refl h.memory))).imp ?_ ?_
    · rintro _ h₁ ⟨-, _, _, _, _, talked⟩
      exact talked
    · exact fun _ _ failed => failed.1.1
  have asksAgain (h₂ : Host) (sound : h₂.files.Sound faults) (wanted : Bool) :
      Ends (if wanted then do return some (← ask) else return none : Run (Option Buffer)) h₂
        (fun _ _ => True) (fun f _ => f.Foreseen) := by
    cases wanted with
    | false => trivial
    | true =>
        simp only [↓reduceIte, ends_bind, ends_pure]
        exact (foresees_ask h₂ sound).imp (fun _ _ _ => trivial) fun _ _ failed => failed.1
  simp only [askPair, ends_bind]
  refine asks.imp ?_ fun _ _ => .inl
  intro primary h₁ talked
  rw [Run.ends_onFailure, ends_bind]
  refine (ends_wantsViewOnly.and (keepsFiles h₁)).imp ?_ ?_
  · rintro wanted h₂ ⟨-, files⟩
    have sound₂ : h₂.files.Sound faults := files ▸ sound_of_talked talked sound
    exact (asksAgain h₂ sound₂ wanted).imp (fun _ _ _ => trivial) fun _ _ => .inl
  · rintro f h₂ ⟨failed, -⟩
    exact .inr (input talked ▸ failed)

theorem encode_of_short {first : Bytes} {second : Option Bytes}
    (short : first.length ≤ significantLength)
    (shorter : ∀ password ∈ second, password.length ≤ significantLength) :
    ∃ content, encode first second = .ok content := by
  have whole {password : Bytes} (fits : password.length ≤ significantLength) :
      significantBytes password = password := List.take_of_length_le fits
  obtain ⟨content, -, encoded⟩ := encode_lines first second.toList
  rw [whole short] at encoded
  refine ⟨content, ?_⟩
  cases second with
  | none => exact encoded
  | some password => simpa [whole (shorter password rfl)] using encoded

/-- No password that is confirmed is too long for its slot. -/
theorem Paired.encoded {viewOnly : Option Bool} {confirm : Run Bool} {h' : Host} {first : Bytes}
    {second : Option Bytes} (paired : Paired viewOnly confirm h first second h') :
    ∃ content, encode first second = .ok content := by
  cases paired with
  | one confirms => exact encode_of_short confirms.length.2 nofun
  | two confirms _ _ confirms₂ =>
      refine encode_of_short confirms.length.2 ?_
      rintro _ ⟨⟩
      exact confirms₂.length.2

namespace File

variable {path : Path} {content : Bytes}

/-- A file that is missing needs no removing. -/
theorem safe_discard {temporary : Location} :
    Safe (fun h => h.files.Sound faults) (Failure.Unremoved faults) (discard temporary) := by
  intro h sound
  rw [discard, ends_bind, Run.ends_files]
  refine ends_unlink.imp ?_ ?_
  · rintro _ _ rfl
    exact sound
  · rintro _ _ ⟨rfl, ⟨rfl, -⟩ | ⟨fault, set, isUnlink, rfl⟩⟩
    · exact sound
    · dsimp only
      split
      · exact ⟨⟨fault, sound.2 ▸ set, isUnlink, rfl⟩, sound⟩
      · exact sound

theorem safe_replace (clean : path.Clean) :
    Safe (fun h => h.files.Sound faults) (fun f => f.Foreseen ∨ f.Unremoved faults)
      (replace path content) := by
  have creates : Foresees faults
      (filesOr (cannotWrite path) (FileSystem.createTemporary path.parent)) :=
    foresees_filesOr (numbered_createTemporary clean.parent)
  refine (creates.imp fun _ => .inl).bind fun temporary => ?_
  refine safe_cleaning (safe_discard.imp fun _ => .inr) (Safe.imp ?_ fun _ => .inl)
  have fills : Numbered faults (do
      FileSystem.changeMode temporary mode
      FileSystem.write temporary content) := numbered_changeMode.bind fun _ => numbered_write
  exact (foresees_filesOr fills).bind fun _ => foresees_filesOr (numbered_rename clean)

theorem ends_persist_foresees {p : Pair} (clean : path.Clean) (sound : h.files.Sound faults)
    (encoded : h.memory.encode p.primary p.viewOnly = .ok content) :
    Ends (persist p.primary p.viewOnly path) h (fun _ _ => True)
      (fun f _ => f.Foreseen ∨ f.Unremoved faults) := by
  simp only [persist, ends_bind, ends_get, Run.ends_ofValue, encoded]
  refine (safe_replace clean h sound).imp ?_ fun _ _ failed => failed.1
  exact fun _ _ _ => Run.ends_log.mpr trivial

theorem ends_writeStream_foresees {p : Pair}
    (encoded : h.memory.encode p.primary p.viewOnly = .ok content) :
    Ends (writeStream p.primary p.viewOnly) h (fun _ _ => True) (fun f _ => f.Foreseen) := by
  simp only [writeStream, ends_bind, ends_get, Run.ends_ofValue, encoded, Run.ends_emit]
  split
  · trivial
  · exact .refused

end File
end Password

/-! ## What a request comes with -/

namespace Invocation

variable {environment : List (Text × Text)} {r : Request} {i : Invocation}

/-- A request for a password file has a path to it, and one to the directory that it looks after. -/
structure Equipped (i : Invocation) : Prop where
  file : i.mode ≠ .stream → ∃ path, i.file = some path ∧ path.Clean
  directory : i.makeDirectory = true → ∃ path, i.directory = some path ∧ path.Clean

theorem equipped_fileIn {mode : Mode} {directory : Path} (clean : directory.Clean) :
    (fileIn mode r directory).Equipped where
  file _ := ⟨_, rfl, clean.child (by decide)⟩
  directory _ := ⟨_, rfl, clean⟩

theorem clean_boundedVariable {name value : Text} {longest : Int}
    (values : ∀ v ∈ environment, v.2.Clean)
    (found : boundedVariable environment name longest = .ok value) : value.Clean := by
  unfold boundedVariable at found
  split at found
  · cases found
  next held =>
  split at found
  · cases found
  cases found
  obtain ⟨_, _, rfl, -⟩ := List.lookup_eq_some_iff.mp held
  exact values (name, value) (by simp)

theorem equipped_of_ofRequest (asked : ofRequest environment r = .ok i)
    (hi : i.mode = .file ∨ i.mode = .temporary ∨ i.mode = .stream)
    (named : ∀ name ∈ r.file, name.Clean) (values : ∀ v ∈ environment, v.2.Clean) :
    i.Equipped := by
  cases chosen_of_ofRequest asked hi with
  | stream => exact ⟨fun other => absurd rfl other, nofun⟩
  | named given => exact ⟨fun _ => ⟨_, rfl, Path.clean_ofText (named _ given)⟩, nofun⟩
  | temporary found =>
      obtain ⟨user, bounded, ⟨⟩⟩ := eq_ok_of_bind found
      have tmp : (Path.ofText "/tmp").Clean := Path.clean_ofText (by decide)
      have own : (user ++ "-vnc" : Text).Clean :=
        (clean_boundedVariable values bounded).append (by decide)
      exact equipped_fileIn (tmp.child own)
  | default found =>
      obtain ⟨home, bounded, ⟨⟩⟩ := eq_ok_of_bind found
      have clean := Path.clean_ofText (clean_boundedVariable values bounded)
      exact equipped_fileIn (clean.child (by decide))

end Invocation

/-! ## Requests -/

/-- How a request can fail to read its input: a password file takes one line of text, the reply
whether there is to be a second password, and a stream the first two lines of bytes. -/
inductive Misread (i : Invocation) (input : Input) : Failure → Prop where
  | reply {f : Failure} : i.mode ≠ .stream → i.viewOnly = false →
      input.readTextLine.1 = .error f → Misread i input f
  | lines : i.mode = .stream → Password.Unreadable input → Misread i input (.system none)

theorem Input.undecodable_of_textLineFrom {text : List Char} {unfinished rest : Bytes} {turns : Nat}
    {f : Failure} (failed : textLineFrom text unfinished rest turns = .error f) :
    f = .undecodable := by
  induction turns generalizing text unfinished rest with
  | zero => cases failed
  | succ turns ih =>
      simp only [textLineFrom, bind, Except.bind] at failed
      split at failed
      · next e refused =>
          cases failed
          unfold decodeBlock at refused
          dsimp only at refused
          split at refused
          · cases refused
          · cases refused
            rfl
      split at failed
      · cases failed
      · exact ih failed

/-- The reading of the stream failed, or its bytes are no text. -/
theorem Misread.cases {i : Invocation} {input : Input} {f : Failure} (misread : Misread i input f) :
    f = .system none ∨ f = .undecodable := by
  cases misread with
  | lines => exact .inl rfl
  | reply _ _ failed =>
      unfold Input.readTextLine at failed
      dsimp only at failed
      split at failed
      · cases failed
        exact .inl rfl
      split at failed
      · cases failed
      · next e failed' =>
          cases failed
          exact .inr (Input.undecodable_of_textLineFrom failed')

namespace Command

open Run Password

variable {i : Invocation} {h : Host} {faults : List Fault}

/-- The input cannot be read, or the system does not remove a temporary file. -/
def Unforeseen (i : Invocation) (h : Host) (f : Failure) : Prop :=
  Misread i h.input f ∨ i.mode ≠ .stream ∧ f.Unremoved h.files.faults

theorem foresees_provide (equipped : i.Equipped) : Foresees faults (provide i) := by
  refine .ite (fun on => foresees_say.bind fun _ => ?_) fun _ => safe_pure
  obtain ⟨path, named, clean⟩ := equipped.directory on
  rw [named]
  exact Password.Directory.foresees_ensure clean

theorem ends_writePair_foresees {pair : Pair} {path : Path} {content : Bytes}
    (named : i.file = some path) (clean : path.Clean) (sound : h.files.Sound faults)
    (encoded : h.memory.encode pair.primary pair.viewOnly = .ok content) :
    Ends (writePair i pair) h (fun _ _ => True) (fun f _ => f.Foreseen ∨ f.Unremoved faults) := by
  simp only [writePair, named, ends_bind, Run.ends_say]
  exact File.ends_persist_foresees clean sound encoded

theorem ends_writeFile_foresees (equipped : i.Equipped) (file : i.mode ≠ .stream)
    (grounded : h.files.Grounded) :
    Ends (writeFile i) h (fun _ _ => True) (fun f _ => f.Foreseen ∨ Unforeseen i h f) := by
  obtain ⟨path, named, clean⟩ := equipped.file file
  have asks : Keeps Host.memory askViewOnly :=
    keeps_askViewOnly (fun _ _ => rfl) fun _ _ => rfl
  have input : Keeps Host.input (provide i) := keeps_provide (fun _ _ => rfl) fun _ _ => rfl
  have sound : h.files.Sound h.files.faults := ⟨grounded, rfl⟩
  simp only [writeFile, ends_bind]
  refine ((foresees_provide equipped h sound).and (input h)).imp ?_ ?_
  · rintro _ h₁ ⟨sound₁, input⟩
    refine ((ends_askPair asks (Memory.InUse.refl _)).and
      ((ends_askPair_foresees sound₁ i.viewOnly).and (keeps_files_askPair h₁))).imp ?_ ?_
    · rintro pair h₂ ⟨⟨first, second, use, paired⟩, -, files⟩
      obtain ⟨content, encoded⟩ := paired.encoded
      rw [← use.encode] at encoded
      rw [Run.ends_always]
      refine (ends_writePair_foresees named clean (files ▸ sound₁) encoded).imp ?_ ?_
      · exact fun _ _ _ => Run.ends_say.mpr trivial
      · exact fun _ _ => Or.imp_right fun unremoved => .inr ⟨file, unremoved⟩
    · rintro f h₂ ⟨-, foreseen | ⟨unset, failed⟩, -⟩
      · exact .inl foreseen
      · exact .inr (.inl (.reply file unset (input ▸ failed)))
  · exact fun _ _ failed => .inl failed.1.1

theorem ends_encodeStream_foresees (stream : i.mode = .stream) :
    Ends encodeStream h (fun _ _ => True) (fun f _ => f.Foreseen ∨ Misread i h.input f) := by
  simp only [encodeStream, ends_bind]
  refine (ends_lines (Memory.InUse.refl h.memory)).imp ?_ ?_
  · rintro pair h₁ ⟨first, rest, second, read⟩
    obtain ⟨content, -, encoded⟩ := read.encoded
    rw [Run.ends_always]
    exact (File.ends_writeStream_foresees encoded).imp (fun _ _ => id) fun _ _ => .inl
  · rintro f h₁ (⟨-, rfl, -⟩ | ⟨rfl, unreadable⟩)
    · exact .inl .refused
    · exact .inr (.lines stream unreadable)

/-- A request that talks to no server fails in the tool's own words, by the operator's interrupt,
because its input cannot be read, or because its temporary file is not removed. -/
theorem failures_foreseen (r : Request) (h : Host) (i : Invocation)
    (asked : Invocation.ofRequest h.environment r = .ok i)
    (hi : i.mode = .file ∨ i.mode = .temporary ∨ i.mode = .stream)
    (named : ∀ name ∈ r.file, name.Clean) (values : ∀ v ∈ h.environment, v.2.Clean)
    (grounded : h.files.Grounded) (f : Failure) (failed : ((run i).run h).1 = .error f) :
    f.Foreseen ∨ Unforeseen i h f := by
  have equipped := Invocation.equipped_of_ofRequest asked hi named values
  have ends : Ends (run i) h (fun _ _ => True) (fun f _ => f.Foreseen ∨ Unforeseen i h f) := by
    rcases or_assoc.mpr hi with file | stream
    · have other : i.mode ≠ .stream := by rcases file with hm | hm <;> simp [hm]
      exact ends_run_of_file file fun _ => ends_writeFile_foresees equipped other grounded
    · exact ends_run_of_stream stream fun _ => (ends_encodeStream_foresees stream).imp
        (fun _ _ => id) fun _ _ => Or.imp_right .inl
  rcases run : (Command.run i).run h with ⟨f' | _, h'⟩
  · rw [run] at failed
    cases failed
    exact ends.of_error run
  · rw [run] at failed
    cases failed

/-- The system does not let the password file be moved into place. -/
def brokenHost : Host :=
  { sharedHost with files := { sharedHost.files with faults := [⟨.rename, 1, ⟨5⟩⟩] } }

theorem failures_foreseen_broken :
    ∃ f, ((run sharedRequest).run brokenHost).1 = .error f ∧ f.Foreseen := by
  have stops : ((run sharedRequest).run brokenHost).1 =
      .error (.refused (File.cannotWrite (.ofText "home/.vnc/passwd") ⟨5⟩)) := by decide +kernel
  refine ⟨_, stops, ?_⟩
  rcases failures_foreseen {} brokenHost sharedRequest rfl (.inl rfl) nofun (by decide) (by decide)
    _ stops with foreseen | misread | ⟨-, fault, -, -, other⟩
  · exact foreseen
  · rcases misread.cases with other | other <;> cases other
  · cases other

/-- The reply is a byte that begins no character. -/
def strayHost : Host := { sharedHost with input.rest := [255, 10] }

/-- Nothing puts the failure to read the reply into words. -/
theorem reply_not_foreseen :
    ((run sharedRequest).run strayHost).1 = .error .undecodable ∧
      ¬ Failure.Foreseen .undecodable :=
  ⟨by decide +kernel, nofun⟩

end Command
end VncAccess
