import VncAccess.Command
import VncAccess.Proofs.Lemmas.Prompts

/-!
# What the steps of a request leave as it was

Every step changes a few parts of the host. `p` stands for whatever is read off the others: what a
step keeps is said once, for all that does not look at the parts that it changes.
-/

namespace VncAccess

section Keeping

variable {γ : Type} {p : Host → γ}

/-! ## The password file -/

theorem Password.Directory.keeps_check {path : Path} {status : Status} {strict : Bool}
    (hc : ∀ h console, p { h with console } = p h) : Keeps p (check path status strict) := by
  refine keeps_get.bind fun h => ?_
  split
  · exact keeps_throw
  · exact Run.keeps_log hc

theorem Password.File.keeps_discard {temporary : Location}
    (hf : ∀ h files, p { h with files } = p h) : Keeps p (discard temporary) := by
  refine (Run.keeps_files hf).bind fun removed => ?_
  cases removed with
  | ok => exact keeps_pure
  | error e => exact keeps_throw.ite keeps_pure

theorem Password.File.keeps_replace {path : Path} {content : Bytes}
    (hf : ∀ h files, p { h with files } = p h) : Keeps p (replace path content) := by
  refine (Run.keeps_filesOr hf).bind fun temporary => ?_
  refine Run.keeps_cleaning (keeps_discard hf) ?_
  exact (Run.keeps_filesOr hf).bind fun _ => Run.keeps_filesOr hf

section Files

variable (hc : ∀ h console, p { h with console } = p h) (hf : ∀ h files, p { h with files } = p h)
include hc hf

theorem Password.Directory.keeps_make {path : Path} : Keeps p (make path) :=
  (Run.keeps_say hc).bind fun _ => (Run.keeps_filesOr hf).bind fun _ => Run.keeps_log hc

theorem Password.Directory.keeps_ensure {path : Path} {strict : Bool} :
    Keeps p (ensure path strict) := by
  have rest : Keeps p (do
      let status ← Run.filesOr (failed path "Error in lstat() for ") (FileSystem.lstat path)
      check path status strict
      Run.say (.verbose ("Using directory " ++ path.text))) :=
    (Run.keeps_filesOr hf).bind fun _ => (keeps_check hc).bind fun _ => Run.keeps_say hc
  refine (Run.keeps_files hf).bind fun r => ?_
  rcases r with e | _
  · refine .ite ?_ ?_
    · exact (keeps_make hc hf).bind fun _ => rest
    · exact keeps_throw_bind
  · exact rest

theorem Password.File.keeps_persist {primary : Secret.Buffer} {secondary : Option Secret.Buffer}
    {path : Path} : Keeps p (persist primary secondary path) :=
  keeps_get.bind fun _ => Run.keeps_ofValue.bind fun _ =>
    (keeps_replace hf).bind fun _ => Run.keeps_log hc

theorem Command.keeps_provide {i : Invocation} : Keeps p (provide i) := by
  unfold provide
  refine .ite ((Run.keeps_say hc).bind fun _ => ?_) keeps_pure
  split
  · exact Password.Directory.keeps_ensure hc hf
  · exact keeps_throw

theorem Command.keeps_writePair {i : Invocation} {pair : Secret.Pair} :
    Keeps p (writePair i pair) := by
  unfold writePair
  dsimp only
  split
  · exact (Password.File.keeps_persist hc hf).bind fun _ => Run.keeps_say hc
  · exact keeps_throw_bind

end Files

/-! ## Passwords from the input -/

namespace Password

section Memory

variable (hm : ∀ h memory, p { h with memory } = p h)
include hm

variable (hc : ∀ h console, p { h with console } = p h)
include hc

variable (hi : ∀ h input, p { h with input } = p h)
include hi

end Memory
end Password

theorem Password.File.keeps_writeStream {primary : Secret.Buffer}
    {secondary : Option Secret.Buffer} (ho : ∀ h output, p { h with output } = p h) :
    Keeps p (writeStream primary secondary) := by
  refine keeps_get.bind fun _ => Run.keeps_ofValue.bind fun _ => ?_
  refine Keeps.bind (fun h => Run.ends_emit.mpr (ho h _)) fun r => ?_
  cases r with
  | ok => exact keeps_pure
  | error => exact keeps_throw

/-! ## Requests to a server -/

section Serving

open Display

variable (hs : ∀ h server, p { h with server } = p h)
include hs

variable (hc : ∀ h console, p { h with console } = p h)
include hc

namespace Display.Session

end Display.Session

end Serving

/-! ## One-time passwords -/

namespace OneTime

open Display

variable {provider : Random.Provider} {wantView : Bool}

theorem keeps_draw (he : ∀ h entropy, p { h with entropy } = p h) : Keeps p (draw provider) := by
  refine keeps_get.bind fun h => ?_
  rcases provider.draw h.entropy with ⟨value, provider', entropy⟩
  refine (keeps_modify fun _ => he _ _).bind fun _ => ?_
  cases value with
  | some n => exact keeps_pure
  | none => exact keeps_throw

variable (hc : ∀ h console, p { h with console } = p h)
include hc

theorem keeps_bestProvider : Keeps p bestProvider := by
  refine keeps_get.bind fun h => ?_
  dsimp only
  split
  · exact (Run.keeps_log hc).bind fun _ => keeps_pure
  · exact keeps_pure

variable (he : ∀ h entropy, p { h with entropy } = p h)
include he

theorem keeps_issue {label : Text} : Keeps p (issue label provider) :=
  (keeps_draw he).bind fun _ => (Run.keeps_say hc).bind fun _ => keeps_pure

theorem keeps_issueAll : Keeps p (issueAll provider wantView) := by
  refine (keeps_issue hc he).bind fun full => ?_
  dsimp only
  split
  · refine (keeps_issue hc he).bind fun view => keeps_pure.bind fun view => ?_
    split
    · exact keeps_pure
    · exact keeps_throw
  · refine keeps_pure.bind fun view => ?_
    split
    · exact keeps_pure
    · exact keeps_throw

end OneTime

/-! ## Whole requests -/

namespace Command

variable {i : Invocation} (hc : ∀ h console, p { h with console } = p h)
include hc

end Command
end Keeping

/-! ## What comes before the work of a request -/

namespace Command

variable {i : Invocation} {h : Host} {ok : Unit → Host → Prop} {bad : Failure → Host → Prop}

theorem ends_run_of_file (hi : i.mode = .file ∨ i.mode = .temporary)
    (writes : ∀ console, Ends (writeFile i) { h with console } ok bad) :
    Ends (run i) h ok bad := by
  simp only [run, ends_bind, Run.ends_log, Run.ends_say]
  rcases hi with hm | hm <;> rw [hm] <;> exact writes _

theorem ends_run_of_stream (hi : i.mode = .stream)
    (encodes : ∀ console, Ends encodeStream { h with console } ok bad) :
    Ends (run i) h ok bad := by
  simp only [run, ends_bind, Run.ends_log, Run.ends_say, hi]
  exact encodes _

end Command
end VncAccess
