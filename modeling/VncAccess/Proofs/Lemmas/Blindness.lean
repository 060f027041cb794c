import VncAccess.Command
import VncAccess.Proofs.Lemmas.Together

/-!
# What a command does not see

The settings, the directory and the words of a command are looked after without a look at what the
operator types or pipes in. Whether there is to be a view-only password is asked in the same way on
any console.
-/

namespace VncAccess

/-- Related hosts have the same files and home directories. -/
structure SharesHomes (r : Host → Host → Prop) : Prop extends SharesFiles r where
  home : ∀ s t, r s t →
    t.environment.lookup (Text.ofString "HOME") = s.environment.lookup (Text.ofString "HOME")
  homes : ∀ s t, r s t → t.homes = s.homes
  reading : ∀ s t, r s t → t.reading = s.reading

/-- Related hosts have the same files and variables. -/
structure SharesSystem (r : Host → Host → Prop) : Prop extends SharesFiles r where
  environment : ∀ s t, r s t → t.environment = s.environment
  homes : ∀ s t, r s t → t.homes = s.homes
  reading : ∀ s t, r s t → t.reading = s.reading

/-- Related hosts have the same input, whatever is read of it. -/
structure SharesInput (r : Host → Host → Prop) : Prop where
  same : ∀ s t, r s t → t.input = s.input
  keeps : ∀ s t input, r s t → r { s with input } { t with input }

variable {r : Host → Host → Prop}

theorem SharesSystem.sharesHomes (shares : SharesSystem r) : SharesHomes r where
  toSharesFiles := shares.toSharesFiles
  home s t related := by rw [shares.environment s t related]
  homes := shares.homes
  reading := shares.reading

namespace Settings

theorem blind_homeFor (shares : SharesHomes r) {name : Text} : Blind r (homeFor name) := by
  refine blind_get_bind ?_ fun h => .ite blind_throw_bind ?_
  · intro s t related
    dsimp only
    rw [shares.home s t related, shares.homes s t related]
  · dsimp only
    split
    · exact blind_throw
    · exact .ite blind_throw_bind blind_pure

theorem blind_expandHome (shares : SharesHomes r) {path : Path} : Blind r (expandHome path) := by
  unfold expandHome
  split
  · split
    · exact (blind_homeFor shares).bind fun _ => blind_pure
    · exact blind_pure
  · exact blind_pure

theorem blind_pathOf (shares : SharesHomes r) {given : Option Path} : Blind r (pathOf given) := by
  cases given with
  | some path => exact blind_expandHome shares
  | none =>
      refine ((blind_expandHome shares).bind fun _ => blind_pure).bind fun _ => ?_
      exact blind_expandHome shares

theorem blind_isPresent (shares : SharesHomes r) {path : Path} : Blind r (isPresent path) := by
  refine .ite blind_pure ?_
  refine (Run.blind_files shares.toSharesFiles).bind fun found => ?_
  cases found with
  | ok => exact blind_pure
  | error e => exact blind_pure.ite blind_throw

theorem blind_load (shares : SharesHomes r) {given : Option Path} : Blind r (load given) := by
  refine (blind_pathOf shares).bind fun path => (blind_isPresent shares).bind fun present => ?_
  refine .ite ?_ blind_pure
  refine (Run.blind_filesOr shares.toSharesFiles).bind fun content => ?_
  refine blind_get_bind ?_ fun h => ?_
  · intro s t related
    rw [shares.reading s t related]
  split
  · exact blind_pure
  · exact blind_throw

end Settings

namespace Password.Directory

variable {path : Path} {strict : Bool} (files : SharesFiles r) (hears : Hears r)
include files hears

theorem blind_check {status : Status} : Blind r (check path status strict) := by
  refine blind_get_bind ?_ fun h => ?_
  · intro s t related
    rw [files.same s t related]
  · split
    · exact blind_throw
    · exact Run.blind_log hears

theorem blind_make : Blind r (make path) :=
  (Run.blind_say hears).bind fun _ => (Run.blind_filesOr files).bind fun _ =>
    Run.blind_log hears

theorem blind_ensure : Blind r (ensure path strict) := by
  have rest : Blind r (do
      let status ← Run.filesOr (failed path "Error in lstat() for ") (FileSystem.lstat path)
      check path status strict
      Run.say (.verbose ("Using directory " ++ path.text))) :=
    (Run.blind_filesOr files).bind fun _ =>
      (blind_check files hears).bind fun _ => Run.blind_say hears
  refine (Run.blind_files files).bind fun found => ?_
  cases found with
  | ok => exact rest
  | error e =>
      refine .ite ?_ blind_throw_bind
      exact (blind_make files hears).bind fun _ => rest

end Password.Directory

namespace Password

variable (shares : SharesInput r) (hears : Hears r)
include shares hears

theorem blind_askViewOnly : Blind r askViewOnly := by
  refine (Run.blind_say hears).bind fun _ => blind_get_bind ?_ fun h => ?_
  · intro s t related
    rw [shares.same s t related]
  · refine (blind_modify fun s t => shares.keeps s t _).bind fun _ => ?_
    split
    · exact blind_pure
    · exact blind_throw

theorem blind_wantsViewOnly {viewOnly : Option Bool} :
    Blind r (wantsViewOnly viewOnly askViewOnly) := by
  rcases viewOnly with _ | _ | _
  · exact blind_askViewOnly shares hears
  · exact blind_pure
  · exact (Run.blind_say hears).bind fun _ => blind_pure

end Password

namespace Command

theorem blind_reportRefusal (hears : Hears r) {e : AccessError} : Blind r (reportRefusal e) := by
  refine (Run.blind_say hears).bind fun _ => ?_
  split
  · exact blind_pure
  · exact blind_pure
  · exact Run.blind_say hears

/-- A mistake is reported as it is, on any console. -/
theorem blind_reportMistake (speaks : ∀ text, Blind r (Run.say (.verbatim text)))
    {m : CommandLine.Mistake} : Blind r (reportMistake m) :=
  (speaks _).ite_bind ((speaks _).bind fun _ => blind_pure)

theorem blind_provide (files : SharesFiles r) (hears : Hears r) {i : Invocation} :
    Blind r (provide i) := by
  refine .ite ((Run.blind_say hears).bind fun _ => ?_) blind_pure
  split
  · exact Password.Directory.blind_ensure files hears
  · exact blind_throw

/-- Command lines that are obeyed alike end alike. -/
theorem matches_main {words words' : List Text} {s t : Host}
    (newline : Blind r (Run.say (.verbatim [Text.newline])))
    (obeys : Matches r (obey words) (obey words') s t) :
    Matches r (main words) (main words') s t := by
  unfold main
  refine (Run.matches_attempt obeys).bind fun result s₁ t₁ related => ?_
  rcases result with f | status
  · cases f with
    | interrupted => exact (newline.bind fun _ => blind_pure) s₁ t₁ related
    | _ =>
        dsimp only
        split
        · exact ⟨rfl, related⟩
        · exact ⟨rfl, related⟩
  · exact ⟨rfl, related⟩

end Command

end VncAccess
