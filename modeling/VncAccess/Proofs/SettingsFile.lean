import VncAccess.Proofs.Lemmas.Looking
import VncAccess.Proofs.Lemmas.Utf8

/-!
# What a settings file can lead to

The content of a settings file is whatever somebody wrote into it. It gives settings, or what is
wrong with it is reported in words, but for content that is not UTF-8, for sections that are no
tables, and for what a reader of documents has no room for.
-/

namespace VncAccess.Settings

open FileSystem

/-! ## A key of a section -/

theorem isPartOf_iff {part t : Text} : isPartOf part t = true ↔ part <:+: t := by
  induction t with
  | nil => rw [isPartOf, List.isEmpty_iff, List.infix_nil]
  | cons g t ih =>
      rw [isPartOf, Bool.or_eq_true, List.isPrefixOf_iff_prefix, ih, List.infix_cons_iff]

/-- A section in which a key cannot be looked for, or in which it is found with nothing under it. -/
inductive Rejects (key : Text) : Toml.Value → Prop where
  | integer {n : Int} : Rejects key (.integer n)
  | float : Rejects key .float
  | boolean {b : Bool} : Rejects key (.boolean b)
  | moment : Rejects key .moment
  | text {t : Text} : key <:+: t → Rejects key (.text t)
  | array {items : List Toml.Value} : .text key ∈ items → Rejects key (.array items)

/-- A section that has a value under a key. -/
inductive Holds (key : Text) (v : Toml.Value) : Toml.Value → Prop where
  | table {entries : Toml.Table} : entries.lookup key = some v → Holds key v (.table entries)

section Section

variable {key : Text} {s v : Toml.Value} {f : Failure}

theorem ite_eq_error_iff {α : Type} {c : Prop} [Decidable c] {a : α} :
    (if c then .error .mistyped else .ok a : Except Failure α) = .error f ↔ f = .mistyped ∧ c := by
  split
  · next found => exact ⟨fun e => ⟨(Except.error.inj e).symm, found⟩, fun e => e.1 ▸ rfl⟩
  · next missing => exact ⟨nofun, fun e => absurd e.2 missing⟩

theorem lookup_eq_error_iff : lookup key s = .error f ↔ f = .mistyped ∧ Rejects key s := by
  cases s with
  | table entries => exact ⟨nofun, nofun⟩
  | text t =>
      rw [lookup, ite_eq_error_iff, isPartOf_iff]
      exact and_congr_right' ⟨.text, fun | .text part => part⟩
  | array items =>
      rw [lookup, ite_eq_error_iff, List.any_eq_true]
      refine and_congr_right' ⟨?_, ?_⟩
      · rintro ⟨item, found, same⟩
        cases item with
        | text t => exact .array (of_decide_eq_true same ▸ found)
        | _ => cases same
      · rintro (_ | _ | _ | _ | _ | found)
        exact ⟨_, found, decide_eq_true rfl⟩
  | integer | float | boolean | moment =>
      exact ⟨fun e => ⟨(Except.error.inj e).symm, by constructor⟩, fun e => e.1 ▸ rfl⟩

theorem lookup_eq_some_iff : lookup key s = .ok (some v) ↔ Holds key v s := by
  cases s with
  | table entries =>
      constructor
      · intro found
        exact .table (Except.ok.inj found)
      · rintro ⟨found⟩
        exact congrArg _ found
  | text t | array items =>
      rw [lookup]
      split <;> exact ⟨nofun, nofun⟩
  | _ => exact ⟨nofun, nofun⟩

end Section

/-! ## The two values -/

/-- A value that may stand in a settings file: where it stands, what it has to be, and what is said
if it is something else. -/
structure Setting where
  heading : Text
  key : Text
  Fits : Toml.Value → Prop
  name : Text
  reason : Text

/-- What is wrong with a value in a document. -/
inductive Setting.Misused (s : Setting) (document : Toml.Table) : Failure → Prop where
  | mistyped : Rejects s.key (section? document s.heading) → Misused s document .mistyped
  | unfit {v : Toml.Value} : Holds s.key v (section? document s.heading) → ¬ s.Fits v →
      Misused s document (.refused (.settingsValue s.name s.reason))

def colourSetting : Setting where
  heading := "display"
  key := "colored_output"
  Fits v := ∃ b, v = .boolean b
  name := "display.colored_output"
  reason := "must be a boolean"

def displaySetting : Setting where
  heading := "session"
  key := "display"
  Fits v := ∃ t, v = .text t
  name := "session.display"
  reason := "must be a string"

section Document

variable {document : Toml.Table} {path : Path} {f : Failure}

/-- A value is read once its section is looked through: if it is missing there is nothing to say,
and if it is there it has to fit. -/
theorem Setting.misused_iff {s : Setting} {α : Type} {read : Option Toml.Value → Except Failure α}
    (missing : ∀ f, read none ≠ .error f)
    (present : ∀ v f, read (some v) = .error f ↔
      ¬ s.Fits v ∧ f = .refused (.settingsValue s.name s.reason)) :
    (lookup s.key (section? document s.heading) >>= read) = .error f ↔ s.Misused document f := by
  cases found : lookup s.key (section? document s.heading) with
  | error g =>
      obtain ⟨rfl, rejects⟩ := lookup_eq_error_iff.mp found
      constructor
      · rintro ⟨⟩
        exact .mistyped rejects
      · rintro (_ | ⟨holds, -⟩)
        · rfl
        · cases found.symm.trans (lookup_eq_some_iff.mpr holds)
  | ok v? =>
      have accepts : ¬ Rejects s.key (section? document s.heading) := fun rejects => by
        cases found.symm.trans (lookup_eq_error_iff.mpr ⟨rfl, rejects⟩)
      cases v? with
      | none =>
          refine ⟨fun failed => absurd failed (missing f), ?_⟩
          rintro (rejects | ⟨holds, -⟩)
          · exact absurd rejects accepts
          · cases found.symm.trans (lookup_eq_some_iff.mpr holds)
      | some v =>
          refine (present v f).trans ⟨?_, ?_⟩
          · rintro ⟨unfit, rfl⟩
            exact .unfit (lookup_eq_some_iff.mp found) unfit
          · rintro (rejects | ⟨holds, unfit⟩)
            · exact absurd rejects accepts
            · cases found.symm.trans (lookup_eq_some_iff.mpr holds)
              exact ⟨unfit, rfl⟩

theorem colourIn_eq_error_iff :
    colourIn document = .error f ↔ colourSetting.Misused document f := by
  refine Setting.misused_iff (s := colourSetting) nofun fun v f => ?_
  cases v with
  | boolean b => exact ⟨nofun, fun unfit => absurd ⟨b, rfl⟩ unfit.1⟩
  | _ => exact ⟨fun failed => ⟨nofun, (Except.error.inj failed).symm⟩, fun unfit => unfit.2 ▸ rfl⟩

theorem displayIn_eq_error_iff :
    displayIn document = .error f ↔ displaySetting.Misused document f := by
  refine Setting.misused_iff (s := displaySetting) nofun fun v f => ?_
  cases v with
  | text t => exact ⟨nofun, fun unfit => absurd ⟨t, rfl⟩ unfit.1⟩
  | _ => exact ⟨fun failed => ⟨nofun, (Except.error.inj failed).symm⟩, fun unfit => unfit.2 ▸ rfl⟩

/-- What is wrong with a document. The section for the output is looked at first. -/
inductive Misused (document : Toml.Table) : Failure → Prop where
  | colour {f : Failure} : colourSetting.Misused document f → Misused document f
  | display {f : Failure} : (∀ g, ¬ colourSetting.Misused document g) →
      displaySetting.Misused document f → Misused document f

theorem ofDocument_eq_error_iff :
    ofDocument document path = .error f ↔ Misused document f := by
  unfold ofDocument
  cases colour : colourIn document with
  | error g =>
      have wrong := colourIn_eq_error_iff.mp colour
      constructor
      · rintro ⟨⟩
        exact .colour wrong
      · rintro (wrong' | ⟨fine, -⟩)
        · cases colour.symm.trans (colourIn_eq_error_iff.mpr wrong')
          rfl
        · exact absurd wrong (fine g)
  | ok c =>
      have fine (g : Failure) : ¬ colourSetting.Misused document g := fun wrong => by
        cases colour.symm.trans (colourIn_eq_error_iff.mpr wrong)
      have rest : displayIn document = .error f ↔ Misused document f := by
        rw [displayIn_eq_error_iff]
        refine ⟨.display fine, ?_⟩
        rintro (wrong | ⟨-, wrong⟩)
        · exact absurd wrong (fine f)
        · exact wrong
      rw [← rest]
      cases displayIn document with
      | error g =>
          exact ⟨fun e => congrArg _ (Except.error.inj e), fun e => congrArg _ (Except.error.inj e)⟩
      | ok d => exact ⟨nofun, nofun⟩

theorem path_of_ofDocument {settings : Settings} {told : List Text}
    (read : ofDocument document path = .ok (settings, told)) : settings.path = some path := by
  unfold ofDocument at read
  cases colour : colourIn document with
  | error f => rw [colour] at read; cases read
  | ok c =>
      cases display : displayIn document with
      | error f => rw [colour, display] at read; cases read
      | ok d => rw [colour, display] at read; cases read; rfl

end Document

/-! ## The file -/

/-- The content is UTF-8, and its characters are read with this result. -/
def Parses (reading : Toml.Reading) (content : Bytes) (r : Except Toml.Fault Toml.Table) : Prop :=
  ∃ chars : List Char, content = chars.flatMap String.utf8EncodeChar ∧
    Toml.parse reading.room chars = r

/-- What is wrong with a file and is reported in words. -/
inductive Reported (reading : Toml.Reading) (path : Path) (content : Bytes) : Failure → Prop where
  | malformed : Parses reading content (.error .malformed) →
      Reported reading path content
        (.refused (.settingsFile path.text (reading.complaint content)))
  | value {document : Toml.Table} {name reason : Text} : Parses reading content (.ok document) →
      Misused document (.refused (.settingsValue name reason)) →
      Reported reading path content (.refused (.settingsValue name reason))

/-- What is wrong with a file and has no words: stray bytes, a section that is no table, a numeral
or nesting that the reader of documents does not take. -/
inductive Escapes (reading : Toml.Reading) (content : Bytes) : Failure → Prop where
  | stray : ¬ Text.IsUtf8 content → Escapes reading content .undecodable
  | mistyped {document : Toml.Table} : Parses reading content (.ok document) →
      Misused document .mistyped → Escapes reading content .mistyped
  | numeral {digits : Nat} : Parses reading content (.error (.numeralTooLong digits)) →
      Escapes reading content (.badValue (.numeralTooLong digits))
  | nesting : Parses reading content (.error .nestedTooDeep) →
      Escapes reading content .nestedTooDeep

section File

variable {reading : Toml.Reading} {content : Bytes} {path : Path} {f : Failure}

theorem ofBytes_of_stray (stray : ¬ Text.IsUtf8 content) :
    ofBytes reading content path = .error .undecodable := by
  have decoded : Text.decode? content = none :=
    Option.eq_none_iff_forall_ne_some.mpr fun chars decoded =>
      stray (Text.isUtf8_iff_decode?.mpr ⟨chars, decoded⟩)
  rw [ofBytes, decoded]

/-- What comes of reading a document. -/
def ofParsed (reading : Toml.Reading) (content : Bytes) (path : Path) :
    Except Toml.Fault Toml.Table → Except Failure (Settings × List Text)
  | .ok document => ofDocument document path
  | .error .malformed => .error (.refused (.settingsFile path.text (reading.complaint content)))
  | .error (.numeralTooLong digits) => .error (.badValue (.numeralTooLong digits))
  | .error .nestedTooDeep => .error .nestedTooDeep

theorem ofBytes_of_parses {r : Except Toml.Fault Toml.Table} (parses : Parses reading content r) :
    ofBytes reading content path = ofParsed reading content path r := by
  obtain ⟨chars, encoded, rfl⟩ := parses
  rw [ofBytes, Text.decode?_eq_some_iff.mpr encoded]
  dsimp only
  rcases Toml.parse reading.room chars with (_ | _ | _) | _ <;> rfl

theorem Misused.cases {document : Toml.Table} (misused : Misused document f) :
    f = .mistyped ∨ ∃ name reason, f = .refused (.settingsValue name reason) := by
  rcases misused with (_ | _) | ⟨_, _ | _⟩
  · exact .inl rfl
  · exact .inr ⟨_, _, rfl⟩
  · exact .inl rfl
  · exact .inr ⟨_, _, rfl⟩

/-- Content gives no settings exactly when something is wrong with it, and that is the failure. -/
theorem ofBytes_eq_error_iff :
    ofBytes reading content path = .error f ↔
      Reported reading path content f ∨ Escapes reading content f := by
  constructor
  · intro failed
    by_cases encoded : Text.IsUtf8 content
    · obtain ⟨chars, encoded⟩ := encoded
      have parses : Parses reading content (Toml.parse reading.room chars) := ⟨chars, encoded, rfl⟩
      rw [ofBytes_of_parses parses] at failed
      rcases parsed : Toml.parse reading.room chars with (_ | digits | _) | document <;>
        rw [parsed] at parses failed
      · cases failed
        exact .inl (.malformed parses)
      · cases failed
        exact .inr (.numeral parses)
      · cases failed
        exact .inr (.nesting parses)
      · have misused := ofDocument_eq_error_iff.mp failed
        rcases misused.cases with rfl | ⟨name, reason, rfl⟩
        · exact .inr (.mistyped parses misused)
        · exact .inl (.value parses misused)
    · rw [ofBytes_of_stray encoded] at failed
      cases failed
      exact .inr (.stray encoded)
  · rintro ((parses | ⟨parses, misused⟩) | (stray | ⟨parses, misused⟩ | parses | parses))
    · exact ofBytes_of_parses parses
    · exact (ofBytes_of_parses parses).trans (ofDocument_eq_error_iff.mpr misused)
    · exact ofBytes_of_stray stray
    · exact (ofBytes_of_parses parses).trans (ofDocument_eq_error_iff.mpr misused)
    · exact ofBytes_of_parses parses
    · exact ofBytes_of_parses parses

theorem path_of_ofBytes {settings : Settings} {told : List Text}
    (read : ofBytes reading content path = .ok (settings, told)) : settings.path = some path := by
  unfold ofBytes at read
  split at read
  · cases read
  · split at read
    · exact path_of_ofDocument read
    all_goals cases read

/-! ## Loading -/

variable {h : Host} {given : Option Path}

/-- A file that can be read is found, and what it holds is what counts. -/
theorem ends_load_of_reads (expands : (pathOf given).run h = (.ok path, h))
    (reads : h.files.Reads path content) (stat : h.files.faultAt .stat = none)
    (readFile : (h.files.counted .stat).faultAt .readFile = none) :
    Ends (load given) h (fun loaded _ => ofBytes h.reading content path = .ok loaded)
      (fun f _ => ofBytes h.reading content path = .error f) := by
  obtain ⟨l, mode, owner, resolved, permitted⟩ := reads.file
  have path : Ends (pathOf given) h (fun p h' => p = path ∧ h' = h) fun _ _ => False := by
    unfold Ends
    rw [expands]
    exact ⟨rfl, rfl⟩
  rw [load, ends_bind]
  refine path.imp ?_ fun _ _ => False.elim
  rintro _ _ ⟨rfl, rfl⟩
  rw [ends_bind, isPresent, if_neg (ne_true_of_eq_false reads.noNul), ends_bind, Run.ends_files,
    ends_stat stat reads.noNul resolved, ends_pure, if_pos rfl, ends_bind, Run.ends_filesOr,
    ends_readFile readFile reads.noNul resolved permitted, ends_bind, ends_get]
  dsimp only
  split
  · exact ‹_›
  · exact ‹_›

end File

/-- Settings come of a file that can be read unless something is wrong with what it holds. Of that,
only what has no words leaves as the failure of the reader or of the lookup. -/
theorem load_outcome (given : Option Path) (path : Path) (h : Host) (content : Bytes)
    (expands : (pathOf given).run h = (.ok path, h)) (reads : h.files.Reads path content)
    (faultless : ∀ f ∈ h.files.faults, f.call ≠ .stat ∧ f.call ≠ .readFile) :
    ∃ r h', (load given).run h = (r, h') ∧
      (∀ settings told, r = .ok (settings, told) → settings.path = some path) ∧
      ∀ f, r = .error f ↔ Reported h.reading path content f ∨ Escapes h.reading content f := by
  have ends := ends_load_of_reads expands reads (faultAt_eq_none fun f hf => (faultless f hf).1)
    (faultAt_eq_none fun f hf => (faultless f hf).2)
  rcases run : (load given).run h with ⟨r, h'⟩
  have same : ofBytes h.reading content path = r := by
    cases r with
    | ok loaded => exact ends.of_ok run
    | error f => exact ends.of_error run
  subst same
  exact ⟨_, h', rfl, fun _ _ => path_of_ofBytes, fun f => ofBytes_eq_error_iff⟩

/-- There is nothing on the host but a settings file. -/
def settledHost (content : Text) : Host where
  files := {
    tree := { entries := [([Text.toBytes "config.toml"], .file 0o600 0 content.toBytes)] }
    current := [] }

theorem load_outcome_unfit :
    ∃ f, ((load (some (.ofText "config.toml"))).run
        (settledHost "[session]\ndisplay = 1\n")).1 = .error f ∧
      Reported {} (.ofText "config.toml") (Text.toBytes "[session]\ndisplay = 1\n") f := by
  have reads : (settledHost "[session]\ndisplay = 1\n").files.Reads (.ofText "config.toml")
      (Text.toBytes "[session]\ndisplay = 1\n") :=
    ⟨by decide, [Text.toBytes "config.toml"], 0o600, 0, by decide +kernel, by decide⟩
  obtain ⟨r, h', run, -, outcome⟩ :=
    load_outcome (some (.ofText "config.toml")) _ _ _ rfl reads nofun
  have refused : ((load (some (.ofText "config.toml"))).run
      (settledHost "[session]\ndisplay = 1\n")).1 =
        .error (.refused (.settingsValue "session.display" "must be a string")) := by
    decide +kernel
  refine ⟨_, refused, ?_⟩
  rw [run] at refused
  rcases (outcome _).mp refused with reported | escapes
  · exact reported
  · cases escapes

/-- A number in the place of a section, and a byte that begins no character, have no words. -/
theorem load_not_reported :
    ((load (some (.ofText "config.toml"))).run (settledHost "display = 5")).1 = .error .mistyped ∧
      ((load (some (.ofText "config.toml"))).run (settledHost [.stray 0xff])).1 =
        .error .undecodable ∧
      ∀ reading path content, ¬ Reported reading path content .mistyped ∧
        ¬ Reported reading path content .undecodable :=
  ⟨by decide +kernel, by decide +kernel, fun _ _ _ => ⟨nofun, nofun⟩⟩

end VncAccess.Settings
