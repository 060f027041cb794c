import VncAccess.Proofs.Lemmas.Blindness

/-!
# Two consoles beside each other

Two hosts differ in what is on their consoles, and in the variable that switches off colour. Nothing
that is done for a request takes notice of either.
-/

namespace VncAccess

open Secret

/-- The hosts are the same but for their consoles and the variable that switches off colour. -/
structure Host.SameWorld (s t : Host) : Prop where
  world : ∃ environment console, t = { s with environment, console }
  lookups : ∀ name, name ≠ Text.ofString "NO_COLOR" →
    t.environment.lookup name = s.environment.lookup name

/-- The hosts are the same but for that variable and for consoles that are related. -/
structure Host.Beside (near : Console → Console → Prop) (s t : Host) : Prop
    extends s.SameWorld t where
  console : near s.console t.console

/-- Consoles stay related when both are told the same. -/
structure Tuned (near : Console → Console → Prop) : Prop where
  hear : ∀ c c' n, near c c' → near (c.hear n) (c'.hear n)
  note : ∀ c c' part message, near c c' → near (c.note part message) (c'.note part message)

open Host (Beside)

variable {near : Console → Console → Prop} {α : Type}

/-- Whatever is written on the consoles, the rest stays the same. -/
theorem Host.SameWorld.said {s t : Host} (world : s.SameWorld t) {console console' : Console}
    (after : near console console') :
    Beside near { s with console } { t with console := console' } := by
  obtain ⟨⟨_, _, rfl⟩, lookups⟩ := world
  exact ⟨⟨⟨_, _, rfl⟩, lookups⟩, after⟩

/-- The change takes no notice of the variables and the console. -/
def Apart (c : Host → Host) : Prop :=
  ∀ h environment console, c { h with environment, console } = { c h with environment, console }

theorem Host.Beside.change {s t : Host} {c : Host → Host} (apart : Apart c)
    (beside : Beside near s t) : Beside near (c s) (c t) := by
  obtain ⟨⟨⟨environment, console, rfl⟩, lookups⟩, after⟩ := beside
  have own : c s = { c s with environment := s.environment, console := s.console } :=
    apart s s.environment s.console
  have environments : (c s).environment = s.environment := by rw [own]
  have consoles : (c s).console = s.console := by rw [own]
  refine ⟨⟨⟨environment, console, apart ..⟩, ?_⟩, ?_⟩
  · rw [apart, environments]
    exact lookups
  · rw [consoles, apart]
    exact after

theorem Tuned.hears (tuned : Tuned near) : Hears (Beside near) where
  hear _ _ n beside := beside.said (tuned.hear _ _ n beside.console)
  note _ _ part message beside := beside.said (tuned.note _ _ part message beside.console)

theorem sharesHomes_beside : SharesHomes (Beside near) where
  same _ _ beside := by
    obtain ⟨_, _, rfl⟩ := beside.world
    rfl
  keeps _ _ _ beside := beside.change (c := fun h => { h with files := _ }) fun _ _ _ => rfl
  home _ _ beside := beside.lookups _ (by decide)
  homes _ _ beside := by
    obtain ⟨_, _, rfl⟩ := beside.world
    rfl
  reading _ _ beside := by
    obtain ⟨_, _, rfl⟩ := beside.world
    rfl

theorem sharesFiles_beside : SharesFiles (Beside near) := sharesHomes_beside.toSharesFiles

theorem sharesInput_beside : SharesInput (Beside near) where
  same _ _ beside := by
    obtain ⟨_, _, rfl⟩ := beside.world
    rfl
  keeps _ _ _ beside := beside.change (c := fun h => { h with input := _ }) fun _ _ _ => rfl

/-! ## What takes no notice -/

theorem blind_look {f : Host → Run α}
    (apart : ∀ h environment console, f { h with environment, console } = f h)
    (each : ∀ h, Blind (Beside near) (f h)) : Blind (Beside near) (get >>= f) := by
  refine blind_get_bind ?_ each
  intro s t beside
  obtain ⟨_, _, rfl⟩ := beside.world
  exact apart s _ _

theorem blind_change {c : Host → Host} (apart : Apart c) :
    Blind (Beside near) (modify c : Run PUnit) :=
  blind_modify fun _ _ beside => beside.change apart

/-- A change of the host that has a result. -/
theorem blind_modifyGet {g : Host → α × Host}
    (apart : ∀ h environment console, g { h with environment, console } =
      ((g h).1, { (g h).2 with environment, console })) :
    Blind (Beside near) (modifyGetThe Host g : Run α) := by
  intro s t beside
  have result : (g t).1 = (g s).1 := by
    obtain ⟨_, _, rfl⟩ := beside.world
    rw [apart]
  have changes : Apart fun h => (g h).2 := by
    intro h environment console
    show (g { h with environment, console }).2 = _
    rw [apart]
  exact ⟨result, beside.change changes⟩

theorem blind_always_change {c : Host → Host} {x : Run α} (apart : Apart c)
    (hx : Blind (Beside near) x) : Blind (Beside near) (Run.always c x) :=
  Run.blind_always (fun _ _ beside => beside.change apart) hx

theorem blind_onFailure_change {c : Host → Host} {x : Run α} (apart : Apart c)
    (hx : Blind (Beside near) x) : Blind (Beside near) (Run.onFailure c x) :=
  Run.blind_onFailure (fun _ _ beside => beside.change apart) hx

theorem blind_emit {bytes : Bytes} : Blind (Beside near) (Run.emit bytes) :=
  blind_modifyGet (g := fun h =>
    ((h.output.emit bytes).1, { h with output := (h.output.emit bytes).2 })) fun _ _ _ => rfl

variable (hears : Hears (Beside near))

/-! ## Passwords -/

namespace Password

theorem blind_prompt {label : Text} : Blind (Beside near) (prompt label) := by
  refine blind_look (fun _ _ _ => rfl) fun h => ?_
  refine (blind_change fun _ _ _ => rfl).bind fun _ => ?_
  split
  · exact blind_modifyGet fun _ _ _ => rfl
  · exact blind_throw
  · exact blind_throw

theorem blind_nextLine : Blind (Beside near) nextLine := by
  refine blind_look (fun _ _ _ => rfl) fun h => ?_
  refine (blind_change fun _ _ _ => rfl).bind fun _ => ?_
  split
  · exact blind_pure
  · exact blind_throw

theorem File.blind_discard {temporary : Location} :
    Blind (Beside near) (File.discard temporary) := by
  refine (Run.blind_files sharesFiles_beside).bind fun result => ?_
  cases result with
  | ok => exact blind_pure
  | error => exact .ite blind_throw blind_pure

theorem File.blind_replace {path : Path} {content : Bytes} :
    Blind (Beside near) (File.replace path content) := by
  refine (Run.blind_filesOr sharesFiles_beside).bind fun temporary => ?_
  refine Run.blind_cleaning File.blind_discard ?_
  exact (Run.blind_filesOr sharesFiles_beside).bind fun _ => Run.blind_filesOr sharesFiles_beside

theorem File.blind_writeStream {primary : Buffer} {secondary : Option Buffer} :
    Blind (Beside near) (File.writeStream primary secondary) := by
  refine blind_look (fun _ _ _ => rfl) fun h => Run.blind_ofValue.bind fun content => ?_
  refine blind_emit.bind fun result => ?_
  cases result with
  | ok => exact blind_pure
  | error => exact blind_throw

include hears

theorem blind_keepSignificant {bytes : Bytes} : Blind (Beside near) (keepSignificant bytes) := by
  refine (Run.blind_log hears).ite_bind (blind_look (fun _ _ _ => rfl) fun h => ?_)
  refine Run.blind_ofValue.bind fun kept => ?_
  exact (blind_change fun _ _ _ => rfl).bind fun _ => blind_pure

theorem blind_askFirst : Blind (Beside near) askFirst := by
  refine blind_prompt.bind fun raw => ?_
  refine (blind_always_change (fun _ _ _ => rfl) ?_).bind fun kept => ?_
  · exact blind_look (fun _ _ _ => rfl) fun h => .ite blind_throw_bind (blind_keepSignificant hears)
  · exact (Run.blind_say hears).ite_bind blind_pure

theorem blind_askSecond : Blind (Beside near) askSecond := by
  refine blind_prompt.bind fun raw => blind_look (fun _ _ _ => rfl) fun h => ?_
  refine (blind_keepSignificant hears).bind fun kept => ?_
  exact (blind_change fun _ _ _ => rfl).bind fun _ => blind_pure

theorem blind_askWithin (cycles : Nat) : Blind (Beside near) (askWithin cycles) := by
  -- Whether there is another cycle is read off the buffers, which are the same on both sides.
  induction cycles with
  | zero => exact blind_throw
  | succ cycles ih =>
      refine (blind_askFirst hears).bind fun candidate => ?_
      refine (blind_onFailure_change (fun _ _ _ => rfl) (blind_askSecond hears)).bind
        fun confirmation => ?_
      refine Blind.bind (blind_always_change (fun _ _ _ => rfl) ?_) fun agreed => .ite ?_ ?_
      · refine blind_look (fun _ _ _ => rfl) fun h => ?_
        exact (Run.blind_log hears).ite_bind blind_pure
      · exact blind_pure
      · refine (blind_change fun _ _ _ => rfl).bind fun _ => ?_
        exact (Run.blind_say hears).bind fun _ => ih

theorem blind_ask : Blind (Beside near) ask :=
  blind_look (fun _ _ _ => rfl) fun _ => blind_askWithin hears _

theorem blind_askPair {viewOnly : Option Bool} :
    Blind (Beside near) (askPair viewOnly askViewOnly) := by
  have wants : Blind (Beside near) (wantsViewOnly viewOnly askViewOnly) :=
    blind_wantsViewOnly sharesInput_beside hears
  refine (blind_ask hears).bind fun primary => ?_
  refine Blind.bind (blind_onFailure_change (fun _ _ _ => rfl) ?_) fun secondary => ?_
  · exact wants.bind fun _ => .ite ((blind_ask hears).bind fun _ => blind_pure) blind_pure
  · exact blind_modifyGet fun _ _ _ => rfl

theorem blind_readLine : Blind (Beside near) readLine := by
  refine blind_nextLine.bind fun line => ?_
  refine Blind.bind (x := store line) (blind_modifyGet fun _ _ _ => rfl) fun raw => ?_
  refine (blind_always_change (fun _ _ _ => rfl) ?_).bind fun kept => ?_
  · exact .ite blind_pure ((blind_keepSignificant hears).bind fun _ => blind_pure)
  cases kept with
  | none => exact blind_pure
  | some kept => exact (Run.blind_say hears).ite_bind blind_pure

theorem blind_readPair : Blind (Beside near) readPair := by
  refine (blind_readLine hears).bind fun first => ?_
  cases first with
  | none => exact blind_throw
  | some primary =>
      refine blind_look (fun _ _ _ => rfl) fun h => (Run.blind_say hears).ite_bind ?_
      refine (blind_onFailure_change (fun _ _ _ => rfl) (blind_readLine hears)).bind
        fun secondary => ?_
      exact blind_modifyGet fun _ _ _ => rfl

theorem File.blind_persist {primary : Buffer} {secondary : Option Buffer} {path : Path} :
    Blind (Beside near) (File.persist primary secondary path) := by
  refine blind_look (fun _ _ _ => rfl) fun h => Run.blind_ofValue.bind fun content => ?_
  exact File.blind_replace.bind fun _ => Run.blind_log hears

end Password

/-! ## Servers -/

namespace Display

theorem blind_onServer {request : Server → α × Server} :
    Blind (Beside near) (onServer request) :=
  blind_modifyGet fun _ _ _ => rfl

theorem blind_orFail {result : Except Errno α} : Blind (Beside near) (orFail result) := by
  cases result with
  | ok => exact blind_pure
  | error => exact blind_throw

namespace Session

variable {s : Session} {key : Text} {payload : Bytes} {display : Option Text}

include hears

theorem blind_connect : Blind (Beside near) (connect display) := by
  refine blind_get_bind ?_ fun h => blind_onServer.bind fun result => ?_
  · intro s t beside
    have named : t.environment.lookup (Text.ofString "DISPLAY") =
        s.environment.lookup (Text.ofString "DISPLAY") := beside.lookups _ (by decide)
    unfold describe
    rw [named]
  · cases result with
    | ok => exact blind_pure
    | error => exact (Run.blind_log hears).bind fun _ => blind_throw

theorem blind_atom : Blind (Beside near) (s.atom key) :=
  blind_onServer.bind fun _ =>
    .ite blind_throw_bind ((Run.blind_log hears).bind fun _ => blind_pure)

theorem blind_setProperty : Blind (Beside near) (s.setProperty key payload) := by
  refine (blind_atom hears).bind fun atom => ?_
  refine blind_onServer.bind fun _ => blind_orFail.bind fun _ => ?_
  exact blind_onServer.bind fun _ => blind_orFail.bind fun _ => Run.blind_log hears

theorem blind_during {body : Session → Run α} (each : ∀ s, Blind (Beside near) (body s)) :
    Blind (Beside near) (during display body) :=
  (blind_connect hears).bind fun s => blind_always_change (fun _ _ _ => rfl) (each s)

end Session
end Display

theorem OneTime.blind_draw {p : Random.Provider} : Blind (Beside near) (draw p) := by
  refine blind_look (fun _ _ _ => rfl) fun h => ?_
  refine (blind_change fun _ _ _ => rfl).bind fun _ => ?_
  split
  · exact blind_pure
  · exact blind_throw

include hears

namespace OneTime

open Display

theorem blind_bestProvider : Blind (Beside near) bestProvider := by
  refine blind_look (fun _ _ _ => rfl) fun h => ?_
  dsimp only
  split
  · exact (Run.blind_log hears).bind fun _ => blind_pure
  · exact blind_pure

theorem blind_issue {label : Text} {p : Random.Provider} : Blind (Beside near) (issue label p) :=
  blind_draw.bind fun _ => (Run.blind_say hears).bind fun _ => blind_pure

theorem blind_issueAll {p : Random.Provider} {wantView : Bool} :
    Blind (Beside near) (issueAll p wantView) := by
  refine (blind_issue hears).bind fun first => .ite ?_ ?_
  · refine (blind_issue hears).bind fun second => blind_pure.bind fun view => ?_
    dsimp only
    split
    · exact blind_pure
    · exact blind_throw
  · refine blind_pure.bind fun view => ?_
    dsimp only
    split
    · exact blind_pure
    · exact blind_throw

theorem blind_publish {display : Option Text} {wantView revoke : Bool}
    {provider : Option Random.Provider} :
    Blind (Beside near) (publish display wantView revoke provider) := by
  refine Session.blind_during hears fun s => ?_
  refine (Run.blind_say hears).bind fun _ => ?_
  refine Blind.bind ((Session.blind_atom hears).bind fun _ => blind_pure) fun _ => .ite ?_ ?_
  · exact (Session.blind_setProperty hears).bind fun _ => Run.blind_log hears
  · have rest (p : Random.Provider) : Blind (Beside near) (do
        Run.say (.verbose ("Using " ++ p.name ++ " randomness"))
        if !p.strong then
          Run.say (.warning ("using " ++ p.name ++
            " randomness, one-time passwords may be predictable"))
        let payload ← issueAll p wantView
        s.setProperty oneTimeKey payload) := by
      refine (Run.blind_say hears).bind fun _ => (Run.blind_say hears).ite_bind ?_
      exact (blind_issueAll hears).bind fun _ => Session.blind_setProperty hears
    cases provider with
    | none => exact (blind_bestProvider hears).bind rest
    | some p => exact rest p

end OneTime

theorem AccessList.blind_publish {user : Text} {add viewOnly : Bool} {display : Option Text} :
    Blind (Beside near) (publish user add viewOnly display) := by
  unfold publish
  split
  · exact blind_throw
  · refine Blind.bind (Display.Session.blind_during hears fun s => ?_) fun s => Run.blind_log hears
    refine (Run.blind_say hears).bind fun _ => ?_
    exact (Display.Session.blind_setProperty hears).bind fun _ => blind_pure

/-! ## Commands -/

namespace Command

variable {i : Invocation}

theorem blind_publishOneTime {clear : Bool} : Blind (Beside near) (publishOneTime i clear) :=
  (OneTime.blind_publish hears).bind fun _ => .ite (Run.blind_say hears) blind_pure

theorem blind_changeAccessList : Blind (Beside near) (changeAccessList i) :=
  (AccessList.blind_publish hears).bind fun _ => Run.blind_say hears

theorem blind_encodeStream : Blind (Beside near) encodeStream :=
  (Password.blind_readPair hears).bind fun _ =>
    blind_always_change (fun _ _ _ => rfl) Password.File.blind_writeStream

theorem blind_writePair {pair : Secret.Pair} : Blind (Beside near) (writePair i pair) := by
  unfold writePair
  cases i.file with
  | none => exact blind_throw
  | some file => exact (Password.File.blind_persist hears).bind fun _ => Run.blind_say hears

theorem blind_writeFile : Blind (Beside near) (writeFile i) := by
  refine (blind_provide sharesFiles_beside hears).bind fun _ => ?_
  refine (Password.blind_askPair hears).bind fun _ => ?_
  refine (blind_always_change (fun _ _ _ => rfl) (blind_writePair hears)).bind fun _ => ?_
  exact Run.blind_say hears

theorem blind_run : Blind (Beside near) (run i) := by
  refine (Run.blind_log hears).bind fun _ => (Run.blind_say hears).bind fun _ => ?_
  cases i.mode with
  | oneTime => exact blind_publishOneTime hears
  | clearOneTime => exact blind_publishOneTime hears
  | accessList => exact blind_changeAccessList hears
  | stream => exact blind_encodeStream hears
  | file => exact blind_writeFile hears
  | temporary => exact blind_writeFile hears

end Command
end VncAccess
