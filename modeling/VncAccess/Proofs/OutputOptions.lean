import VncAccess.Proofs.Agreement
import VncAccess.Proofs.Lemmas.Beside

/-!
# What the output is like

How much an operator asks to be told, and whether in colour, makes no difference to what a command
does. An operator who does not ask for details is told all the rest, in the same words.
-/

namespace VncAccess

open Host (Beside)
open CommandLine (Options Order Item Mistake)

/-! ## The same task -/

/-- The same error twice, or values that are related. -/
inductive Agree {ε α : Type} (related : α → α → Prop) : Except ε α → Except ε α → Prop where
  | error {e : ε} : Agree related (.error e) (.error e)
  | ok {a b : α} : related a b → Agree related (.ok a) (.ok b)

namespace CommandLine

/-- The options say the same but for the output. -/
structure SameTask (o o' : Options) : Prop where
  request : o'.request = o.request
  config : o'.config = o.config

/-- The first options ask for details, and the second do not, with or without the log. -/
structure Quieter (debug : Bool) (o o' : Options) : Prop where
  verbose : o.verbose = true
  debug : o.debug = debug
  quiet : o' = { o with verbose := false }

inductive SameOrder (related : Options → Options → Prop) : Order → Order → Prop where
  | present {n : Notice} : SameOrder related (.present n) (.present n)
  | carryOut {o o' : Options} {rest : List Text} : related o o' →
      SameOrder related (.carryOut o rest) (.carryOut o' rest)

variable {o o' : Options} {debug : Bool}

theorem Quieter.sameTask (quieter : Quieter debug o o') : SameTask o o' := by
  obtain ⟨-, -, rfl⟩ := quieter
  exact ⟨rfl, rfl⟩

theorem Quieter.of_silent (quiet : o.verbose = false) (log : o.debug = debug) :
    Quieter debug { o with verbose := true } o where
  verbose := rfl
  debug := log
  quiet := by
    cases o
    cases quiet
    rfl

theorem agree_withRest {related : Options → Options → Prop}
    (named : ∀ file, related { o with request.file := file } { o' with request.file := file })
    (same : related o o') (rest : List Text) :
    Agree related (o.withRest rest) (o'.withRest rest) := by
  rcases rest with _ | ⟨file, _ | _⟩
  · exact .ok same
  · exact .ok (named _)
  · exact .error

theorem SameTask.withRest (same : SameTask o o') (rest : List Text) :
    Agree SameTask (o.withRest rest) (o'.withRest rest) := by
  refine agree_withRest (fun file => ⟨?_, same.config⟩) same rest
  rw [same.request]

theorem Quieter.withRest (quieter : Quieter debug o o') (rest : List Text) :
    Agree (Quieter debug) (o.withRest rest) (o'.withRest rest) := by
  refine agree_withRest (fun file => ⟨quieter.verbose, quieter.debug, ?_⟩) quieter rest
  rw [quieter.quiet]

/-! ### Words for the output -/

/-- The flags that only concern the output, by their names. -/
def outputFlags : List (Text × Flag) :=
  [("--no-color", .noColour), ("--verbose", .verbose), ("--debug", .debug)]

theorem SameTask.add (same : SameTask o o') (item : Item) :
    SameTask (o.add item) (o'.add item) := by
  cases item with
  | flag f => cases f <;> constructor <;> simp [Options.add, same.request, same.config]
  | parameter p value => cases p <;> constructor <;> simp [Options.add, same.request, same.config]
  | notice n => exact same
  | word t => exact same

theorem SameTask.foldl (same : SameTask o o') (items : List Item) :
    SameTask (items.foldl Options.add o) (items.foldl Options.add o') := by
  induction items generalizing o o' with
  | nil => exact same
  | cons item items ih => exact ih (same.add item)

theorem readWord_of_named {word : Text} {f : Flag} (whole : splitValue word = (word, none))
    (named : named? word = some (.flag f)) : readWord word = .ok ⟨[.flag f], none⟩ := by
  simp [readWord, whole, named]

theorem named_outputFlags : ∀ x ∈ outputFlags,
    x.1 ≠ [dash, dash] ∧ isOption x.1 ∧ splitValue x.1 = (x.1, none) ∧
      named? x.1 = some (.flag x.2) := by
  decide +kernel

theorem sameTask_of_output {word : Text} {f : Flag} (output : (word, f) ∈ outputFlags) :
    SameTask {} (Options.add {} (.flag f)) := by
  simp only [outputFlags, List.mem_cons, Prod.mk.injEq, List.not_mem_nil, or_false] at output
  obtain ⟨-, rfl⟩ | ⟨-, rfl⟩ | ⟨-, rfl⟩ := output <;> exact ⟨rfl, rfl⟩

theorem parse_cons_output {word : Text} {f : Flag} (output : (word, f) ∈ outputFlags)
    (words : List Text) :
    parse (word :: words) = (readWords words).map fun items => order (.flag f :: items) := by
  obtain ⟨dashes, option, whole, named⟩ := named_outputFlags _ output
  have read := readWord_of_named whole named
  simp only [parse, readWords, dashes, option, read, ↓reduceIte, Bool.not_true, Bool.false_eq_true]
  cases readWords words <;> rfl

theorem order_cons_flag (f : Flag) (items : List Item) :
    (∃ n, order items = .present n ∧ order (.flag f :: items) = .present n) ∨
      ∃ rest, order items = .carryOut (items.foldl Options.add {}) rest ∧
        order (.flag f :: items) =
          .carryOut (items.foldl Options.add (Options.add {} (.flag f))) rest := by
  simp only [order, List.findSome?_cons, List.filterMap_cons, List.foldl_cons]
  split
  · exact .inl ⟨_, rfl, rfl⟩
  · exact .inr ⟨_, rfl, rfl⟩

/-- A word for the output changes nothing else about the order that the other words give. -/
theorem sameOrder_cons_output {word : Text} {f : Flag} (output : (word, f) ∈ outputFlags)
    (words : List Text) :
    Agree (SameOrder SameTask) (parse words) (parse (word :: words)) := by
  rw [parse_cons_output output, parse]
  cases readWords words with
  | error => exact .error
  | ok items =>
      have same := (sameTask_of_output output).foldl items
      show Agree _ (.ok (order items)) (.ok (order (.flag f :: items)))
      obtain ⟨n, plain, more⟩ | ⟨rest, plain, more⟩ := order_cons_flag f items
      · rw [plain, more]
        exact .ok .present
      · rw [plain, more]
        exact .ok (.carryOut same)

theorem foldl_add_verbose (items : List Item) (o : Options) :
    items.foldl Options.add { o with verbose := true } =
      { items.foldl Options.add o with verbose := true } := by
  induction items generalizing o with
  | nil => rfl
  | cons item items ih =>
      have first : Options.add { o with verbose := true } item =
          { o.add item with verbose := true } := by
        cases item with
        | flag f => cases f <;> rfl
        | parameter p value => cases p <;> rfl
        | notice n => rfl
        | word t => rfl
      rw [List.foldl_cons, first, ih, List.foldl_cons]

/-- Words that do not ask for details differ from the same words after a request for them in
nothing else. -/
theorem quieter_cons_verbose {words : List Text} {debug : Bool}
    (silent : ∀ o rest, parse words = .ok (.carryOut o rest) →
      o.verbose = false ∧ o.debug = debug) :
    Agree (SameOrder (Quieter debug)) (parse ("--verbose" :: words)) (parse words) := by
  have output : (Text.ofString "--verbose", .verbose) ∈ outputFlags := by simp [outputFlags]
  rw [parse_cons_output output]
  unfold parse at silent ⊢
  generalize readWords words = read at silent ⊢
  cases read with
  | error => exact .error
  | ok items =>
      show Agree _ (.ok (order (.flag .verbose :: items))) (.ok (order items))
      obtain ⟨n, plain, more⟩ | ⟨rest, plain, more⟩ := order_cons_flag .verbose items
      · rw [plain, more]
        exact .ok .present
      · obtain ⟨quiet, log⟩ := silent _ rest (congrArg Except.ok plain)
        rw [plain, more, Options.add, foldl_add_verbose]
        exact .ok (.carryOut (.of_silent quiet log))

end CommandLine

/-! ## What is left out -/

def Line.isDetail (l : Line) : Bool :=
  match l.notice with
  | .verbose _ => true
  | _ => false

/-- What an operator who does not ask for details is told of the lines. With the log nothing is left
out. -/
def trimmed (debug : Bool) (lines : List Line) : List Line :=
  if debug then lines else lines.filter fun l => !l.isDetail

/-- Both consoles have gone on from the same lines, the second without the details. -/
structure Trimmed (debug : Bool) (before : List Line) (c c' : Console) : Prop where
  isTerminal : c'.isTerminal = c.isTerminal
  colour : c'.colour = c.colour
  lines : ∃ told, c.lines = before ++ told ∧ c'.lines = before ++ trimmed debug told

/-- In addition the first console is one for details, and the second is not. -/
structure Quieted (debug : Bool) (before : List Line) (c c' : Console) : Prop
    extends Trimmed debug before c c' where
  verbose : c.verbose = true
  quiet : c'.verbose = debug
  logging : c'.logging = c.logging

section Trimming

variable {debug : Bool} {before : List Line} {c c' : Console} {n : Notice}

theorem trimmed_append (told : List Line) (l : Line) :
    trimmed debug (told ++ [l]) = trimmed debug told ++ trimmed debug [l] := by
  cases debug <;> simp [trimmed]

/-- Nothing has been told yet. -/
theorem Trimmed.of_lines (isTerminal : c'.isTerminal = c.isTerminal) (colour : c'.colour = c.colour)
    (lines : c.lines = before) (lines' : c'.lines = before) : Trimmed debug before c c' := by
  refine ⟨isTerminal, colour, [], ?_, ?_⟩
  · rw [lines, List.append_nil]
  · cases debug <;> simp [trimmed, lines']

theorem Trimmed.line (trim : Trimmed debug before c c') : c'.line n = c.line n := by
  rw [Console.line, Console.line, trim.isTerminal, trim.colour]

/-- A notice that both consoles show. -/
theorem Trimmed.add (trim : Trimmed debug before c c')
    (shown : debug = true ∨ (c.line n).isDetail = false) :
    Trimmed debug before (c.add n) (c'.add n) := by
  obtain ⟨told, lines, lines'⟩ := trim.lines
  refine ⟨trim.isTerminal, trim.colour, told ++ [c.line n], ?_, ?_⟩
  · show c.lines ++ [c.line n] = _
    rw [lines, List.append_assoc]
  · have kept : trimmed debug [c.line n] = [c.line n] := by
      rcases shown with rfl | plain
      · rfl
      · cases debug <;> simp [trimmed, plain]
    show c'.lines ++ [c'.line n] = _
    rw [lines', trim.line, trimmed_append, kept, List.append_assoc]

/-- A notice that only the first console shows. -/
theorem Trimmed.skip (trim : Trimmed false before c c') (detail : (c.line n).isDetail = true) :
    Trimmed false before (c.add n) c' := by
  obtain ⟨told, lines, lines'⟩ := trim.lines
  refine ⟨trim.isTerminal, trim.colour, told ++ [c.line n], ?_, ?_⟩
  · show c.lines ++ [c.line n] = _
    rw [lines, List.append_assoc]
  · have left : trimmed false [c.line n] = [] := by simp [trimmed, detail]
    rw [lines', trimmed_append, left, List.append_nil]

theorem Quieted.hear (quieted : Quieted debug before c c') (n : Notice) :
    Quieted debug before (c.hear n) (c'.hear n) := by
  obtain ⟨trim, verbose, quiet, logging⟩ := quieted
  cases n with
  | verbose m =>
      simp only [Console.hear, verbose, quiet, ↓reduceIte]
      cases debug with
      | true => exact ⟨trim.add (.inl rfl), verbose, quiet, logging⟩
      | false => exact ⟨trim.skip rfl, verbose, quiet, logging⟩
  | _ => exact ⟨trim.add (.inr rfl), verbose, quiet, logging⟩

theorem Quieted.note (quieted : Quieted debug before c c') (part : String) (message : Text) :
    Quieted debug before (c.note part message) (c'.note part message) := by
  unfold Console.note
  rw [quieted.logging]
  split
  · exact ⟨quieted.toTrimmed.add (.inr rfl), quieted.verbose, quieted.quiet, quieted.logging⟩
  · exact quieted

theorem tuned_quieted : Tuned (Quieted debug before) where
  hear _ _ n quieted := quieted.hear n
  note _ _ part message quieted := quieted.note part message

end Trimming

/-! ## The same command -/

namespace Command

open CommandLine (SameTask Quieter SameOrder)

variable {near final : Console → Console → Prop} {o o' : Options} {h h' s t : Host}

/-- A console that is made colourless if a condition holds. -/
def dimmed (off : Bool) (c : Console) : Console := if off then withoutColour c else c

theorem ite_withoutColour (off : Bool) (h : Host) :
    (if off then setConsole withoutColour h else h) =
      { h with console := dimmed off h.console } := by
  cases off <;> rfl

/-- Whether a command has no colours from the beginning. -/
def isColourless (o : Options) (h : Host) : Bool :=
  o.noColour || (h.environment.lookup (Text.ofString "NO_COLOR")).isSome

/-- The console that a command with these options begins to work with. -/
def consoleFor (o : Options) (h : Host) : Console :=
  dimmed (isColourless o h) { h.console with verbose := o.verbose || o.debug, logging := o.debug }

theorem ofRequest_beside (beside : Beside near s t) (r : Request) :
    Invocation.ofRequest t.environment r = Invocation.ofRequest s.environment r := by
  have home := beside.lookups (Text.ofString "HOME") (by decide)
  have user := beside.lookups (Text.ofString "USER") (by decide)
  simp only [Invocation.ofRequest, Invocation.defaultDirectory, Invocation.temporaryDirectory,
    Invocation.boundedVariable, home, user]

theorem quieted_dimmed {debug : Bool} {before : List Line} {c c' : Console}
    (quieted : Quieted debug before c c') (off : Bool) :
    Quieted debug before (dimmed off c) (dimmed off c') := by
  cases off with
  | false => exact quieted
  | true =>
      obtain ⟨⟨isTerminal, -, lines⟩, verbose, quiet, logging⟩ := quieted
      exact ⟨⟨isTerminal, rfl, lines⟩, verbose, quiet, logging⟩

theorem matches_perform {off off' : Bool} (same : SameTask o o') (tuned : Tuned near)
    (beside : Beside near s t)
    (dims : ∀ c c' colour, near c c' →
      near (dimmed (!off && !colour) c) (dimmed (!off' && !colour) c')) :
    Matches (Beside near) (perform o off) (perform o' off') s t := by
  unfold perform
  rw [same.config, same.request]
  refine Matches.bind (Settings.blind_load sharesHomes_beside s t beside) ?_
  rintro ⟨settings, warnings⟩ s₁ t₁ beside₁
  refine together_ite_modify ?_
  rw [ite_withoutColour, ite_withoutColour]
  have toned := beside₁.said (dims _ _ settings.colour beside₁.console)
  have warns := blind_forM (fun w => Run.blind_say (n := .warning w) tuned.hears) warnings
  refine Matches.bind (warns _ _ toned) fun _ s₂ t₂ beside₂ => together_get_bind ?_
  rw [ofRequest_beside beside₂]
  cases Invocation.ofRequest s₂.environment _ with
  | ok i => exact blind_run tuned.hears s₂ t₂ beside₂
  | error e => exact blind_throw s₂ t₂ beside₂

theorem matches_carryOut (same : SameTask o o') (tuned : Tuned near) (world : s.SameWorld t)
    (ready : near (consoleFor o s) (consoleFor o' t))
    (dims : ∀ c c' colour, near c c' →
      near (dimmed (!isColourless o s && !colour) c) (dimmed (!isColourless o' t && !colour) c')) :
    Matches (Beside near) (carryOut o) (carryOut o') s t := by
  unfold carryOut
  refine together_modify_bind (Run.together_environmentValue_bind (together_ite_modify ?_))
  rw [ite_withoutColour, ite_withoutColour]
  have performs := matches_perform same tuned (world.said ready) dims
  refine (Run.matches_attempt performs).bind fun result s₁ t₁ beside₁ => ?_
  rcases result with f | ⟨⟩
  · cases f with
    | refused e =>
        have reports := blind_reportRefusal (e := e) tuned.hears
        exact (reports.bind fun _ => blind_pure) s₁ t₁ beside₁
    | _ => exact ⟨rfl, beside₁⟩
  · exact ⟨rfl, beside₁⟩

section Orders

variable {related : Options → Options → Prop} {words words' : List Text}
  (frank : ∀ c c' text, final c c' → final (c.hear (.verbatim text)) (c'.hear (.verbatim text)))
include frank

theorem blind_verbatim {text : Text} : Blind (Beside final) (Run.say (.verbatim text)) := by
  intro s t beside
  unfold Together
  rw [Run.ends_say, Run.ends_say]
  exact ⟨rfl, beside.said (frank _ _ text beside.console)⟩

omit frank in
theorem together_complete (beside : Beside final h h') (config : o'.config = o.config)
    {rest : List Text} (completed : Agree related (o.withRest rest) (o'.withRest rest)) :
    Together (complete o rest) (complete o' rest) h h'
      (fun r s r' t => s = h ∧ t = h' ∧ Agree related r r') fun _ => Beside final := by
  have files : h'.files = h.files := sharesFiles_beside.same _ _ beside
  unfold complete
  dsimp only
  rw [config]
  split
  · exact ⟨rfl, beside⟩
  · apply together_get_bind
    rw [files]
    split
    · exact ⟨rfl, rfl, .error⟩
    · exact ⟨rfl, rfl, completed⟩

theorem matches_obey (beside : Beside final h h')
    (config : ∀ o o', related o o' → o'.config = o.config)
    (completes : ∀ o o' rest, related o o' → Agree related (o.withRest rest) (o'.withRest rest))
    (carries : ∀ o o', related o o' → Matches (Beside final) (carryOut o) (carryOut o') h h')
    (orders : Agree (SameOrder related) (CommandLine.parse words) (CommandLine.parse words')) :
    Matches (Beside final) (obey words) (obey words') h h' := by
  have reports (m : Mistake) : Blind (Beside final) (reportMistake m) :=
    blind_reportMistake fun _ => blind_verbatim frank
  unfold obey
  generalize CommandLine.parse words = x at orders
  generalize CommandLine.parse words' = x' at orders
  cases orders with
  | error => exact reports _ h h' beside
  | ok same =>
      cases same with
      | present =>
          refine Matches.bind (blind_emit h h' beside) fun result s t beside' => ?_
          cases result with
          | ok => exact ⟨rfl, beside'⟩
          | error => exact ⟨rfl, beside'⟩
      | carryOut same =>
          refine Together.bind
            (together_complete beside (config _ _ same) (completes _ _ _ same)) ?_
          rintro _ _ _ _ ⟨rfl, rfl, agree⟩
          cases agree with
          | error => exact reports _ _ _ beside
          | ok same => exact carries _ _ same

end Orders

theorem matches_main_sameTask {words words' : List Text} (world : h.SameWorld h')
    (orders : Agree (SameOrder SameTask) (CommandLine.parse words) (CommandLine.parse words')) :
    Matches (Beside fun _ _ => True) (main words) (main words') h h' := by
  have tuned : Tuned fun _ _ => True := ⟨fun _ _ _ => id, fun _ _ _ _ => id⟩
  refine matches_main (blind_verbatim fun _ _ _ => id) (matches_obey (fun _ _ _ => id)
    ⟨world, trivial⟩ (fun _ _ same => same.config) (fun _ _ rest same => same.withRest rest) ?_
    orders)
  intro o o' same
  exact matches_carryOut same tuned world trivial fun _ _ _ => id

theorem matches_main_quieter {debug : Bool} {words words' : List Text}
    (orders : Agree (SameOrder (Quieter debug)) (CommandLine.parse words)
      (CommandLine.parse words')) :
    Matches (Beside (Trimmed debug h.console.lines)) (main words) (main words') h h := by
  have world : h.SameWorld h := ⟨⟨_, _, rfl⟩, fun _ _ => rfl⟩
  have frank (c c' : Console) (text : Text) (trim : Trimmed debug h.console.lines c c') :
      Trimmed debug h.console.lines (c.hear (.verbatim text)) (c'.hear (.verbatim text)) :=
    trim.add (.inr rfl)
  refine matches_main (blind_verbatim frank) (matches_obey frank ⟨world, .of_lines rfl rfl rfl rfl⟩
    (fun _ _ quieter => quieter.sameTask.config) (fun _ _ rest quieter => quieter.withRest rest)
    ?_ orders)
  intro o o' quieter
  -- Both commands begin on one console, and the options set it up for them.
  have ready : Quieted debug h.console.lines (consoleFor o h) (consoleFor o' h) := by
    obtain ⟨verbose, rfl, rfl⟩ := quieter
    have begun : Quieted o.debug h.console.lines
        { h.console with verbose := o.verbose || o.debug, logging := o.debug }
        { h.console with verbose := false || o.debug, logging := o.debug } := by
      refine ⟨.of_lines rfl rfl rfl rfl, ?_, ?_, rfl⟩ <;> simp [verbose]
    exact quieted_dimmed begun (isColourless o h)
  have colourless : isColourless o' h = isColourless o h := by
    rw [quieter.quiet]
    rfl
  refine (matches_carryOut quieter.sameTask tuned_quieted world ready ?_).imp ?_
  · intro c c' colour quieted
    rw [colourless]
    exact quieted_dimmed quieted _
  · intro s t beside
    exact ⟨beside.toSameWorld, beside.console.toTrimmed⟩

/-- Options for the output change nothing but the output. Commands that differ in nothing else, and
whose hosts do not either, have the same end and leave the same world behind. Without details a
command tells what is left of that which it tells with them. -/
theorem output_options_change_output_only (words words' : List Text) (h : Host) :
    (∀ h', h.SameWorld h' →
      Agree (SameOrder SameTask) (CommandLine.parse words) (CommandLine.parse words') →
      ((main words').run h').1 = ((main words).run h).1 ∧
        ((main words).run h).2.SameWorld ((main words').run h').2) ∧
    ∀ debug,
      Agree (SameOrder (Quieter debug)) (CommandLine.parse words) (CommandLine.parse words') →
      ∃ told, ((main words).run h).2.console.lines = h.console.lines ++ told ∧
        ((main words').run h).2.console.lines = h.console.lines ++ trimmed debug told := by
  refine ⟨fun h' world orders => ?_, fun debug orders => ?_⟩
  · obtain ⟨result, beside⟩ := (matches_main_sameTask world orders).run
    exact ⟨result, beside.toSameWorld⟩
  · exact (matches_main_quieter orders).run.2.console.lines

/-- A server that takes one-time passwords, on a display with a name that looks like a tag. -/
def announcingHost : Host where
  files := { tree := { entries := [] }, current := [] }
  environment := [("DISPLAY", ":1[/info]")]
  server.atoms := [("VNC_OTP", 7)]
  entropy.values := [12345678]

/-- The same host, on which colour is switched off. -/
def colourlessHost : Host :=
  { announcingHost with environment := ("NO_COLOR", "") :: announcingHost.environment }

theorem output_options_change_output_only_announced :
    (((main ["-o"]).run announcingHost).1 = .ok 0 ∧
      ((main ["--debug", "-o"]).run colourlessHost).1 = .ok 0 ∧
      ((main ["-o"]).run announcingHost).2.SameWorld
        ((main ["--debug", "-o"]).run colourlessHost).2) ∧
      ∃ told, ((main ["--verbose", "-o"]).run announcingHost).2.console.lines = told ∧
        ((main ["-o"]).run announcingHost).2.console.lines = trimmed false told := by
  have status : ((main ["-o"]).run announcingHost).1.toOption = some 0 := by decide +kernel
  have done := eq_ok_of_toOption status
  have colourless : announcingHost.SameWorld colourlessHost := by
    refine ⟨⟨_, _, rfl⟩, fun name other => ?_⟩
    have unnamed : (name == Text.ofString "NO_COLOR") = false := beq_eq_false_iff_ne.mpr other
    simp only [colourlessHost, List.lookup_cons, unnamed]
  have debugs : (Text.ofString "--debug", .debug) ∈ CommandLine.outputFlags := by
    simp [CommandLine.outputFlags]
  have plain : CommandLine.parse ["-o"] = _ := parse_of_items [.flag .oneTime] (by decide +kernel)
  have quieter : Agree (SameOrder (Quieter false)) (CommandLine.parse ["--verbose", "-o"])
      (CommandLine.parse ["-o"]) := by
    refine CommandLine.quieter_cons_verbose fun o rest parsed => ?_
    cases plain.symm.trans parsed
    exact ⟨rfl, rfl⟩
  obtain ⟨same, left⟩ := (output_options_change_output_only ["-o"] ["--debug", "-o"]
    announcingHost).1 colourlessHost colourless (CommandLine.sameOrder_cons_output debugs ["-o"])
  have told := (output_options_change_output_only ["--verbose", "-o"] ["-o"] announcingHost).2
    false quieter
  exact ⟨⟨done, same.trans done, left⟩, told⟩

end Command
end VncAccess
