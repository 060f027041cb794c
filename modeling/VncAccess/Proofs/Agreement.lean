import VncAccess.Proofs.Lemmas.Blindness
import VncAccess.Proofs.Outcome
import VncAccess.Proofs.Stream

/-!
# Typed or piped

Passwords that are typed at the terminal end in the same file as the same passwords in the lines of
a stream.
-/

namespace VncAccess

namespace Password

variable {p q e rest stream first : Bytes} {second : Option Bytes}

/-! ## The same passwords -/

/-- A password that can be typed and can stand on a line of its own. -/
structure Plain (password : Bytes) : Prop where
  long : 6 ≤ password.length
  noNewline : Input.newline ∉ password
  noReturn : password.getLast? ≠ some 13

/-- The stream has the passwords on its lines that the operator types twice at the terminal. A
second one is wanted from the outset, or the line that is read says no to it. -/
inductive TypedAs (viewOnly : Bool) (h : Host) : Bytes → Prop where
  | both {p q e e' : Bytes} {rest : List Answer} : viewOnly = true →
      h.terminal.answers = .typed p :: .typed p :: .typed q :: .typed q :: rest →
      Plain p → Plain q → LineEnd e → e' = [] ∨ LineEnd e' →
      TypedAs viewOnly h (p ++ e ++ (q ++ e'))
  | one {p e : Bytes} {rest : List Answer} {line : List Char} : viewOnly = false →
      h.terminal.answers = .typed p :: .typed p :: rest →
      h.input.readTextLine.1 = .ok line → line.head? ≠ some 'y' → line.head? ≠ some 'Y' →
      Plain p → e = [] ∨ LineEnd e → TypedAs viewOnly h (p ++ e)

theorem Plain.linesOf_append (plain : Plain p) (he : LineEnd e) (rest : Bytes) :
    linesOf (p ++ e ++ rest) = p :: linesOf rest :=
  linesOf_lineEnd plain.noNewline plain.noReturn he rest

theorem Plain.linesOf_last (plain : Plain p) (he : e = [] ∨ LineEnd e) :
    linesOf (p ++ e) = [p] := by
  rcases he with rfl | he
  · have filled : p ≠ [] := by
      rintro rfl
      cases plain.long
    rw [List.append_nil, linesOf, linesBy_of_notMem plain.noNewline filled]
  · have lines := plain.linesOf_append he []
    rwa [List.append_nil] at lines

theorem Confirms.of_twice {answers left : List Answer}
    (confirms : Confirms (.typed p :: .typed p :: answers) first left) :
    first = significantBytes p ∧ left = answers := by
  cases confirms with
  | agree _ _ => exact ⟨rfl, rfl⟩
  | again _ differ _ => exact absurd rfl differ

theorem Wanted.of_flag {wanted : Bool} {input : Input} (h : Wanted true input wanted) :
    wanted = true := by
  rcases h with ⟨-, wanted⟩ | ⟨off, -⟩
  · exact wanted
  · cases off

theorem Wanted.of_reply {wanted : Bool} {input : Input} {line : List Char}
    (reply : input.readTextLine.1 = .ok line) (h : Wanted false input wanted) :
    wanted = isYes line := by
  rcases h with ⟨on, -⟩ | ⟨-, line', reply', wanted⟩
  · cases on
  · cases reply.symm.trans reply'
    exact wanted.symm

/-- What the terminal confirms is what the lines hold. -/
theorem TypedAs.chosen {viewOnly : Bool} {h : Host} (typed : TypedAs viewOnly h stream)
    (chosen : Chosen viewOnly h.input h.terminal.answers first second) :
    ∃ line rest, linesOf stream = line :: rest ∧ first = significantBytes line ∧
      second = rest.head?.map significantBytes := by
  cases typed with
  | @both p q e e' _ on answers plain plain₂ ends ends₂ =>
      subst on
      have lines : linesOf (p ++ e ++ (q ++ e')) = [p, q] := by
        rw [plain.linesOf_append ends, plain₂.linesOf_last ends₂]
      cases chosen with
      | one _ wanted => cases wanted.of_flag
      | two confirms _ confirms₂ =>
          rw [answers] at confirms
          obtain ⟨rfl, rfl⟩ := confirms.of_twice
          obtain ⟨rfl, -⟩ := confirms₂.of_twice
          exact ⟨p, [q], lines, rfl, rfl⟩
  | @one p e _ line off answers reply notY noty plain ends =>
      subst off
      have no : isYes line = false := by simp [isYes, notY, noty]
      cases chosen with
      | one confirms _ =>
          rw [answers] at confirms
          obtain ⟨rfl, -⟩ := confirms.of_twice
          exact ⟨p, [], plain.linesOf_last ends, rfl, rfl⟩
      | two _ wanted _ =>
          rw [← wanted.of_reply reply] at no
          cases no

end Password

namespace Command

open Password

variable {h h₁ : Host} {o : CommandLine.Options} {words rest : List Text} {config : Option Text}

/-! ## The same settings -/

/-- The words are read as these options. -/
def Gives (words : List Text) (o : CommandLine.Options) : Prop :=
  ∃ o₀ rest, CommandLine.parse words = .ok (.carryOut o₀ rest) ∧ o₀.withRest rest = .ok o

theorem config_of_withRest {o₀ : CommandLine.Options} (completed : o₀.withRest rest = .ok o) :
    o₀.config = o.config := by
  unfold CommandLine.Options.withRest at completed
  split at completed <;> cases completed <;> rfl

/-- The settings file that is named can be a file, and may be read if it is there. -/
structure Admits (config : Option Text) (files : FileSystem) : Prop where
  noNul : (config.getD []).contains (.char '\x00') = false
  readable : (config.isSome && files.forbidsReading (.ofText (config.getD []))) = false

/-- The settings are read without a failure. -/
def Loads (config : Option Text) (h : Host) : Prop :=
  ∃ loaded h', (Settings.load (config.map Path.ofText)).run h = (.ok loaded, h')

/-- The hosts have the same files, and the same variables and homes to look for them. -/
structure SameSystem (h h' : Host) : Prop where
  files : h'.files = h.files
  environment : h'.environment = h.environment
  homes : h'.homes = h.homes
  reading : h'.reading = h.reading

theorem sharesSystem : SharesSystem SameSystem where
  same _ _ related := related.files
  keeps _ _ _ related := ⟨rfl, related.environment, related.homes, related.reading⟩
  environment _ _ related := related.environment
  homes _ _ related := related.homes
  reading _ _ related := related.reading

theorem Loads.of_same (loads : Loads config h) (same : SameSystem h h₁) : Loads config h₁ := by
  obtain ⟨loaded, h', run⟩ := loads
  rcases (Settings.blind_load sharesSystem.sharesHomes h h₁ same).cases with
    ⟨_, _, loaded', h₁', _, run', _⟩ | ⟨_, _, _, failed, _⟩
  · exact ⟨loaded', h₁', run'⟩
  · cases run.symm.trans failed

theorem ends_complete_of_admits (admits : Admits o.config h.files)
    {ok : Except CommandLine.Mistake CommandLine.Options → Host → Prop}
    {bad : Failure → Host → Prop} :
    Ends (complete o rest) h ok bad ↔ ok (o.withRest rest) h := by
  simp only [complete, admits.noNul, ends_bind, ends_get, admits.readable, Bool.false_eq_true,
    ↓reduceIte, ends_pure]

theorem ends_complete_admits :
    Ends (complete o rest) h
      (fun r h' => h' = h ∧ ((∃ m, r = .error m) ∨ r = o.withRest rest ∧ Admits o.config h.files))
      (fun _ _ => True) := by
  unfold complete
  dsimp only
  split
  · trivial
  next noNul =>
  rw [ends_bind, ends_get]
  split
  · exact ⟨rfl, .inl ⟨_, rfl⟩⟩
  next readable =>
  exact ⟨rfl, .inr ⟨rfl, by simpa using noNul, by simpa using readable⟩⟩

theorem ends_perform_loads {noColour : Bool} (same : SameSystem h₁ h) :
    Ends (perform o noColour) h₁ (fun _ _ => Loads o.config h) (fun _ _ => True) := by
  unfold perform
  rw [ends_bind]
  refine .of_run ?_ fun _ _ _ => trivial
  intro loaded h₂ run
  have loads : Loads o.config h := Loads.of_same ⟨loaded, h₂, run⟩ same
  exact .of_run (fun _ _ _ => loads) fun _ _ _ => trivial

theorem ends_carryOut_loads :
    Ends (carryOut o) h (fun status _ => status = 0 → Loads o.config h) (fun _ _ => True) := by
  have performs (noColour : Bool) (console : Console) :
      Ends (perform o noColour) { h with console } (fun _ _ => 0 = 0 → Loads o.config h)
        (fun _ _ => True) := by
    have same : SameSystem { h with console } h := ⟨rfl, rfl, rfl, rfl⟩
    exact (ends_perform_loads same).imp (fun _ _ loads _ => loads) fun _ _ => id
  exact ends_carryOut_of_perform performs (fun _ _ _ _ => nofun) fun _ _ => id

theorem ends_obey_admits (gives : Gives words o) :
    Ends (obey words) h
      (fun status _ => status = 0 → Admits o.config h.files ∧ Loads o.config h)
      (fun _ _ => True) := by
  obtain ⟨o₀, rest, parsed, completed⟩ := gives
  simp only [obey, parsed, ends_bind]
  refine ends_complete_admits.imp ?_ fun _ _ => id
  rintro _ _ ⟨rfl, ⟨m, rfl⟩ | ⟨rfl, admits⟩⟩
  · refine ends_reportMistake.imp ?_ fun _ _ => False.elim
    rintro _ _ ⟨rfl, -⟩ ⟨⟩
  · rw [completed]
    rw [config_of_withRest completed] at admits
    exact ends_carryOut_loads.imp (fun status _ loads zero => ⟨admits, loads zero⟩) fun _ _ => id

/-- A command that ends with status zero has got past its settings. -/
theorem ends_main_admits (gives : Gives words o) :
    Ends (main words) h
      (fun status _ => status = 0 → Admits o.config h.files ∧ Loads o.config h)
      (fun _ _ => True) :=
  ends_main_of_obey (ends_obey_admits gives) (fun _ _ _ _ => nofun) fun _ _ => id

/-! ## The stream is encoded -/

/-- What was written for the lines of the input. -/
def Encodes (h h' : Host) (content : Bytes) : Prop :=
  ∃ first rest, linesOf h.input.rest = first :: rest ∧
    encode (significantBytes first) (rest.head?.map significantBytes) = .ok content ∧
    h'.output.written = h.output.written ++ content

section Stream

variable {j : Invocation} (hj : j.mode = .stream) (readable : h.input.faultAt = none)
  (accepts : h.output.fault = none) (filled : linesOf h.input.rest ≠ [])
include hj readable accepts filled

theorem ends_run_stream (becomes : h.Becomes h.files.tree h₁) :
    Ends (run j) h₁ (fun _ h' => ∃ content, Encodes h h' content) (fun _ _ => False) := by
  have same {h₂ : Host} (becomes : h.Becomes h.files.tree h₂) :
      h₂.input = h.input ∧ h₂.output = h.output := by
    obtain ⟨console, calls, rfl⟩ := becomes
    exact ⟨rfl, rfl⟩
  refine ends_run_of_stream hj fun console => ?_
  obtain ⟨input, output⟩ := same (becomes.said console)
  refine (ends_encodeStream (input ▸ readable) (output ▸ accepts)).imp ?_ ?_
  · rintro _ h' ⟨first, rest, content, done⟩
    refine ⟨content, first, rest, ?_, done.encoded, ?_⟩
    · rw [← input]
      exact done.lines
    · rw [← output]
      exact done.written
  · rintro _ _ ⟨none, -⟩
    rw [input] at none
    exact filled none

theorem ends_perform_stream {noColour : Bool}
    (asked : Invocation.ofRequest h.environment o.request = .ok j)
    (loads : Loads o.config h₁) (becomes : h.Becomes h.files.tree h₁) :
    Ends (perform o noColour) h₁ (fun _ h' => ∃ content, Encodes h h' content)
      (fun _ _ => False) := by
  obtain ⟨loaded, h₂, run⟩ := loads
  have becomes₂ := (becomes.ends (Settings.keeps_load fun _ _ => rfl)).of_ok run
  unfold perform
  rw [ends_bind]
  refine .of_run ?_ ?_
  · intro loaded' h₂' run'
    cases run.symm.trans run'
    dsimp only
    rw [ends_ite_modify, ends_bind, Run.ends_forM_say, ends_bind, ends_get]
    have becomes₃ : h.Becomes h.files.tree (if (!noColour && !loaded.1.colour) = true then
        setConsole withoutColour h₂ else h₂) := becomes_toned becomes₂
    have asked' {h₃ : Host} (becomes : h.Becomes h.files.tree h₃) :
        Invocation.ofRequest h₃.environment
          { o.request with display := o.request.display <|> loaded.1.display } = .ok j := by
      obtain ⟨_, _, rfl⟩ := becomes
      exact Invocation.ofRequest_display asked (.inr (.inr hj)) _
    rw [asked' (becomes₃.said _)]
    exact ends_run_stream hj readable accepts filled (becomes₃.said _)
  · intro f h₂' run'
    cases run.symm.trans run'

theorem ends_carryOut_stream
    (asked : Invocation.ofRequest h.environment o.request = .ok j)
    (loads : Loads o.config h) :
    Ends (carryOut o) h (fun status h' => status = 0 ∧ ∃ content, Encodes h h' content)
      (fun _ _ => False) := by
  have performs (noColour : Bool) (console : Console) :
      Ends (perform o noColour) { h with console }
        (fun _ h' => 0 = 0 ∧ ∃ content, Encodes h h' content) (fun _ _ => False) := by
    have same : SameSystem h { h with console } := ⟨rfl, rfl, rfl, rfl⟩
    have becomes := (Host.Becomes.refl h).said console
    refine (ends_perform_stream hj readable accepts filled asked (loads.of_same same) becomes).imp
      (fun _ _ encodes => ⟨rfl, encodes⟩) fun _ _ => id
  exact ends_carryOut_of_perform performs (fun _ _ _ => False.elim) fun _ _ => id

theorem ends_main_stream (gives : Gives words o)
    (asked : Invocation.ofRequest h.environment o.request = .ok j)
    (admits : Admits o.config h.files) (loads : Loads o.config h) :
    Ends (main words) h (fun status h' => status = 0 ∧ ∃ content, Encodes h h' content)
      (fun _ _ => False) := by
  obtain ⟨o₀, rest, parsed, completed⟩ := gives
  rw [← config_of_withRest completed] at admits
  refine ends_main_of_obey ?_ (fun _ _ _ => False.elim) fun _ _ => id
  simp only [obey, parsed, ends_bind]
  rw [ends_complete_of_admits admits, completed]
  exact ends_carryOut_stream hj readable accepts filled asked loads

end Stream

/-! ## Both ways -/

/-- The words ask for an invocation by these options. -/
structure Orders (words : List Text) (o : CommandLine.Options) (h : Host) (i : Invocation) :
    Prop where
  gives : Gives words o
  asked : Invocation.ofRequest h.environment o.request = .ok i

theorem Orders.asks {i : Invocation} (orders : Orders words o h i) : Asks words h i := by
  obtain ⟨⟨o₀, rest, parsed, completed⟩, asked⟩ := orders
  exact ⟨o₀, rest, o, parsed, completed, asked⟩

/-- A command that sets passwords at the terminal writes the file that a command with the same
passwords in its input writes to its output. -/
theorem typed_as_piped (words words₂ : List Text) (o o₂ : CommandLine.Options) (h h₂ : Host)
    (i j : Invocation) (orders : Orders words o h i) (hi : i.mode = .file ∨ i.mode = .temporary)
    (wf : h.files.tree.WellFormed) (succeeded : ((main words).run h).1 = .ok 0)
    (orders₂ : Orders words₂ o₂ h₂ j) (hj : j.mode = .stream) (config : o₂.config = o.config)
    (same : SameSystem h h₂) (readable : h₂.input.faultAt = none)
    (accepts : h₂.output.fault = none) (typed : TypedAs i.viewOnly h h₂.input.rest) :
    ∃ place l first second content,
      Written i h ((main words).run h).2 place l first second content ∧
        ((main words₂).run h₂).1 = .ok 0 ∧
          ((main words₂).run h₂).2.output.written = h₂.output.written ++ content := by
  rcases run : (main words).run h with ⟨f | status, h'⟩ <;> rw [run] at succeeded <;>
    cases succeeded
  obtain ⟨place, l, first, second, content, written⟩ :=
    ((ends_main orders.asks hi wf).of_ok run).wrote rfl
  obtain ⟨admits, loads⟩ := (ends_main_admits orders.gives).of_ok run rfl
  obtain ⟨line, rest, lines, rfl, rfl⟩ := typed.chosen written.chosen
  have filled : linesOf h₂.input.rest ≠ [] := by
    rw [lines]
    exact List.cons_ne_nil _ _
  rw [← config] at admits loads
  obtain ⟨_, h₂', run₂, rfl, content₂, first₂, rest₂, lines₂, encoded, output⟩ :=
    (ends_main_stream hj readable accepts filled orders₂.gives orders₂.asked
      (same.files ▸ admits) (loads.of_same same)).returns
  rw [lines] at lines₂
  cases lines₂
  cases written.encoded.symm.trans encoded
  rw [run₂]
  exact ⟨place, l, _, _, content, written, rfl, output⟩

theorem eq_ok_of_toOption {ε α : Type} {x : Except ε α} {a : α} (some : x.toOption = some a) :
    x = .ok a := by
  cases x with
  | error e => cases some
  | ok b =>
      cases some
      rfl

theorem parse_of_items (items : List CommandLine.Item)
    (read : (CommandLine.readWords words).toOption = some items) :
    CommandLine.parse words = .ok (CommandLine.order items) := by
  rw [CommandLine.parse, eq_ok_of_toOption read]
  rfl

theorem Gives.of_items (items : List CommandLine.Item) {o₀ : CommandLine.Options}
    (read : (CommandLine.readWords words).toOption = some items)
    (ordered : CommandLine.order items = .carryOut o₀ rest) (completed : o₀.withRest rest = .ok o) :
    Gives words o := by
  refine ⟨o₀, rest, ?_, completed⟩
  rw [parse_of_items items read, ordered]

/-- The first password is cut in the middle of a character, and the second has bytes of none. -/
def typedHost : Host where
  files := { tree := { entries := [([[104, 111, 109, 101]], .directory 0o755 0)] }, current := [] }
  environment := [("HOME", "home")]
  terminal.answers := [
    .typed [115, 101, 99, 114, 101, 116, 49, 195, 169],
    .typed [115, 101, 99, 114, 101, 116, 49, 195, 169],
    .typed [255, 0, 13, 118, 105, 101, 119],
    .typed [255, 0, 13, 118, 105, 101, 119]]

/-- The same passwords on two lines, of which the last has no end. -/
def linesHost : Host where
  files := typedHost.files
  environment := typedHost.environment
  input.rest :=
    [115, 101, 99, 114, 101, 116, 49, 195, 169] ++ [13, 10] ++
      ([255, 0, 13, 118, 105, 101, 119] ++ [])

theorem typed_as_piped_cut :
    ∃ place l first second content,
      Written (Invocation.fileIn .file { viewOnly := true } ((Path.ofText "home").child ".vnc"))
          typedHost ((main ["-v"]).run typedHost).2 place l first second content ∧
        ((main ["-f", "--verbose"]).run linesHost).1 = .ok 0 ∧
          ((main ["-f", "--verbose"]).run linesHost).2.output.written = content := by
  have orders : Orders ["-v"] { request.viewOnly := true } typedHost
      (Invocation.fileIn .file { viewOnly := true } ((Path.ofText "home").child ".vnc")) :=
    ⟨.of_items [.flag .viewOnly] (by decide +kernel) rfl rfl, rfl⟩
  have orders₂ : Orders ["-f", "--verbose"] { request.fromInput := true, verbose := true } linesHost
      { mode := .stream } :=
    ⟨.of_items [.flag .fromInput, .flag .verbose] (by decide +kernel) rfl rfl, rfl⟩
  have status : ((main ["-v"]).run typedHost).1.toOption = some 0 := by decide +kernel
  have typed : TypedAs true typedHost linesHost.input.rest :=
    .both rfl rfl ⟨by decide, by decide, by decide⟩ ⟨by decide, by decide, by decide⟩ (.inr rfl)
      (.inl rfl)
  exact typed_as_piped ["-v"] ["-f", "--verbose"] _ _ typedHost linesHost _ _ orders (.inl rfl)
    (by decide) (eq_ok_of_toOption status) orders₂ rfl rfl ⟨rfl, rfl, rfl, rfl⟩ rfl rfl typed

end Command
end VncAccess
