import VncAccess.AccessList
import VncAccess.CommandLine.Help
import VncAccess.CommandLine.Options
import VncAccess.OneTime
import VncAccess.Password.Directory
import VncAccess.Password.File
import VncAccess.Password.Prompt
import VncAccess.Settings

/-!
One run of the tool, from the words of its command line to its exit status. Whatever fails in words
of the tool's own ends with those words and status one.
-/

namespace VncAccess.Command

/-! ## Carrying out -/

def publishOneTime (i : Invocation) (clear : Bool) : Run Unit := do
  OneTime.publish i.display i.viewOnly clear none
  if clear then Run.say (.success "One-time passwords cleared")

def changeAccessList (i : Invocation) : Run Unit := do
  let user := i.user.getD []
  AccessList.publish user i.add i.viewOnly i.display
  Run.say (.success ((if i.add then "Added" else "Removed") ++ " user " ++ user))

def encodeStream : Run Unit := do
  let pair ← Password.readPair
  Run.always (Password.releasePair pair) do
    Password.File.writeStream pair.primary pair.viewOnly

/-- How the password file is named to the operator. -/
def fileText (i : Invocation) : Text := (i.file.map Path.text).getD "None"

/-- The directory for the password file, where the tool looks after one. -/
def provide (i : Invocation) : Run Unit := do
  if i.makeDirectory then
    Run.say (.plain ("Using password file " ++ fileText i) [Text.newline])
    match i.directory with
    | some directory => Password.Directory.ensure directory i.strict
    | none => Run.fail .mistyped

/-- Writes the passwords of a pair, if there is a file to write them to. -/
def writePair (i : Invocation) (pair : Secret.Pair) : Run Unit := do
  match i.file with
  | some file => Password.File.persist pair.primary pair.viewOnly file
  | none => Run.fail .mistyped
  Run.say (.verbose
    ("Encoded " ++ (if pair.viewOnly.isSome then "2" else "1") ++ " password slot(s)"))

/-- What was written, in the words of the last message. -/
def written (pair : Secret.Pair) : Text :=
  if pair.viewOnly.isSome then "full-control and view-only passwords" else "password"

def writeFile (i : Invocation) : Run Unit := do
  provide i
  let pair ← Password.askPair (if i.viewOnly then some true else none) Password.askViewOnly
  Run.always (Password.releasePair pair) (writePair i pair)
  Run.say (.success ("Wrote " ++ written pair ++ " to " ++ fileText i))

def run (i : Invocation) : Run Unit := do
  Run.log "vncpasswd.cli" ("Running in " ++ i.mode.label ++ " mode")
  Run.say (.verbose ("Mode: " ++ i.mode.label))
  match i.mode with
  | .oneTime => publishOneTime i false
  | .clearOneTime => publishOneTime i true
  | .accessList => changeAccessList i
  | .stream => encodeStream
  | .file | .temporary => writeFile i

/-! ## With options -/

def setConsole (change : Console → Console) (h : Host) : Host :=
  { h with console := change h.console }

def withoutColour (c : Console) : Console := { c with colour := false }

/-- Settings, then the decision what to do, then doing it. -/
def perform (o : CommandLine.Options) (noColour : Bool) : Run Unit := do
  let (settings, warnings) ← Settings.load (o.config.map Path.ofText)
  if !noColour && !settings.colour then modify (setConsole withoutColour)
  warnings.forM fun w => Run.say (.warning w)
  let request := { o.request with display := o.request.display <|> settings.display }
  match Invocation.ofRequest (← get).environment request with
  | .ok i => run i
  | .error e => Run.refuse e

def displayHint : Text := "Use -display to name the X display of the VNC server"

def reportRefusal (e : AccessError) : Run Unit :=
  Run.sayError e.message (if e.category = .noDisplay then some displayHint else none)

/-- The exit status of a run with these options. -/
def carryOut (o : CommandLine.Options) : Run Nat := do
  modify <| setConsole fun c => { c with verbose := o.verbose || o.debug, logging := o.debug }
  let noColour := o.noColour || (← Run.environmentValue "NO_COLOR").isSome
  if noColour then modify (setConsole withoutColour)
  match ← Run.attempt (perform o noColour) with
  | .ok () => return 0
  | .error (.refused e) =>
    reportRefusal e
    return 1
  | .error f => Run.fail f

/-! ## The whole command line -/

/-- The usage comes first, where it is shown at all. What the operator wrote is shown without the
display codes in it. -/
def reportMistake (m : CommandLine.Mistake) : Run Nat := do
  if m.showsUsage then
    Run.say (.verbatim (CommandLine.usage ++ "\n" ++ CommandLine.helpHint ++ "\n\n"))
  Run.say (.verbatim (Layout.withoutCodes 0 ("Error: " ++ m.message ++ [Text.newline])))
  return 1

def present (n : CommandLine.Notice) : Run Nat := do
  let text := match n with
    | .version => CommandLine.versionText
    | .help => CommandLine.helpText
  match ← Run.emit text.toBytes with
  | .ok () => return 0
  | .error e => Run.fail (.system (some e))

/-- The options with the rest of the words. A settings file that is named need not be there. -/
def complete (o : CommandLine.Options) (rest : List Text) :
    Run (Except CommandLine.Mistake CommandLine.Options) := do
  let config := o.config.getD []
  if config.contains (.char '\x00') then Run.fail (.badValue .embeddedNul)
  if o.config.isSome && (← get).files.forbidsReading (.ofText config) then
    return .error (.unreadable config)
  return o.withRest rest

def obey (words : List Text) : Run Nat := do
  match CommandLine.parse words with
  | .error m => reportMistake m
  | .ok (.present n) => present n
  | .ok (.carryOut o rest) =>
    match ← complete o rest with
    | .error m => reportMistake m
    | .ok o => carryOut o

/-- The exit status of a command line. An operator who interrupts gets a new line, and nothing is
said when nobody reads the output any more. -/
def main (words : List Text) : Run Nat := do
  match ← Run.attempt (obey words) with
  | .ok status => return status
  | .error .interrupted =>
    Run.say (.verbatim [Text.newline])
    return 1
  | .error f => if f = .system (some .brokenPipe) then return 1 else Run.fail f

end VncAccess.Command
