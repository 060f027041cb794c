import VncAccess.Host

/-!
The operator's settings: a file that may be missing, in which two values matter. Sections that mean
nothing are mentioned and passed over.
-/

namespace VncAccess

structure Settings where
  colour : Bool := true
  display : Option Text := none
  /-- Where the settings came from, unless they are the usual ones. -/
  path : Option Path := none
  deriving DecidableEq, Repr

namespace Settings

/-! ## The path -/

def tilde : Glyph := .char '~'

def trimSlashes (t : Text) : Text := (t.reverse.dropWhile (· = Text.slash)).reverse

/-- The home directory that a tilde, perhaps with a user's name, stands for. -/
def homeFor (name : Text) : Run Text := do
  let h ← get
  if name.contains (.char '\x00') then Run.fail (.badValue .embeddedNul)
  let home? :=
    if name = [] then
      h.environment.lookup (Text.ofString "HOME") <|> h.homes.lookup (Text.ofString "root")
    else
      h.homes.lookup name
  match home? with
  | none => Run.fail .homeless
  | some home =>
    let home := trimSlashes home
    if home.head? = some tilde then Run.fail .homeless
    return if home = [] then [Text.slash] else home

/-- A tilde at the beginning of a path gives way to a home directory. -/
def expandHome (p : Path) : Run Path := do
  match p.anchor, p.names with
  | .relative, (g :: name) :: rest =>
    if g = tilde then
      let home := Path.ofText (← homeFor name)
      return { home with names := home.names ++ rest }
    else
      return p
  | _, _ => return p

def defaultPath : Run Path := do
  let home ← expandHome (.ofText "~")
  return ((home.child ".config").child "vncpasswd").child "config.toml"

/-- The path that is given, or the usual one. -/
def pathOf (given : Option Path) : Run Path := do
  match given with
  | some p => expandHome p
  | none => expandHome (← defaultPath)

/-- The errors that mean that there is no such file. -/
def meansMissing (e : Errno) : Bool :=
  e = .noEntry || e = .notDirectory || e = .badDescriptor || e = .linkLoop

def isPresent (p : Path) : Run Bool := do
  if p.hasNul then return false
  match ← Run.files (FileSystem.stat p) with
  | .ok _ => return true
  | .error e => if meansMissing e then return false else Run.fail (.system (some e))

/-! ## The content -/

def isPartOf (part : Text) : Text → Bool
  | [] => part.isEmpty
  | g :: rest => part.isPrefixOf (g :: rest) || isPartOf part rest

/-- The value under a key of a section. A section that is no table is looked through for the key
all the same, and it is a mistake if the key is there. -/
def lookup (key : Text) : Toml.Value → Except Failure (Option Toml.Value)
  | .table entries => .ok (entries.lookup key)
  | .text t => if isPartOf key t then .error .mistyped else .ok none
  | .array items =>
    if items.any fun | .text t => t = key | _ => false then .error .mistyped else .ok none
  | .integer _ | .float | .boolean _ | .moment => .error .mistyped

def section? (document : Toml.Table) (name : Text) : Toml.Value :=
  (document.get? name).getD (.table [])

def colourIn (document : Toml.Table) : Except Failure Bool := do
  match ← lookup "colored_output" (section? document "display") with
  | none => return true
  | some (.boolean b) => return b
  | some _ => throw (.refused (.settingsValue "display.colored_output" "must be a boolean"))

def displayIn (document : Toml.Table) : Except Failure (Option Text) := do
  match ← lookup "display" (section? document "session") with
  | none => return none
  | some (.text t) => return some t
  | some _ => throw (.refused (.settingsValue "session.display" "must be a string"))

def isKnown (name : Text) : Bool := name = Text.ofString "display" || name = Text.ofString "session"

/-- One warning for each section that is not known, in the order of the document. -/
def warnings (document : Toml.Table) (path : Path) : List Text :=
  (document.filter fun x => !isKnown x.1).map fun x =>
    "Unknown section [" ++ x.1 ++ "] in " ++ path.text

def ofDocument (document : Toml.Table) (path : Path) : Except Failure (Settings × List Text) := do
  let colour ← colourIn document
  let display ← displayIn document
  return (⟨colour, display, some path⟩, warnings document path)

def ofBytes (reading : Toml.Reading) (content : Bytes) (path : Path) :
    Except Failure (Settings × List Text) :=
  match Text.decode? content with
  | none => .error .undecodable
  | some chars =>
    match Toml.parse reading.room chars with
    | .ok document => ofDocument document path
    | .error .malformed => .error (.refused (.settingsFile path.text (reading.complaint content)))
    | .error (.numeralTooLong digits) => .error (.badValue (.numeralTooLong digits))
    | .error .nestedTooDeep => .error .nestedTooDeep

/-- The settings at a path, or at the usual one, and what to warn of. -/
def load (given : Option Path) : Run (Settings × List Text) := do
  let path ← pathOf given
  if ← isPresent path then
    let content ← Run.filesOr (fun e => .settingsFile path.text e.message)
      (FileSystem.readFile path)
    match ofBytes (← get).reading content path with
    | .ok loaded => return loaded
    | .error f => Run.fail f
  else
    return ({}, [])

end Settings
end VncAccess
