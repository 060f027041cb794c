import VncAccess.Invocation
import VncAccess.Text.Quoted

/-!
Reading the words of a command line. An option is named in full, or by a letter, and letters can
stand together in one word; what is left over is the name of a file.
-/

namespace VncAccess.CommandLine

inductive Flag where
  | viewOnly
  | fromInput
  | temporary
  | oneTime
  | clearOneTime
  | noColour
  | verbose
  | debug
  deriving DecidableEq, Repr

inductive Parameter where
  | addUser
  | removeUser
  | display
  | config
  deriving DecidableEq, Repr

/-- What is done instead of what the other options say. -/
inductive Notice where
  | version
  | help
  deriving DecidableEq, Repr

inductive Kind where
  | flag (f : Flag)
  | parameter (p : Parameter)
  | notice (n : Notice)
  deriving DecidableEq, Repr

/-- One thing that was said on the command line. -/
inductive Item where
  | flag (f : Flag)
  | parameter (p : Parameter) (value : Text)
  | notice (n : Notice)
  | word (t : Text)
  deriving DecidableEq, Repr

/-! ## Names -/

def names : List (String × Kind) := [
  ("-display", .parameter .display),
  ("--display", .parameter .display),
  ("--config", .parameter .config),
  ("--no-color", .flag .noColour),
  ("--verbose", .flag .verbose),
  ("--debug", .flag .debug),
  ("--version", .notice .version),
  ("--help", .notice .help)]

def letters : List (Char × Kind) := [
  ('v', .flag .viewOnly),
  ('f', .flag .fromInput),
  ('t', .flag .temporary),
  ('o', .flag .oneTime),
  ('c', .flag .clearOneTime),
  ('a', .parameter .addUser),
  ('r', .parameter .removeUser)]

def named? (name : Text) : Option Kind :=
  (names.find? fun x => name = Text.ofString x.1).map (·.2)

def lettered? : Glyph → Option Kind
  | .char c => letters.lookup c
  | .stray _ => none

/-! ## Mistakes -/

inductive Mistake where
  | unknown (name : Text)
  | valueMissing (name : Text)
  | valueForbidden (name : Text)
  | unreadable (path : Text)
  | extraWords (words : List Text)
  deriving DecidableEq, Repr

namespace Mistake

def message : Mistake → Text
  | unknown name => "No such option " ++ Quoted.quote name ++ "."
  | valueMissing name => "Option " ++ Quoted.quote name ++ " requires an argument."
  | valueForbidden name => "Option " ++ Quoted.quote name ++ " does not take a value."
  | unreadable path =>
    let legible := path.map fun | .stray _ => .char '\ufffd' | g => g
    "Invalid value for '--config': Path " ++ Quoted.quote legible ++ " is not readable."
  | extraWords words =>
    "Got unexpected extra argument" ++ (if words.length = 1 then "" else "s") ++ " (" ++
      Text.joinWith " " words ++ ")"

/-- Whether the usage is shown with the message. -/
def showsUsage : Mistake → Bool
  | unknown _ | unreadable _ | extraWords _ => true
  | valueMissing _ | valueForbidden _ => false

end Mistake

/-! ## Reading -/

def dash : Glyph := .char '-'

/-- What a word says, and the option that still needs a value, under the name it was given. -/
structure Reading where
  items : List Item
  pending : Option (Text × Parameter) := none

/-- The letters of a word; the text after an option that takes a value is the value. -/
def readLetters : Text → Except Mistake Reading
  | [] => .ok ⟨[], none⟩
  | g :: rest =>
    match lettered? g with
    | none => .error (.unknown [dash, g])
    | some (.parameter p) =>
      if rest = [] then .ok ⟨[], some ([dash, g], p)⟩ else .ok ⟨[.parameter p rest], none⟩
    | some (.flag f) => do
      let reading ← readLetters rest
      return { reading with items := .flag f :: reading.items }
    | some (.notice n) => do
      let reading ← readLetters rest
      return { reading with items := .notice n :: reading.items }

def equals : Glyph := .char '='

/-- The part before the first equals sign, and the part after it if there is one. -/
def splitValue (word : Text) : Text × Option Text :=
  let name := word.takeWhile (· ≠ equals)
  (name, if name.length < word.length then some (word.drop (name.length + 1)) else none)

/-- An option in full, or letters; a word with two dashes is never read as letters. -/
def readWord (word : Text) : Except Mistake Reading :=
  let (name, value) := splitValue word
  match named? name, value with
  | some (.parameter p), some value => .ok ⟨[.parameter p value], none⟩
  | some (.parameter p), none => .ok ⟨[], some (name, p)⟩
  | some _, some _ => .error (.valueForbidden name)
  | some (.flag f), none => .ok ⟨[.flag f], none⟩
  | some (.notice n), none => .ok ⟨[.notice n], none⟩
  | none, _ =>
    if word.take 2 = [dash, dash] then .error (.unknown name) else readLetters (word.drop 1)

def isOption (word : Text) : Bool := word.head? = some dash && 1 < word.length

/-- All words in order. Two dashes alone end the options. -/
def readWords : List Text → Except Mistake (List Item)
  | [] => .ok []
  | word :: rest =>
    if word = [dash, dash] then
      .ok (rest.map .word)
    else if !isOption word then do
      return .word word :: (← readWords rest)
    else do
      let reading ← readWord word
      match reading.pending with
      | none => return reading.items ++ (← readWords rest)
      | some (name, p) =>
        match rest with
        | [] => throw (.valueMissing name)
        | value :: rest => return reading.items ++ .parameter p value :: (← readWords rest)

/-! ## Meaning -/

structure Options where
  request : Request := {}
  config : Option Text := none
  noColour : Bool := false
  verbose : Bool := false
  debug : Bool := false
  deriving DecidableEq, Repr

/-- The last value of an option counts. -/
def Options.add (o : Options) : Item → Options
  | .flag .viewOnly => { o with request.viewOnly := true }
  | .flag .fromInput => { o with request.fromInput := true }
  | .flag .temporary => { o with request.temporary := true }
  | .flag .oneTime => { o with request.oneTime := true }
  | .flag .clearOneTime => { o with request.clearOneTime := true }
  | .flag .noColour => { o with noColour := true }
  | .flag .verbose => { o with verbose := true }
  | .flag .debug => { o with debug := true }
  | .parameter .addUser value => { o with request.addUser := some value }
  | .parameter .removeUser value => { o with request.removeUser := some value }
  | .parameter .display value => { o with request.display := some value }
  | .parameter .config value => { o with config := some value }
  | .notice _ | .word _ => o

/-- At most one word may be left over; it is the name of the file. -/
def Options.withRest (o : Options) : List Text → Except Mistake Options
  | [] => .ok o
  | [file] => .ok { o with request.file := some file }
  | _ :: extra => .error (.extraWords extra)

inductive Order where
  | present (n : Notice)
  /-- The words that are left over are judged last. -/
  | carryOut (o : Options) (rest : List Text)

/-- What the items ask for; of several notices the first one. -/
def order (items : List Item) : Order :=
  match items.findSome? fun | .notice n => some n | _ => none with
  | some n => .present n
  | none =>
    .carryOut (items.foldl Options.add {}) (items.filterMap fun | .word t => some t | _ => none)

def parse (words : List Text) : Except Mistake Order := do return order (← readWords words)

end VncAccess.CommandLine
