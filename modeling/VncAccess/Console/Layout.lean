import VncAccess.Console.Markup
import VncAccess.Text.Width

/-!
From styled text to what a terminal or a file receives: some control characters are left out, tabs
become spaces, and every styled run of a line, up to a tab, is put between the codes of its style.
-/

namespace VncAccess.Layout

abbrev StyledText := List (Glyph × Option Style)

/-- Bell, backspace, vertical tab, form feed and carriage return are never written. -/
def isDropped : Glyph → Bool
  | .char c => [7, 8, 11, 12, 13].contains c.toNat
  | .stray _ => false

/-! ## Columns and tabs -/

/-- How far a line has come. -/
structure Extent where
  column : Nat := 0
  /-- The last character that took columns, while it can still become a picture. -/
  last : Option Char := none
  /-- Whether the next character is joined to those before. -/
  joined : Bool := false
  deriving DecidableEq, Repr

namespace Extent

/-- A joiner takes the next character into the columns before it, and a selector makes a picture of
the last character that took any. -/
def add (e : Extent) (g : Glyph) : Extent :=
  if e.joined then
    { e with joined := false }
  else
    match g with
    | .stray _ => { e with column := e.column + 1, last := none }
    | .char '\u200d' => { e with joined := true }
    | .char '\ufe0f' =>
      { e with column := e.column + (e.last.map Width.pictureGain).getD 0, last := none }
    | .char c =>
      if Width.columns c = 0 then e
      else { e with column := e.column + Width.columns c, last := some c }

end Extent

def tabStop : Nat := 8

/-- The spaces up to the next stop; none at a stop. -/
def toStop (column : Nat) : Nat := (tabStop - column % tabStop) % tabStop

/-- Puts a glyph before the first part. -/
def prepend (x : Glyph × Option Style) : List StyledText → List StyledText
  | [] => [[x]]
  | part :: parts => (x :: part) :: parts

/-- Replaces every tab by one space and the spaces up to the next stop. A tab ends a part of the
text, and each part is measured and painted on its own. -/
def expandTabs : Extent → StyledText → List StyledText
  | _, [] => [[]]
  | e, (g, style) :: rest =>
    if g = .char '\t' then
      let column := (e.add (.char ' ')).column
      List.replicate (1 + toStop column) (.char ' ', style) ::
        expandTabs { column := column + toStop column } rest
    else if g = Text.newline then
      prepend (g, style) (expandTabs {} rest)
    else
      prepend (g, style) (expandTabs (e.add g) rest)

/-! ## Codes -/

/-- The display codes of a style; without colour only emphasis is left. -/
def codes (colour : Bool) : Style → String
  | .info => if colour then "36" else ""
  | .warning => if colour then "33" else ""
  | .error => if colour then "1;31" else "1"
  | .success => if colour then "1;32" else "1"
  | .secret => if colour then "1;35" else "1"

def start (code : String) : Text := Text.ofString ("\x1b[" ++ code ++ "m")

def stop : Text := "\x1b[0m"

/-- The codes that a glyph is written under; line ends are written without. -/
def codeOf (colour : Bool) : Glyph × Option Style → String
  | (g, some s) => if g = Text.newline then "" else codes colour s
  | (_, none) => ""

/-- Writes the glyphs, changing codes where they differ from those in force. -/
def paint (colour : Bool) : String → StyledText → Text
  | current, [] => if current = "" then [] else stop
  | current, x :: rest =>
    let next := codeOf colour x
    if next = current then
      x.1 :: paint colour current rest
    else
      (if current = "" then [] else stop) ++ (if next = "" then [] else start next) ++
        x.1 :: paint colour next rest

/-- The text as written to a terminal, or to something else, where no codes appear. -/
def render (terminal colour : Bool) (t : StyledText) : Text :=
  let parts := expandTabs {} (t.filter fun x => !isDropped x.1)
  if terminal then parts.flatMap (paint colour "") else parts.flatten.map (·.1)

/-! ## Without codes -/

def isBetween (first last : Nat) : Glyph → Bool
  | .char c => first ≤ c.toNat && c.toNat ≤ last
  | .stray _ => false

/-- How many characters the display code at the head has; zero if there is none. A code has
parameters, intermediate characters and one final character. -/
def codeLength : Text → Nat
  | .char '\x1b' :: .char '[' :: rest =>
    let parameters := rest.takeWhile (isBetween 0x30 0x3F)
    let intermediates := (rest.drop parameters.length).takeWhile (isBetween 0x20 0x2F)
    let length := parameters.length + intermediates.length
    match rest.drop length with
    | g :: _ => if isBetween 0x40 0x7E g then length + 3 else 0
    | [] => 0
  | _ => 0

/-- Leaves out display codes, from a place where `skip` characters belong to one. -/
def withoutCodes : Nat → Text → Text
  | _, [] => []
  | skip + 1, _ :: rest => withoutCodes skip rest
  | 0, g :: rest =>
    match codeLength (g :: rest) with
    | 0 => g :: withoutCodes 0 rest
    | length + 1 => withoutCodes length rest

end VncAccess.Layout
