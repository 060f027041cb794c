import VncAccess.Text.Basic

/-!
Styled messages. A tag in square brackets opens or closes a style; a backslash before a tag makes
it plain text, and two backslashes stand for one. `escape` writes a text so that none of its
brackets is read as a tag.
-/

namespace VncAccess

inductive Style where
  | info
  | warning
  | error
  | success
  | secret
  deriving DecidableEq, Repr

namespace Style

def name : Style → String
  | info => "info"
  | warning => "warning"
  | error => "error"
  | success => "success"
  | secret => "secret"

def all : List Style := [info, warning, error, success, secret]

def named? (t : Text) : Option Style := all.find? fun s => t = Text.ofString s.name

end Style

namespace Markup

def opening : Glyph := .char '['
def closing : Glyph := .char ']'

/-- What may follow the bracket of a tag. -/
def startsTag : Glyph → Bool
  | .char c => ('a' ≤ c && c ≤ 'z') || c = '#' || c = '/' || c = '@'
  | .stray _ => false

/-- The text up to the closing bracket, if no other bracket opens before. -/
def untilClosing : Text → Option Text
  | [] => none
  | g :: rest =>
    if g = closing then some []
    else if g = opening then none
    else (untilClosing rest).map (g :: ·)

/-- The content of the tag whose opening bracket has just been read. -/
def tagAhead? : Text → Option Text
  | [] => none
  | g :: rest => if startsTag g then (untilClosing rest).map (g :: ·) else none

/-! ## Escaping -/

/-- `slashes` counts the backslashes just before. Before a tag their number is doubled and one more
is written. -/
def escapeFrom (slashes : Nat) : Text → Text
  | [] => []
  | g :: rest =>
    if g = Text.backslash then
      g :: escapeFrom (slashes + 1) rest
    else if g = opening ∧ (tagAhead? rest).isSome then
      List.replicate (slashes + 1) Text.backslash ++ g :: escapeFrom 0 rest
    else
      g :: escapeFrom 0 rest

/-- Whether the text ends in one backslash that no other stands before. -/
def endsInLoneBackslash (t : Text) : Bool :=
  match t.reverse with
  | [g] => g = Text.backslash
  | g :: before :: _ => g = Text.backslash ∧ before ≠ Text.backslash
  | [] => false

def escape (t : Text) : Text :=
  let escaped := escapeFrom 0 t
  if endsInLoneBackslash escaped then escaped ++ [Text.backslash] else escaped

/-! ## Reading -/

inductive Piece where
  | glyph (g : Glyph)
  | tag (content : Text)
  deriving DecidableEq, Repr

def backslashes (n : Nat) : List Piece := List.replicate n (.glyph Text.backslash)

/-- Reads on after `slashes` backslashes, from a place where `skip` characters belong to a tag read
before. A bracket that is no tag takes one backslash with it. -/
def scanFrom (skip slashes : Nat) : Text → List Piece
  | [] => backslashes slashes
  | g :: rest =>
    match skip with
    | skip + 1 => scanFrom skip 0 rest
    | 0 =>
      if g = Text.backslash then
        scanFrom 0 (slashes + 1) rest
      else if g = opening then
        match tagAhead? rest with
        | some content =>
          if slashes % 2 = 0 then
            backslashes (slashes / 2) ++ .tag content :: scanFrom (content.length + 1) 0 rest
          else
            backslashes (slashes / 2) ++ .glyph g :: scanFrom 0 0 rest
        | none => backslashes (slashes - 1) ++ .glyph g :: scanFrom 0 0 rest
      else
        backslashes slashes ++ .glyph g :: scanFrom 0 0 rest

def scan (t : Text) : List Piece := scanFrom 0 0 t

/-! ## Styles -/

def openTag (s : Style) : Text := opening :: Text.ofString s.name ++ [closing]

def closeTag (s : Style) : Text := opening :: Text.slash :: Text.ofString s.name ++ [closing]

def wrap (s : Style) (t : Text) : Text := openTag s ++ t ++ closeTag s

/-- Every glyph with the style that is open where it stands. -/
def styled : Option Style → List Piece → List (Glyph × Option Style)
  | _, [] => []
  | style, .glyph g :: rest => (g, style) :: styled style rest
  | _, .tag content :: rest => styled (Style.named? content) rest

end Markup
end VncAccess
