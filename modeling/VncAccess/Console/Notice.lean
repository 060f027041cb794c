import VncAccess.Console.Layout
import VncAccess.Text.Quoted

/-! What the operator is told, and how each kind of notice is written. -/

namespace VncAccess

inductive Notice where
  | plain (message ending : Text)
  | info (message : Text)
  | warning (message : Text)
  | error (message : Text)
  | hint (message : Text)
  | success (message : Text)
  /-- Shown only to an operator who asked for details. -/
  | verbose (message : Text)
  | secret (label value : Text)
  /-- Written as it is: usage messages and the lines of the log. -/
  | verbatim (text : Text)
  deriving DecidableEq, Repr

namespace Notice

open Markup

/-- The message with its tags; a plain notice has none. -/
def markup : Notice → Text
  | info m | verbose m => wrap .info (escape m)
  | warning m => wrap .warning "Warning:" ++ " " ++ escape m
  | error m => wrap .error "Error:" ++ " " ++ escape m
  | hint m => "  " ++ wrap .info "Hint:" ++ " " ++ escape m
  | success m => wrap .success (escape m)
  | secret label value => escape label ++ ": " ++ wrap .secret (escape value)
  | plain m _ | verbatim m => m

def styledText (n : Notice) : Layout.StyledText :=
  match n with
  | plain m _ | verbatim m => m.map fun g => (g, none)
  | _ => styled none (scan n.markup)

/-- The layout of the notice on an output that is or is not a terminal. -/
def layout (terminal colour : Bool) (n : Notice) : Text :=
  match n with
  | verbatim t => t
  | plain _ ending => Layout.render terminal colour n.styledText ++ ending
  | _ => Layout.render terminal colour n.styledText ++ [Text.newline]

/-- What is written: an output takes no stray bytes. -/
def render (terminal colour : Bool) (n : Notice) : Text :=
  Quoted.escapeStrays (n.layout terminal colour)

end Notice
end VncAccess
