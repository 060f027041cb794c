import VncAccess.Proofs.Lemmas.Escaping

/-!
# What a message can mark up

A notice is made of parts of its own and of parts that it is given: messages, labels and values,
which are escaped. Every tag that is read of it stands in a part of its own, every closing tag has
an opening one, and no style but that of the notice is ever in force.
-/

namespace VncAccess

/-! ## Styles in force -/

namespace Markup

/-- The tags in force behind a tag, the innermost first, unless a closing tag has no opening one.
A closing tag without a name closes the innermost. -/
def afterTag (inForce : List Text) : Text → Option (List Text)
  | [] => some ([] :: inForce)
  | g :: name =>
    if g ≠ Text.slash then some ((g :: name) :: inForce)
    else if name = [] then inForce.tail?
    else if name ∈ inForce then some (inForce.erase name)
    else none

/-- Every glyph with the tags in force where it stands. -/
def nested (inForce : List Text) : List Piece → Option (List (Glyph × List Text))
  | [] => some []
  | .glyph g :: rest => (nested inForce rest).map ((g, inForce) :: ·)
  | .tag content :: rest => (afterTag inForce content).bind (nested · rest)

variable {s : Style} {start stop : Nat} {pieces : List (Nat × Piece)}

theorem nested_glyphs_append (inForce : List Text) (t : Text) (rest : List Piece) :
    nested inForce (t.map .glyph ++ rest) =
      (nested inForce rest).map (t.map (·, inForce) ++ ·) := by
  induction t with
  | nil => simp
  | cons g t ih => simp [nested, ih, Function.comp_def]

theorem nested_glyphs (inForce : List Text) (t : Text) :
    nested inForce (t.map .glyph) = some (t.map (·, inForce)) := by
  have h := nested_glyphs_append inForce t []
  simpa [nested] using h

theorem styled_glyphs (style : Option Style) (t : Text) :
    styled style (t.map .glyph) = t.map (·, style) := by
  have h := styled_glyphs_append style t []
  simpa [styled] using h

@[simp] theorem afterTag_name (s : Style) (inForce : List Text) :
    afterTag inForce (Text.ofString s.name) = some (Text.ofString s.name :: inForce) := by
  cases s <;> rfl

@[simp] theorem afterTag_slash_name (s : Style) (inForce : List Text) :
    afterTag (Text.ofString s.name :: inForce) (Text.slash :: Text.ofString s.name) =
      some inForce := by
  have named : Text.ofString s.name ≠ [] := by cases s <;> decide
  simp [afterTag, named]

@[simp] theorem named?_name (s : Style) : Style.named? (Text.ofString s.name) = some s := by
  cases s <;> decide

@[simp] theorem named?_slash_name (s : Style) :
    Style.named? (Text.slash :: Text.ofString s.name) = none := by
  cases s <;> decide

/-! ## One tag and its closing tag -/

/-- The opening tag of the style at `start` and its closing tag at `stop`, with characters before,
between and behind them. The closing tag is missing where an odd number of backslashes before it
makes characters of it. -/
inductive Framed (s : Style) (start stop : Nat) : List (Nat × Piece) → Prop where
  | closed {before inside behind} : Literal before → Literal inside → Literal behind →
      Framed s start stop (before ++ (start, .tag (Text.ofString s.name)) ::
        (inside ++ (stop, .tag (Text.slash :: Text.ofString s.name)) :: behind))
  | unclosed {before inside} : Literal before → Literal inside →
      Framed s start stop (before ++ (start, .tag (Text.ofString s.name)) :: inside)

namespace Framed

theorem tag_of_mem (h : Framed s start stop pieces) {place : Nat} {content : Text}
    (hx : (place, .tag content) ∈ pieces) :
    (place = start ∧ content = Text.ofString s.name) ∨
      (place = stop ∧ content = Text.slash :: Text.ofString s.name) := by
  cases h with
  | closed before inside behind =>
      simpa [before.no_tag, inside.no_tag, behind.no_tag] using hx
  | unclosed before inside =>
      exact .inl (by simpa [before.no_tag, inside.no_tag] using hx)

/-- Both ways of reading the styles agree on such pieces. -/
theorem exists_nested (h : Framed s start stop pieces) :
    ∃ shown, nested [] (pieces.map Prod.snd) = some shown ∧
      (∀ x ∈ shown, x.2 = [] ∨ x.2 = [Text.ofString s.name]) ∧
      styled none (pieces.map Prod.snd) =
        shown.map fun x => (x.1, x.2.head?.bind Style.named?) := by
  cases h with
  | closed before inside behind =>
      obtain ⟨t, before⟩ := before.exists_text
      obtain ⟨u, inside⟩ := inside.exists_text
      obtain ⟨v, behind⟩ := behind.exists_text
      refine ⟨t.map (·, []) ++ (u.map (·, [Text.ofString s.name]) ++ v.map (·, [])), ?_, ?_, ?_⟩
      · simp [before, inside, behind, nested, nested_glyphs_append, nested_glyphs]
      · grind
      · simp [before, inside, behind, styled, styled_glyphs_append, styled_glyphs,
          Function.comp_def]
  | unclosed before inside =>
      obtain ⟨t, before⟩ := before.exists_text
      obtain ⟨u, inside⟩ := inside.exists_text
      refine ⟨t.map (·, []) ++ u.map (·, [Text.ofString s.name]), ?_, ?_, ?_⟩
      · simp [before, inside, nested, nested_glyphs_append, nested_glyphs]
      · grind
      · simp [before, inside, styled, styled_glyphs_append, styled_glyphs, Function.comp_def]

end Framed

/-- A text between the tags of a style, with others before and behind it, none of which is read as
a tag. -/
theorem framed_wrap {front t back : Text} {k l : Nat} (s : Style) (hfront : Passed 0 front 0)
    (ht : Passed 0 t k) (hback : Passed 0 back l) (ends : k % 2 = 1 → Sealed back) :
    Framed s front.length (front ++ openTag s ++ t).length
      (placed (front ++ wrap s t ++ back)) := by
  have assoc : front ++ wrap s t ++ back =
      front ++ (openTag s ++ (t ++ (closeTag s ++ back))) := by simp [wrap]
  have opens : Sealed (openTag s ++ (t ++ (closeTag s ++ back))) := Sealed.opening _
  have closes : Sealed (closeTag s ++ back) := Sealed.opening _
  obtain ⟨before, literal, eq⟩ := hfront 0 _ opens
  obtain ⟨inside, literal', eq'⟩ := ht (front.length + (openTag s).length) _ closes
  rw [placed, assoc, eq, placedFrom_openTag, Nat.zero_add, eq']
  by_cases even : k % 2 = 0
  · rw [placedFrom_closeTag s even, ← List.append_assoc inside, List.length_append,
      List.length_append]
    exact .closed literal (literal'.append (Literal.backslashesAt _ _)) (hback.literal _)
  · have odd : k % 2 = 1 := by omega
    obtain ⟨characters, literal'', eq''⟩ := Passed.closeTag s odd _ back (ends odd)
    rw [eq'']
    exact .unclosed literal (literal'.append (literal''.append (hback.literal _)))

end Markup

/-! ## Notices in parts -/

/-- A part of the text of a notice. -/
inductive Segment where
  /-- Tags and words of the notice itself. -/
  | own (t : Text)
  /-- What the notice is given to say: a message, a label, a value. -/
  | given (t : Text)
  deriving DecidableEq

namespace Segment

open Markup

/-- What is written of a part. -/
def text : Segment → Text
  | own t => t
  | given t => escape t

def texts (parts : List Segment) : Text := parts.flatMap text

@[simp] theorem texts_nil : texts [] = [] := rfl

@[simp] theorem texts_cons (p : Segment) (parts : List Segment) :
    texts (p :: parts) = p.text ++ texts parts := rfl

@[simp] theorem texts_append (parts parts' : List Segment) :
    texts (parts ++ parts') = texts parts ++ texts parts' :=
  List.flatMap_append

/-- A given text in the style, behind `front` and the notice's own `lead`. -/
def enclosed (front : List Segment) (lead : Text) (s : Style) (t : Text) : List Segment :=
  front ++ [.own (lead ++ openTag s), .given t, .own (closeTag s)]

/-- A given text behind a word in the style. -/
def headed (lead : Text) (s : Style) (word t : Text) : List Segment :=
  [.own (lead ++ wrap s word ++ " "), .given t]

end Segment

/-- The style and the parts of a notice that is marked up. -/
def Notice.made? : Notice → Option (Style × List Segment)
  | info m | verbose m => some (.info, Segment.enclosed [] [] .info m)
  | success m => some (.success, Segment.enclosed [] [] .success m)
  | secret label value => some (.secret, Segment.enclosed [.given label] ": " .secret value)
  | warning m => some (.warning, Segment.headed [] .warning "Warning:" m)
  | error m => some (.error, Segment.headed [] .error "Error:" m)
  | hint m => some (.info, Segment.headed "  " .info "Hint:" m)
  | plain _ _ | verbatim _ => none

open Markup Segment

/-- What is given marks nothing up. -/
structure Confined (s : Style) (parts : List Segment) : Prop where
  /-- Every tag that is read is one that a part of the notice's own holds in this place. -/
  tags : ∀ place content, (place, .tag content) ∈ placed (texts parts) →
    ∃ front before behind back,
      parts = front ++ .own (before ++ opening :: content ++ closing :: behind) :: back ∧
        place = (texts front ++ before).length
  /-- No closing tag is without an opening one, and no style but that of the notice is in force
  anywhere. -/
  styles : ∃ shown, nested [] (scan (texts parts)) = some shown ∧
    (∀ x ∈ shown, x.2 = [] ∨ x.2 = [Text.ofString s.name]) ∧
    styled none (scan (texts parts)) = shown.map fun x => (x.1, x.2.head?.bind Style.named?)

theorem confined_enclosed {front : List Segment} {lead : Text} (s : Style) (t : Text)
    (h : Passed 0 (texts front ++ lead) 0) : Confined s (enclosed front lead s t) := by
  obtain ⟨left, passed⟩ := exists_passed_escape t
  have framed := framed_wrap s h passed (Passed.nil 0) fun _ => Sealed.nil
  have written : texts front ++ lead ++ wrap s (escape t) ++ [] =
      texts (enclosed front lead s t) := by simp [enclosed, Segment.text, wrap]
  rw [written] at framed
  refine ⟨fun place content hx => ?_, ?_⟩
  · rcases framed.tag_of_mem hx with ⟨rfl, rfl⟩ | ⟨rfl, rfl⟩
    · exact ⟨front, lead, [], [.given t, .own (closeTag s)], by simp [enclosed, openTag], rfl⟩
    · exact ⟨front ++ [.own (lead ++ openTag s), .given t], [], [], [],
        by simp [enclosed, closeTag], by simp [Segment.text]⟩
  · rw [← map_snd_placed]
    exact framed.exists_nested

theorem confined_headed {lead word : Text} (s : Style) (t : Text) (hlead : Passed 0 lead 0)
    (hword : Passed 0 word 0) : Confined s (headed lead s word t) := by
  obtain ⟨left, passed⟩ := exists_passed_escape t
  have tail : Passed 0 (Text.ofString " " ++ escape t) left := passed.cons (by decide) (by decide)
  have framed := framed_wrap s hlead hword tail fun odd => absurd odd (by decide)
  have written : lead ++ wrap s word ++ (Text.ofString " " ++ escape t) =
      texts (headed lead s word t) := by simp [headed, Segment.text]
  rw [written] at framed
  refine ⟨fun place content hx => ?_, ?_⟩
  · rcases framed.tag_of_mem hx with ⟨rfl, rfl⟩ | ⟨rfl, rfl⟩
    · exact ⟨[], lead, word ++ closeTag s ++ " ", [.given t], by simp [headed, wrap, openTag],
        by simp⟩
    · exact ⟨[], lead ++ openTag s ++ word, " ", [.given t], by simp [headed, wrap, closeTag],
        by simp⟩
  · rw [← map_snd_placed]
    exact framed.exists_nested

theorem passed_label (label : Text) : Passed 0 (texts [.given label] ++ ": ") 0 := by
  obtain ⟨left, passed⟩ := exists_passed_escape label
  have separator : Passed left (Text.ofString ": ") 0 := Passed.plain (by decide) (by decide)
  have behind : ∀ rest, Sealed rest → Sealed (Text.ofString ": " ++ rest) := fun rest h =>
    (h.cons (by decide)).cons (by decide)
  simpa [Segment.text] using passed.append separator behind

/-- Whatever a message, a hint, a label and a value hold, they mark nothing up. -/
theorem given_text_confined {n : Notice} {s : Style} {parts : List Segment}
    (made : n.made? = some (s, parts)) :
    n.markup = texts parts ∧ n.styledText = styled none (scan n.markup) ∧ Confined s parts := by
  cases n with
  | info m | verbose m | success m =>
      cases made
      exact ⟨by simp [Notice.markup, enclosed, Segment.text, wrap], rfl,
        confined_enclosed _ m (Passed.nil 0)⟩
  | secret label value =>
      cases made
      exact ⟨by simp [Notice.markup, enclosed, Segment.text, wrap], rfl,
        confined_enclosed _ value (passed_label label)⟩
  | warning m | error m =>
      cases made
      exact ⟨by simp [Notice.markup, headed, Segment.text], rfl,
        confined_headed _ m (Passed.nil 0) (Passed.plain (by decide) (by decide))⟩
  | hint m =>
      cases made
      exact ⟨by simp [Notice.markup, headed, Segment.text], rfl,
        confined_headed _ m (Passed.plain (by decide) (by decide))
          (Passed.plain (by decide) (by decide))⟩
  | plain m ending => cases made
  | verbatim m => cases made

/-- A label and a value that end in backslashes, with tags of their own. -/
theorem given_text_confined_secret :
    (Notice.secret "[/secret][bold]\\" "[/][red]x\\\\\\").made? =
      some (.secret, enclosed [.given "[/secret][bold]\\"] ": " .secret "[/][red]x\\\\\\") ∧
    Confined .secret
      (enclosed [.given "[/secret][bold]\\"] ": " .secret "[/][red]x\\\\\\") :=
  ⟨rfl, (given_text_confined
    (n := .secret "[/secret][bold]\\" "[/][red]x\\\\\\") rfl).2.2⟩

end VncAccess
