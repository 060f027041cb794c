import VncAccess.Console.Markup

/-!
# Tags in their places

Reading a text with the place of every piece. A tag is read whole where its bracket stands, and
reading goes on behind its closing bracket.
-/

namespace VncAccess.Markup

variable {g : Glyph} {rest content : Text} {place slashes : Nat}

/-! ## Places -/

/-- Backslashes, with the place of the character they stand before. -/
def backslashesAt (place n : Nat) : List (Nat × Piece) := (backslashes n).map (place, ·)

/-- What `scanFrom` reads, every piece with its place. -/
def placedFrom (place skip slashes : Nat) : Text → List (Nat × Piece)
  | [] => backslashesAt place slashes
  | g :: rest =>
    match skip with
    | skip + 1 => placedFrom (place + 1) skip 0 rest
    | 0 =>
      if g = Text.backslash then
        placedFrom (place + 1) 0 (slashes + 1) rest
      else if g = opening then
        match tagAhead? rest with
        | some content =>
          if slashes % 2 = 0 then
            backslashesAt place (slashes / 2) ++
              (place, .tag content) :: placedFrom (place + 1) (content.length + 1) 0 rest
          else
            backslashesAt place (slashes / 2) ++
              (place, .glyph g) :: placedFrom (place + 1) 0 0 rest
        | none =>
          backslashesAt place (slashes - 1) ++ (place, .glyph g) :: placedFrom (place + 1) 0 0 rest
      else
        backslashesAt place slashes ++ (place, .glyph g) :: placedFrom (place + 1) 0 0 rest

def placed (t : Text) : List (Nat × Piece) := placedFrom 0 0 0 t

@[simp] theorem map_snd_backslashesAt (place n : Nat) :
    (backslashesAt place n).map Prod.snd = backslashes n := by
  simp [backslashesAt, Function.comp_def]

theorem map_snd_placedFrom (place skip slashes : Nat) (t : Text) :
    (placedFrom place skip slashes t).map Prod.snd = scanFrom skip slashes t := by
  induction t generalizing place skip slashes with
  | nil => exact map_snd_backslashesAt place slashes
  | cons g t ih =>
      cases skip with
      | succ skip => exact ih _ _ _
      | zero =>
          simp only [placedFrom, scanFrom]
          split
          · exact ih _ _ _
          split
          · cases tagAhead? t with
            | some content => simp only; split <;> simp [ih]
            | none => simp [ih]
          · simp [ih]

theorem map_snd_placed (t : Text) : (placed t).map Prod.snd = scan t := map_snd_placedFrom 0 0 0 t

/-! ## Reading a tag -/

theorem opening_ne_backslash : opening ≠ Text.backslash := by decide

theorem untilClosing_append (h : ∀ g ∈ content, g ≠ closing ∧ g ≠ opening) :
    untilClosing (content ++ closing :: rest) = some content := by
  induction content with
  | nil => rw [List.nil_append, untilClosing, if_pos rfl]
  | cons g content ih =>
      obtain ⟨⟨notClosing, notOpening⟩, h⟩ := List.forall_mem_cons.mp h
      rw [List.cons_append, untilClosing, if_neg notClosing, if_neg notOpening, ih h]
      rfl

theorem tagAhead?_append (starts : startsTag g = true)
    (h : ∀ x ∈ g :: content, x ≠ closing ∧ x ≠ opening) :
    tagAhead? (g :: content ++ closing :: rest) = some (g :: content) := by
  obtain ⟨-, inside⟩ := List.forall_mem_cons.mp h
  rw [List.cons_append, tagAhead?, if_pos starts, untilClosing_append inside]
  rfl

theorem placedFrom_skip (place : Nat) (content rest : Text) :
    placedFrom place content.length 0 (content ++ rest) =
      placedFrom (place + content.length) 0 0 rest := by
  induction content generalizing place with
  | nil => rfl
  | cons g content ih =>
      rw [List.cons_append, List.length_cons, placedFrom, ih, Nat.add_right_comm, Nat.add_assoc]

/-- Half of the backslashes before a tag are left when their number is even. -/
theorem placedFrom_tag (place : Nat) (ahead : tagAhead? (content ++ closing :: rest) = some content)
    (even : slashes % 2 = 0) :
    placedFrom place 0 slashes (opening :: (content ++ closing :: rest)) =
      backslashesAt place (slashes / 2) ++
        (place, .tag content) :: placedFrom (place + (content.length + 2)) 0 0 rest := by
  have reach : place + 1 + (content.length + 1) = place + (content.length + 2) := by omega
  have behind := placedFrom_skip (place + 1) (content ++ [closing]) rest
  rw [List.append_assoc, List.length_append, List.length_singleton, List.singleton_append, reach]
    at behind
  rw [placedFrom, if_neg opening_ne_backslash, if_pos rfl, ahead]
  simp only [if_pos even, behind]

/-! ## The tags of a style -/

theorem tagAhead?_closeTag (s : Style) (rest : Text) :
    tagAhead? (Text.slash :: Text.ofString s.name ++ closing :: rest) =
      some (Text.slash :: Text.ofString s.name) := by
  have inside : ∀ x ∈ Text.slash :: Text.ofString s.name, x ≠ closing ∧ x ≠ opening := by
    cases s <;> decide
  exact tagAhead?_append (by decide) inside

theorem tagAhead?_openTag (s : Style) (rest : Text) :
    tagAhead? (Text.ofString s.name ++ closing :: rest) = some (Text.ofString s.name) := by
  have letter : ∃ g content, Text.ofString s.name = g :: content ∧ startsTag g = true := by
    cases s <;> exact ⟨_, _, rfl, by decide⟩
  have inside : ∀ x ∈ Text.ofString s.name, x ≠ closing ∧ x ≠ opening := by
    cases s <;> decide
  obtain ⟨g, content, name, starts⟩ := letter
  rw [name] at inside ⊢
  exact tagAhead?_append starts inside

theorem placedFrom_closeTag (s : Style) (even : slashes % 2 = 0) :
    placedFrom place 0 slashes (closeTag s ++ rest) =
      backslashesAt place (slashes / 2) ++ (place, .tag (Text.slash :: Text.ofString s.name)) ::
        placedFrom (place + (closeTag s).length) 0 0 rest := by
  have tag := placedFrom_tag place (tagAhead?_closeTag s rest) even
  simpa [closeTag] using tag

theorem placedFrom_openTag (s : Style) (place : Nat) (rest : Text) :
    placedFrom place 0 0 (openTag s ++ rest) =
      (place, .tag (Text.ofString s.name)) ::
        placedFrom (place + (openTag s).length) 0 0 rest := by
  have none : 0 % 2 = 0 := rfl
  have tag := placedFrom_tag place (tagAhead?_openTag s rest) none
  simpa [openTag, backslashesAt, backslashes] using tag

theorem scanFrom_closeTag (s : Style) (rest : Text) :
    scanFrom 0 0 (closeTag s ++ rest) =
      .tag (Text.slash :: Text.ofString s.name) :: scanFrom 0 0 rest := by
  rw [← map_snd_placedFrom 0, placedFrom_closeTag s (by rfl), List.map_append, List.map_cons,
    map_snd_placedFrom]
  rfl

theorem scanFrom_openTag (s : Style) (rest : Text) :
    scanFrom 0 0 (openTag s ++ rest) = .tag (Text.ofString s.name) :: scanFrom 0 0 rest := by
  rw [← map_snd_placedFrom 0, placedFrom_openTag, List.map_cons, map_snd_placedFrom]

end VncAccess.Markup
