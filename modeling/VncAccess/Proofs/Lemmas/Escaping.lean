import VncAccess.Proofs.Lemmas.PlainText

/-!
# Escaped text is passed over

An escaped text is read without a tag whatever it holds and whatever stands behind it, as long as
no bracket left open in it is closed there. All that it leaves is a number of backslashes before
the next character.
-/

namespace VncAccess.Markup

variable {g : Glyph} {t rest : Text}

/-! ## Pieces without tags -/

/-- Only characters, no tag. -/
def Literal (pieces : List (Nat × Piece)) : Prop := ∀ x ∈ pieces, ∃ g, x.2 = .glyph g

namespace Literal

variable {p q : List (Nat × Piece)}

theorem nil : Literal [] := by simp [Literal]

theorem append (hp : Literal p) (hq : Literal q) : Literal (p ++ q) :=
  List.forall_mem_append.mpr ⟨hp, hq⟩

theorem backslashesAt (place n : Nat) : Literal (backslashesAt place n) := by
  intro x hx
  obtain ⟨piece, hpiece, rfl⟩ := List.mem_map.mp hx
  exact ⟨Text.backslash, List.eq_of_mem_replicate hpiece⟩

theorem backslashesAt_glyph (place n : Nat) (g : Glyph) :
    Literal (Markup.backslashesAt place n ++ [(place, .glyph g)]) :=
  (backslashesAt place n).append (by simp [Literal])

/-- The characters of such pieces. -/
theorem exists_text (h : Literal p) : ∃ t : Text, p.map Prod.snd = t.map .glyph := by
  induction p with
  | nil => exact ⟨[], rfl⟩
  | cons x p ih =>
      obtain ⟨⟨g, hg⟩, h⟩ := List.forall_mem_cons.mp h
      obtain ⟨t, ht⟩ := ih h
      exact ⟨g :: t, by rw [List.map_cons, List.map_cons, hg, ht]⟩

theorem no_tag (h : Literal p) {place : Nat} {content : Text} : (place, .tag content) ∉ p := by
  intro hx
  obtain ⟨g, hg⟩ := h _ hx
  cases hg

end Literal

/-! ## What comes behind -/

@[simp] theorem startsTag_backslash : startsTag Text.backslash = false := by decide

@[simp] theorem startsTag_opening : startsTag opening = false := by decide

/-- No bracket that is open is closed here: a bracket opens first, or nothing more comes. -/
def Sealed (rest : Text) : Prop := untilClosing rest = none

namespace Sealed

theorem nil : Sealed [] := rfl

theorem opening (t : Text) : Sealed (opening :: t) := rfl

theorem cons (hg : g ≠ closing) (h : Sealed rest) : Sealed (g :: rest) := by
  unfold Sealed at h ⊢
  simp [untilClosing, hg, h]

theorem tagAhead? (h : Sealed rest) : tagAhead? rest = none := by
  cases rest with
  | nil => rfl
  | cons g rest =>
      unfold Sealed untilClosing at h
      unfold Markup.tagAhead?
      grind [startsTag_opening]

end Sealed

theorem untilClosing_backslashes (n : Nat) :
    untilClosing (List.replicate n Text.backslash ++ opening :: t) = none := by
  induction n with
  | zero => rfl
  | succ n ih => exact Sealed.cons (by decide) ih

/-- Escaping neither opens nor closes a bracket. -/
theorem untilClosing_escapeFrom (h : Sealed rest) (slashes : Nat) (m : Text) :
    untilClosing (escapeFrom slashes m ++ rest) = untilClosing m := by
  induction m generalizing slashes with
  | nil => exact h
  | cons g m ih =>
      rw [escapeFrom]
      split
      · next slash => simp only [List.cons_append, untilClosing, ih]
      split
      · next tag =>
          rw [List.append_assoc, List.cons_append, tag.1, untilClosing_backslashes]
          rfl
      · simp only [List.cons_append, untilClosing, ih]

theorem tagAhead?_escapeFrom (h : Sealed rest) (m : Text) :
    tagAhead? (escapeFrom 0 m ++ rest) = tagAhead? m := by
  cases m with
  | nil => exact h.tagAhead?
  | cons g m =>
      rw [escapeFrom]
      split
      · simp only [List.cons_append, tagAhead?, untilClosing_escapeFrom h]
      split
      · next tag =>
          rw [tag.1]
          simp [List.replicate_succ, tagAhead?]
      · simp only [List.cons_append, tagAhead?, untilClosing_escapeFrom h]

/-! ## Texts that are passed over -/

theorem placedFrom_backslashes (place slashes n : Nat) (t : Text) :
    placedFrom place 0 slashes (List.replicate n Text.backslash ++ t) =
      placedFrom (place + n) 0 (slashes + n) t := by
  induction n generalizing place slashes with
  | zero => rfl
  | succ n ih =>
      rw [List.replicate_succ, List.cons_append, placedFrom, if_pos rfl, ih]
      congr 1 <;> omega

/-- Reading `t` with `slashes` backslashes before it comes upon no tag, and leaves `left`
backslashes for what is read behind it. -/
def Passed (slashes : Nat) (t : Text) (left : Nat) : Prop :=
  ∀ place rest, Sealed rest → ∃ shown, Literal shown ∧
    placedFrom place 0 slashes (t ++ rest) = shown ++ placedFrom (place + t.length) 0 left rest

namespace Passed

variable {k l n : Nat} {t' : Text}

theorem nil (k : Nat) : Passed k [] k := fun _ _ _ => ⟨[], Literal.nil, rfl⟩

theorem append (first : Passed k t l) (second : Passed l t' n)
    (closed : ∀ rest, Sealed rest → Sealed (t' ++ rest)) : Passed k (t ++ t') n := by
  intro place rest behind
  obtain ⟨shown, literal, eq⟩ := first place (t' ++ rest) (closed rest behind)
  obtain ⟨shown', literal', eq'⟩ := second (place + t.length) rest behind
  refine ⟨shown ++ shown', literal.append literal', ?_⟩
  rw [List.append_assoc, eq, eq', List.length_append, List.append_assoc, Nat.add_assoc]

/-- Backslashes add up until another character comes. -/
theorem backslashes (k n : Nat) : Passed k (List.replicate n Text.backslash) (k + n) := by
  intro place rest _
  exact ⟨[], Literal.nil, by rw [placedFrom_backslashes, List.length_replicate]; rfl⟩

theorem cons_backslash (h : Passed (k + 1) t l) : Passed k (Text.backslash :: t) l := by
  intro place rest behind
  obtain ⟨shown, literal, eq⟩ := h (place + 1) rest behind
  refine ⟨shown, literal, ?_⟩
  rw [List.cons_append, placedFrom, if_pos rfl, eq, List.length_cons, Nat.add_right_comm,
    ← Nat.add_assoc]

/-- A character that is shown with `n` of the backslashes before it. -/
theorem shown (h : Passed 0 t l)
    (reads : ∀ place rest, Sealed rest → placedFrom place 0 k (g :: (t ++ rest)) =
      backslashesAt place n ++ (place, .glyph g) :: placedFrom (place + 1) 0 0 (t ++ rest)) :
    Passed k (g :: t) l := by
  intro place rest behind
  obtain ⟨shown, literal, eq⟩ := h (place + 1) rest behind
  refine ⟨backslashesAt place n ++ [(place, .glyph g)] ++ shown,
    (Literal.backslashesAt_glyph place n g).append literal, ?_⟩
  rw [List.cons_append, reads place rest behind, eq, List.length_cons, Nat.add_right_comm,
    ← Nat.add_assoc]
  simp

theorem cons (noSlash : g ≠ Text.backslash) (noOpening : g ≠ opening) (h : Passed 0 t l) :
    Passed k (g :: t) l :=
  h.shown fun place rest _ => by rw [placedFrom, if_neg noSlash, if_neg noOpening]

/-- A bracket that opens no tag. -/
theorem cons_opening (noTag : ∀ rest, Sealed rest → Markup.tagAhead? (t ++ rest) = none)
    (h : Passed 0 t l) : Passed k (opening :: t) l :=
  h.shown fun place rest behind => by
    rw [placedFrom, if_neg opening_ne_backslash, if_pos rfl, noTag rest behind]

/-- A bracket that would open a tag, had not an odd number of backslashes come before it. -/
theorem cons_escaped (odd : k % 2 = 1)
    (isTag : ∀ rest, Sealed rest → (Markup.tagAhead? (t ++ rest)).isSome) (h : Passed 0 t l) :
    Passed k (opening :: t) l :=
  h.shown fun place rest behind => by
    obtain ⟨content, ahead⟩ := Option.isSome_iff_exists.mp (isTag rest behind)
    have notEven : k % 2 ≠ 0 := by omega
    rw [placedFrom, if_neg opening_ne_backslash, if_pos rfl, ahead]
    exact if_neg notEven

theorem plain (h : t.IsPlain) (filled : t ≠ []) : Passed k t 0 := by
  induction t generalizing k with
  | nil => exact absurd rfl filled
  | cons g t ih =>
      obtain ⟨plain, h⟩ := List.forall_mem_cons.mp h
      refine cons (Glyph.ne_backslash plain) (Glyph.ne_opening plain) ?_
      by_cases empty : t = []
      · exact empty ▸ nil 0
      · exact ih h empty

/-- A closing tag behind an odd number of backslashes. -/
theorem closeTag (s : Style) (odd : k % 2 = 1) : Passed k (closeTag s) 0 := by
  have content : Text.IsPlain (Text.slash :: Text.ofString s.name ++ [closing]) := by
    cases s <;> decide
  refine cons_escaped odd (fun rest _ => ?_) (plain content (by simp))
  have ahead := tagAhead?_closeTag s rest
  simp only [List.cons_append] at ahead
  simp [ahead]

/-- A text at the end. -/
theorem literal (h : Passed k t l) (place : Nat) : Literal (placedFrom place 0 k t) := by
  obtain ⟨shown, literal, eq⟩ := h place [] Sealed.nil
  rw [List.append_nil] at eq
  exact eq ▸ literal.append (Literal.backslashesAt _ _)

end Passed

/-- The invariant of escaping: as many backslashes have been read as have been written. -/
theorem exists_passed_escapeFrom (slashes : Nat) (m : Text) :
    ∃ left, Passed slashes (escapeFrom slashes m) left := by
  induction m generalizing slashes with
  | nil => exact ⟨slashes, Passed.nil slashes⟩
  | cons g m ih =>
      rw [escapeFrom]
      split
      · next slash =>
          subst slash
          obtain ⟨left, h⟩ := ih (slashes + 1)
          exact ⟨left, h.cons_backslash⟩
      obtain ⟨left, h⟩ := ih 0
      split
      · next tag =>
          obtain ⟨rfl, isTag⟩ := tag
          have bracket : Passed (slashes + (slashes + 1)) (opening :: escapeFrom 0 m) left :=
            h.cons_escaped (by omega) fun rest behind => by
              rw [tagAhead?_escapeFrom behind]; exact isTag
          exact ⟨left, (Passed.backslashes slashes (slashes + 1)).append bracket
            fun rest _ => Sealed.opening _⟩
      · next noSlash noTag =>
          by_cases bracket : g = opening
          · subst bracket
            have notAhead : tagAhead? m = none := by simpa using noTag
            exact ⟨left, h.cons_opening fun rest behind => by
              rw [tagAhead?_escapeFrom behind]; exact notAhead⟩
          · exact ⟨left, h.cons noSlash bracket⟩

theorem exists_passed_escape (m : Text) : ∃ left, Passed 0 (escape m) left := by
  obtain ⟨left, h⟩ := exists_passed_escapeFrom 0 m
  simp only [escape]
  split
  · exact ⟨left + 1, h.append (Passed.backslashes left 1) fun rest behind =>
      behind.cons (by decide)⟩
  · exact ⟨left, h⟩

end VncAccess.Markup
