import VncAccess.Console.Notice
import VncAccess.Proofs.Lemmas.Tags

/-!
# Plain text is written as it is

The layout leaves characters alone that are no controls. Those that are no brackets and backslashes
either pass unchanged through every step from a message to what an output receives. A password that
is shown between two tags is written between the codes of its style, and without them where the
output is no terminal.
-/

namespace VncAccess

/-- A character that the layout does nothing about. -/
def Glyph.isOrdinary : Glyph → Bool
  | .char c => 32 ≤ c.toNat
  | .stray _ => false

/-- A character that neither the markup nor the layout does anything about. -/
def Glyph.isPlain : Glyph → Bool
  | .char c => 32 ≤ c.toNat && c ≠ '[' && c ≠ '\\'
  | .stray _ => false

def Text.IsPlain (t : Text) : Prop := ∀ g ∈ t, g.isPlain = true

instance (t : Text) : Decidable t.IsPlain := inferInstanceAs (Decidable (∀ g ∈ t, _))

variable {t rest : Text} {g : Glyph}

namespace Glyph

theorem isPlain_iff : g.isPlain = true ↔
    ∃ c : Char, g = .char c ∧ 32 ≤ c.toNat ∧ c ≠ '[' ∧ c ≠ '\\' := by
  cases g with
  | char c => simp [isPlain, and_assoc]
  | stray b => simp [isPlain]

theorem ne_opening (h : g.isPlain = true) : g ≠ Markup.opening := by
  obtain ⟨c, rfl, -, h, -⟩ := isPlain_iff.mp h
  exact fun e => h (Glyph.char.inj e)

theorem ne_backslash (h : g.isPlain = true) : g ≠ Text.backslash := by
  obtain ⟨c, rfl, -, -, h⟩ := isPlain_iff.mp h
  exact fun e => h (Glyph.char.inj e)

theorem isOrdinary_iff : g.isOrdinary = true ↔ ∃ c : Char, g = .char c ∧ 32 ≤ c.toNat := by
  cases g with
  | char c => simp [isOrdinary]
  | stray b => simp [isOrdinary]

theorem isOrdinary_of_isPlain (h : g.isPlain = true) : g.isOrdinary = true := by
  obtain ⟨c, rfl, printable, -⟩ := isPlain_iff.mp h
  exact isOrdinary_iff.mpr ⟨c, rfl, printable⟩

theorem ne_control (h : g.isOrdinary = true) {c : Char} (control : c.toNat < 32) :
    g ≠ .char c := by
  obtain ⟨c', rfl, printable⟩ := isOrdinary_iff.mp h
  rintro ⟨⟩
  omega

theorem isDropped_eq_false (h : g.isOrdinary = true) : Layout.isDropped g = false := by
  obtain ⟨c, rfl, printable⟩ := isOrdinary_iff.mp h
  simp only [Layout.isDropped, List.contains_eq_mem, decide_eq_false_iff_not, List.mem_cons,
    List.not_mem_nil, or_false]
  omega

end Glyph

namespace Markup

/-! ## Escaping -/

theorem escapeFrom_of_plain (h : t.IsPlain) (slashes : Nat) : escapeFrom slashes t = t := by
  induction t generalizing slashes with
  | nil => rfl
  | cons g t ih =>
      obtain ⟨plain, h⟩ := List.forall_mem_cons.mp h
      rw [escapeFrom, if_neg (Glyph.ne_backslash plain),
        if_neg fun tag => Glyph.ne_opening plain tag.1, ih h]

theorem endsInLoneBackslash_of_plain (h : t.IsPlain) : endsInLoneBackslash t = false := by
  unfold endsInLoneBackslash
  split
  · next g eq =>
      have plain : g.isPlain = true := h g (List.mem_reverse.mp (eq ▸ List.mem_singleton_self g))
      exact decide_eq_false (Glyph.ne_backslash plain)
  · next g before more eq =>
      have plain : g.isPlain = true := h g (List.mem_reverse.mp (eq ▸ List.mem_cons_self))
      exact decide_eq_false fun both => Glyph.ne_backslash plain both.1
  · rfl

theorem escape_of_plain (h : t.IsPlain) : escape t = t := by
  simp only [escape, escapeFrom_of_plain h, endsInLoneBackslash_of_plain h, Bool.false_eq_true,
    ↓reduceIte]

/-! ## Reading -/

theorem scanFrom_plain_append (h : t.IsPlain) :
    scanFrom 0 0 (t ++ rest) = t.map .glyph ++ scanFrom 0 0 rest := by
  induction t with
  | nil => rfl
  | cons g t ih =>
      obtain ⟨plain, h⟩ := List.forall_mem_cons.mp h
      rw [List.cons_append, scanFrom, if_neg (Glyph.ne_backslash plain),
        if_neg (Glyph.ne_opening plain), ih h]
      rfl

theorem styled_glyphs_append (style : Option Style) (t : Text) (pieces : List Piece) :
    styled style (t.map .glyph ++ pieces) = t.map (·, style) ++ styled style pieces := by
  induction t with
  | nil => rfl
  | cons g t ih => rw [List.map_cons, List.cons_append, styled, ih]; rfl

end Markup

/-! ## Layout -/

namespace Layout

variable {colour : Bool}

/-- A line without tabs is one part. -/
theorem expandTabs_of_ordinary {t : StyledText} (h : ∀ x ∈ t, x.1.isOrdinary = true)
    (e : Extent) : expandTabs e t = [t] := by
  induction t generalizing e with
  | nil => rfl
  | cons x t ih =>
      obtain ⟨ordinary, h⟩ := List.forall_mem_cons.mp h
      have notTab : x.1 ≠ .char '\t' := Glyph.ne_control ordinary (by decide)
      have notNewline : x.1 ≠ Text.newline := Glyph.ne_control ordinary (by decide)
      rw [expandTabs, if_neg notTab, if_neg notNewline, ih h]
      rfl

theorem expandTabs_filter_of_ordinary {t : StyledText} (h : ∀ x ∈ t, x.1.isOrdinary = true) :
    expandTabs {} (t.filter fun x => !isDropped x.1) = [t] := by
  have kept : t.filter (fun x => !isDropped x.1) = t :=
    List.filter_eq_self.mpr fun x hx => by rw [Glyph.isDropped_eq_false (h x hx)]; rfl
  rw [kept, expandTabs_of_ordinary h]

/-- Where no codes are written only the characters count. -/
theorem render_of_ordinary {t : StyledText} (h : ∀ x ∈ t, x.1.isOrdinary = true) :
    render false colour t = t.map (·.1) := by
  simp [render, expandTabs_filter_of_ordinary h]

/-- Glyphs under the codes in force are written without any. -/
theorem paint_same_append {t rest : StyledText} {current : String}
    (h : ∀ x ∈ t, codeOf colour x = current) :
    paint colour current (t ++ rest) = t.map (·.1) ++ paint colour current rest := by
  induction t with
  | nil => rfl
  | cons x t ih =>
      obtain ⟨same, h⟩ := List.forall_mem_cons.mp h
      rw [List.cons_append, paint, if_pos same, ih h]
      rfl

theorem codeOf_plain (h : g.isPlain = true) (s : Style) :
    codeOf colour (g, some s) = codes colour s := by
  have notNewline : g ≠ Text.newline :=
    Glyph.ne_control (Glyph.isOrdinary_of_isPlain h) (by decide)
  rw [codeOf, if_neg notNewline]

/-- A styled part at the end of a line stands between codes. -/
theorem paint_styled_end {s : Style} (coded : codes colour s ≠ "") (t : Text) {value : Text}
    (plain : value.IsPlain) (filled : value ≠ []) :
    paint colour "" (t.map (·, none) ++ value.map (·, some s)) =
      t ++ start (codes colour s) ++ value ++ stop := by
  have unstyled : ∀ x ∈ t.map fun g => (g, none), codeOf colour x = "" := by
    intro x hx
    obtain ⟨g, -, rfl⟩ := List.mem_map.mp hx
    rfl
  rw [paint_same_append unstyled]
  cases value with
  | nil => exact absurd rfl filled
  | cons g value =>
      obtain ⟨plainHead, plainTail⟩ := List.forall_mem_cons.mp plain
      have styledTail : ∀ x ∈ value.map fun g => (g, some s), codeOf colour x = codes colour s := by
        intro x hx
        obtain ⟨g, hg, rfl⟩ := List.mem_map.mp hx
        exact codeOf_plain (plainTail g hg) s
      have rest :
          paint colour (codes colour s) (value.map fun g => (g, some s)) = value ++ stop := by
        rw [← List.append_nil (value.map _), paint_same_append styledTail, paint, if_neg coded,
          List.map_map, Function.comp_def, List.map_id']
      rw [List.map_cons, paint, codeOf_plain plainHead s]
      simp only [if_neg coded, rest, ↓reduceIte, List.nil_append, List.map_map, Function.comp_def,
        List.map_id', List.append_assoc, List.cons_append]

end Layout

/-! ## A secret -/

namespace Quoted

@[simp] theorem escapeStrays_append (t t' : Text) :
    escapeStrays (t ++ t') = escapeStrays t ++ escapeStrays t' :=
  List.flatMap_append

@[simp] theorem escapeStrays_ofString (s : String) :
    escapeStrays (Text.ofString s) = Text.ofString s := by
  rw [escapeStrays, Text.ofString, Text.ofChars, List.flatMap_map]
  exact List.map_eq_flatMap.symm

theorem escapeStrays_of_ordinary (h : ∀ g ∈ t, g.isOrdinary = true) : escapeStrays t = t := by
  induction t with
  | nil => rfl
  | cons g t ih =>
      obtain ⟨ordinary, tail⟩ := List.forall_mem_cons.mp h
      obtain ⟨c, rfl, -⟩ := Glyph.isOrdinary_iff.mp ordinary
      exact congrArg (.char c :: ·) (ih tail)

theorem escapeStrays_of_plain (h : t.IsPlain) : escapeStrays t = t :=
  escapeStrays_of_ordinary fun g hg => Glyph.isOrdinary_of_isPlain (h g hg)

end Quoted

/-- A text between the display codes of a style, which only a terminal is given. -/
def Style.shown (s : Style) (terminal colour : Bool) (t : Text) : Text :=
  if terminal then Layout.start (Layout.codes colour s) ++ t ++ Layout.stop else t

namespace Notice

variable {label value : Text}

theorem styledText_secret (plainLabel : label.IsPlain) (plainValue : value.IsPlain) :
    styledText (.secret label value) =
      (label ++ ": ").map (·, none) ++ value.map (·, some Style.secret) := by
  have separator : Text.IsPlain ": " := by decide
  have front : (label ++ ": ").IsPlain := List.forall_mem_append.mpr ⟨plainLabel, separator⟩
  have opens : Style.named? (Text.ofString Style.secret.name) = some .secret := by decide
  show Markup.styled none (Markup.scanFrom 0 0 (Markup.escape label ++ ": " ++
    (Markup.openTag .secret ++ Markup.escape value ++ Markup.closeTag .secret))) = _
  rw [Markup.escape_of_plain plainLabel, Markup.escape_of_plain plainValue,
    Markup.scanFrom_plain_append front, List.append_assoc, Markup.scanFrom_openTag,
    Markup.scanFrom_plain_append plainValue, ← List.append_nil (Markup.closeTag .secret),
    Markup.scanFrom_closeTag, Markup.styled_glyphs_append, Markup.styled, opens,
    Markup.styled_glyphs_append]
  simp [Markup.styled, Markup.scanFrom, Markup.backslashes]

theorem layout_secret (terminal colour : Bool) (plainLabel : label.IsPlain)
    (plainValue : value.IsPlain) (filled : value ≠ []) :
    (Notice.secret label value).layout terminal colour =
      label ++ ": " ++ Style.secret.shown terminal colour value ++ [Text.newline] := by
  have separator : Text.IsPlain ": " := by decide
  have ordinary : ∀ x ∈ styledText (.secret label value), x.1.isOrdinary = true := by
    rw [styledText_secret plainLabel plainValue]
    intro x hx
    refine Glyph.isOrdinary_of_isPlain ?_
    rcases List.mem_append.mp hx with hx | hx <;> obtain ⟨g, hg, rfl⟩ := List.mem_map.mp hx
    · exact List.forall_mem_append.mpr ⟨plainLabel, separator⟩ g hg
    · exact plainValue g hg
  have coded : Layout.codes colour .secret ≠ "" := by cases colour <;> decide
  show Layout.render terminal colour (styledText (.secret label value)) ++ [Text.newline] = _
  rw [Layout.render, Layout.expandTabs_filter_of_ordinary ordinary]
  simp only [List.flatMap_singleton, List.flatten_singleton]
  rw [styledText_secret plainLabel plainValue, Layout.paint_styled_end coded _ plainValue filled]
  cases terminal <;> simp [Style.shown, Function.comp_def]

/-- A label and a secret are written as they are, the secret in its style. -/
theorem render_secret (terminal colour : Bool) (plainLabel : label.IsPlain)
    (plainValue : value.IsPlain) (filled : value ≠ []) :
    (Notice.secret label value).render terminal colour =
      label ++ ": " ++ Style.secret.shown terminal colour value ++ [Text.newline] := by
  have newline : Quoted.escapeStrays [Text.newline] = [Text.newline] := rfl
  rw [render, layout_secret terminal colour plainLabel plainValue filled]
  cases terminal <;>
    simp [Style.shown, Layout.start, Layout.stop, newline, Quoted.escapeStrays_of_plain plainLabel,
      Quoted.escapeStrays_of_plain plainValue]

end Notice
end VncAccess
