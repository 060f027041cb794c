import VncAccess.Proofs.Lemmas.Ending
import VncAccess.Proofs.Lemmas.Unescaping

/-!
# Notices word for word

Where no styles are shown, a notice is its own words and the texts that it is given. These are
written as they are, but for backslashes in two places: one before a bracket that opens no tag is
lost, and some at the end of a text are lost or added, or make characters of the closing tag.
-/

namespace VncAccess

/-! ## Printable texts -/

def Glyph.isPrintable : Glyph → Bool
  | .char c => Printable.isPrintable c
  | .stray _ => false

def Text.IsPrintable (t : Text) : Prop := ∀ g ∈ t, g.isPrintable = true

instance (t : Text) : Decidable t.IsPrintable := inferInstanceAs (Decidable (∀ g ∈ t, _))

theorem Printable.le_toNat {c : Char} (h : isPrintable c = true) : 32 ≤ c.toNat := by
  have controls : (0x0, 0x1f) ∈ exceptions := by decide +kernel
  simp only [isPrintable, Bool.not_eq_true', Array.any_eq_false'] at h
  have outside := h _ controls
  simp at outside
  omega

theorem Printable.isPrintable_of_ascii {c : Char} (low : 32 ≤ c.toNat) (high : c.toNat < 127) :
    isPrintable c = true := by
  have outside : ∀ x ∈ exceptions.toList, x.2 < 32 ∨ 127 ≤ x.1 := by decide +kernel
  simp only [isPrintable, Bool.not_eq_true', Array.any_eq_false']
  intro x hx
  have range := outside x (Array.mem_toList_iff.mpr hx)
  simp only [Bool.and_eq_true, decide_eq_true_eq]
  omega

theorem Text.isPrintable_ofString {s : String}
    (ascii : s.toList.all (fun c => 32 ≤ c.toNat && c.toNat < 127) = true) :
    (Text.ofString s).IsPrintable := by
  intro g hg
  obtain ⟨c, hc, rfl⟩ := List.mem_map.mp hg
  obtain ⟨low, high⟩ := Bool.and_eq_true_iff.mp (List.all_eq_true.mp ascii c hc)
  exact Printable.isPrintable_of_ascii (of_decide_eq_true low) (of_decide_eq_true high)

theorem Glyph.isOrdinary_of_isPrintable {g : Glyph} (h : g.isPrintable = true) :
    g.isOrdinary = true := by
  cases g with
  | char c => simpa [isOrdinary] using Printable.le_toNat h
  | stray b => cases h

/-! ## Texts that are kept -/

namespace Markup

open Text

variable {g : Glyph} {t x y : Text}

/-- Every backslash before a bracket stands before a tag. -/
def Spared (t : Text) : Prop :=
  ∀ front rest, t = front ++ backslash :: opening :: rest → (tagAhead? rest).isSome

theorem thinned_sublist (t : Text) : (thinned t).Sublist t := by
  induction t with
  | nil => exact .slnil
  | cons g t ih =>
      rw [thinned]
      split
      · exact ih.cons g
      · exact ih.cons_cons g

theorem spared_cons :
    Spared (g :: t) ↔
      ¬(g = backslash ∧ t.head? = some opening ∧ tagAhead? t.tail = none) ∧ Spared t := by
  constructor
  · intro spared
    refine ⟨fun ⟨slash, bracket, noTag⟩ => ?_, fun front rest eq => ?_⟩
    · obtain ⟨rest, rfl⟩ := List.head?_eq_some_iff.mp bracket
      have tag := spared [] rest (by rw [slash]; rfl)
      simp_all
    · exact spared (g :: front) rest (by rw [eq]; rfl)
  · rintro ⟨here, spared⟩ front rest eq
    cases front with
    | nil =>
        obtain ⟨rfl, rfl⟩ := List.cons.inj eq
        simpa [Option.isSome_iff_ne_none] using here
    | cons g' front =>
        obtain ⟨rfl, rfl⟩ := List.cons.inj eq
        exact spared front rest rfl

theorem thinned_eq_self_iff : thinned t = t ↔ Spared t := by
  induction t with
  | nil => simp [thinned, Spared]
  | cons g t ih =>
      rw [spared_cons, thinned]
      split
      · next lost =>
          have shorter := (thinned_sublist t).length_le
          refine ⟨fun same => ?_, fun h => absurd lost h.1⟩
          have length := congrArg List.length same
          simp only [List.length_cons] at length
          omega
      · next kept => simp [kept, ih]

instance (t : Text) : Decidable (Spared t) := decidable_of_iff _ thinned_eq_self_iff

/-- Where a backslash was lost a bracket stands in its place. -/
theorem thinned_eq_of_append (h : thinned t ++ x = t ++ y) : thinned t = t := by
  induction t with
  | nil => rfl
  | cons g t ih =>
      rw [thinned] at h ⊢
      split at h
      · next lost =>
          obtain ⟨slash, bracket, -⟩ := lost
          obtain ⟨rest, rfl⟩ := List.head?_eq_some_iff.mp bracket
          rw [thinned_cons_of_ne opening_ne_backslash] at h
          exact absurd ((List.cons.inj h).1.trans slash) opening_ne_backslash
      · next kept => rw [if_neg kept, ih (List.cons.inj h).2]

/-- At the end of a notice, or before its own words, only a lone backslash makes a difference. -/
theorem atEnd_append_eq_iff (behind : y.head? ≠ some backslash) :
    atEnd t ++ x = t ++ y ↔ (Spared t ∧ t.endingSlashes ≠ 1) ∧ x = y := by
  unfold atEnd
  split
  · next lone =>
      simp only [lone, ne_eq, not_true_eq_false, and_false, false_and, iff_false]
      intro h
      rw [List.append_assoc] at h
      have same := thinned_eq_of_append h
      rw [same] at h
      rw [← List.append_cancel_left h] at behind
      exact behind rfl
  · next several =>
      constructor
      · intro h
        have same := thinned_eq_of_append h
        rw [same] at h
        exact ⟨⟨thinned_eq_self_iff.mp same, several⟩, List.append_cancel_left h⟩
      · rintro ⟨⟨spared, -⟩, rfl⟩
        rw [thinned_eq_self_iff.mpr spared]

theorem beforeTag_eq_self_iff (s : Style) :
    beforeTag s t = t ↔ Spared t ∧ t.endingSlashes ≤ 1 := by
  unfold beforeTag
  split
  · next few => simp [few, thinned_eq_self_iff]
  · next several =>
      simp only [several, and_false, iff_false]
      intro same
      split at same
      -- The line ends in a bracket then, and the text in a backslash.
      · next odd =>
          have ended : ∀ u, (u ++ closeTag s).endingSlashes = 0 := by
            intro u
            have last : u ++ closeTag s = (u ++ opening :: Text.slash :: ofString s.name) ++
              closing :: [] := by simp [closeTag]
            rw [last, endingSlashes_append_cons _ (by decide)]
            rfl
          have none := ended ((thinned t).rdrop ((t.endingSlashes + 1) / 2))
          rw [same] at none
          omega
      · obtain ⟨body, thinned_eq, -⟩ := exists_scanFrom_escapeFrom Sealed.nil t
        have shorter := (thinned_sublist t).length_le
        have whole := congrArg List.length thinned_eq
        have length := congrArg List.length same
        simp [List.rdrop] at whole length
        omega

end Markup

/-! ## Notices -/

namespace Notice

open Markup

/-- Whether the notice is written with tags of its own. -/
def isMarkedUp : Notice → Bool
  | plain _ _ | verbatim _ => false
  | _ => true

/-- The texts that the notice is given. -/
def given : Notice → List Text
  | info m | warning m | error m | hint m | success m | verbose m | plain m _ | verbatim m => [m]
  | secret label value => [label, value]

/-- The given texts as they are, with the words of the notice. -/
def said : Notice → Text
  | info m | verbose m | success m | plain m _ | verbatim m => m
  | warning m => "Warning: " ++ m
  | error m => "Error: " ++ m
  | hint m => "  Hint: " ++ m
  | secret label value => label ++ ": " ++ value

/-- The given texts as they are read after they have been escaped, with the words of the notice. -/
def shown : Notice → Text
  | info m | verbose m => beforeTag .info m
  | success m => beforeTag .success m
  | warning m => "Warning: " ++ atEnd m
  | error m => "Error: " ++ atEnd m
  | hint m => "  Hint: " ++ atEnd m
  | secret label value => atEnd label ++ ": " ++ beforeTag .secret value
  | plain m _ | verbatim m => m

/-- No backslash of the given texts is in the way. -/
def IsKept : Notice → Prop
  | info m | verbose m | success m => Spared m ∧ m.endingSlashes ≤ 1
  | warning m | error m | hint m => Spared m ∧ m.endingSlashes ≠ 1
  | secret label value => (Spared label ∧ label.endingSlashes ≠ 1) ∧
      Spared value ∧ value.endingSlashes ≤ 1
  | plain _ _ | verbatim _ => True

variable {n : Notice} {colour : Bool} {m : Text}

theorem shown_eq_said_iff (n : Notice) : n.shown = n.said ↔ n.IsKept := by
  have headed (word m : Text) : word ++ atEnd m = word ++ m ↔ Spared m ∧ m.endingSlashes ≠ 1 := by
    have alone := atEnd_append_eq_iff (t := m) (x := []) (y := []) (by simp)
    simpa using alone
  cases n with
  | info m | verbose m => exact beforeTag_eq_self_iff .info
  | success m => exact beforeTag_eq_self_iff .success
  | warning m => exact headed "Warning: " m
  | error m => exact headed "Error: " m
  | hint m => exact headed "  Hint: " m
  | secret label value =>
      have behind : (Text.ofString ": " ++ value).head? ≠ some Text.backslash := by
        exact (by decide : some (Glyph.char ':') ≠ some Text.backslash)
      simp only [shown, said, IsKept, List.append_assoc, atEnd_append_eq_iff behind,
        List.append_cancel_left_eq, beforeTag_eq_self_iff]
  | plain m ending => simp [shown, said, IsKept]
  | verbatim m => simp [shown, said, IsKept]

theorem glyphs_enclosed (s : Style) (m : Text) :
    glyphs (scanFrom 0 0 (wrap s (escape m))) = beforeTag s m := by
  rw [wrap, List.append_assoc, scanFrom_openTag, glyphs, glyphs_scanFrom_escape_closeTag]

theorem glyphs_headed (s : Style) (m : Text) {word : Text} (plain : word.IsPlain) :
    glyphs (scanFrom 0 0 (wrap s word ++ " " ++ escape m)) = word ++ " " ++ atEnd m := by
  have space : Text.IsPlain " " := by decide
  have message := glyphs_scan_escape m
  rw [scan] at message
  rw [wrap, List.append_assoc, List.append_assoc, List.append_assoc, scanFrom_openTag,
    scanFrom_plain_append plain, scanFrom_closeTag, scanFrom_plain_append space]
  simp [glyphs, message]

theorem glyphs_markup (marked : n.isMarkedUp = true) : glyphs (scan n.markup) = n.shown := by
  cases n with
  | info m | verbose m => exact glyphs_enclosed .info m
  | success m => exact glyphs_enclosed .success m
  | warning m => exact glyphs_headed .warning m (by decide)
  | error m => exact glyphs_headed .error m (by decide)
  | hint m =>
      have margin : Text.IsPlain "  " := by decide
      have rest := glyphs_headed .info m (by decide : Text.IsPlain "Hint:")
      rw [markup, List.append_assoc, List.append_assoc, scan, scanFrom_plain_append margin,
        ← List.append_assoc, glyphs_append, glyphs_map_glyph, rest]
      rfl
  | secret label value =>
      have space : Text.IsPlain " " := by decide
      have behind : Sealed (.char ':' :: (Text.ofString " " ++ wrap .secret (escape value))) :=
        ((Sealed.opening _).cons (by decide)).cons (by decide)
      have before := glyphs_scanFrom_escape_cons (by decide) (by decide) behind label
      have separator : escape label ++ Text.ofString ": " ++ wrap .secret (escape value) =
          escape label ++ .char ':' :: (Text.ofString " " ++ wrap .secret (escape value)) := by
        rw [List.append_assoc]
        rfl
      rw [scanFrom_plain_append space, glyphs_append, glyphs_map_glyph, glyphs_enclosed] at before
      rw [markup, scan, separator, before, shown, List.append_assoc]
      rfl
  | plain m ending => cases marked
  | verbatim m => cases marked

theorem ordinary_thinned (h : ∀ g ∈ m, g.isOrdinary = true) :
    ∀ g ∈ thinned m, g.isOrdinary = true :=
  fun g hg => h g ((thinned_sublist m).subset hg)

theorem ordinary_atEnd (h : ∀ g ∈ m, g.isOrdinary = true) :
    ∀ g ∈ atEnd m, g.isOrdinary = true := by
  unfold atEnd
  split
  · exact List.forall_mem_append.mpr ⟨ordinary_thinned h, by decide⟩
  · exact ordinary_thinned h

theorem ordinary_beforeTag (s : Style) (h : ∀ g ∈ m, g.isOrdinary = true) :
    ∀ g ∈ beforeTag s m, g.isOrdinary = true := by
  have tag : ∀ g ∈ closeTag s, g.isOrdinary = true := by cases s <;> decide
  unfold beforeTag
  split
  · exact ordinary_thinned h
  · refine List.forall_mem_append.mpr
      ⟨fun g hg => ordinary_thinned h g (List.take_subset _ _ hg), ?_⟩
    split
    · exact tag
    · simp

theorem ordinary_shown (printable : ∀ t ∈ n.given, t.IsPrintable) :
    ∀ g ∈ n.shown, g.isOrdinary = true := by
  have ordinary {t : Text} (ht : t ∈ n.given) : ∀ g ∈ t, g.isOrdinary = true :=
    fun g hg => Glyph.isOrdinary_of_isPrintable (printable t ht g hg)
  have headed {word m : Text} (hword : ∀ g ∈ word, g.isOrdinary = true) (hm : m ∈ n.given) :
      ∀ g ∈ word ++ atEnd m, g.isOrdinary = true :=
    List.forall_mem_append.mpr ⟨hword, ordinary_atEnd (ordinary hm)⟩
  cases n with
  | info m | verbose m => exact ordinary_beforeTag .info (ordinary (by simp [given]))
  | success m => exact ordinary_beforeTag .success (ordinary (by simp [given]))
  | warning m | error m | hint m => exact headed (by decide) (by simp [given])
  | secret label value =>
      have front := ordinary_atEnd (ordinary (by simp [given] : label ∈ _))
      have back := ordinary_beforeTag .secret (ordinary (by simp [given] : value ∈ _))
      exact List.forall_mem_append.mpr ⟨List.forall_mem_append.mpr ⟨front, by decide⟩, back⟩
  | plain m ending | verbatim m => exact ordinary (by simp [given] : m ∈ _)

theorem escapeStrays_line {t : Text} (h : ∀ g ∈ t, g.isOrdinary = true) :
    Quoted.escapeStrays (t ++ [Text.newline]) = t ++ [Text.newline] := by
  rw [Quoted.escapeStrays_append, Quoted.escapeStrays_of_ordinary h]
  rfl

/-- Where no styles are shown a notice is one line of what is read. -/
theorem render_piped (marked : n.isMarkedUp = true)
    (printable : ∀ t ∈ n.given, t.IsPrintable) :
    n.render false colour = n.shown ++ [Text.newline] := by
  have read : n.styledText.map (·.1) = n.shown := by
    rw [← glyphs_markup marked]
    cases n with
    | plain m ending => cases marked
    | verbatim m => cases marked
    | _ => exact map_fst_styled none _
  have ordinary : ∀ x ∈ n.styledText, x.1.isOrdinary = true := fun x hx =>
    ordinary_shown printable x.1 (read ▸ List.mem_map_of_mem hx)
  have line : n.layout false colour =
      Layout.render false colour n.styledText ++ [Text.newline] := by
    cases n with
    | plain m ending => cases marked
    | verbatim m => cases marked
    | _ => rfl
  rw [render, line, Layout.render_of_ordinary ordinary, read,
    escapeStrays_line (ordinary_shown printable)]

/-- What is not marked up is written as it is. -/
theorem render_plain (printable : m.IsPrintable) :
    (plain m [Text.newline]).render false colour = m ++ [Text.newline] := by
  have ordinary : ∀ g ∈ m, g.isOrdinary = true := fun g hg =>
    Glyph.isOrdinary_of_isPrintable (printable g hg)
  have unstyled : ∀ x ∈ m.map fun g => (g, (none : Option Style)), x.1.isOrdinary = true := by
    simpa using ordinary
  have line : (plain m [Text.newline]).layout false colour = m ++ [Text.newline] := by
    show Layout.render false colour (m.map fun g => (g, none)) ++ [Text.newline] = _
    rw [Layout.render_of_ordinary unstyled]
    simp [Function.comp_def]
  rw [render, line, escapeStrays_line ordinary]

end Notice

/-! ## Notices one after the other -/

/-- Whether the operator is shown the notice at all. -/
def Console.hears (c : Console) : Notice → Bool
  | .verbose _ => c.verbose
  | _ => true

namespace Console

variable {c : Console} {notices : List Notice}

theorem text_add (c : Console) (n : Notice) :
    (c.add n).text = c.text ++ n.render c.isTerminal c.colour := by
  simp [add, text]

theorem hear_of_hears {n : Notice} (shows : c.hears n = true) : c.hear n = c.add n := by
  cases n <;> simp_all [hear, hears]

theorem hear_of_not_hears {n : Notice} (hides : c.hears n ≠ true) : c.hear n = c := by
  cases n <;> simp_all [hear, hears]

theorem text_foldl_hear (piped : c.isTerminal = false)
    (marked : ∀ n ∈ notices, n.isMarkedUp = true)
    (printable : ∀ n ∈ notices, ∀ t ∈ n.given, t.IsPrintable) :
    (notices.foldl hear c).text =
      c.text ++ (notices.filter c.hears).flatMap fun n => n.shown ++ [Text.newline] := by
  induction notices generalizing c with
  | nil => simp
  | cons n notices ih =>
      obtain ⟨markedHead, markedTail⟩ := List.forall_mem_cons.mp marked
      obtain ⟨printableHead, printableTail⟩ := List.forall_mem_cons.mp printable
      rw [List.foldl_cons]
      by_cases shows : c.hears n = true
      · have rest := ih (c := c.add n) piped markedTail printableTail
        have same : (c.add n).hears = c.hears := rfl
        rw [hear_of_hears shows, rest, text_add, piped,
          Notice.render_piped markedHead printableHead, same, List.filter_cons_of_pos shows,
          List.flatMap_cons, List.append_assoc]
      -- What is not shown leaves the console as it was.
      · rw [hear_of_not_hears shows, ih piped markedTail printableTail,
          List.filter_cons_of_neg shows]

end Console

/-- Where standard error is no terminal, every notice that is shown at all is one line, and nothing
else is written. It is what the notice was given to say if and only if no backslash is in the way. A
notice without tags is always written as it is. -/
theorem notices_word_for_word (h : Host) (notices : List Notice)
    (piped : h.console.isTerminal = false) (marked : ∀ n ∈ notices, n.isMarkedUp = true)
    (printable : ∀ n ∈ notices, ∀ t ∈ n.given, t.IsPrintable) :
    (∃ console, (notices.forM Run.say).run h = (.ok (), { h with console }) ∧
      console.text = h.console.text ++
        (notices.filter h.console.hears).flatMap fun n => n.shown ++ [Text.newline]) ∧
    (∀ n ∈ notices, n.shown = n.said ↔ n.IsKept) ∧
    ∀ (m : Text) (colour : Bool), m.IsPrintable →
      (Notice.plain m [Text.newline]).render false colour = m ++ [Text.newline] := by
  refine ⟨⟨notices.foldl Console.hear h.console, ?_, ?_⟩, fun n _ => n.shown_eq_said_iff,
    fun m colour => Notice.render_plain⟩
  · have said : Ends (notices.forM Run.say) h
        (fun _ h' => h' = { h with console := notices.foldl Console.hear h.console })
        fun _ _ => False := Run.ends_forM_say.mpr rfl
    obtain ⟨_, _, run, rfl⟩ := said.returns
    exact run
  · exact Console.text_foldl_hear piped marked printable

/-- Standard error in a file, with no wish for details. -/
def pipedHost : Host where
  files := { tree := { entries := [] }, current := [] }

theorem notices_word_for_word_hint :
    (([.verbose "not shown", .error "[/] is no [x]\\\\", .hint "a\\b \\[/info]"].forM
      Run.say).run pipedHost).2.console.text =
        "Error: [/] is no [x]\\\\\n  Hint: a\\b \\[/info]\n" := by
  have printable : ∀ t ∈ ["not shown", "[/] is no [x]\\\\", "a\\b \\[/info]"],
      (Text.ofString t).IsPrintable := by
    simp only [List.forall_mem_cons]
    refine ⟨?_, ?_, ?_, by simp⟩ <;> exact Text.isPrintable_ofString (by decide +kernel)
  obtain ⟨⟨console, run, text⟩, -⟩ := notices_word_for_word pipedHost
    [.verbose "not shown", .error "[/] is no [x]\\\\", .hint "a\\b \\[/info]"] rfl (by decide)
    (by simpa [Notice.given] using printable)
  rw [run]
  exact text.trans (by decide +kernel)

/-- The given texts are printable, and another line than theirs is written. -/
def Altered (n : Notice) (line : Text) : Prop :=
  (∀ t ∈ n.given, t.IsPrintable) ∧ ((Run.say n).run pipedHost).2.console.text = line ∧
    line ≠ n.said ++ [Text.newline]

/-- A backslash is lost, one is added, and a closing tag is shown. -/
theorem notices_not_as_said :
    Altered (.info "\\[1]") "[1]\n" ∧ Altered (.warning "a\\") "Warning: a\\\\\n" ∧
      Altered (.success "Added user a\\\\\\") "Added user a\\[/success]\n" := by
  have printable {s : String}
      (ascii : s.toList.all (fun c => 32 ≤ c.toNat && c.toNat < 127) = true) :
      ∀ t ∈ [Text.ofString s], t.IsPrintable :=
    List.forall_mem_singleton.mpr (Text.isPrintable_ofString ascii)
  refine ⟨⟨printable ?_, ?_, ?_⟩, ⟨printable ?_, ?_, ?_⟩, ⟨printable ?_, ?_, ?_⟩⟩ <;>
    decide +kernel

end VncAccess
