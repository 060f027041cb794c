import Mathlib.Data.List.DropRight
import VncAccess.Proofs.Lemmas.Escaping

/-!
# What is read of escaped text

Escaped text is read without one backslash before every bracket that opens no tag. The backslashes
at its end meet what stands behind it, and a closing tag there takes half of them, and is itself
read as characters where their number is odd.
-/

namespace VncAccess

variable {g : Glyph} {t rest : Text}

/-! ## Runs of backslashes -/

namespace Text

def slashes (n : Nat) : Text := List.replicate n backslash

@[simp] theorem length_slashes (n : Nat) : (slashes n).length = n := List.length_replicate

@[simp] theorem slashes_zero : slashes 0 = [] := rfl

@[simp] theorem slashes_append_slashes (n k : Nat) : slashes n ++ slashes k = slashes (n + k) :=
  List.replicate_append_replicate

theorem rdrop_slashes (n k : Nat) : (slashes n).rdrop k = slashes (n - k) := by
  simp [slashes, List.rdrop]

/-- A text is backslashes alone, or backslashes before another character and a shorter text. -/
theorem slashInduction {motive : Text → Prop} (run : ∀ n, motive (slashes n))
    (other : ∀ n g t, g ≠ backslash → motive t → motive (slashes n ++ g :: t)) (t : Text) :
    motive t := by
  -- The run that is not over yet stands in front of what is left.
  have behind (n : Nat) : motive (slashes n ++ t) := by
    induction t generalizing n with
    | nil => simpa using run n
    | cons g t ih =>
        by_cases slash : g = backslash
        · have one : slashes n ++ g :: t = slashes (n + 1) ++ t := by
            rw [slash, ← slashes_append_slashes]
            simp [slashes]
          exact one ▸ ih (n + 1)
        · exact other n g t slash (ih 0)
  exact behind 0

/-- How many backslashes the text ends in. -/
def endingSlashes (t : Text) : Nat := (t.reverse.takeWhile (· = backslash)).length

@[simp] theorem endingSlashes_slashes (n : Nat) : (slashes n).endingSlashes = n := by
  simp [endingSlashes, slashes]

@[simp] theorem endingSlashes_append_cons (u : Text) (notSlash : g ≠ backslash) :
    (u ++ g :: t).endingSlashes = t.endingSlashes := by
  simp only [endingSlashes, List.reverse_append, List.reverse_cons, List.append_assoc,
    List.singleton_append, List.takeWhile_append]
  split
  · simp_all
  · rfl

end Text

namespace Markup

open Text

/-! ## Escaping -/

theorem escapeFrom_slashes_append (k n : Nat) (t : Text) :
    escapeFrom k (slashes n ++ t) = slashes n ++ escapeFrom (k + n) t := by
  induction n generalizing k with
  | zero => rfl
  | succ n ih =>
      have next : k + 1 + n = k + (n + 1) := by omega
      simp only [slashes, List.replicate_succ, List.cons_append] at ih ⊢
      rw [escapeFrom, if_pos rfl, ih, next]

/-- The backslashes that escaping leaves before a character. -/
def escapedSlashes (n : Nat) (g : Glyph) (rest : Text) : Nat :=
  if g = opening ∧ (tagAhead? rest).isSome then n + (n + 1) else n

theorem escapeFrom_other (n : Nat) (notSlash : g ≠ backslash) :
    escapeFrom 0 (slashes n ++ g :: t) =
      slashes (escapedSlashes n g t) ++ g :: escapeFrom 0 t := by
  rw [escapeFrom_slashes_append, Nat.zero_add, escapeFrom, if_neg notSlash, escapedSlashes]
  split
  · rw [← slashes_append_slashes, List.append_assoc]
    rfl
  · rfl

theorem escapeFrom_slashes (n : Nat) : escapeFrom 0 (slashes n) = slashes n := by
  have alone := escapeFrom_slashes_append 0 n []
  simpa [escapeFrom] using alone

@[simp] theorem endingSlashes_escapeFrom (t : Text) :
    (escapeFrom 0 t).endingSlashes = t.endingSlashes := by
  induction t using slashInduction with
  | run n => rw [escapeFrom_slashes]
  | other n g t notSlash ih =>
      rw [escapeFrom_other n notSlash, endingSlashes_append_cons _ notSlash,
        endingSlashes_append_cons _ notSlash, ih]

theorem endsInLoneBackslash_iff (t : Text) :
    endsInLoneBackslash t = true ↔ t.endingSlashes = 1 := by
  simp only [endsInLoneBackslash, endingSlashes]
  cases t.reverse with
  | nil => simp
  | cons g before =>
      cases before with
      | nil => by_cases slash : g = backslash <;> simp [slash]
      | cons g' before =>
          by_cases slash : g = backslash <;> by_cases slash' : g' = backslash <;>
            simp [slash, slash']

/-- Only a lone backslash at the end is doubled. -/
def leftSlashes (t : Text) : Nat := if t.endingSlashes = 1 then 2 else t.endingSlashes

/-! ## Reading -/

/-- The characters among the pieces. -/
def glyphs : List Piece → Text
  | [] => []
  | .glyph g :: rest => g :: glyphs rest
  | .tag _ :: rest => glyphs rest

@[simp] theorem glyphs_append (p q : List Piece) : glyphs (p ++ q) = glyphs p ++ glyphs q := by
  induction p with
  | nil => rfl
  | cons x p ih => cases x <;> simp [glyphs, ih]

@[simp] theorem glyphs_map_glyph (t : Text) : glyphs (t.map .glyph) = t := by
  induction t with
  | nil => rfl
  | cons g t ih => simp [glyphs, ih]

@[simp] theorem glyphs_backslashes (n : Nat) : glyphs (backslashes n) = slashes n := by
  have map : backslashes n = (slashes n).map .glyph := by simp [backslashes, slashes]
  rw [map, glyphs_map_glyph]

theorem map_fst_styled (style : Option Style) (pieces : List Piece) :
    (styled style pieces).map (·.1) = glyphs pieces := by
  induction pieces generalizing style with
  | nil => rfl
  | cons x pieces ih => cases x <;> simp [styled, glyphs, ih]

theorem scanFrom_slashes_append (k n : Nat) (t : Text) :
    scanFrom 0 k (slashes n ++ t) = scanFrom 0 (k + n) t := by
  rw [slashes, ← map_snd_placedFrom 0, placedFrom_backslashes, map_snd_placedFrom]

/-- The backslashes that are read before a character of an escaped text. -/
def thinnedSlashes (n : Nat) (g : Glyph) (rest : Text) : Nat :=
  if g = opening ∧ tagAhead? rest = none then n - 1 else n

theorem scanFrom_escaped (n : Nat) (notSlash : g ≠ backslash)
    (behind : tagAhead? rest = tagAhead? t) :
    scanFrom 0 (escapedSlashes n g t) (g :: rest) =
      backslashes (thinnedSlashes n g t) ++ .glyph g :: scanFrom 0 0 rest := by
  rw [scanFrom, if_neg notSlash, escapedSlashes, thinnedSlashes, behind]
  by_cases bracket : g = opening
  · cases tagAhead? t with
    | none => simp [bracket]
    | some content =>
        have odd : (n + (n + 1)) % 2 = 1 := by omega
        have half : (n + (n + 1)) / 2 = n := by omega
        simp [bracket, odd, half]
  · simp [bracket]

/-! ## Thinned text -/

/-- The text less one backslash before every bracket that opens no tag. -/
def thinned : Text → Text
  | [] => []
  | g :: rest =>
    if g = backslash ∧ rest.head? = some opening ∧ tagAhead? rest.tail = none then
      thinned rest
    else
      g :: thinned rest

theorem thinned_cons_of_ne (notSlash : g ≠ backslash) : thinned (g :: t) = g :: thinned t := by
  rw [thinned, if_neg fun h => notSlash h.1]

/-- Only the last of several backslashes can be one less. -/
theorem thinned_slashes_succ_append (n : Nat) (t : Text) :
    thinned (slashes (n + 1) ++ t) = slashes n ++ thinned (backslash :: t) := by
  induction n with
  | zero => rfl
  | succ n ih =>
      have more : slashes (n + 1 + 1) ++ t = backslash :: backslash :: (slashes n ++ t) := rfl
      have fewer : slashes (n + 1) ++ t = backslash :: (slashes n ++ t) := rfl
      rw [more, thinned, if_neg fun h => absurd h.2.1 (by simp [opening_ne_backslash.symm]),
        ← fewer, ih]
      rfl

theorem thinned_slashes (n : Nat) : thinned (slashes n) = slashes n := by
  cases n with
  | zero => rfl
  | succ n =>
      have alone := thinned_slashes_succ_append n []
      rw [List.append_nil] at alone
      rw [alone, slashes, slashes, List.replicate_succ']
      rfl

theorem thinned_other (n : Nat) (notSlash : g ≠ backslash) :
    thinned (slashes n ++ g :: t) = slashes (thinnedSlashes n g t) ++ g :: thinned t := by
  cases n with
  | zero => simp [slashes, thinnedSlashes, thinned_cons_of_ne notSlash]
  | succ n =>
      rw [thinned_slashes_succ_append, thinned, thinned_cons_of_ne notSlash, thinnedSlashes]
      by_cases lost : g = opening ∧ tagAhead? t = none
      · simp [lost]
      · simp [lost, slashes, List.replicate_succ']

/-- How an escaped text is read: thinned, but for the backslashes at its end, which are left for
what comes behind. -/
theorem exists_scanFrom_escapeFrom (behind : Sealed rest) (t : Text) :
    ∃ body, thinned t = body ++ slashes t.endingSlashes ∧
      scanFrom 0 0 (escapeFrom 0 t ++ rest) =
        body.map .glyph ++ scanFrom 0 t.endingSlashes rest := by
  induction t using slashInduction with
  | run n =>
      refine ⟨[], by simp [thinned_slashes], ?_⟩
      rw [escapeFrom_slashes, scanFrom_slashes_append, endingSlashes_slashes, Nat.zero_add]
      rfl
  | other n g t notSlash ih =>
      obtain ⟨body, thinned_eq, scan_eq⟩ := ih
      have read := scanFrom_escaped n notSlash (tagAhead?_escapeFrom behind t)
      refine ⟨slashes (thinnedSlashes n g t) ++ g :: body, ?_, ?_⟩
      · rw [thinned_other n notSlash, thinned_eq, endingSlashes_append_cons _ notSlash]
        simp
      · rw [escapeFrom_other n notSlash, List.append_assoc, List.cons_append,
          scanFrom_slashes_append, Nat.zero_add, read, scan_eq,
          endingSlashes_append_cons _ notSlash]
        simp [backslashes, slashes]

theorem exists_scanFrom_escape (behind : Sealed rest) (t : Text) :
    ∃ body, thinned t = body ++ slashes t.endingSlashes ∧
      scanFrom 0 0 (escape t ++ rest) = body.map .glyph ++ scanFrom 0 (leftSlashes t) rest := by
  by_cases lone : t.endingSlashes = 1
  · have doubled : escape t = escapeFrom 0 t ++ [backslash] := by
      simp [escape, (endsInLoneBackslash_iff _).mpr ((endingSlashes_escapeFrom t).trans lone)]
    obtain ⟨body, thinned_eq, scan_eq⟩ :=
      exists_scanFrom_escapeFrom (behind.cons (by decide : backslash ≠ closing)) t
    refine ⟨body, thinned_eq, ?_⟩
    rw [doubled, List.append_assoc, List.singleton_append, scan_eq, leftSlashes, if_pos lone, lone,
      scanFrom, if_pos rfl]
  · have same : escape t = escapeFrom 0 t := by
      have notLone : endsInLoneBackslash (escapeFrom 0 t) ≠ true :=
        fun h => lone ((endingSlashes_escapeFrom t).symm.trans ((endsInLoneBackslash_iff _).mp h))
      simp [escape, notLone]
    rw [same, leftSlashes, if_neg lone]
    exact exists_scanFrom_escapeFrom behind t

/-! ## With something behind it -/

/-- What is read of an escaped text that no tag follows. -/
def atEnd (t : Text) : Text :=
  if t.endingSlashes = 1 then thinned t ++ [backslash] else thinned t

/-- What is read of an escaped text and the closing tag behind it. -/
def beforeTag (s : Style) (t : Text) : Text :=
  if t.endingSlashes ≤ 1 then
    thinned t
  else
    (thinned t).rdrop ((t.endingSlashes + 1) / 2) ++
      if t.endingSlashes % 2 = 1 then closeTag s else []

theorem append_leftSlashes {body : Text} (h : thinned t = body ++ slashes t.endingSlashes) :
    body ++ slashes (leftSlashes t) = atEnd t := by
  unfold leftSlashes atEnd
  split
  · next lone => simp [h, lone, slashes]
  · exact h.symm

theorem glyphs_scan_escape (t : Text) : glyphs (scan (escape t)) = atEnd t := by
  obtain ⟨body, thinned_eq, scan_eq⟩ := exists_scanFrom_escape Sealed.nil t
  rw [List.append_nil] at scan_eq
  rw [scan, scan_eq, scanFrom, glyphs_append, glyphs_map_glyph, glyphs_backslashes,
    append_leftSlashes thinned_eq]

theorem glyphs_scanFrom_escape_cons (notSlash : g ≠ backslash) (notOpening : g ≠ opening)
    (behind : Sealed (g :: rest)) (t : Text) :
    glyphs (scanFrom 0 0 (escape t ++ g :: rest)) =
      atEnd t ++ g :: glyphs (scanFrom 0 0 rest) := by
  obtain ⟨body, thinned_eq, scan_eq⟩ := exists_scanFrom_escape behind t
  rw [scan_eq, scanFrom, if_neg notSlash, if_neg notOpening, ← append_leftSlashes thinned_eq]
  simp [glyphs]

theorem glyphs_scanFrom_closeTag (n : Nat) (s : Style) :
    glyphs (scanFrom 0 n (closeTag s)) =
      slashes (n / 2) ++ if n % 2 = 1 then closeTag s else [] := by
  by_cases odd : n % 2 = 1
  -- The bracket is a character then, and no other character of the tag means anything.
  · have content : Text.IsPlain (Text.slash :: Text.ofString s.name ++ [closing]) := by
      cases s <;> decide
    have inside : scanFrom 0 0 (_ ++ []) = _ := scanFrom_plain_append content
    have ahead := tagAhead?_closeTag s []
    simp only [List.cons_append, List.append_nil] at inside ahead
    rw [closeTag, List.cons_append, List.cons_append, scanFrom, if_neg opening_ne_backslash,
      if_pos rfl, ahead, inside]
    simp [odd, glyphs, scanFrom]
  · have even : n % 2 = 0 := by omega
    have tag : placedFrom 0 0 n (closeTag s ++ []) = _ := placedFrom_closeTag s even
    rw [List.append_nil] at tag
    rw [← map_snd_placedFrom 0, tag]
    simp [odd, glyphs, placedFrom]

theorem glyphs_scanFrom_escape_closeTag (s : Style) (t : Text) :
    glyphs (scanFrom 0 0 (escape t ++ closeTag s)) = beforeTag s t := by
  have behind : Sealed (closeTag s) := Sealed.opening _
  obtain ⟨body, thinned_eq, scan_eq⟩ := exists_scanFrom_escape behind t
  -- A lone backslash has been doubled, so that the tag takes the one that was added.
  rw [scan_eq, glyphs_append, glyphs_map_glyph, glyphs_scanFrom_closeTag, beforeTag, leftSlashes]
  by_cases few : t.endingSlashes ≤ 1
  · rw [if_pos few, thinned_eq]
    rcases (by omega : t.endingSlashes = 0 ∨ t.endingSlashes = 1) with none | lone
    · simp [none]
    · simp [lone]
  · have lone : t.endingSlashes ≠ 1 := by omega
    have taken : (t.endingSlashes + 1) / 2 ≤ (slashes t.endingSlashes).length := by
      rw [length_slashes]; omega
    have kept : t.endingSlashes - (t.endingSlashes + 1) / 2 = t.endingSlashes / 2 := by omega
    rw [if_neg few, if_neg lone, thinned_eq, List.rdrop_append_of_le_length _ taken]
    rw [rdrop_slashes, kept, List.append_assoc]

end Markup
end VncAccess
