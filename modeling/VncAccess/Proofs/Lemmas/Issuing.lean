import Mathlib.Data.List.ReduceOption
import VncAccess.OneTime
import VncAccess.Proofs.Lemmas.PlainText
import VncAccess.Proofs.Lemmas.Requests
import VncAccess.Proofs.Lemmas.Utf8

/-!
# Drawing, showing and sending

A password has eight digits, and its bytes are the slot that is sent for it. What happens on the way
is recorded as the numbers drawn, the lines written and the payloads sent.
-/

namespace VncAccess

/-! ## Eight digits -/

namespace Decimal

@[simp] theorem length_padded (width n : Nat) : (padded width n).length = width := by
  induction width generalizing n with
  | zero => rfl
  | succ width ih => rw [padded, List.length_append, ih]; rfl

theorem toNat_digit (n : Nat) : (digit n).toNat = 48 + n % 10 :=
  Utf8.toNat_ofNat (by omega)

theorem mem_padded {width n : Nat} {c : Char} (h : c ∈ padded width n) : ∃ k, c = digit k := by
  induction width generalizing n with
  | zero => cases h
  | succ width ih =>
      rcases List.mem_append.mp h with h | h
      · exact ih h
      · exact ⟨n, List.mem_singleton.mp h⟩

theorem toNat_of_mem_padded {width n : Nat} {c : Char} (h : c ∈ padded width n) :
    48 ≤ c.toNat ∧ c.toNat ≤ 57 := by
  obtain ⟨k, rfl⟩ := mem_padded h
  rw [toNat_digit]
  omega

end Decimal

namespace OneTime

/-- The bytes of a password. -/
def slot (value : Int) : Bytes := (format value).toBytes

theorem ascii?_ofChars {cs : List Char} (small : ∀ c ∈ cs, c.toNat < 128) :
    ascii? (Text.ofChars cs) = some (cs.map fun c => .ofNat c.toNat) := by
  induction cs with
  | nil => rfl
  | cons c cs ih =>
      obtain ⟨smallHead, smallTail⟩ := List.forall_mem_cons.mp small
      have rest := ih smallTail
      simp only [ascii?, Text.ofChars, List.map_cons] at rest ⊢
      simp [List.mapM_cons, if_pos smallHead, rest]

theorem toBytes_ofChars {cs : List Char} (small : ∀ c ∈ cs, c.toNat < 128) :
    (Text.ofChars cs).toBytes = cs.map fun c => .ofNat c.toNat := by
  induction cs with
  | nil => rfl
  | cons c cs ih =>
      obtain ⟨smallHead, smallTail⟩ := List.forall_mem_cons.mp small
      have one : Utf8.encodeChar c = [.ofNat c.toNat] := if_pos smallHead
      show Utf8.encodeChar c ++ (Text.ofChars cs).toBytes = _
      rw [one, ih smallTail]
      rfl

theorem small_of_mem_padded {width n : Nat} : ∀ c ∈ Decimal.padded width n, c.toNat < 128 := by
  intro c hc
  have := Decimal.toNat_of_mem_padded hc
  omega

theorem slot_eq (value : Int) :
    slot value =
      (Decimal.padded digits (value % modulus).toNat).map fun c => .ofNat c.toNat :=
  toBytes_ofChars small_of_mem_padded

@[simp] theorem length_slot (value : Int) : (slot value).length = digits := by simp [slot_eq]

theorem digit_of_mem_slot {value : Int} {b : UInt8} (h : b ∈ slot value) :
    48 ≤ b.toNat ∧ b.toNat ≤ 57 := by
  rw [slot_eq] at h
  obtain ⟨c, hc, rfl⟩ := List.mem_map.mp h
  have range := Decimal.toNat_of_mem_padded hc
  rw [UInt8.toNat_ofNat']
  omega

theorem ascii?_format (value : Int) : ascii? (format value) = some (slot value) := by
  rw [format, ascii?_ofChars small_of_mem_padded, slot_eq]

theorem isPlain_format (value : Int) : (format value).IsPlain := by
  intro g hg
  obtain ⟨c, hc, rfl⟩ := List.mem_map.mp hg
  have range := Decimal.toNat_of_mem_padded hc
  refine Glyph.isPlain_iff.mpr ⟨c, rfl, by omega, ?_, ?_⟩ <;> rintro rfl <;> simp at range

theorem format_ne_nil (value : Int) : format value ≠ [] := by
  intro empty
  have length : (format value).length = digits := by simp [format, Text.ofChars]
  rw [empty] at length
  cases length

/-- The slot that a password is sent in: cut to eight bytes, or filled up with zeros. -/
def fitted (password : Bytes) : Bytes := (password.take digits).rightpad digits 0

@[simp] theorem length_fitted (password : Bytes) : (fitted password).length = digits := by
  simp only [fitted, List.length_rightpad, List.length_take]
  omega

theorem fitted_of_length {password : Bytes} (whole : password.length = digits) :
    fitted password = password := by
  simp [fitted, List.rightpad, whole, List.take_of_length_le]

theorem take_replaceRange_blank (password : Bytes) :
    (replaceRange (List.replicate (2 * digits) 0) password 0 digits).take digits =
      fitted password := by
  have spare : min (digits - password.length) (2 * digits - digits) =
      digits - min digits password.length := by
    simp only [digits]
    omega
  simp [replaceRange, fitted, List.rightpad, List.take_append, spare]

/-- The first slot has its eight bytes, however long the password for it is. -/
theorem payload?_of_ascii {full : Text} {password : Bytes} (ascii : ascii? full = some password)
    (view : Option Text) :
    payload? full view = (view.elim (some []) ascii?).map (fitted password ++ ·) := by
  have rest (part buffer : Bytes) :
      replaceRange buffer part digits buffer.length = buffer.take digits ++ part := by
    simp [replaceRange]
  cases view with
  | none => simp [payload?, ascii, rest, take_replaceRange_blank]
  | some view =>
      cases second : ascii? view <;> simp [payload?, ascii, second, rest, take_replaceRange_blank]

theorem payload?_format (full : Int) (view : Option Int) :
    payload? (format full) (view.map format) = some ((full :: view.toList).flatMap slot) := by
  rw [payload?_of_ascii (ascii?_format full), fitted_of_length (length_slot full)]
  cases view with
  | none => simp
  | some view => simp [ascii?_format]

end OneTime

/-! ## Draws -/

namespace Random.Provider

/-- What so many draws give. No draw comes after one that fails. -/
def numbers (p : Provider) (e : Entropy) : Nat → List (Option Int)
  | 0 => []
  | n + 1 =>
    match p.draw e with
    | (some value, p, e) => some value :: p.numbers e n
    | (none, _, _) => [none]

theorem drawn_draw (p : Provider) (e : Entropy) :
    (p.draw e).2.2.drawn = e.drawn ++ [(p.draw e).1] := by
  unfold draw
  cases p.source <;> rfl

end Random.Provider

/-! ## Lines -/

def Line.isSecret (l : Line) : Bool :=
  match l.notice with
  | .secret .. => true
  | _ => false

/-- No password is among the lines. -/
def Quiet (lines : List Line) : Prop := ∀ l ∈ lines, l.isSecret = false

theorem Quiet.nil : Quiet [] := nofun

theorem Quiet.append {lines lines' : List Line} (h : Quiet lines) (h' : Quiet lines') :
    Quiet (lines ++ lines') :=
  List.forall_mem_append.mpr ⟨h, h'⟩

theorem Quiet.filter {lines : List Line} (h : Quiet lines) : lines.filter Line.isSecret = [] :=
  List.filter_eq_nil_iff.mpr fun l hl => by simp [h l hl]

namespace Console

variable {c : Console}

theorem hear_plus {n : Notice} (ordinary : ∀ label value, n ≠ .secret label value) :
    ∃ lines, Quiet lines ∧ c.hear n = c.plus lines := by
  have written : ∃ lines, Quiet lines ∧ c.add n = c.plus lines := by
    refine ⟨[c.line n], List.forall_mem_singleton.mpr ?_, rfl⟩
    cases n with
    | secret label value => exact absurd rfl (ordinary label value)
    | _ => rfl
  cases n with
  | verbose m =>
      simp only [hear]
      split
      · exact written
      · exact ⟨[], .nil, plus_nil.symm⟩
  | _ => exact written

theorem note_plus (part : String) (message : Text) :
    ∃ lines, Quiet lines ∧ c.note part message = c.plus lines := by
  unfold note
  split
  · exact ⟨_, List.forall_mem_singleton.mpr rfl, rfl⟩
  · exact ⟨[], .nil, plus_nil.symm⟩

end Console

namespace OneTime

def labels : List Text := ["Full control one-time password", "View-only one-time password"]

/-- The line that shows a password. -/
def passwordLine (c : Console) (label : Text) (value : Int) : Line where
  notice := .secret label (format value)
  text := label ++ ": " ++ Style.secret.shown c.isTerminal c.colour (format value) ++ [Text.newline]

def passwordLines (c : Console) (values : List Int) : List Line :=
  List.zipWith (passwordLine c) labels values

theorem line_secret (c : Console) {label : Text} (plain : label.IsPlain) (value : Int) :
    c.line (.secret label (format value)) = passwordLine c label value := by
  rw [Console.line, Notice.render_secret _ _ plain (isPlain_format value) (format_ne_nil value)]
  rfl

@[simp] theorem passwordLines_plus (c : Console) (lines : List Line) (values : List Int) :
    passwordLines (c.plus lines) values = passwordLines c values := rfl

theorem isSecret_passwordLines {c : Console} {values : List Int} {l : Line}
    (h : l ∈ passwordLines c values) : l.isSecret = true := by
  obtain ⟨label, value, -, rfl⟩ : ∃ label value, (label, value) ∈ labels.zip values ∧
      passwordLine c label value = l := by
    simpa [passwordLines, ← List.map_uncurry_zip_eq_zipWith] using h
  rfl

end OneTime

/-! ## Progress -/

open Display

namespace Display

/-- What a request puts into a property. -/
def Event.payload? : Event → Option Bytes
  | .changed _ _ _ payload _ => some payload
  | _ => none

def Server.payloads (s : Server) : List Bytes := s.events.filterMap Event.payload?

end Display

/-- Between the hosts these numbers were drawn, these lines written and these payloads sent. -/
structure Host.Progress (h h' : Host) (drawn : List (Option Int)) (lines : List Line)
    (sent : List Bytes) : Prop where
  drawn : h'.entropy.drawn = h.entropy.drawn ++ drawn
  console : h'.console = h.console.plus lines
  sent : h'.server.payloads = h.server.payloads ++ sent

theorem Host.Progress.trans {h h₁ h₂ : Host} {drawn drawn' : List (Option Int)}
    {lines lines' : List Line} {sent sent' : List Bytes} (first : h.Progress h₁ drawn lines sent)
    (second : h₁.Progress h₂ drawn' lines' sent') :
    h.Progress h₂ (drawn ++ drawn') (lines ++ lines') (sent ++ sent') where
  drawn := by rw [second.drawn, first.drawn, List.append_assoc]
  console := by rw [second.console, first.console, Console.plus_plus]
  sent := by rw [second.sent, first.sent, List.append_assoc]

namespace OneTime

variable {p : Random.Provider} {h : Host} {bad : Failure → Host → Prop}

@[simp] theorem ends_draw {ok : Int × Random.Provider → Host → Prop} :
    Ends (draw p) h ok bad ↔
      match p.draw h.entropy with
      | (some value, p, entropy) => ok (value, p) { h with entropy }
      | (none, _, entropy) => bad (.system none) { h with entropy } := by
  simp only [draw, ends_bind, ends_get]
  rcases p.draw h.entropy with ⟨_ | value, p', entropy⟩ <;> rfl

@[simp] theorem ends_bestProvider {ok : Random.Provider → Host → Prop} :
    Ends bestProvider h ok bad ↔
      match h.entropy.fault with
      | some reason => ok (.best h.entropy) { h with
          console := h.console.note "vncpasswd.randomness"
            ("Strong randomness unavailable: " ++ reason) }
      | none => ok (.best h.entropy) h := by
  simp only [bestProvider, ends_bind, ends_get]
  cases h.entropy.fault with
  | some reason => simp only [ends_bind, Run.ends_log, ends_pure]
  | none => simp only [ends_pure]

/-- A password that was drawn is on the console at once. -/
theorem ends_issue {label : Text} (plain : label.IsPlain)
    {ok : Text × Random.Provider → Host → Prop} :
    Ends (issue label p) h ok bad ↔
      match p.draw h.entropy with
      | (some value, p, entropy) => ok (format value, p) { h with
          entropy, console := h.console.plus [passwordLine h.console label value] }
      | (none, _, entropy) => bad (.system none) { h with entropy } := by
  simp only [issue, ends_bind, ends_draw, Run.ends_say, ends_pure]
  rcases p.draw h.entropy with ⟨_ | value, p', entropy⟩
  · rfl
  · have shown : h.console.hear (.secret label (format value)) =
        h.console.plus [passwordLine h.console label value] := by
      rw [← line_secret h.console plain value]
      rfl
    simp only [shown]

/-- How many passwords are issued. -/
def count (wantView : Bool) : Nat := if wantView then 2 else 1

theorem progress_of_draw (p : Random.Provider) (lines : List Line) :
    h.Progress { h with entropy := (p.draw h.entropy).2.2, console := h.console.plus lines }
      [(p.draw h.entropy).1] lines [] where
  drawn := p.drawn_draw h.entropy
  console := rfl
  sent := (List.append_nil _).symm

/-- The passwords that were drawn are shown, also where a later draw fails. -/
theorem ends_issueAll {wantView : Bool} :
    Ends (issueAll p wantView) h
      (fun payload h' => h'.server = h.server ∧ ∃ values : List Int,
        values.length = count wantView ∧ p.numbers h.entropy (count wantView) = values.map some ∧
          payload = values.flatMap slot ∧
            h.Progress h' (values.map some) (passwordLines h.console values) [])
      (fun _ h' => h'.server = h.server ∧ none ∈ p.numbers h.entropy (count wantView) ∧
        h.Progress h' (p.numbers h.entropy (count wantView))
          (passwordLines h.console (p.numbers h.entropy (count wantView)).reduceOption) []) := by
  have plainFull : Text.IsPlain "Full control one-time password" := by decide
  have plainView : Text.IsPlain "View-only one-time password" := by decide
  have progress := progress_of_draw (h := h) p
  simp only [issueAll, ends_bind, ends_issue plainFull]
  rcases first : p.draw h.entropy with ⟨_ | full, p₁, e₁⟩ <;> rw [first] at progress
  · have numbers : p.numbers h.entropy (count wantView) = [none] := by
      cases wantView <;> simp [count, Random.Provider.numbers, first]
    have unshown := progress []
    rw [Console.plus_nil] at unshown
    rw [numbers]
    exact ⟨trivial, List.mem_singleton_self _, unshown⟩
  · replace progress := progress (passwordLines h.console [full])
    cases wantView with
    | false =>
        have payload := payload?_format full none
        rw [Option.map_none] at payload
        simp only [Bool.false_eq_true, ↓reduceIte, ends_pure, ends_bind, payload]
        have numbers : p.numbers h.entropy (count false) = [some full] := by
          simp [count, Random.Provider.numbers, first]
        exact ⟨trivial, [full], rfl, numbers, rfl, progress⟩
    | true =>
        simp only [↓reduceIte, ends_bind, ends_issue plainView]
        have later := progress_of_draw p₁ (h := { h with
          entropy := e₁, console := h.console.plus (passwordLines h.console [full]) })
        rcases second : p₁.draw e₁ with ⟨_ | view, p₂, e₂⟩ <;> rw [second] at later
        · have numbers : p.numbers h.entropy (count true) = [some full, none] := by
            simp [count, Random.Provider.numbers, first, second]
          have unshown := later []
          rw [Console.plus_nil] at unshown
          rw [numbers]
          exact ⟨trivial, List.mem_cons_of_mem _ (List.mem_singleton_self _),
            progress.trans unshown⟩
        · have payload := payload?_format full (some view)
          rw [Option.map_some] at payload
          simp only [ends_pure, payload]
          have numbers : p.numbers h.entropy (count true) = [some full, some view] := by
            simp [count, Random.Provider.numbers, first, second]
          exact ⟨trivial, [full, view], rfl, numbers, rfl, progress.trans (later [_])⟩

end OneTime
end VncAccess
