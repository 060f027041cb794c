import VncAccess.Host

/-!
# How computations end

`Ends x s ok bad` says of a computation that starts in the state `s` how it ends on every way out:
with a value and a state of which `ok` holds, or with a failure and a state of which `bad` holds.
There is one rule for each way to build a computation.
-/

namespace VncAccess

variable {ε σ α β : Type}

def Ends (x : ExceptT ε (StateM σ) α) (s : σ) (ok : α → σ → Prop) (bad : ε → σ → Prop) : Prop :=
  match x.run s with
  | (.ok a, s') => ok a s'
  | (.error e, s') => bad e s'

section Rules

variable {x : ExceptT ε (StateM σ) α} {f : α → ExceptT ε (StateM σ) β} {s s' : σ} {a : α} {e : ε}
  {ok ok' : α → σ → Prop} {bad bad' : ε → σ → Prop}

theorem Ends.of_ok (h : Ends x s ok bad) (r : x.run s = (.ok a, s')) : ok a s' := by
  unfold Ends at h; rw [r] at h; exact h

theorem Ends.of_error (h : Ends x s ok bad) (r : x.run s = (.error e, s')) : bad e s' := by
  unfold Ends at h; rw [r] at h; exact h

theorem Ends.of_run (hok : ∀ a s', x.run s = (.ok a, s') → ok a s')
    (hbad : ∀ e s', x.run s = (.error e, s') → bad e s') : Ends x s ok bad := by
  unfold Ends; split
  · exact hok _ _ ‹_›
  · exact hbad _ _ ‹_›

/-- A computation that does not fail has a value. -/
theorem Ends.returns (h : Ends x s ok fun _ _ => False) :
    ∃ a s', x.run s = (.ok a, s') ∧ ok a s' := by
  rcases r : x.run s with ⟨e | a, s'⟩
  · exact (h.of_error r).elim
  · exact ⟨a, s', rfl, h.of_ok r⟩

theorem Ends.fails (h : Ends x s (fun _ _ => False) bad) :
    ∃ e s', x.run s = (.error e, s') ∧ bad e s' := by
  rcases r : x.run s with ⟨e | a, s'⟩
  · exact ⟨e, s', rfl, h.of_error r⟩
  · exact (h.of_ok r).elim

theorem Ends.imp (h : Ends x s ok bad) (hok : ∀ a s', ok a s' → ok' a s')
    (hbad : ∀ e s', bad e s' → bad' e s') : Ends x s ok' bad' :=
  .of_run (fun _ _ r => hok _ _ (h.of_ok r)) (fun _ _ r => hbad _ _ (h.of_error r))

theorem Ends.and (h : Ends x s ok bad) (h' : Ends x s ok' bad') :
    Ends x s (fun a s => ok a s ∧ ok' a s) (fun e s => bad e s ∧ bad' e s) :=
  .of_run (fun _ _ r => ⟨h.of_ok r, h'.of_ok r⟩) (fun _ _ r => ⟨h.of_error r, h'.of_error r⟩)

/-- What holds on every way out holds of the state that is left. -/
theorem Ends.always {p : σ → Prop} (h : Ends x s (fun _ => p) (fun _ => p)) : p (x.run s).2 := by
  rcases r : x.run s with ⟨_ | _, s'⟩
  · exact h.of_error r
  · exact h.of_ok r

@[simp] theorem ends_pure {ok : α → σ → Prop} : Ends (pure a) s ok bad ↔ ok a s := Iff.rfl

@[simp] theorem ends_throw : Ends (throw e : ExceptT ε (StateM σ) α) s ok bad ↔ bad e s := Iff.rfl

@[simp] theorem ends_bind {ok : β → σ → Prop} :
    Ends (x >>= f) s ok bad ↔ Ends x s (fun a s => Ends (f a) s ok bad) bad := by
  have run_bind : (x >>= f).run s = match x.run s with
      | (.ok a, s') => (f a).run s'
      | (.error e, s') => (.error e, s') := by
    show (ExceptT.bind x f) s = _
    simp only [ExceptT.bind, ExceptT.mk, bind, StateT.bind, ExceptT.run]
    rcases x s with ⟨_ | _, _⟩ <;> rfl
  unfold Ends; rw [run_bind]
  rcases x.run s with ⟨_ | _, _⟩ <;> rfl

@[simp] theorem ends_map {g : α → β} {ok : β → σ → Prop} :
    Ends (g <$> x) s ok bad ↔ Ends x s (fun a => ok (g a)) bad := by
  rw [map_eq_pure_bind, ends_bind]; rfl

@[simp] theorem ends_get {ok : σ → σ → Prop} :
    Ends (get : ExceptT ε (StateM σ) σ) s ok bad ↔ ok s s := Iff.rfl

@[simp] theorem ends_set {ok : PUnit → σ → Prop} :
    Ends (set s' : ExceptT ε (StateM σ) PUnit) s ok bad ↔ ok ⟨⟩ s' := Iff.rfl

@[simp] theorem ends_modify {g : σ → σ} {ok : PUnit → σ → Prop} :
    Ends (modify g : ExceptT ε (StateM σ) PUnit) s ok bad ↔ ok ⟨⟩ (g s) := Iff.rfl

/-- A change that is made only if a condition holds, before what is done either way. -/
theorem ends_ite_modify {c : Prop} [Decidable c] {g : σ → σ} {y : ExceptT ε (StateM σ) α} :
    Ends (if c then (modify g : ExceptT ε (StateM σ) PUnit) >>= fun _ => y else y) s ok bad ↔
      Ends y (if c then g s else s) ok bad := by
  by_cases hc : c
  · rw [if_pos hc, if_pos hc, ends_bind, ends_modify]
  · rw [if_neg hc, if_neg hc]

end Rules

/-! ## What stays as it was -/

/-- What `p` reads off the state is the same on every way out. -/
def Keeps {γ : Type} (p : σ → γ) (x : ExceptT ε (StateM σ) α) : Prop :=
  ∀ s, Ends x s (fun _ s' => p s' = p s) (fun _ s' => p s' = p s)

section Keeping

variable {γ : Type} {p : σ → γ} {x : ExceptT ε (StateM σ) α} {f : α → ExceptT ε (StateM σ) β}

theorem Keeps.run (h : Keeps p x) (s : σ) : p (x.run s).2 = p s :=
  (h s).always (p := fun s' => p s' = p s)

theorem keeps_pure {a : α} : Keeps p (pure a : ExceptT ε (StateM σ) α) := fun _ => rfl

theorem keeps_throw {e : ε} : Keeps p (throw e : ExceptT ε (StateM σ) α) := fun _ => rfl

theorem keeps_throw_bind {e : ε} :
    Keeps p ((throw e : ExceptT ε (StateM σ) α) >>= f) := fun _ => rfl

theorem keeps_get : Keeps p (get : ExceptT ε (StateM σ) σ) := fun _ => rfl

theorem keeps_modify {g : σ → σ} (h : ∀ s, p (g s) = p s) :
    Keeps p (modify g : ExceptT ε (StateM σ) PUnit) := fun s => h s

theorem Keeps.bind (hx : Keeps p x) (hf : ∀ a, Keeps p (f a)) : Keeps p (x >>= f) := by
  intro s
  rw [ends_bind]
  refine (hx s).imp (fun a s' e => ?_) (fun _ _ e => e)
  exact (hf a s').imp (fun _ _ e' => e'.trans e) (fun _ _ e' => e'.trans e)

theorem Keeps.ite {c : Prop} [Decidable c] {y : ExceptT ε (StateM σ) α} (hx : Keeps p x)
    (hy : Keeps p y) : Keeps p (if c then x else y) := by
  split
  · exact hx
  · exact hy

end Keeping

/-! ## On a host -/

/-- A console with one line more. -/
def Console.add (c : Console) (n : Notice) : Console :=
  { c with lines := c.lines ++ [⟨n, n.render c.isTerminal c.colour⟩] }

/-- The line that a notice is written as. -/
def Console.line (c : Console) (n : Notice) : Line := ⟨n, n.render c.isTerminal c.colour⟩

/-- A console with more lines. -/
def Console.plus (c : Console) (lines : List Line) : Console := { c with lines := c.lines ++ lines }

@[simp] theorem Console.plus_nil {c : Console} : c.plus [] = c := by simp [plus]

@[simp] theorem Console.plus_plus {c : Console} (lines lines' : List Line) :
    (c.plus lines).plus lines' = c.plus (lines ++ lines') := by simp [plus]

/-- A console after a notice, which it shows unless the operator did not ask for it. -/
def Console.hear (c : Console) (n : Notice) : Console :=
  match n with
  | .verbose _ => if c.verbose then c.add n else c
  | _ => c.add n

/-- A console after a message of the log. -/
def Console.note (c : Console) (part : String) (message : Text) : Console :=
  if c.logging then
    c.add (.verbatim (Text.ofString part ++ ": " ++ message ++ [Text.newline]))
  else
    c

/-- How a system call that was not carried out is reported. -/
def CallError.failure (report : Errno → AccessError) : CallError → Failure
  | .errno e => .refused (report e)
  | .embeddedNul => .badValue .embeddedNul

namespace Run

variable {x : Run α} {h : Host} {ok : α → Host → Prop} {bad : Failure → Host → Prop}

@[simp] theorem ends_fail {f : Failure} : Ends (fail f : Run α) h ok bad ↔ bad f h := Iff.rfl

@[simp] theorem ends_refuse {e : AccessError} :
    Ends (refuse e : Run α) h ok bad ↔ bad (.refused e) h := Iff.rfl

theorem always_run {c : Host → Host} :
    (always c x).run h = ((x.run h).1, c (x.run h).2) := rfl

theorem attempt_run : (attempt x).run h = (.ok (x.run h).1, (x.run h).2) := rfl

@[simp] theorem ends_always {c : Host → Host} :
    Ends (always c x) h ok bad ↔
      Ends x h (fun a h => ok a (c h)) (fun f h => bad f (c h)) := by
  unfold Ends; rw [always_run]
  rcases x.run h with ⟨_ | _, _⟩ <;> rfl

@[simp] theorem ends_attempt {ok : Except Failure α → Host → Prop} :
    Ends (attempt x) h ok bad ↔ Ends x h (fun a => ok (.ok a)) (fun f => ok (.error f)) := by
  unfold Ends; rw [attempt_run]
  rcases x.run h with ⟨_ | _, _⟩ <;> rfl

@[simp] theorem ends_cleaning {cleanUp : Run Unit} :
    Ends (cleaning cleanUp x) h ok bad ↔
      Ends x h ok (fun f h' => Ends cleanUp h' (fun _ => bad f) bad) := by
  rw [cleaning, ends_bind, ends_attempt]
  simp only [ends_bind, ends_pure, ends_fail]

@[simp] theorem ends_onFailure {c : Host → Host} :
    Ends (onFailure c x) h ok bad ↔ Ends x h ok (fun f h => bad f (c h)) := by
  simp only [onFailure, ends_cleaning, ends_modify]

@[simp] theorem ends_ofValue {v : Except ValueFault α} :
    Ends (ofValue v) h ok bad ↔
      match v with
      | .ok a => ok a h
      | .error f => bad (.badValue f) h := by
  cases v <;> rfl

@[simp] theorem ends_files {c : FileCall α} {ok : Except Errno α → Host → Prop} :
    Ends (files c) h ok bad ↔
      Ends c h.files (fun a files => ok (.ok a) { h with files }) fun e files =>
        match e with
        | .errno e => ok (.error e) { h with files }
        | .embeddedNul => bad (.badValue .embeddedNul) { h with files } := by
  have files_run : (files c).run h = match c.run h.files with
      | (.ok a, files) => (.ok (.ok a), { h with files })
      | (.error (.errno e), files) => (.ok (.error e), { h with files })
      | (.error .embeddedNul, files) => (.error (.badValue .embeddedNul), { h with files }) := by
    show files c h = _
    unfold files
    rcases c.run h.files with ⟨(_ | _) | _, _⟩ <;> rfl
  unfold Ends; rw [files_run]
  rcases c.run h.files with ⟨(_ | _) | _, _⟩ <;> rfl

@[simp] theorem ends_filesOr {c : FileCall α} {report : Errno → AccessError} :
    Ends (filesOr report c) h ok bad ↔
      Ends c h.files (fun a files => ok a { h with files })
        fun e files => bad (e.failure report) { h with files } := by
  unfold filesOr
  rw [ends_bind, ends_files]
  constructor <;> intro ends <;> refine ends.imp (fun _ _ done => done) ?_ <;>
    rintro (_ | _) _ done <;> exact done

@[simp] theorem ends_emit {bytes : Bytes} {ok : Except Errno Unit → Host → Prop} :
    Ends (emit bytes) h ok bad ↔
      ok (h.output.emit bytes).1 { h with output := (h.output.emit bytes).2 } := Iff.rfl

@[simp] theorem ends_environmentValue {name : Text} {ok : Option Text → Host → Prop} :
    Ends (environmentValue name) h ok bad ↔ ok (h.environment.lookup name) h := Iff.rfl

@[simp] theorem ends_say {n : Notice} {ok : Unit → Host → Prop} :
    Ends (say n) h ok bad ↔ ok () { h with console := h.console.hear n } := by
  cases n <;> simp [say, tell, Console.hear, Console.add]
  split <;> rfl

theorem ends_forM_say {ι : Type} {l : List ι} {f : ι → Notice} {ok : PUnit → Host → Prop} :
    Ends (l.forM fun a => say (f a)) h ok bad ↔
      ok ⟨⟩ { h with console := l.foldl (fun c a => c.hear (f a)) h.console } := by
  induction l generalizing h with
  | nil => exact Iff.rfl
  | cons a l ih =>
      show Ends (say (f a) >>= fun _ => l.forM fun a => say (f a)) h ok bad ↔ _
      rw [ends_bind, ends_say, ih]
      rfl

@[simp] theorem ends_log {part : String} {message : Text} {ok : Unit → Host → Prop} :
    Ends (log part message) h ok bad ↔
      ok () { h with console := h.console.note part message } := by
  simp only [log, tell, Console.note, Console.add, ends_bind, ends_get]
  split <;> rfl

/-! ## What a run leaves as it was -/

variable {γ : Type} {p : Host → γ}

theorem keeps_cleaning {cleanUp : Run Unit} (hc : Keeps p cleanUp) (hx : Keeps p x) :
    Keeps p (cleaning cleanUp x) := fun h =>
  ends_cleaning.mpr ((hx h).imp (fun _ _ e => e) fun _ h' e =>
    (hc h').imp (fun _ _ e' => e'.trans e) fun _ _ e' => e'.trans e)

theorem keeps_onFailure {c : Host → Host} (hc : ∀ h, p (c h) = p h) (hx : Keeps p x) :
    Keeps p (onFailure c x) :=
  keeps_cleaning (keeps_modify hc) hx

theorem keeps_ofValue {v : Except ValueFault α} : Keeps p (ofValue v) := fun h => by
  rw [ends_ofValue]; split <;> rfl

theorem keeps_say {n : Notice} (hp : ∀ h console, p { h with console } = p h) :
    Keeps p (say n) := fun h => ends_say.mpr (hp h _)

theorem keeps_log {part : String} {message : Text}
    (hp : ∀ h console, p { h with console } = p h) : Keeps p (log part message) :=
  fun h => ends_log.mpr (hp h _)

theorem keeps_files {c : FileCall α} (hp : ∀ h files, p { h with files } = p h) :
    Keeps p (files c) := by
  intro h
  rw [ends_files]
  refine .of_run (fun _ _ _ => hp h _) fun e _ _ => ?_
  cases e <;> exact hp h _

theorem keeps_filesOr {c : FileCall α} {report : Errno → AccessError}
    (hp : ∀ h files, p { h with files } = p h) : Keeps p (filesOr report c) :=
  fun h => ends_filesOr.mpr (.of_run (fun _ _ _ => hp h _) fun _ _ _ => hp h _)

end Run
end VncAccess
