import VncAccess.Proofs.Lemmas.Ending

/-!
# Two computations side by side

`Together x y s t ok bad` says of two computations that they end in the same way: both with a value,
or both with one and the same failure. A computation is blind to a relation between states if it
gives the same result in related states and leaves related states behind.
-/

namespace VncAccess

variable {ε σ α α' β β' : Type}

def Together (x : ExceptT ε (StateM σ) α) (y : ExceptT ε (StateM σ) α') (s t : σ)
    (ok : α → σ → α' → σ → Prop) (bad : ε → σ → σ → Prop) : Prop :=
  Ends x s (fun a s' => Ends y t (fun b t' => ok a s' b t') fun _ _ => False)
    fun e s' => Ends y t (fun _ _ => False) fun e' t' => e' = e ∧ bad e s' t'

section Rules

variable {x : ExceptT ε (StateM σ) α} {y : ExceptT ε (StateM σ) α'}
  {f : α → ExceptT ε (StateM σ) β} {g : α' → ExceptT ε (StateM σ) β'} {s t : σ}
  {ok ok' : α → σ → α' → σ → Prop} {mid : α → σ → α' → σ → Prop} {bad bad' : ε → σ → σ → Prop}

theorem Together.imp (h : Together x y s t ok bad) (hok : ∀ a s' b t', ok a s' b t' → ok' a s' b t')
    (hbad : ∀ e s' t', bad e s' t' → bad' e s' t') : Together x y s t ok' bad' := by
  refine Ends.imp h ?_ ?_
  · intro a s' ends
    exact ends.imp (fun _ _ => hok _ _ _ _) fun _ _ => id
  · intro e s' ends
    exact ends.imp (fun _ _ => id) fun _ _ ⟨same, left⟩ => ⟨same, hbad _ _ _ left⟩

/-- Both have a value, or both have the same failure. -/
theorem Together.cases (h : Together x y s t ok bad) :
    (∃ a s' b t', x.run s = (.ok a, s') ∧ y.run t = (.ok b, t') ∧ ok a s' b t') ∨
      ∃ e s' t', x.run s = (.error e, s') ∧ y.run t = (.error e, t') ∧ bad e s' t' := by
  rcases rx : x.run s with ⟨e | a, s'⟩ <;> rcases ry : y.run t with ⟨e' | b, t'⟩
  · obtain ⟨rfl, left⟩ := (h.of_error rx).of_error ry
    exact .inr ⟨e', s', t', rfl, rfl, left⟩
  · exact ((h.of_error rx).of_ok ry).elim
  · exact ((h.of_ok rx).of_error ry).elim
  · exact .inl ⟨a, s', b, t', rfl, rfl, (h.of_ok rx).of_ok ry⟩

theorem together_of_ok {a : α} {b : α'} {s' t' : σ} (rx : x.run s = (.ok a, s'))
    (ry : y.run t = (.ok b, t')) (done : ok a s' b t') : Together x y s t ok bad := by
  unfold Together Ends
  simp only [rx, ry, done]

theorem together_of_error {e : ε} {s' t' : σ} (rx : x.run s = (.error e, s'))
    (ry : y.run t = (.error e, t')) (left : bad e s' t') : Together x y s t ok bad := by
  unfold Together Ends
  simp only [rx, ry, left, and_self]

theorem Ends.together {ok : α → σ → Prop} {bad : ε → σ → Prop} (h : Ends x s ok bad) :
    Together x x s s (fun a s' b t' => b = a ∧ t' = s' ∧ ok a s')
      fun e s' t' => t' = s' ∧ bad e s' := by
  rcases run : x.run s with ⟨e | a, s'⟩
  · exact together_of_error run run ⟨rfl, h.of_error run⟩
  · exact together_of_ok run run ⟨rfl, rfl, h.of_ok run⟩

theorem together_bind {ok : β → σ → β' → σ → Prop}
    (h : Together x y s t (fun a s' b t' => Together (f a) (g b) s' t' ok bad) bad) :
    Together (x >>= f) (y >>= g) s t ok bad := by
  unfold Together
  simp only [ends_bind]
  rcases h.cases with ⟨a, s', b, t', rx, ry, goOn⟩ | ⟨e, s', t', rx, ry, left⟩
  · unfold Together Ends at goOn
    unfold Ends
    rw [rx]
    simpa only [ry] using goOn
  · unfold Ends
    simp only [rx, ry, left, and_self]

theorem together_modify_bind {f : PUnit → ExceptT ε (StateM σ) β}
    {g : PUnit → ExceptT ε (StateM σ) β'} {c d : σ → σ} {ok : β → σ → β' → σ → Prop}
    (next : Together (f ⟨⟩) (g ⟨⟩) (c s) (d t) ok bad) :
    Together (modify c >>= f) (modify d >>= g) s t ok bad :=
  next

theorem together_ite_modify {c d : Prop} [Decidable c] [Decidable d] {g : σ → σ}
    (next : Together x y (if c then g s else s) (if d then g t else t) ok bad) :
    Together (if c then (modify g : ExceptT ε (StateM σ) PUnit) >>= fun _ => x else x)
      (if d then (modify g : ExceptT ε (StateM σ) PUnit) >>= fun _ => y else y) s t ok bad := by
  unfold Together
  simp only [ends_ite_modify]
  exact next

theorem together_get_bind {f : σ → ExceptT ε (StateM σ) β} {g : σ → ExceptT ε (StateM σ) β'}
    {ok : β → σ → β' → σ → Prop} (next : Together (f s) (g t) s t ok bad) :
    Together (get >>= f) (get >>= g) s t ok bad :=
  next

theorem Together.bind {ok : β → σ → β' → σ → Prop} (h : Together x y s t mid bad)
    (next : ∀ a s' b t', mid a s' b t' → Together (f a) (g b) s' t' ok bad) :
    Together (x >>= f) (y >>= g) s t ok bad :=
  together_bind (h.imp next fun _ _ _ => id)

end Rules

/-! ## The same end -/

/-- Both computations have the same value or the same failure, and leave related states behind. -/
def Matches (r : σ → σ → Prop) (x y : ExceptT ε (StateM σ) α) (s t : σ) : Prop :=
  Together x y s t (fun a s' b t' => b = a ∧ r s' t') fun _ => r

section Matching

variable {r q : σ → σ → Prop} {x y : ExceptT ε (StateM σ) α} {s t : σ}

theorem Matches.bind {f g : α → ExceptT ε (StateM σ) β} (h : Matches r x y s t)
    (next : ∀ a s' t', r s' t' → Matches r (f a) (g a) s' t') :
    Matches r (x >>= f) (y >>= g) s t := by
  refine Together.bind h ?_
  rintro _ s' a t' ⟨rfl, related⟩
  exact next a s' t' related

theorem Matches.imp (h : Matches r x y s t) (weaker : ∀ s t, r s t → q s t) :
    Matches q x y s t :=
  Together.imp h (fun _ _ _ _ => And.imp_right (weaker _ _)) fun _ => weaker

/-- What the computations return and the states that they leave. -/
theorem Matches.run (h : Matches r x y s t) :
    (y.run t).1 = (x.run s).1 ∧ r (x.run s).2 (y.run t).2 := by
  rcases Together.cases h with ⟨a, s', _, t', rx, ry, rfl, related⟩ | ⟨e, s', t', rx, ry, related⟩
  · rw [rx, ry]
    exact ⟨rfl, related⟩
  · rw [rx, ry]
    exact ⟨rfl, related⟩

end Matching

/-! ## What a computation does not see -/

def Blind (r : σ → σ → Prop) (x : ExceptT ε (StateM σ) α) : Prop :=
  ∀ s t, r s t → Together x x s t (fun a s' b t' => b = a ∧ r s' t') fun _ => r

section Blindness

variable {r : σ → σ → Prop} {x : ExceptT ε (StateM σ) α} {f : α → ExceptT ε (StateM σ) β}

theorem blind_pure {a : α} : Blind r (pure a : ExceptT ε (StateM σ) α) :=
  fun _ _ related => ⟨rfl, related⟩

theorem blind_throw {e : ε} : Blind r (throw e : ExceptT ε (StateM σ) α) :=
  fun _ _ related => ⟨rfl, related⟩

theorem blind_throw_bind {e : ε} : Blind r ((throw e : ExceptT ε (StateM σ) α) >>= f) :=
  fun _ _ related => ⟨rfl, related⟩

theorem blind_modify {g : σ → σ} (keeps : ∀ s t, r s t → r (g s) (g t)) :
    Blind r (modify g : ExceptT ε (StateM σ) PUnit) :=
  fun s t related => ⟨rfl, keeps s t related⟩

theorem Blind.bind (hx : Blind r x) (hf : ∀ a, Blind r (f a)) : Blind r (x >>= f) := by
  intro s t related
  refine (hx s t related).bind ?_
  rintro a s' _ t' ⟨rfl, related'⟩
  exact hf _ s' t' related'

/-- What is read off the state may be all that related states share. -/
theorem blind_get_bind {f : σ → ExceptT ε (StateM σ) β} (same : ∀ s t, r s t → f t = f s)
    (hf : ∀ s, Blind r (f s)) : Blind r (get >>= f) := by
  intro s t related
  apply together_get_bind
  rw [same s t related]
  exact hf s s t related

theorem Blind.ite {c : Prop} [Decidable c] {y : ExceptT ε (StateM σ) α} (hx : Blind r x)
    (hy : Blind r y) : Blind r (if c then x else y) := by
  split
  · exact hx
  · exact hy

/-- Something that is done only if a condition holds, before what is done either way. -/
theorem Blind.ite_bind {c : Prop} [Decidable c] {y : ExceptT ε (StateM σ) β} (hx : Blind r x)
    (hy : Blind r y) : Blind r (if c then x >>= fun _ => y else y) :=
  .ite (hx.bind fun _ => hy) hy

theorem blind_forM {γ : Type} {f : γ → ExceptT ε (StateM σ) PUnit} (hf : ∀ a, Blind r (f a))
    (l : List γ) : Blind r (l.forM f) := by
  induction l with
  | nil => exact blind_pure
  | cons a l ih => exact (hf a).bind fun _ => ih

end Blindness

/-! ## On hosts -/

/-- Related hosts have the same console, whatever is written to it. -/
structure SharesConsole (r : Host → Host → Prop) : Prop where
  same : ∀ s t, r s t → t.console = s.console
  keeps : ∀ s t console, r s t → r { s with console } { t with console }

theorem SharesConsole.change {r : Host → Host → Prop} (shares : SharesConsole r) {s t : Host}
    (related : r s t) (change : Console → Console) :
    r { s with console := change s.console } { t with console := change t.console } := by
  rw [shares.same s t related]
  exact shares.keeps s t _ related

/-- Hosts stay related when both are told the same. -/
structure Hears (r : Host → Host → Prop) : Prop where
  hear : ∀ s t n, r s t →
    r { s with console := s.console.hear n } { t with console := t.console.hear n }
  note : ∀ s t part message, r s t →
    r { s with console := s.console.note part message }
      { t with console := t.console.note part message }

theorem SharesConsole.hears {r : Host → Host → Prop} (shares : SharesConsole r) : Hears r where
  hear _ _ n related := shares.change related (·.hear n)
  note _ _ part message related := shares.change related (·.note part message)

/-- Related hosts have the same files, whatever becomes of them. -/
structure SharesFiles (r : Host → Host → Prop) : Prop where
  same : ∀ s t, r s t → t.files = s.files
  keeps : ∀ s t files, r s t → r { s with files } { t with files }

namespace Run

variable {r : Host → Host → Prop} {x : Run α}

theorem blind_say (hears : Hears r) {n : Notice} : Blind r (say n) := by
  intro s t related
  unfold Together
  rw [ends_say, ends_say]
  exact ⟨rfl, hears.hear s t n related⟩

theorem blind_log (hears : Hears r) {part : String} {message : Text} :
    Blind r (log part message) := by
  intro s t related
  unfold Together
  rw [ends_log, ends_log]
  exact ⟨rfl, hears.note s t part message related⟩

theorem together_environmentValue_bind {f g : Option Text → Run α} {name : Text} {s t : Host}
    {ok : α → Host → α → Host → Prop} {bad : Failure → Host → Host → Prop}
    (next : Together (f (s.environment.lookup name)) (g (t.environment.lookup name)) s t ok bad) :
    Together (environmentValue name >>= f) (environmentValue name >>= g) s t ok bad :=
  next

theorem together_files {c d : FileCall α} {s t : Host}
    {ok : Except Errno α → Host → Except Errno α → Host → Prop} {bad : Failure → Host → Host → Prop}
    (calls : Together c d s.files t.files
      (fun a fs b gs => ok (.ok a) { s with files := fs } (.ok b) { t with files := gs })
      fun e fs gs =>
        match e with
        | .errno e => ok (.error e) { s with files := fs } (.error e) { t with files := gs }
        | .embeddedNul =>
            bad (.badValue .embeddedNul) { s with files := fs } { t with files := gs }) :
    Together (files c) (files d) s t ok bad := by
  unfold Together
  rw [ends_files]
  refine Ends.imp calls ?_ ?_
  · intro a fs ends
    rw [ends_files]
    exact ends.imp (fun _ _ => id) fun _ _ => False.elim
  · rintro (e | _) fs ends <;> dsimp only <;> rw [ends_files] <;>
      refine ends.imp (fun _ _ => False.elim) ?_
    · rintro _ gs ⟨rfl, left⟩
      exact left
    · rintro _ gs ⟨rfl, left⟩
      exact ⟨rfl, left⟩

theorem together_filesOr {c d : FileCall α} {report : Errno → AccessError} {s t : Host}
    {ok : α → Host → α → Host → Prop} {bad : Failure → Host → Host → Prop}
    (calls : Together c d s.files t.files
      (fun a fs b gs => ok a { s with files := fs } b { t with files := gs })
      fun e fs gs => bad (e.failure report) { s with files := fs } { t with files := gs }) :
    Together (filesOr report c) (filesOr report d) s t ok bad := by
  refine together_bind (together_files (calls.imp (fun _ _ _ _ done => done) ?_))
  rintro (e | _) fs gs left
  · exact ⟨rfl, left⟩
  · exact left

theorem together_attempt {y : Run α} {s t : Host}
    {ok : Except Failure α → Host → Except Failure α → Host → Prop}
    {bad : Failure → Host → Host → Prop}
    (h : Together x y s t (fun a s' b t' => ok (.ok a) s' (.ok b) t')
      fun f s' t' => ok (.error f) s' (.error f) t') :
    Together (attempt x) (attempt y) s t ok bad := by
  rcases h.cases with ⟨a, s', b, t', rx, ry, done⟩ | ⟨f, s', t', rx, ry, left⟩
  · exact together_of_ok (by rw [attempt_run, rx]) (by rw [attempt_run, ry]) done
  · exact together_of_ok (by rw [attempt_run, rx]) (by rw [attempt_run, ry]) left

theorem matches_attempt {y : Run α} {s t : Host} (same : Matches r x y s t) :
    Matches r (attempt x) (attempt y) s t :=
  together_attempt <| Together.imp same
    (fun _ _ _ _ ended => ⟨congrArg Except.ok ended.1, ended.2⟩) fun _ _ _ related => ⟨rfl, related⟩

theorem together_cleaning {y : Run α} {cleanUp cleanUp' : Run Unit} {s t : Host}
    {ok : α → Host → α → Host → Prop} {bad : Failure → Host → Host → Prop}
    (h : Together x y s t ok fun f s' t' =>
      Together cleanUp cleanUp' s' t' (fun _ s' _ t' => bad f s' t') bad) :
    Together (cleaning cleanUp x) (cleaning cleanUp' y) s t ok bad := by
  refine together_bind (together_attempt (h.imp (fun _ _ _ _ done => done) ?_))
  intro f s' t' cleans
  exact together_bind (cleans.imp (fun _ _ _ _ left => ⟨rfl, left⟩) fun _ _ _ => id)

theorem together_always {y : Run α} {c d : Host → Host} {s t : Host}
    {ok : α → Host → α → Host → Prop} {bad : Failure → Host → Host → Prop}
    (h : Together x y s t (fun a s' b t' => ok a (c s') b (d t'))
      fun f s' t' => bad f (c s') (d t')) :
    Together (always c x) (always d y) s t ok bad := by
  unfold Together
  simp only [ends_always]
  exact h

theorem blind_always {c : Host → Host} (keeps : ∀ s t, r s t → r (c s) (c t)) (hx : Blind r x) :
    Blind r (always c x) :=
  fun s t related =>
    together_always ((hx s t related).imp (fun _ s' _ t' => And.imp_right (keeps s' t'))
      fun _ => keeps)

theorem blind_cleaning {cleanUp : Run Unit} (hc : Blind r cleanUp) (hx : Blind r x) :
    Blind r (cleaning cleanUp x) :=
  fun s t related =>
    together_cleaning ((hx s t related).imp (fun _ _ _ _ => id) fun _ s' t' related' =>
      (hc s' t' related').imp (fun _ _ _ _ => And.right) fun _ _ _ => id)

theorem blind_onFailure {c : Host → Host} (keeps : ∀ s t, r s t → r (c s) (c t))
    (hx : Blind r x) : Blind r (onFailure c x) :=
  blind_cleaning (blind_modify keeps) hx

theorem blind_files (shares : SharesFiles r) {c : FileCall α} : Blind r (files c) := by
  intro s t related
  unfold Together
  simp only [ends_files]
  rw [shares.same s t related]
  rcases call : c.run s.files with ⟨(e | _) | a, fs⟩
  all_goals
    have keeps := shares.keeps s t fs related
    unfold Ends
    simp only [call, keeps, and_self]

theorem blind_ofValue {v : Except ValueFault α} : Blind r (ofValue v) := by
  cases v with
  | error => exact blind_throw
  | ok => exact blind_pure

theorem blind_filesOr (shares : SharesFiles r) {c : FileCall α} {report : Errno → AccessError} :
    Blind r (filesOr report c) := by
  intro s t related
  apply together_filesOr
  rw [shares.same s t related]
  have ends : Ends c s.files (fun _ _ => True) (fun _ _ => True) :=
    .of_run (fun _ _ _ => trivial) fun _ _ _ => trivial
  refine ends.together.imp ?_ ?_
  · rintro a fs _ _ ⟨rfl, rfl, -⟩
    exact ⟨rfl, shares.keeps s t _ related⟩
  · rintro e fs _ ⟨rfl, -⟩
    exact shares.keeps s t _ related

end Run

end VncAccess
