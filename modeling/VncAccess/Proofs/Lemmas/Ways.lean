import VncAccess.Proofs.Lemmas.Tree

/-!
# Where paths lead

`Leads` says step by step how a walk goes that ends well, and what it comes to once one entry of the
tree has been taken away or replaced.
-/

namespace VncAccess.Tree

/-- A name that an entry of a directory may have. -/
structure IsEntryName (name : Bytes) : Prop where
  not_empty : name ≠ []
  not_dot : name ≠ dot
  not_dotDot : name ≠ dotDot
  short : name.length ≤ nameLimit

/-- The user may follow names in the directory at a location. -/
structure Searches (t : Tree) (user : Int) (here : Location) : Prop where
  directory : t.isDirectory here = true
  search : t.permits user .search here = true

/-- Where the way goes on that a link leads. -/
def jumpStart (target : Bytes) (here : Location) : Location :=
  if target.head? = some slash then [] else here

/-- From a location, the names lead to a spot over at most so many links. -/
inductive Leads (t : Tree) (user : Int) (followLast : Bool) :
    Nat → Location → List Bytes → Spot → Prop where
  | stop {links : Nat} {here : Location} {e : Entry} :
      t.lookup here = some e → Leads t user followLast links here [] (.taken here e)
  | empty {links : Nat} {here : Location} {rest : List Bytes} {s : Spot} :
      t.isDirectory here = true → Leads t user followLast links here rest s →
      Leads t user followLast links here ([] :: rest) s
  | dot {links : Nat} {here : Location} {rest : List Bytes} {s : Spot} :
      t.Searches user here → Leads t user followLast links here rest s →
      Leads t user followLast links here (dot :: rest) s
  | up {links : Nat} {here : Location} {rest : List Bytes} {s : Spot} :
      t.Searches user here → Leads t user followLast links here.dropLast rest s →
      Leads t user followLast links here (dotDot :: rest) s
  | free {links : Nat} {here : Location} {name : Bytes} :
      t.Searches user here → IsEntryName name → t.lookup (here ++ [name]) = none →
      Leads t user followLast links here [name] (.free (here ++ [name]))
  | link {links : Nat} {here : Location} {name target : Bytes} :
      t.Searches user here → IsEntryName name →
      t.lookup (here ++ [name]) = some (.link target) → followLast = false →
      Leads t user followLast links here [name] (.taken (here ++ [name]) (.link target))
  | down {links : Nat} {here : Location} {name : Bytes} {rest : List Bytes} {e : Entry} {s : Spot} :
      t.Searches user here → IsEntryName name → t.lookup (here ++ [name]) = some e →
      (∀ target, e ≠ .link target) → Leads t user followLast links (here ++ [name]) rest s →
      Leads t user followLast links here (name :: rest) s
  | jump {links : Nat} {here : Location} {name target : Bytes} {rest : List Bytes} {s : Spot} :
      t.Searches user here → IsEntryName name →
      t.lookup (here ++ [name]) = some (.link target) → (rest = [] → followLast = true) →
      Leads t user followLast links (jumpStart target here) (targetNames target ++ rest) s →
      Leads t user followLast (links + 1) here (name :: rest) s

variable {t : Tree} {user : Int} {followLast : Bool} {links : Nat} {here : Location}
  {names : List Bytes} {s : Spot}

/-! ## From walks and back -/

/-- One step of a walk, with what is done at a link left open. -/
theorem leads_of_walkWith {jump : Location → List Bytes → Except Errno Spot}
    (jumps : ∀ {here name target rest s}, t.Searches user here → IsEntryName name →
      t.lookup (here ++ [name]) = some (.link target) → (rest = [] → followLast = true) →
      jump (jumpStart target here) (targetNames target ++ rest) = .ok s →
      Leads t user followLast links here (name :: rest) s)
    (walk : t.walkWith user followLast jump here names = .ok s) :
    Leads t user followLast links here names s := by
  induction names generalizing here with
  | nil =>
      rw [walkWith] at walk
      split at walk
      · next found =>
          cases walk
          exact .stop found
      · cases walk
  | cons name rest ih =>
      rw [walkWith] at walk
      split at walk
      · cases walk
      next dir =>
      replace dir : t.isDirectory here = true := by simpa using dir
      split at walk
      · next empty =>
          subst empty
          exact .empty dir (ih walk)
      next not_empty =>
      split at walk
      · cases walk
      next search =>
      have searches : t.Searches user here := ⟨dir, by simpa using search⟩
      split at walk
      · next isDot =>
          subst isDot
          exact .dot searches (ih walk)
      next not_dot =>
      split at walk
      · next isDotDot =>
          subst isDotDot
          exact .up searches (ih walk)
      next not_dotDot =>
      split at walk
      · cases walk
      next short =>
      have isName : IsEntryName name := ⟨not_empty, not_dot, not_dotDot, Nat.le_of_not_lt short⟩
      dsimp only at walk
      split at walk
      · next found =>
          split at walk
          · next last =>
              subst last
              cases walk
              exact .free searches isName found
          · cases walk
      · next found =>
          split at walk
          · next last =>
              obtain ⟨rfl, off⟩ := last
              cases walk
              exact .link searches isName found (by simpa using off)
          · next last =>
              refine jumps searches isName found ?_ walk
              intro isLast
              simpa [isLast] using last
      · next notLink found =>
          exact .down searches isName found notLink (ih walk)

theorem leads_of_walk (walk : t.walk user followLast links here names = .ok s) :
    Leads t user followLast links here names s := by
  induction links generalizing here names s with
  | zero => exact leads_of_walkWith (fun _ _ _ _ h => by cases h) walk
  | succ links ih =>
      refine leads_of_walkWith (fun searches isName found last h => ?_) walk
      exact .jump searches isName found last (ih h)

theorem walk_stop {e : Entry} (found : t.lookup here = some e) :
    t.walk user followLast links here [] = .ok (.taken here e) := by
  cases links <;> simp [walk, walkWith, found]

/-- No name is followed from what is no directory. -/
theorem walk_notDirectory {name : Bytes} {rest : List Bytes} (h : t.isDirectory here = false) :
    t.walk user followLast links here (name :: rest) = .error .notDirectory := by
  cases links <;> simp [walk, walkWith, h]

theorem walk_empty {rest : List Bytes} (h : t.isDirectory here = true) :
    t.walk user followLast links here ([] :: rest) = t.walk user followLast links here rest := by
  cases links <;> simp [walk, walkWith, h]

theorem walk_dot {rest : List Bytes} (h : t.Searches user here) :
    t.walk user followLast links here (dot :: rest) = t.walk user followLast links here rest := by
  have : dot ≠ [] := by decide
  cases links <;> simp [walk, walkWith, h.directory, h.search, this]

theorem walk_up {rest : List Bytes} (h : t.Searches user here) :
    t.walk user followLast links here (dotDot :: rest) =
      t.walk user followLast links here.dropLast rest := by
  have not_empty : dotDot ≠ [] := by decide
  have not_dot : dotDot ≠ dot := by decide
  cases links <;> simp [walk, walkWith, h.directory, h.search, not_empty, not_dot]

section Names

variable {name target : Bytes} {rest : List Bytes} {e : Entry} (h : t.Searches user here)
  (isName : IsEntryName name)
include h isName

theorem walk_free (found : t.lookup (here ++ [name]) = none) :
    t.walk user followLast links here [name] = .ok (.free (here ++ [name])) := by
  have long := Nat.not_lt.mpr isName.short
  cases links <;> simp [walk, walkWith, h.directory, h.search, isName.not_empty, isName.not_dot,
    isName.not_dotDot, long, found]

theorem walk_link (found : t.lookup (here ++ [name]) = some (.link target)) :
    t.walk user false links here [name] = .ok (.taken (here ++ [name]) (.link target)) := by
  have long := Nat.not_lt.mpr isName.short
  cases links <;> simp [walk, walkWith, h.directory, h.search, isName.not_empty, isName.not_dot,
    isName.not_dotDot, long, found]

theorem walk_down (found : t.lookup (here ++ [name]) = some e)
    (notLink : ∀ target, e ≠ .link target) :
    t.walk user followLast links here (name :: rest) =
      t.walk user followLast links (here ++ [name]) rest := by
  have long := Nat.not_lt.mpr isName.short
  cases e with
  | link target => exact absurd rfl (notLink target)
  | directory | file =>
      cases links <;> simp [walk, walkWith, h.directory, h.search, isName.not_empty, isName.not_dot,
        isName.not_dotDot, long, found]

theorem walk_jump (found : t.lookup (here ++ [name]) = some (.link target))
    (last : rest = [] → followLast = true) :
    t.walk user followLast (links + 1) here (name :: rest) =
      t.walk user followLast links (jumpStart target here) (targetNames target ++ rest) := by
  have long := Nat.not_lt.mpr isName.short
  have notLast : ¬ (rest = [] ∧ ¬ followLast = true) := fun ⟨isLast, off⟩ => off (last isLast)
  rw [walk, walkWith]
  simp only [h.directory, h.search, isName.not_empty, isName.not_dot, isName.not_dotDot, long,
    found, notLast, Bool.not_true, Bool.false_eq_true, ↓reduceIte]
  rfl

end Names

theorem Leads.walk (h : Leads t user followLast links here names s) :
    t.walk user followLast links here names = .ok s := by
  induction h with
  | stop found => exact walk_stop found
  | empty dir _ ih => exact (walk_empty dir).trans ih
  | dot searches _ ih => exact (walk_dot searches).trans ih
  | up searches _ ih => exact (walk_up searches).trans ih
  | free searches isName found => exact walk_free searches isName found
  | link searches isName found off => exact off ▸ walk_link searches isName found
  | down searches isName found notLink _ ih =>
      exact (walk_down searches isName found notLink).trans ih
  | jump searches isName found last _ ih => exact (walk_jump searches isName found last).trans ih

theorem walk_eq_ok_iff :
    t.walk user followLast links here names = .ok s ↔ Leads t user followLast links here names s :=
  ⟨leads_of_walk, Leads.walk⟩

/-! ## What the end of a way is -/

variable {l temporary : Location} {e : Entry}

theorem Leads.lookup_taken (h : Leads t user followLast links here names (.taken l e)) :
    t.lookup l = some e := by
  generalize hs : Spot.taken l e = s at h
  induction h with
  | stop found | link _ _ found _ => cases hs; exact found
  | free => cases hs
  | empty _ _ ih | dot _ _ ih | up _ _ ih | down _ _ _ _ _ ih | jump _ _ _ _ _ ih => exact ih hs

theorem Leads.lookup_free (h : Leads t user followLast links here names (.free l)) :
    t.lookup l = none ∧ t.isDirectory l.dropLast = true := by
  generalize hs : Spot.free l = s at h
  induction h with
  | stop | link => cases hs
  | free searches _ found =>
      cases hs
      exact ⟨found, by rw [List.dropLast_concat]; exact searches.directory⟩
  | empty _ _ ih | dot _ _ ih | up _ _ ih | down _ _ _ _ _ ih | jump _ _ _ _ _ ih => exact ih hs

/-! ## In a tree with another entry -/

theorem ne_of_isDirectory (dir : t.isDirectory l = true) (h : t.isDirectory here = false) :
    l ≠ here := by
  rintro rfl
  rw [h] at dir
  cases dir

theorem isDirectory_of_lookup (h : t.lookup l = some e)
    (hd : ∀ mode owner, e ≠ .directory mode owner) : t.isDirectory l = false := by
  rw [isDirectory, h]
  cases e with
  | directory mode owner => exact absurd rfl (hd mode owner)
  | file | link => rfl

theorem isDirectory_of_free (h : t.lookup l = none) : t.isDirectory l = false := by
  rw [isDirectory, h]

theorem Searches.congr {t' : Tree} (h : t.Searches user here)
    (same : t'.lookup here = t.lookup here) : t'.Searches user here where
  directory := (isDirectory_congr same).trans h.directory
  search := (permits_congr same).trans h.search

theorem isDirectory_jumpStart (target : Bytes) (h : t.isDirectory here = true) :
    t.isDirectory (jumpStart target here) = true := by
  unfold jumpStart; split
  · rfl
  · exact h

/-- Where a path leads to a free name, it leads to the entry that is put there. -/
theorem Leads.put_of_free (h : Leads t user followLast links here names (.free l))
    (notLink : ∀ target, e ≠ .link target) {followLast' : Bool}
    (more : followLast = true → followLast' = true) :
    Leads (t.put l e) user followLast' links here names (.taken l e) := by
  have free := h.lookup_free.1
  have other {k : Location} (hk : k ≠ l) : (t.put l e).lookup k = t.lookup k := lookup_put_ne hk
  have dir {k : Location} (hk : t.isDirectory k = true) : (t.put l e).lookup k = t.lookup k :=
    other (ne_of_isDirectory hk (isDirectory_of_free free))
  have taken {k : Location} {e' : Entry} (hk : t.lookup k = some e') :
      (t.put l e).lookup k = some e' := by
    rw [other, hk]
    rintro rfl
    rw [free] at hk
    cases hk
  generalize hs : Spot.free l = s at h
  induction h with
  | stop | link => cases hs
  | empty hd _ ih => exact .empty ((isDirectory_congr (dir hd)).trans hd) (ih hs)
  | dot searches _ ih => exact .dot (searches.congr (dir searches.directory)) (ih hs)
  | up searches _ ih => exact .up (searches.congr (dir searches.directory)) (ih hs)
  | free searches isName found =>
      cases hs
      have put := lookup_put_self (t := t) (e := e) (ne_nil_of_free free)
      exact .down (searches.congr (dir searches.directory)) isName put notLink (.stop put)
  | down searches isName found hl _ ih =>
      exact .down (searches.congr (dir searches.directory)) isName (taken found) hl (ih hs)
  | jump searches isName found last rest ih =>
      exact .jump (searches.congr (dir searches.directory)) isName (taken found)
        (fun isLast => more (last isLast)) (ih hs)

/-- A way ends at what is no directory. -/
theorem Leads.of_notDirectory (h : Leads t user followLast links here names s)
    (noDir : t.isDirectory here = false) :
    names = [] ∧ ∃ e, t.lookup here = some e ∧ s = .taken here e := by
  cases names with
  | nil =>
      cases h with
      | stop found => exact ⟨rfl, _, found, rfl⟩
  | cons name rest =>
      have := h.walk
      rw [walk_notDirectory noDir] at this
      cases this

/-- A new file changes no way but the one that leads to its name. -/
theorem Leads.of_put (wf : t.WellFormed) {mode : Nat} {owner : Int} {content : Bytes}
    (free : t.lookup temporary = none) (start : names = [] → here ≠ temporary)
    (h : Leads (t.put temporary (.file mode owner content)) user followLast links here names s) :
    ∃ s', Leads t user followLast links here names s' ∧
      (s' = s ∨ s' = .free temporary ∧ s = .taken temporary (.file mode owner content)) := by
  have put : (t.put temporary (.file mode owner content)).lookup temporary =
      some (.file mode owner content) := lookup_put_self (ne_nil_of_free free)
  have noDir := isDirectory_of_lookup put nofun
  have elsewhere {k : Location} (hk : t.isDirectory k = true) : k ≠ temporary :=
    ne_of_isDirectory hk (isDirectory_of_free free)
  have other {k : Location} (hk : k ≠ temporary) :
      t.lookup k = (t.put temporary (.file mode owner content)).lookup k := (lookup_put_ne hk).symm
  have found {k : Location} {o : Option Entry}
      (hk : (t.put temporary (.file mode owner content)).lookup k = o)
      (ho : o ≠ some (.file mode owner content)) : t.lookup k = o := by
    rw [other, hk]
    rintro rfl
    exact ho (hk.symm.trans put)
  have searched {k : Location} (hk : (t.put temporary (.file mode owner content)).Searches user k) :
      t.Searches user k := hk.congr (other (ne_of_isDirectory hk.directory noDir))
  induction h with
  | stop h => exact ⟨_, .stop ((other (start rfl)).trans h), .inl rfl⟩
  | empty dir _ ih =>
      have ne := ne_of_isDirectory dir noDir
      obtain ⟨s', way, same⟩ := ih fun _ => ne
      exact ⟨s', .empty ((isDirectory_congr (other ne)).trans dir) way, same⟩
  | dot searches _ ih =>
      obtain ⟨s', way, same⟩ := ih fun _ => elsewhere (searched searches).directory
      exact ⟨s', .dot (searched searches) way, same⟩
  | up searches _ ih =>
      obtain ⟨_, _, dir⟩ := isDirectory_iff.mp (searched searches).directory
      obtain ⟨s', way, same⟩ := ih fun _ => elsewhere (wf.dropLast dir)
      exact ⟨s', .up (searched searches) way, same⟩
  | free searches isName h =>
      exact ⟨_, .free (searched searches) isName (found h nofun), .inl rfl⟩
  | link searches isName h off =>
      exact ⟨_, .link (searched searches) isName (found h nofun) off, .inl rfl⟩
  | @down _ here name rest e s searches isName h notLink way ih =>
      by_cases ne : here ++ [name] = temporary
      · subst ne
        obtain ⟨rfl, e', h', rfl⟩ := way.of_notDirectory noDir
        cases put.symm.trans h'
        exact ⟨_, .free (searched searches) isName free, .inr ⟨rfl, rfl⟩⟩
      · obtain ⟨s', way', same⟩ := ih fun _ => ne
        exact ⟨s', .down (searched searches) isName ((other ne).trans h) notLink way', same⟩
  | jump searches isName h last _ ih =>
      obtain ⟨s', way, same⟩ := ih fun _ =>
        elsewhere (isDirectory_jumpStart _ (searched searches).directory)
      exact ⟨s', .jump (searched searches) isName (found h nofun) last way, same⟩

/-- No name is followed from a file that a way ends at. -/
theorem Leads.dead_end {name : Bytes} {rest : List Bytes} {most : Nat}
    (h : Leads t user true links here names (.taken l e)) (noDir : t.isDirectory l = false)
    (enough : links ≤ most) :
    t.walk user true most here (names ++ name :: rest) = .error .notDirectory := by
  generalize hs : Spot.taken l e = s at h
  induction h generalizing most with
  | stop => cases hs; exact walk_notDirectory noDir
  | empty dir _ ih => exact (walk_empty dir).trans (ih enough hs)
  | dot searches _ ih => exact (walk_dot searches).trans (ih enough hs)
  | up searches _ ih => exact (walk_up searches).trans (ih enough hs)
  | free => cases hs
  | link _ _ _ off => cases off
  | down searches isName found notLink _ ih =>
      exact (walk_down searches isName found notLink).trans (ih enough hs)
  | @jump links here _ target rest' _ searches isName found _ _ ih =>
      obtain ⟨most, rfl⟩ : ∃ fewer, most = fewer + 1 := ⟨most - 1, by omega⟩
      rw [List.cons_append, walk_jump searches isName found fun _ => rfl, ← List.append_assoc]
      exact ih (by omega) hs

/-- Who follows the link at the end of a way goes on where this link leads. -/
theorem Leads.follow (wf : t.WellFormed) {target : Bytes}
    (h : Leads t user false links here names (.taken l (.link target)))
    (start : names = [] → here ≠ l) (further : t.walk user true links here names = .ok s) :
    ∃ fewer ≤ links,
      Leads t user true fewer (jumpStart target l.dropLast) (targetNames target) s := by
  have noDir := isDirectory_of_lookup h.lookup_taken nofun
  have elsewhere {k : Location} (dir : t.isDirectory k = true) : k ≠ l :=
    ne_of_isDirectory dir noDir
  generalize hs : Spot.taken l (.link target) = spot at h
  induction h with
  | stop => cases hs; exact absurd rfl (start rfl)
  | empty dir _ ih =>
      exact ih (fun _ => elsewhere dir) ((walk_empty dir).symm.trans further) hs
  | dot searches _ ih =>
      exact ih (fun _ => elsewhere searches.directory) ((walk_dot searches).symm.trans further) hs
  | up searches _ ih =>
      obtain ⟨_, _, dir⟩ := isDirectory_iff.mp searches.directory
      exact ih (fun _ => elsewhere (wf.dropLast dir)) ((walk_up searches).symm.trans further) hs
  | free => cases hs
  | @link links here name _ searches isName found =>
      cases hs
      rw [List.dropLast_concat]
      cases links with
      | zero =>
          have long := Nat.not_lt.mpr isName.short
          simp [Tree.walk, walkWith, searches.directory, searches.search, isName.not_empty,
            isName.not_dot, isName.not_dotDot, long, found] at further
      | succ links =>
          rw [walk_jump searches isName found fun _ => rfl, List.append_nil] at further
          exact ⟨links, by omega, leads_of_walk further⟩
  | @down _ here name _ _ _ searches isName found notLink way ih =>
      rw [walk_down searches isName found notLink] at further
      refine ih (fun _ same => ?_) further hs
      have link := (hs ▸ way).lookup_taken
      rw [← same, found] at link
      exact notLink target (Option.some.inj link)
  | jump searches isName found last _ ih =>
      rw [walk_jump searches isName found fun _ => rfl] at further
      obtain ⟨fewer, le, way⟩ := ih (fun _ =>
        elsewhere (isDirectory_jumpStart _ searches.directory)) further hs
      exact ⟨fewer, by omega, way⟩

/-- A way that follows a link on its way to this link. It does not lead to a file, and it leads
nowhere once a file is in the place of the link. -/
structure Crooked (t : Tree) (user : Int) (links : Nat) (here : Location) (names : List Bytes)
    (l : Location) : Prop where
  noFile : ∀ {f : Location} {e : Entry}, t.walk user true links here names = .ok (.taken f e) →
    t.isDirectory f = true
  dead : ∀ followLast mode owner content,
    (t.put l (.file mode owner content)).walk user followLast links here names =
      .error .notDirectory

/-- A walk is crooked if it goes on with one that is. -/
theorem Crooked.of_walk {links' : Nat} {here' : Location} {names' : List Bytes}
    (walk : t.walk user true links here names = t.walk user true links' here' names')
    (walk_put : ∀ followLast mode owner content,
      (t.put l (.file mode owner content)).walk user followLast links here names =
        (t.put l (.file mode owner content)).walk user followLast links' here' names')
    (crooked : t.Crooked user links' here' names' l) : t.Crooked user links here names l where
  noFile found := crooked.noFile (walk.symm.trans found)
  dead followLast mode owner content :=
    (walk_put followLast mode owner content).trans (crooked.dead followLast mode owner content)

/-- A way that goes on from a link and ends at the same link is crooked. -/
theorem Leads.crooked (wf : t.WellFormed) {name target : Bytes} {rest : List Bytes}
    (searches : t.Searches user here) (isName : IsEntryName name)
    (found : t.lookup (here ++ [name]) = some (.link target)) (more : rest ≠ [])
    (way : Leads t user false links (jumpStart target here) (targetNames target ++ rest)
      (.taken (here ++ [name]) (.link target))) :
    t.Crooked user (links + 1) here (name :: rest) (here ++ [name]) where
  noFile {f e} walk := by
    rw [walk_jump searches isName found fun _ => rfl] at walk
    have dir := isDirectory_jumpStart target searches.directory
    obtain ⟨fewer, le, way'⟩ :=
      way.follow wf (fun _ => ne_of_isDirectory dir (isDirectory_of_lookup found nofun)) walk
    rw [List.dropLast_concat] at way'
    -- Behind a file at the end of this way, the rest of the names could not be followed.
    refine (Bool.not_eq_false _).mp fun file => ?_
    obtain ⟨next, rest, rfl⟩ := List.exists_cons_of_ne_nil more
    cases (way'.dead_end file le).symm.trans walk
  dead followLast mode owner content := by
    have file : (t.put (here ++ [name]) (.file mode owner content)).lookup (here ++ [name]) =
        some (.file mode owner content) := lookup_put_self (by simp)
    have replaced : (t.put (here ++ [name]) (.file mode owner content)).Searches user here :=
      searches.congr <| lookup_put_ne <|
        ne_of_isDirectory searches.directory (isDirectory_of_lookup found nofun)
    rw [walk_down replaced isName file nofun]
    obtain ⟨next, rest, rfl⟩ := List.exists_cons_of_ne_nil more
    exact walk_notDirectory (isDirectory_of_lookup file nofun)

/-- Once the entry at the end of a way is gone, the way leads to a free name, unless it follows a
link that was this entry. -/
theorem Leads.erase (wf : t.WellFormed) (noDir : t.isDirectory l = false)
    (start : names = [] → here ≠ l) (h : Leads t user false links here names (.taken l e)) :
    Leads (t.erase l) user false links here names (.free l) ∨
      (∃ target, e = .link target) ∧ t.Crooked user links here names l := by
  have root : l ≠ [] := by
    rintro rfl
    cases noDir
  have elsewhere {k : Location} (hk : t.isDirectory k = true) : k ≠ l := ne_of_isDirectory hk noDir
  have erased {k : Location} (hk : t.Searches user k) : (t.erase l).Searches user k :=
    hk.congr (lookup_erase_ne (elsewhere hk.directory))
  have replaced {k : Location} {f : Entry} (hk : t.Searches user k) : (t.put l f).Searches user k :=
    hk.congr (lookup_put_ne (elsewhere hk.directory))
  generalize hs : Spot.taken l e = s at h
  induction h with
  | stop => cases hs; exact absurd rfl (start rfl)
  | empty dir _ ih =>
      rcases ih (fun _ => elsewhere dir) hs with way | ⟨link, crooked⟩
      · exact .inl (.empty ((isDirectory_congr (lookup_erase_ne (elsewhere dir))).trans dir) way)
      · refine .inr ⟨link, .of_walk (walk_empty dir) (fun _ _ _ _ => walk_empty ?_) crooked⟩
        exact (isDirectory_congr (lookup_put_ne (elsewhere dir))).trans dir
  | dot searches _ ih =>
      rcases ih (fun _ => elsewhere searches.directory) hs with way | ⟨link, crooked⟩
      · exact .inl (.dot (erased searches) way)
      · exact .inr ⟨link, .of_walk (walk_dot searches) (fun _ _ _ _ => walk_dot (replaced searches))
          crooked⟩
  | up searches _ ih =>
      obtain ⟨_, _, dir⟩ := isDirectory_iff.mp searches.directory
      rcases ih (fun _ => elsewhere (wf.dropLast dir)) hs with way | ⟨link, crooked⟩
      · exact .inl (.up (erased searches) way)
      · exact .inr ⟨link, .of_walk (walk_up searches) (fun _ _ _ _ => walk_up (replaced searches))
          crooked⟩
  | free => cases hs
  | link searches isName =>
      cases hs
      exact .inl (.free (erased searches) isName (lookup_erase_self root))
  | @down _ here name rest e' s searches isName found notLink way ih =>
      by_cases ne : here ++ [name] = l
      · subst ne
        obtain ⟨rfl, -⟩ := way.of_notDirectory noDir
        exact .inl (.free (erased searches) isName (lookup_erase_self root))
      rcases ih (fun _ => ne) hs with way | ⟨link, crooked⟩
      · exact .inl (.down (erased searches) isName ((lookup_erase_ne ne).trans found) notLink way)
      · refine .inr ⟨link, .of_walk (walk_down searches isName found notLink) (fun _ _ _ _ => ?_)
          crooked⟩
        exact walk_down (replaced searches) isName ((lookup_put_ne ne).trans found) notLink
  | @jump _ here name target rest s searches isName found last way ih =>
      by_cases ne : here ++ [name] = l
      · subst ne hs
        cases way.lookup_taken.symm.trans found
        exact .inr ⟨⟨target, rfl⟩,
          way.crooked wf searches isName found fun isLast => nomatch last isLast⟩
      have dir := isDirectory_jumpStart target searches.directory
      rcases ih (fun _ => elsewhere dir) hs with way | ⟨link, crooked⟩
      · exact .inl (.jump (erased searches) isName ((lookup_erase_ne ne).trans found) last way)
      · refine .inr ⟨link, .of_walk (walk_jump searches isName found fun _ => rfl)
          (fun _ _ _ _ => ?_) crooked⟩
        exact walk_jump (replaced searches) isName ((lookup_put_ne ne).trans found)
          fun isLast => nomatch last isLast

end VncAccess.Tree
