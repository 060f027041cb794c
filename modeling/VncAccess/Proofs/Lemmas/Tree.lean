import VncAccess.System.FileSystem

/-!
# Changed trees and the ways through them

What a lookup finds after an entry was put, erased or moved, and where a path leads then. `Leads`
says step by step how a walk goes that ends well.
-/

namespace VncAccess.Tree

variable {t : Tree} {l l' : Location} {e e' : Entry}

/-! ## Lookups -/

@[simp] theorem lookup_nil (t : Tree) :
    t.lookup [] = some (.directory t.rootMode t.rootOwner) := rfl

theorem lookup_of_ne_nil (hl : l ≠ []) : t.lookup l = t.entries.lookup l := if_neg hl

theorem ne_nil_of_free (h : t.lookup l = none) : l ≠ [] := by
  rintro rfl
  simp at h

theorem mem_of_lookup (hl : l ≠ []) (h : t.lookup l = some e) : (l, e) ∈ t.entries := by
  rw [lookup_of_ne_nil hl, List.lookup_eq_some_iff] at h
  obtain ⟨before, after, h, -⟩ := h
  simp [h]

theorem lookup_filter_ne {entries : List (Location × Entry)} (hl : l' ≠ l) :
    (entries.filter (·.1 ≠ l)).lookup l' = entries.lookup l' := by
  induction entries with
  | nil => rfl
  | cons x rest ih =>
      obtain ⟨k, e⟩ := x
      by_cases hk : k = l
      · simpa [hk, List.lookup_cons, beq_eq_false_iff_ne.mpr hl] using ih
      · simp only [ne_eq, hk, not_false_eq_true, decide_true, List.filter_cons_of_pos,
          List.lookup_cons]
        rw [← ih]

theorem lookup_erase_ne (hl : l' ≠ l) : (t.erase l).lookup l' = t.lookup l' := by
  by_cases hn : l' = []
  · subst hn
    rfl
  · rw [lookup_of_ne_nil hn, lookup_of_ne_nil hn]
    exact lookup_filter_ne hl

theorem lookup_erase_self (hl : l ≠ []) : (t.erase l).lookup l = none := by
  rw [lookup_of_ne_nil hl, erase, List.lookup_eq_none_iff]
  intro x hx
  have hne : x.1 ≠ l := of_decide_eq_true (List.mem_filter.mp hx).2
  exact bne_iff_ne.mpr hne.symm

theorem lookup_put_self (hl : l ≠ []) : (t.put l e).lookup l = some e := by
  have gone := lookup_erase_self (t := t) hl
  rw [lookup_of_ne_nil hl] at gone ⊢
  rw [put, List.lookup_append, gone]
  simp

theorem lookup_put_ne (hl : l' ≠ l) : (t.put l e).lookup l' = t.lookup l' := by
  by_cases hn : l' = []
  · subst hn
    rfl
  · have same := lookup_erase_ne (t := t) hl
    rw [lookup_of_ne_nil hn] at same ⊢
    rw [put, List.lookup_append, same]
    simp [List.lookup_cons, beq_eq_false_iff_ne.mpr hl]

theorem erase_of_free (h : t.lookup l = none) : t.erase l = t := by
  rw [lookup_of_ne_nil (ne_nil_of_free h), List.lookup_eq_none_iff] at h
  refine congrArg (fun entries => { t with entries }) (List.filter_eq_self.mpr fun x hx => ?_)
  exact decide_eq_true (bne_iff_ne.mp (h x hx)).symm

@[simp] theorem erase_put (t : Tree) (l : Location) (e : Entry) :
    (t.put l e).erase l = t.erase l := by
  simp [put, erase, List.filter_append, List.filter_filter]

theorem put_congr {t' : Tree} (h : t.erase l = t'.erase l) (e : Entry) :
    t.put l e = t'.put l e := by
  rw [put, put, h]

@[simp] theorem put_put (t : Tree) (l : Location) (e e' : Entry) :
    (t.put l e).put l e' = t.put l e' :=
  put_congr (erase_put t l e) e'

@[simp] theorem put_erase (t : Tree) (l : Location) (e : Entry) : (t.erase l).put l e = t.put l e :=
  put_congr (by simp [erase, List.filter_filter]) e

theorem erase_put_of_free (h : t.lookup l = none) : (t.put l e).erase l = t := by
  rw [erase_put, erase_of_free h]

/-- An entry under a free name that is moved is as if it had been put there at once. -/
theorem move_put_of_free (h : t.lookup l = none) (target : Location) :
    (t.put l e).move l target = t.put target e := by
  simp [move, lookup_put_self (ne_nil_of_free h), erase_put_of_free h]

/-! ## Well-formed trees -/

theorem isDirectory_iff :
    t.isDirectory l = true ↔ ∃ mode owner, t.lookup l = some (.directory mode owner) := by
  unfold isDirectory
  split
  · next h => simp [h]
  · next h => simpa using h

theorem isDirectory_congr {t' : Tree} (h : t'.lookup l = t.lookup l) :
    t'.isDirectory l = t.isDirectory l := by
  rw [isDirectory, isDirectory, h]

theorem permits_congr {t' : Tree} {user : Int} {p : Permission} (h : t'.lookup l = t.lookup l) :
    t'.permits user p l = t.permits user p l := by
  rw [permits, permits, h]

end VncAccess.Tree

namespace VncAccess

/-- The bits that say what is permitted, of an entry that has them. -/
def Entry.mode : Entry → Nat
  | .directory mode _ | .file mode .. => mode
  | .link _ => 0

/-- Every entry is in a directory, and no mode says more than a system's mode can. -/
structure Tree.WellFormed (t : Tree) : Prop where
  parent : ∀ x ∈ t.entries, t.isDirectory x.1.dropLast
  mode : ∀ x ∈ t.entries, x.2.mode < 0o10000
  root : t.rootMode < 0o10000

instance (t : Tree) : Decidable t.WellFormed :=
  decidable_of_iff ((∀ x ∈ t.entries, t.isDirectory x.1.dropLast) ∧
    (∀ x ∈ t.entries, x.2.mode < 0o10000) ∧ t.rootMode < 0o10000)
    ⟨fun ⟨parent, mode, root⟩ => ⟨parent, mode, root⟩,
      fun ⟨parent, mode, root⟩ => ⟨parent, mode, root⟩⟩

namespace Tree.WellFormed

variable {t : Tree} {l : Location} {e : Entry}

theorem dropLast (wf : t.WellFormed) (h : t.lookup l = some e) : t.isDirectory l.dropLast := by
  by_cases hn : l = []
  · rw [hn]; rfl
  · exact wf.parent _ (mem_of_lookup hn h)

theorem mode_lt (wf : t.WellFormed) (h : t.lookup l = some e) : e.mode < 0o10000 := by
  by_cases hn : l = []
  · subst hn
    rw [lookup_nil] at h
    cases h
    exact wf.root
  · exact wf.mode _ (mem_of_lookup hn h)

/-- A tree stays well-formed with an entry more in a directory, if no directory is replaced. -/
theorem put (wf : t.WellFormed) (parent : t.isDirectory l.dropLast) (hm : e.mode < 0o10000)
    (hl : t.isDirectory l = false) : (t.put l e).WellFormed := by
  have still {k : Location} (hk : t.isDirectory k) : (t.put l e).isDirectory k := by
    have hne : k ≠ l := by
      rintro rfl
      rw [hl] at hk
      cases hk
    rw [isDirectory_congr (lookup_put_ne hne)]
    exact hk
  have split {x : Location × Entry} (hx : x ∈ (t.put l e).entries) :
      x ∈ t.entries ∨ x = (l, e) := by
    rcases List.mem_append.mp hx with h | h
    · exact .inl (List.mem_filter.mp h).1
    · exact .inr (List.mem_singleton.mp h)
  constructor
  · intro x hx
    rcases split hx with h | rfl
    · exact still (wf.parent x h)
    · exact still parent
  · intro x hx
    rcases split hx with h | rfl
    · exact wf.mode x h
    · exact hm
  · exact wf.root

end Tree.WellFormed
end VncAccess
