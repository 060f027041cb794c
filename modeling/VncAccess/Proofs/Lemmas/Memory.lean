import VncAccess.Secret.Memory

/-!
# What of a memory is in use

A computation adds cells and buffers to the memory that it finds. `InUse before now kept` says that
of all that was added, only the listed buffers still own a cell, with the bytes that are listed, and
that everything else is wiped and released.
-/

namespace VncAccess.Secret

/-- A buffer in use, with the cell that it owns and the bytes in that cell. -/
structure Kept where
  buffer : Buffer
  cell : Cell
  bytes : Bytes
  capacity : Option Int

namespace Memory

structure InUse (before now : Memory) (kept : List Kept) : Prop where
  cells : before.cells <+: now.cells
  holdings : before.holdings <+: now.holdings
  owned : ∀ k ∈ kept, before.holdings.length ≤ k.buffer.index ∧
    now.holdings[k.buffer.index]? = some ⟨some k.cell, k.capacity⟩
  stored : ∀ k ∈ kept, before.cells.length ≤ k.cell.index ∧
    now.cells[k.cell.index]? = some k.bytes
  apart : kept.Pairwise fun j k =>
    j.buffer.index ≠ k.buffer.index ∧ j.cell.index ≠ k.cell.index
  wiped : ∀ i bytes, before.cells.length ≤ i → now.cells[i]? = some bytes →
    (∀ k ∈ kept, k.cell.index ≠ i) → ∀ x ∈ bytes, x = 0
  released : ∀ j g, before.holdings.length ≤ j → now.holdings[j]? = some g →
    (∀ k ∈ kept, k.buffer.index ≠ j) → g.cell = none

/-- All that `after` has more than `before` is wiped and released, except for the buffers in `kept`
and the cells that they own. -/
structure WipedExcept (kept : List Buffer) (before after : Memory) : Prop where
  cells : before.cells <+: after.cells
  holdings : before.holdings <+: after.holdings
  wiped : ∀ c : Cell, before.cells.length ≤ c.index →
    (∀ x ∈ after.read c, x = 0) ∨ ∃ b ∈ kept, (after.holding b).cell = some c
  released : ∀ b : Buffer, before.holdings.length ≤ b.index →
    (after.isReleased b = false ↔ b ∈ kept)
  fresh : ∀ b ∈ kept, before.holdings.length ≤ b.index

/-! ## Single steps -/

theorem modify_length_append {α : Type} (l l' : List α) (a : α) (f : α → α) :
    (l ++ a :: l').modify l.length f = l ++ f a :: l' := by
  induction l with
  | nil => rfl
  | cons b l ih => simpa using ih

theorem prefix_modify {α : Type} {l l' : List α} {i : Nat} (h : l <+: l') (hi : l.length ≤ i)
    (f : α → α) : l <+: l'.modify i f := by
  obtain ⟨rest, rfl⟩ := h
  induction l generalizing i with
  | nil => exact List.nil_prefix
  | cons a l ih =>
      obtain ⟨i, rfl⟩ : ∃ j, i = j + 1 := ⟨i - 1, by simp at hi; omega⟩
      simpa using ih (by simpa using hi)

theorem getElem?_of_prefix {α : Type} {l l' : List α} (h : l <+: l') {i : Nat} {a : α}
    (hi : l[i]? = some a) : l'[i]? = some a := by
  obtain ⟨rest, rfl⟩ := h
  rw [List.getElem?_append_left (List.getElem?_eq_some_iff.mp hi).1]
  exact hi

theorem zeros_eq_zero (bytes : Bytes) : ∀ x ∈ zeros bytes, x = 0 :=
  fun _ h => List.eq_of_mem_replicate h

theorem store_eq (m : Memory) (bytes : Bytes) :
    m.store bytes = (⟨m.cells.length⟩, { m with cells := m.cells ++ [bytes] }) := rfl

theorem hold_eq (m : Memory) (bytes : Bytes) (capacity : Option Int) :
    m.hold bytes capacity = (⟨m.holdings.length⟩,
      { cells := m.cells ++ [bytes]
        holdings := m.holdings ++ [⟨some ⟨m.cells.length⟩, capacity⟩] }) := rfl

theorem holding_of_getElem? {m : Memory} {b : Buffer} {g : Holding}
    (h : m.holdings[b.index]? = some g) : m.holding b = g := by
  rw [holding, List.getD_eq_getElem?_getD, h]; rfl

theorem read_of_getElem? {m : Memory} {c : Cell} {bytes : Bytes}
    (h : m.cells[c.index]? = some bytes) : m.read c = bytes := by
  rw [read, List.getD_eq_getElem?_getD, h]; rfl

@[simp] theorem read_store (m : Memory) (bytes : Bytes) :
    (m.store bytes).2.read ⟨m.cells.length⟩ = bytes := by
  simp [store_eq, read]

/-- Wiping a cell just made is making a wiped one. -/
theorem wipe_store (m : Memory) (bytes : Bytes) :
    (m.store bytes).2.wipe ⟨m.cells.length⟩ = (m.store (zeros bytes)).2 := by
  simp only [store_eq, wipe]
  rw [modify_length_append]

theorem wipe_hold_store (m : Memory) (bytes bytes' : Bytes) (capacity : Option Int) :
    ((m.store bytes).2.hold bytes' capacity).2.wipe ⟨m.cells.length⟩ =
      ((m.store (zeros bytes)).2.hold bytes' capacity).2 := by
  simp only [store_eq, hold_eq, wipe, List.append_assoc, List.singleton_append]
  rw [modify_length_append]
  simp

theorem release_eq {m : Memory} {b : Buffer} {c : Cell} {capacity : Option Int}
    (h : m.holdings[b.index]? = some ⟨some c, capacity⟩) :
    m.release b =
      { cells := m.cells.modify c.index zeros
        holdings := m.holdings.modify b.index fun g => { g with cell := none } } := by
  rw [release, holding_of_getElem? h]; rfl

/-! ## What is in use after a step -/

namespace InUse

variable {before now : Memory} {kept kept' : List Kept} {k : Kept}

theorem refl (m : Memory) : InUse m m [] where
  cells := List.prefix_rfl
  holdings := List.prefix_rfl
  owned := by simp
  stored := by simp
  apart := .nil
  wiped i bytes hi h := by have := (List.getElem?_eq_some_iff.mp h).1; omega
  released j g hj h := by have := (List.getElem?_eq_some_iff.mp h).1; omega

theorem perm (h : InUse before now kept) (p : kept.Perm kept') : InUse before now kept' where
  cells := h.cells
  holdings := h.holdings
  owned k hk := h.owned k (p.mem_iff.mpr hk)
  stored k hk := h.stored k (p.mem_iff.mpr hk)
  apart := h.apart.perm p fun ⟨hb, hc⟩ => ⟨hb.symm, hc.symm⟩
  wiped i bytes hi hb hk := h.wiped i bytes hi hb fun k hm => hk k (p.mem_iff.mp hm)
  released j g hj hg hk := h.released j g hj hg fun k hm => hk k (p.mem_iff.mp hm)

theorem holding (h : InUse before now kept) (hk : k ∈ kept) :
    now.holding k.buffer = ⟨some k.cell, k.capacity⟩ :=
  holding_of_getElem? (h.owned k hk).2

theorem contents (h : InUse before now kept) (hk : k ∈ kept) :
    now.contents k.buffer = k.bytes := by
  rw [Memory.contents, h.holding hk]
  exact read_of_getElem? (h.stored k hk).2

/-- A cell that holds only zeros is in nobody's use. -/
theorem store (h : InUse before now kept) {bytes : Bytes} (hz : ∀ x ∈ bytes, x = 0) :
    InUse before (now.store bytes).2 kept where
  cells := h.cells.trans (List.prefix_append ..)
  holdings := h.holdings
  owned := h.owned
  stored k hk :=
    ⟨(h.stored k hk).1, getElem?_of_prefix (List.prefix_append ..) (h.stored k hk).2⟩
  apart := h.apart
  wiped i b hi hb hk := by
    simp only [store_eq] at hb
    by_cases hlt : i < now.cells.length
    · rw [List.getElem?_append_left hlt] at hb
      exact h.wiped i b hi hb hk
    · rw [List.getElem?_append_right (by omega)] at hb
      rw [List.mem_singleton.mp (List.mem_of_getElem? hb)]
      exact hz
  released := h.released

/-- A new buffer is in use together with those before. -/
theorem hold (h : InUse before now kept) (bytes : Bytes) (capacity : Option Int) :
    InUse before (now.hold bytes capacity).2
      (⟨(now.hold bytes capacity).1, ⟨now.cells.length⟩, bytes, capacity⟩ :: kept) where
  cells := h.cells.trans (List.prefix_append ..)
  holdings := h.holdings.trans (List.prefix_append ..)
  owned k hk := by
    rcases List.mem_cons.mp hk with rfl | hk
    · exact ⟨h.holdings.length_le, by simp [hold_eq]⟩
    · exact ⟨(h.owned k hk).1, getElem?_of_prefix (List.prefix_append ..) (h.owned k hk).2⟩
  stored k hk := by
    rcases List.mem_cons.mp hk with rfl | hk
    · exact ⟨h.cells.length_le, by simp [hold_eq]⟩
    · exact ⟨(h.stored k hk).1, getElem?_of_prefix (List.prefix_append ..) (h.stored k hk).2⟩
  apart := by
    refine List.pairwise_cons.mpr ⟨fun k hk => ?_, h.apart⟩
    have hb := (List.getElem?_eq_some_iff.mp (h.owned k hk).2).1
    have hc := (List.getElem?_eq_some_iff.mp (h.stored k hk).2).1
    exact ⟨Nat.ne_of_gt hb, Nat.ne_of_gt hc⟩
  wiped i b hi hb hk := by
    have hne : now.cells.length ≠ i := hk _ (List.mem_cons_self ..)
    have hlt := (List.getElem?_eq_some_iff.mp hb).1
    simp only [hold_eq, List.length_append, List.length_singleton] at hb hlt
    rw [List.getElem?_append_left (by omega)] at hb
    exact h.wiped i b hi hb fun k hm => hk k (List.mem_cons_of_mem _ hm)
  released j g hj hg hk := by
    have hne : now.holdings.length ≠ j := hk _ (List.mem_cons_self ..)
    have hlt := (List.getElem?_eq_some_iff.mp hg).1
    simp only [hold_eq, List.length_append, List.length_singleton] at hg hlt
    rw [List.getElem?_append_left (by omega)] at hg
    exact h.released j g hj hg fun k hm => hk k (List.mem_cons_of_mem _ hm)

theorem release (h : InUse before now (k :: kept)) :
    InUse before (now.release k.buffer) kept := by
  obtain ⟨hnb, ho⟩ := h.owned k (List.mem_cons_self ..)
  obtain ⟨hnc, -⟩ := h.stored k (List.mem_cons_self ..)
  obtain ⟨hne, apart⟩ := List.pairwise_cons.mp h.apart
  rw [release_eq ho]
  refine ⟨prefix_modify h.cells hnc _, prefix_modify h.holdings hnb _, ?owned, ?stored, apart,
    ?wiped, ?released⟩
  case owned =>
    intro j hj
    obtain ⟨hn, hj'⟩ := h.owned j (List.mem_cons_of_mem _ hj)
    exact ⟨hn, by simpa [List.getElem?_modify_ne _ _ (hne j hj).1] using hj'⟩
  case stored =>
    intro j hj
    obtain ⟨hn, hj'⟩ := h.stored j (List.mem_cons_of_mem _ hj)
    exact ⟨hn, by simpa [List.getElem?_modify_ne _ _ (hne j hj).2] using hj'⟩
  case wiped =>
    intro i b hi hb hk
    by_cases e : k.cell.index = i
    · subst e
      rw [List.getElem?_modify_eq] at hb
      obtain ⟨b', -, rfl⟩ := Option.map_eq_some_iff.mp hb
      exact zeros_eq_zero b'
    · rw [List.getElem?_modify_ne _ _ e] at hb
      exact h.wiped i b hi hb (List.forall_mem_cons.mpr ⟨e, hk⟩)
  case released =>
    intro i g hi hg hk
    by_cases e : k.buffer.index = i
    · subst e
      rw [List.getElem?_modify_eq] at hg
      obtain ⟨g', -, rfl⟩ := Option.map_eq_some_iff.mp hg
      rfl
    · rw [List.getElem?_modify_ne _ _ e] at hg
      exact h.released i g hi hg (List.forall_mem_cons.mpr ⟨e, hk⟩)

theorem isReleased_eq_false_iff (h : InUse before now kept) {b : Buffer}
    (hb : before.holdings.length ≤ b.index) :
    now.isReleased b = false ↔ b ∈ kept.map (·.buffer) := by
  constructor
  · intro hr
    cases hg : now.holdings[b.index]? with
    | none => simp [isReleased, Memory.holding, List.getD_eq_getElem?_getD, hg] at hr
    | some g =>
        have hne : ¬ ∀ k ∈ kept, k.buffer.index ≠ b.index := by
          intro hk
          simp [isReleased, holding_of_getElem? hg, h.released _ _ hb hg hk] at hr
        simp only [ne_eq, Classical.not_forall, Classical.not_not] at hne
        obtain ⟨k, hk, e⟩ := hne
        exact List.mem_map.mpr ⟨k, hk, congrArg Buffer.mk e⟩
  · intro hm
    obtain ⟨k, hk, rfl⟩ := List.mem_map.mp hm
    simp [isReleased, h.holding hk]

theorem wipedExcept (h : InUse before now kept) :
    WipedExcept (kept.map (·.buffer)) before now where
  cells := h.cells
  holdings := h.holdings
  wiped c hc := by
    by_cases hk : ∃ k ∈ kept, k.cell.index = c.index
    · obtain ⟨k, hk, e⟩ := hk
      refine .inr ⟨k.buffer, List.mem_map_of_mem hk, ?_⟩
      rw [h.holding hk]
      exact congrArg (some ∘ Cell.mk) e
    · left
      cases hc' : now.cells[c.index]? with
      | none => simp [read, List.getD_eq_getElem?_getD, hc']
      | some bytes =>
          rw [read_of_getElem? hc']
          exact h.wiped c.index bytes hc hc' fun k hm e => hk ⟨k, hm, e⟩
  released _ hb := h.isReleased_eq_false_iff hb
  fresh b hb := by
    obtain ⟨k, hk, rfl⟩ := List.mem_map.mp hb
    exact (h.owned k hk).1

end InUse

/-! ## Pairs -/

/-- The buffers of a pair are in use, besides those in `kept`, with a first password and perhaps a
second. -/
inductive PairInUse (before now : Memory) (kept : List Kept) :
    Pair → Bytes → Option Bytes → Prop where
  | one {k : Kept} : before.InUse now (k :: kept) →
      PairInUse before now kept ⟨k.buffer, none⟩ k.bytes none
  | two {k k₂ : Kept} : before.InUse now (k₂ :: k :: kept) →
      PairInUse before now kept ⟨k.buffer, some k₂.buffer⟩ k.bytes (some k₂.bytes)

/-- An empty second password is none. -/
theorem InUse.pair {before now : Memory} {kept : List Kept} {k k₂ : Kept}
    (h : before.InUse now (k₂ :: k :: kept)) :
    PairInUse before (now.pair k.buffer (some k₂.buffer)).2 kept
      (now.pair k.buffer (some k₂.buffer)).1 k.bytes
      (if k₂.bytes = [] then none else some k₂.bytes) := by
  have hb : now.contents k₂.buffer = k₂.bytes := h.contents (List.mem_cons_self ..)
  simp only [Memory.pair, hb]
  split
  · exact .one h.release
  · exact .two h

namespace PairInUse

variable {before now : Memory} {kept : List Kept} {p : Pair} {first : Bytes} {second : Option Bytes}

theorem releasePair (h : PairInUse before now kept p first second) :
    before.InUse (now.releasePair p) kept := by
  cases h with
  | one h => exact h.release
  | two h => exact (h.perm (.swap ..)).release.release

theorem primary (h : PairInUse before now kept p first second) :
    now.contents p.primary = first := by
  cases h with
  | one h => exact h.contents (List.mem_cons_self ..)
  | two h => exact h.contents (List.mem_cons_of_mem _ (List.mem_cons_self ..))

theorem viewOnly (h : PairInUse before now kept p first second) :
    p.viewOnly.map now.contents = second := by
  cases h with
  | one => rfl
  | two h => exact congrArg some (h.contents (List.mem_cons_self ..))

theorem encode (h : PairInUse before now kept p first second) :
    now.encode p.primary p.viewOnly = Password.encode first second := by
  rw [Memory.encode, h.primary, h.viewOnly]

end PairInUse
end Memory

def Pair.buffers (p : Pair) : List Buffer := p.primary :: p.viewOnly.toList

theorem Memory.PairInUse.wipedExcept {before now : Memory} {p : Pair} {first : Bytes}
    {second : Option Bytes} (h : PairInUse before now [] p first second) :
    WipedExcept p.buffers before now := by
  cases h with
  | one h => exact h.wipedExcept
  | two h => exact (h.perm (.swap ..)).wipedExcept

end VncAccess.Secret
