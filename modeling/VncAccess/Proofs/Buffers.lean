import Mathlib.Data.List.Induction
import VncAccess.Password.Prompt
import VncAccess.Proofs.Lemmas.Ending
import VncAccess.Proofs.Lemmas.Memory

/-!
# Buffers under any operations

Buffers may be shared among pairs and released in any order. A buffer keeps its bytes until it is
released and is empty from then on, and every view of it shows its bytes or, once it is released, as
many zeros.
-/

namespace VncAccess.Secret

/-! ## Operations -/

/-- What can be done to a memory and to the buffers in it. A block is left in the same way whether
or not a failure ended it. -/
inductive Operation where
  | construct (bytes : Bytes) (capacity : Option Int)
  | truncate (bytes : Bytes) (limit : Int)
  | pair (primary : Buffer) (second : Option Buffer)
  | release (b : Buffer)
  | releasePair (p : Pair)
  | enter (b : Buffer)
  | leave (b : Buffer) (failed : Bool)
  | enterPair (p : Pair)
  | leavePair (p : Pair) (failed : Bool)
  | view (b : Buffer)
  | readView (v : View)
  | compare (a b : Buffer)
  | encode (primary : Buffer) (second : Option Buffer)
  deriving DecidableEq, Repr

namespace Memory

/-- An operation that fails changes nothing. -/
def step (m : Memory) : Operation → Memory
  | .construct bytes capacity =>
    match m.newBuffer bytes capacity with
    | .ok (_, m) => m
    | .error _ => m
  | .truncate bytes limit =>
    match m.truncated bytes limit with
    | .ok (_, m) => m
    | .error _ => m
  | .pair primary second => (m.pair primary second).2
  | .release b | .leave b _ => m.release b
  | .releasePair p | .leavePair p _ => m.releasePair p
  | .enter _ | .enterPair _ | .view _ | .readView _ | .compare _ _ | .encode _ _ => m

def after (m : Memory) (operations : List Operation) : Memory := operations.foldl step m

/-- The operations that release a buffer. A pair is built without an empty second buffer. -/
def Releases (m : Memory) (b : Buffer) : Operation → Prop
  | .release c | .leave c _ => b = c
  | .releasePair p | .leavePair p _ => b = p.primary ∨ p.viewOnly = some b
  | .pair _ second => second = some b ∧ m.contents b = []
  | _ => False

/-! ## Two changes -/

/-- The memories that a memory can become: a buffer is added, or one is released. -/
inductive Reaches (m : Memory) : Memory → Prop where
  | refl : Reaches m m
  | hold {m' : Memory} {bytes : Bytes} {capacity : Option Int} : Reaches m m' →
      (∀ limit, capacity = some limit → (bytes.length : Int) ≤ limit) →
      Reaches m (m'.hold bytes capacity).2
  | release {m' : Memory} (b : Buffer) : Reaches m m' → Reaches m (m'.release b)

variable {m m' m'' : Memory} {b : Buffer} {bytes : Bytes} {capacity : Option Int}

theorem newBuffer_eq_ok (made : m.newBuffer bytes capacity = .ok (b, m')) :
    m.hold bytes capacity = (b, m') ∧
      ∀ limit, capacity = some limit → (bytes.length : Int) ≤ limit := by
  cases capacity with
  | none => exact ⟨Except.ok.inj made, nofun⟩
  | some limit =>
      simp only [newBuffer] at made
      split at made
      · cases made
      next fits =>
      refine ⟨Except.ok.inj made, ?_⟩
      rintro _ ⟨⟩
      exact Int.not_lt.mp fits

theorem Reaches.construct (reaches : m.Reaches m') (bytes : Bytes) (capacity : Option Int) :
    m.Reaches (m'.step (.construct bytes capacity)) := by
  simp only [step]
  split
  · next made =>
      obtain ⟨held, fits⟩ := newBuffer_eq_ok made
      have grown := reaches.hold fits
      rwa [held] at grown
  · exact reaches

/-- Cutting a password is making a buffer of what is left of it. -/
theorem step_truncate (m : Memory) (bytes : Bytes) (limit : Int) :
    m.step (.truncate bytes limit) =
      m.step (.construct (significant bytes limit) (some limit)) := by
  simp only [step, truncated, bind, Except.bind, pure, Except.pure]
  cases m.newBuffer (significant bytes limit) (some limit) <;> rfl

theorem Reaches.pair (reaches : m.Reaches m') (primary : Buffer) (second : Option Buffer) :
    m.Reaches (m'.pair primary second).2 := by
  cases second with
  | none => exact reaches
  | some b =>
      rw [Memory.pair]
      split
      · exact reaches.release b
      · exact reaches

theorem Reaches.releasePair (reaches : m.Reaches m') (p : Pair) :
    m.Reaches (m'.releasePair p) := by
  unfold Memory.releasePair
  split
  · exact (reaches.release _).release _
  · exact reaches.release _

theorem Reaches.step (reaches : m.Reaches m') (op : Operation) : m.Reaches (m'.step op) := by
  cases op with
  | construct bytes capacity => exact reaches.construct bytes capacity
  | truncate bytes limit => rw [step_truncate]; exact reaches.construct _ _
  | pair primary second => exact reaches.pair primary second
  | release b | leave b failed => exact reaches.release b
  | releasePair p | leavePair p failed => exact reaches.releasePair p
  | enter | enterPair | view | readView | compare | encode => exact reaches

theorem reaches_after (m : Memory) (operations : List Operation) :
    m.Reaches (m.after operations) := by
  induction operations using List.reverseRecOn with
  | nil => exact .refl
  | append_singleton operations op ih =>
      rw [after, List.foldl_append]
      exact ih.step op

/-! ## What holds of every memory -/

/-- Every buffer in use owns a cell of its own, with no more bytes than its capacity. -/
structure Sound (m : Memory) : Prop where
  owned : ∀ (j : Nat) (g : Holding) (c : Cell), m.holdings[j]? = some g → g.cell = some c →
    ∃ bytes : Bytes, m.cells[c.index]? = some bytes ∧
      ∀ limit, g.capacity = some limit → (bytes.length : Int) ≤ limit
  apart : ∀ (j k : Nat) (g g' : Holding) (c : Cell), m.holdings[j]? = some g →
    m.holdings[k]? = some g' → g.cell = some c → g'.cell = some c → j = k
  room : ∀ (j : Nat) (g : Holding) (limit : Int), m.holdings[j]? = some g →
    g.capacity = some limit → 0 ≤ limit

/-- What may have become of the cells and the buffers of a memory. -/
structure Later (m m' : Memory) : Prop where
  cells : ∀ (i : Nat) (bytes : Bytes), m.cells[i]? = some bytes →
    m'.cells[i]? = some bytes ∨ m'.cells[i]? = some (zeros bytes)
  released : ∀ (j : Nat) (g : Holding), m.holdings[j]? = some g → g.cell = none →
    m'.holdings[j]? = some g
  live : ∀ (j : Nat) (g : Holding) (c : Cell) (bytes : Bytes), m.holdings[j]? = some g →
    g.cell = some c → m.cells[c.index]? = some bytes →
      m'.holdings[j]? = some g ∧ m'.cells[c.index]? = some bytes ∨
      m'.holdings[j]? = some { g with cell := none } ∧ m'.cells[c.index]? = some (zeros bytes)

theorem zeros_zeros (bytes : Bytes) : zeros (zeros bytes) = zeros bytes := by simp [zeros]

theorem Later.refl (m : Memory) : m.Later m where
  cells _ _ h := .inl h
  released _ _ h _ := h
  live _ _ _ _ h _ hb := .inl ⟨h, hb⟩

theorem Later.trans (h : m.Later m') (h' : m'.Later m'') : m.Later m'' where
  cells i bytes found := by
    rcases h.cells i bytes found with same | wiped
    · exact h'.cells i bytes same
    · have := h'.cells i _ wiped
      rw [zeros_zeros, or_self] at this
      exact .inr this
  released j g found free := h'.released j g (h.released j g found free) free
  live j g c bytes found owns stored := by
    rcases h.live j g c bytes found owns stored with ⟨same, stored'⟩ | ⟨free, wiped⟩
    · exact h'.live j g c bytes same owns stored'
    · have := h'.cells c.index _ wiped
      rw [zeros_zeros, or_self] at this
      exact .inr ⟨h'.released j _ free rfl, this⟩

theorem getElem?_concat_eq_some {α : Type} {l : List α} {a x : α} {i : Nat} :
    (l ++ [a])[i]? = some x ↔ l[i]? = some x ∨ i = l.length ∧ a = x := by
  rcases Nat.lt_trichotomy i l.length with lt | rfl | gt
  · rw [List.getElem?_append_left lt]
    simp [Nat.ne_of_lt lt]
  · simp
  · rw [List.getElem?_append_right (Nat.le_of_lt gt), List.getElem?_eq_none (Nat.le_of_lt gt)]
    simp only [reduceCtorEq, false_or]
    refine iff_of_false ?_ fun same => absurd same.1 (Nat.ne_of_gt gt)
    rw [List.getElem?_eq_none (by simp; omega)]
    exact nofun

theorem Sound.hold (sound : m.Sound)
    (fits : ∀ limit, capacity = some limit → (bytes.length : Int) ≤ limit) :
    (m.hold bytes capacity).2.Sound := by
  have inside {j : Nat} {g : Holding} {c : Cell} (found : m.holdings[j]? = some g)
      (owns : g.cell = some c) : c.index < m.cells.length := by
    obtain ⟨_, stored, -⟩ := sound.owned j g c found owns
    exact (List.getElem?_eq_some_iff.mp stored).1
  rw [hold_eq]
  constructor
  case owned =>
    intro j g c found owns
    rcases getElem?_concat_eq_some.mp found with found | ⟨-, rfl⟩
    · obtain ⟨bytes, stored, fits⟩ := sound.owned j g c found owns
      exact ⟨bytes, getElem?_concat_eq_some.mpr (.inl stored), fits⟩
    · cases owns
      exact ⟨bytes, getElem?_concat_eq_some.mpr (.inr ⟨rfl, rfl⟩), fits⟩
  case apart =>
    intro j k g g' c found found' owns owns'
    rcases getElem?_concat_eq_some.mp found with found | ⟨rfl, rfl⟩ <;>
      rcases getElem?_concat_eq_some.mp found' with found' | ⟨rfl, rfl⟩
    · exact sound.apart j k g g' c found found' owns owns'
    · cases owns'
      exact absurd (inside found owns) (Nat.lt_irrefl _)
    · cases owns
      exact absurd (inside found' owns') (Nat.lt_irrefl _)
    · rfl
  case room =>
    intro j g limit found capacity
    rcases getElem?_concat_eq_some.mp found with found | ⟨-, rfl⟩
    · exact sound.room j g limit found capacity
    · exact Int.le_trans (Int.natCast_nonneg _) (fits limit capacity)

theorem later_hold (m : Memory) (bytes : Bytes) (capacity : Option Int) :
    m.Later (m.hold bytes capacity).2 := by
  have keeps {α : Type} {l : List α} {a x : α} {i : Nat} (found : l[i]? = some x) :
      (l ++ [a])[i]? = some x := getElem?_concat_eq_some.mpr (.inl found)
  rw [hold_eq]
  exact {
    cells := fun i bytes found => .inl (keeps found)
    released := fun j g found _ => keeps found
    live := fun j g c bytes found _ stored => .inl ⟨keeps found, keeps stored⟩ }

/-- Releasing a buffer changes nothing, or wipes the cell of the buffer and takes it away. -/
theorem release_cases (m : Memory) (b : Buffer) :
    m.release b = m ∧ m.isReleased b = true ∨
      ∃ c capacity, m.holdings[b.index]? = some ⟨some c, capacity⟩ ∧ m.release b =
        { cells := m.cells.modify c.index zeros
          holdings := m.holdings.modify b.index fun g => { g with cell := none } } := by
  rcases found : m.holdings[b.index]? with _ | ⟨_ | c, capacity⟩
  · have none : m.holding b = ⟨none, none⟩ := by
      rw [holding, List.getD_eq_getElem?_getD, found]
      rfl
    exact .inl ⟨by rw [release, none], by rw [isReleased, none]; rfl⟩
  · have free := holding_of_getElem? found
    exact .inl ⟨by rw [release, free], by rw [isReleased, free]; rfl⟩
  · exact .inr ⟨c, capacity, rfl, release_eq found⟩

theorem Sound.index_ne (sound : m.Sound) {j k : Nat} {g g' : Holding} {c d : Cell}
    (found : m.holdings[j]? = some g) (found' : m.holdings[k]? = some g') (owns : g.cell = some c)
    (owns' : g'.cell = some d) (other : j ≠ k) : c.index ≠ d.index := by
  intro same
  obtain rfl : c = d := congrArg Cell.mk same
  exact other (sound.apart j k g g' c found found' owns owns')

theorem Sound.release (sound : m.Sound) (b : Buffer) : (m.release b).Sound := by
  rcases m.release_cases b with ⟨same, -⟩ | ⟨c, capacity, held, eq⟩
  · rwa [same]
  rw [eq]
  -- A buffer that owns a cell afterwards is another one.
  have others {j : Nat} {g : Holding} {d : Cell}
      (found : (m.holdings.modify b.index fun g => { g with cell := none })[j]? = some g)
      (owns : g.cell = some d) : m.holdings[j]? = some g ∧ b.index ≠ j := by
    rw [List.getElem?_modify] at found
    split at found
    · obtain ⟨_, -, rfl⟩ := Option.map_eq_some_iff.mp found
      cases owns
    · next other => exact ⟨by simpa using found, other⟩
  constructor
  case owned =>
    intro j g d found owns
    obtain ⟨found, other⟩ := others found owns
    obtain ⟨bytes, stored, fits⟩ := sound.owned j g d found owns
    have ne := sound.index_ne held found rfl owns other
    exact ⟨bytes, (List.getElem?_modify_ne _ _ ne).trans stored, fits⟩
  case apart =>
    intro j k g g' d found found' owns owns'
    exact sound.apart j k g g' d (others found owns).1 (others found' owns').1 owns owns'
  case room =>
    intro j g limit found capacity
    rw [List.getElem?_modify] at found
    obtain ⟨g', before, rfl⟩ := Option.map_eq_some_iff.mp found
    refine sound.room j g' limit before ?_
    split at capacity <;> exact capacity

theorem Sound.later_release (sound : m.Sound) (b : Buffer) : m.Later (m.release b) := by
  rcases m.release_cases b with ⟨same, -⟩ | ⟨c, capacity, held, eq⟩
  · rw [same]
    exact .refl m
  rw [eq]
  constructor
  case cells =>
    intro i bytes stored
    rw [List.getElem?_modify, stored]
    split
    · exact .inr rfl
    · exact .inl rfl
  case released =>
    intro j g found free
    by_cases same : b.index = j
    · subst same
      cases held.symm.trans found
      cases free
    · exact (List.getElem?_modify_ne _ _ same).trans found
  case live =>
    intro j g d bytes found owns stored
    by_cases same : b.index = j
    · subst same
      cases held.symm.trans found
      cases owns
      exact .inr ⟨by rw [List.getElem?_modify_eq, found]; rfl,
        by rw [List.getElem?_modify_eq, stored]; rfl⟩
    · have ne := sound.index_ne held found rfl owns same
      exact .inl ⟨(List.getElem?_modify_ne _ _ same).trans found,
        (List.getElem?_modify_ne _ _ ne).trans stored⟩

theorem Reaches.sound (reaches : m.Reaches m') (sound : m.Sound) : m'.Sound ∧ m.Later m' := by
  induction reaches with
  | refl => exact ⟨sound, .refl m⟩
  | hold _ fits ih => exact ⟨ih.1.hold fits, ih.2.trans (later_hold ..)⟩
  | release b _ ih => exact ⟨ih.1.release b, ih.2.trans (ih.1.later_release b)⟩

theorem sound_empty : Sound {} where
  owned := nofun
  apart := nofun
  room := nofun

/-! ## Who is released -/

theorem isReleased_hold (inside : b.index < m.holdings.length) (bytes : Bytes)
    (capacity : Option Int) : (m.hold bytes capacity).2.isReleased b = m.isReleased b := by
  simp only [hold_eq, isReleased, holding, List.getD_eq_getElem?_getD,
    List.getElem?_append_left inside]

theorem isReleased_iff : m.isReleased b = true ↔
    ∀ g : Holding, m.holdings[b.index]? = some g → g.cell = none := by
  rw [isReleased, holding, List.getD_eq_getElem?_getD]
  cases m.holdings[b.index]? <;> simp

theorem isReleased_release (m : Memory) (c b : Buffer) :
    (m.release c).isReleased b = true ↔ m.isReleased b = true ∨ b = c := by
  rcases m.release_cases c with ⟨same, free⟩ | ⟨d, capacity, held, eq⟩
  · rw [same]
    refine ⟨.inl, ?_⟩
    rintro (released | rfl)
    · exact released
    · exact free
  rw [eq]
  by_cases other : c.index = b.index
  · obtain rfl : c = b := congrArg Buffer.mk other
    refine iff_of_true (isReleased_iff.mpr fun g found => ?_) (.inr rfl)
    rw [List.getElem?_modify_eq, held] at found
    cases found
    rfl
  · have ne : b ≠ c := fun same => other (congrArg Buffer.index same).symm
    rw [isReleased_iff, isReleased_iff, List.getElem?_modify_ne _ _ other, or_iff_left ne]

theorem isReleased_construct (inside : b.index < m.holdings.length) (bytes : Bytes)
    (capacity : Option Int) :
    (m.step (.construct bytes capacity)).isReleased b = m.isReleased b := by
  simp only [step]
  split
  · next made =>
      obtain ⟨held, -⟩ := newBuffer_eq_ok made
      have same := isReleased_hold inside bytes capacity
      rwa [held] at same
  · rfl

theorem isReleased_releasePair (m : Memory) (p : Pair) (b : Buffer) :
    (m.releasePair p).isReleased b = true ↔
      m.isReleased b = true ∨ b = p.primary ∨ p.viewOnly = some b := by
  rcases p with ⟨primary, _ | second⟩
  · simp [releasePair, isReleased_release]
  · rw [releasePair, isReleased_release, isReleased_release, or_assoc, Option.some_inj,
      eq_comm (a := second)]

/-- A buffer is released by an operation that releases it, and by no other. -/
theorem isReleased_step (inside : b.index < m.holdings.length) (op : Operation) :
    (m.step op).isReleased b = true ↔ m.isReleased b = true ∨ m.Releases b op := by
  cases op with
  | construct bytes capacity =>
      rw [isReleased_construct inside]
      exact (or_iff_left id).symm
  | truncate bytes limit =>
      rw [step_truncate, isReleased_construct inside]
      exact (or_iff_left id).symm
  | pair primary second =>
      rw [step]
      cases second with
      | none => exact (or_iff_left fun releases => by cases releases.1).symm
      | some c =>
          rw [pair, Releases, Option.some_inj]
          split
          · next empty =>
              rw [isReleased_release]
              refine or_congr_right ⟨?_, fun releases => releases.1.symm⟩
              rintro rfl
              exact ⟨rfl, empty⟩
          · next filled =>
              refine (or_iff_left ?_).symm
              rintro ⟨rfl, empty⟩
              exact filled empty
  | release c | leave c failed => exact isReleased_release m c b
  | releasePair p | leavePair p failed => exact isReleased_releasePair m p b
  | enter | enterPair | view | readView | compare | encode => exact (or_iff_left id).symm

/-! ## One buffer -/

/-- What a buffer is, and what becomes of it in further operations. -/
structure Tended (m : Memory) (b : Buffer) (operations : List Operation) : Prop where
  bounded : ∀ limit, (m.holding b).capacity = some limit → ((m.contents b).length : Int) ≤ limit
  emptied : m.isReleased b = true → m.contents b = []
  capacity : ((m.after operations).holding b).capacity = (m.holding b).capacity
  released : (m.after operations).isReleased b = true ↔ m.isReleased b = true ∨
    ∃ earlier op later, operations = earlier ++ op :: later ∧ (m.after earlier).Releases b op
  unchanged : (m.after operations).isReleased b = false →
    (m.after operations).contents b = m.contents b
  viewed : (m.after operations).readView (m.view b) =
    if (m.after operations).isReleased b then zeros (m.contents b) else m.contents b

/-- What holds of a memory, whatever is done next. -/
structure Guarded (m : Memory) : Prop where
  constructed : ∀ bytes capacity b m', m.newBuffer bytes capacity = .ok (b, m') →
    m.holdings.length ≤ b.index ∧ m'.holding b = ⟨some ⟨m.cells.length⟩, capacity⟩ ∧
      m'.contents b = bytes
  tended : ∀ b : Buffer, b.index < m.holdings.length → ∀ operations, m.Tended b operations
  paired : ∀ primary second, (m.pair primary second).1.primary = primary ∧
    ∀ b, (m.pair primary second).1.viewOnly = some b ↔ second = some b ∧ m.contents b ≠ []
  left : ∀ p failed, (m.step (.leavePair p failed)).isReleased p.primary = true ∧
    ∀ b ∈ p.viewOnly, (m.step (.leavePair p failed)).isReleased b = true

theorem Reaches.length_holdings (reaches : m.Reaches m') :
    m.holdings.length ≤ m'.holdings.length := by
  induction reaches with
  | refl => exact Nat.le_refl _
  | hold _ _ ih =>
      rw [hold_eq, List.length_append]
      omega
  | @release m' b _ ih =>
      rcases m'.release_cases b with ⟨same, -⟩ | ⟨c, capacity, -, eq⟩
      · rwa [same]
      · rwa [eq, List.length_modify]

theorem isReleased_after (inside : b.index < m.holdings.length) (operations : List Operation) :
    (m.after operations).isReleased b = true ↔ m.isReleased b = true ∨
      ∃ earlier op later, operations = earlier ++ op :: later ∧
        (m.after earlier).Releases b op := by
  induction operations using List.reverseRecOn with
  | nil => exact (or_iff_left fun ⟨_, _, _, split, _⟩ => by simp at split).symm
  | append_singleton operations op ih =>
      have inside' := Nat.lt_of_lt_of_le inside (m.reaches_after operations).length_holdings
      have last : m.after (operations ++ [op]) = (m.after operations).step op := by
        rw [after, List.foldl_append]
        rfl
      rw [last, isReleased_step inside', ih, or_assoc]
      refine or_congr_right ⟨?_, ?_⟩
      · rintro (⟨earlier, op', later, rfl, releases⟩ | releases)
        · exact ⟨earlier, op', later ++ [op], by simp, releases⟩
        · exact ⟨operations, op, [], rfl, releases⟩
      · rintro ⟨earlier, op', later, split, releases⟩
        rcases List.eq_nil_or_concat later with rfl | ⟨later, op'', rfl⟩
        · obtain ⟨rfl, same⟩ := List.append_inj' split rfl
          obtain rfl := List.singleton_inj.mp same
          exact .inr releases
        · refine .inl ⟨earlier, op', later, ?_, releases⟩
          rw [List.concat_eq_append, ← List.cons_append, ← List.append_assoc] at split
          exact (List.append_inj' split rfl).1

theorem Sound.tended (sound : m.Sound) (inside : b.index < m.holdings.length)
    (operations : List Operation) : m.Tended b operations := by
  obtain ⟨-, later⟩ := (m.reaches_after operations).sound sound
  have released := isReleased_after inside operations
  have found : m.holdings[b.index]? = some m.holdings[b.index] :=
    List.getElem?_eq_getElem inside
  generalize m.holdings[b.index] = g at found
  have held := holding_of_getElem? found
  have room limit := sound.room _ g limit found
  rcases g with ⟨_ | c, limit⟩
  · -- It was released before.
    have held' := holding_of_getElem? (later.released _ _ found rfl)
    have empty : m.contents b = [] := by rw [contents, held]
    have free : (m.after operations).isReleased b = true := by rw [isReleased, held']; rfl
    refine ⟨fun limit capacity => ?_, fun _ => empty, by rw [held, held'], released,
      fun live => ?_, ?_⟩
    · rw [empty]
      exact room limit (by rwa [held] at capacity)
    · cases free.symm.trans live
    · rw [if_pos free, empty, view, held]
      rfl
  · obtain ⟨bytes, stored, fits⟩ := sound.owned _ _ c found rfl
    have full : m.contents b = bytes := by
      rw [contents, held]
      exact read_of_getElem? stored
    have live : m.isReleased b = false := by rw [isReleased, held]; rfl
    have reads {bytes' : Bytes} (stored' : (m.after operations).cells[c.index]? = some bytes') :
        (m.after operations).readView (m.view b) = bytes' := by
      rw [view, held]
      exact read_of_getElem? stored'
    have bounded limit (capacity : (m.holding b).capacity = some limit) :
        ((m.contents b).length : Int) ≤ limit := by
      rw [full]
      exact fits limit (by rwa [held] at capacity)
    have emptied (gone : m.isReleased b = true) : m.contents b = [] := by
      cases gone.symm.trans live
    rcases later.live _ _ c bytes found rfl stored with ⟨found', stored'⟩ | ⟨found', stored'⟩ <;>
      have held' := holding_of_getElem? found'
    · have live' : (m.after operations).isReleased b = false := by rw [isReleased, held']; rfl
      refine ⟨bounded, emptied, by rw [held, held'], released, fun _ => ?_, ?_⟩
      · rw [full, contents, held']
        exact read_of_getElem? stored'
      · rw [reads stored', live', full]
        rfl
    · have free' : (m.after operations).isReleased b = true := by rw [isReleased, held']; rfl
      refine ⟨bounded, emptied, by rw [held, held'], released, fun live' => ?_, ?_⟩
      · cases free'.symm.trans live'
      · rw [reads stored', if_pos free', full]

theorem Sound.guarded (sound : m.Sound) : m.Guarded where
  constructed bytes capacity b m' made := by
    obtain ⟨held, -⟩ := newBuffer_eq_ok made
    rw [hold_eq] at held
    cases held
    have last {α : Type} {l : List α} {a : α} : (l ++ [a])[l.length]? = some a :=
      getElem?_concat_eq_some.mpr (.inr ⟨rfl, rfl⟩)
    refine ⟨Nat.le_refl _, holding_of_getElem? last, ?_⟩
    rw [contents, holding_of_getElem? last]
    exact read_of_getElem? last
  tended b inside operations := sound.tended inside operations
  paired primary second := by
    cases second with
    | none => exact ⟨rfl, fun b => by simp [pair]⟩
    | some c =>
        rw [pair]
        split
        · next empty =>
            refine ⟨rfl, fun b => iff_of_false (fun other => ?_) ?_⟩
            · cases other
            · rintro ⟨⟨⟩, filled⟩
              exact filled empty
        · next filled =>
            refine ⟨rfl, fun b => (and_iff_left_of_imp ?_).symm⟩
            rintro ⟨⟩
            exact filled
  left p failed :=
    have half := isReleased_releasePair m p
    ⟨(half _).mpr (.inr (.inl rfl)), fun b second => (half b).mpr (.inr (.inr second))⟩

end Memory

/-- However buffers are made, shared, viewed and released, each one is guarded, and the block of a
pair leaves both of its halves released however it ends. -/
theorem buffers_guarded (operations : List Operation) :
    (Memory.after {} operations).Guarded ∧
      ∀ (p : Pair) (body : Run Unit) (h : Host) (b : Buffer), b = p.primary ∨ p.viewOnly = some b →
        ((Run.always (Password.releasePair p) body).run h).2.memory.isReleased b = true := by
  obtain ⟨sound, -⟩ := (Memory.reaches_after {} operations).sound Memory.sound_empty
  exact ⟨sound.guarded, fun p body h b half =>
    (Memory.isReleased_releasePair _ p b).mpr (.inr half)⟩

end VncAccess.Secret
