import Mathlib.Data.List.Perm.Subperm
import VncAccess.Invocation

/-!
# What a request is taken for

There are five ways to choose what is done. A request that chooses more than one is refused for its
options, and one that needs a variable that it cannot use is refused for its environment. Every
other request is taken for an invocation of the mode that it chooses.
-/

namespace VncAccess

/-! ## The options -/

/-- The ways to choose what is done. One-time passwords are asked for or cleared, and a user is
added or removed. -/
inductive Selector where
  | input
  | temporary
  | oneTime
  | user
  | file
  deriving DecidableEq, Repr

namespace Request

variable {r : Request} {s : Selector}

def has (r : Request) : Selector → Bool
  | .input => r.fromInput
  | .temporary => r.temporary
  | .oneTime => r.oneTime || r.clearOneTime
  | .user => r.addUser.isSome || r.removeUser.isSome
  | .file => r.file.isSome

/-- The choices that a request makes. -/
def selectors (r : Request) : List Selector :=
  [.input, .temporary, .oneTime, .user, .file].filter r.has

/-- The options do not go together, or name a file that no system takes. -/
inductive Contradicts (r : Request) : Prop where
  | many : 2 ≤ r.selectors.length → Contradicts r
  | addAndRemove : r.addUser.isSome = true → r.removeUser.isSome = true → Contradicts r
  | longName {name : Text} : r.file = some name → 4095 < name.length → Contradicts r

/-- The mode of the only choice, or of none. -/
def chosenMode (r : Request) : Mode :=
  match r.selectors with
  | [.input] => .stream
  | [.temporary] => .temporary
  | [.oneTime] => if r.clearOneTime then .clearOneTime else .oneTime
  | [.user] => .accessList
  | _ => .file

theorem mem_selectors : s ∈ r.selectors ↔ r.has s = true := by
  cases s <;> simp [selectors]

theorem Contradicts.of_two {t : Selector} (hs : r.has s = true) (ht : r.has t = true)
    (ne : s ≠ t) : r.Contradicts := by
  have distinct : [s, t].Nodup := by simp [ne]
  have both : [s, t] ⊆ r.selectors := by simp [mem_selectors, hs, ht]
  exact .many (List.subperm_of_subset distinct both).length_le

theorem selectors_eq_nil (none : ∀ t, r.has t = false) : r.selectors = [] := by
  rw [selectors, List.filter_eq_nil_iff]
  intro t _
  simp [none t]

theorem selectors_eq_singleton (hs : r.has s = true) (alone : ∀ t, t ≠ s → r.has t = false) :
    r.selectors = [s] := by
  cases s <;> simp [selectors, hs, alone]

theorem not_contradicts (few : r.selectors.length ≤ 1)
    (one : ¬ (r.addUser.isSome = true ∧ r.removeUser.isSome = true))
    (short : ∀ name ∈ r.file, name.length ≤ 4095) : ¬ r.Contradicts := by
  rintro (many | ⟨add, remove⟩ | ⟨named, long⟩)
  · omega
  · exact one ⟨add, remove⟩
  · have := short _ named
    omega

end Request

/-! ## The environment -/

/-- The variable is missing, or longer than so many characters. -/
def Unusable (environment : List (Text × Text)) (name : Text) (longest : Nat) : Prop :=
  ∀ value, environment.lookup name = some value → longest < value.length

/-- The variable that the request needs, and how long its value may be. -/
def Request.needed (r : Request) : Option (Text × Nat) :=
  match r.selectors with
  | [.temporary] => some ("USER", 32)
  | [] => some ("HOME", 240)
  | _ => none

/-- The request needs a variable that it cannot use. -/
def Request.Lacks (environment : List (Text × Text)) (r : Request) (name : Text) : Prop :=
  ∃ longest, r.needed = some (name, longest) ∧ Unusable environment name longest

namespace Invocation

variable {environment : List (Text × Text)} {r : Request} {name : Text} {longest : Nat}

theorem boundedVariable_of_unusable (unusable : Unusable environment name longest) :
    ∃ reason, boundedVariable environment name longest = .error (.environment name reason) := by
  unfold boundedVariable
  split
  · exact ⟨_, rfl⟩
  · next value found =>
      rw [if_pos (Int.ofNat_lt.mpr (unusable value found))]
      exact ⟨_, rfl⟩

theorem boundedVariable_of_usable (usable : ¬ Unusable environment name longest) :
    ∃ value, boundedVariable environment name longest = .ok value := by
  simp only [Unusable, not_forall, Nat.not_lt] at usable
  obtain ⟨value, found, short⟩ := usable
  refine ⟨value, ?_⟩
  rw [boundedVariable, found]
  exact if_neg (Int.not_lt.mpr (Int.ofNat_le.mpr short))

/-! ## The invocation -/

theorem parent_passwordFile (directory : Path) : (passwordFile directory).parent = directory := by
  have name : Path.ofText "passwd" = ⟨.relative, ["passwd"]⟩ := by decide
  simp only [passwordFile, Path.child, name, Path.join, Path.parent, ↓reduceIte,
    List.dropLast_concat]

/-- The invocation does what the request says. -/
structure Meets (r : Request) (i : Invocation) : Prop where
  mode : i.mode = r.chosenMode
  viewOnly : i.viewOnly = r.viewOnly
  file : i.file.isSome = true ↔ i.mode = .file ∨ i.mode = .temporary
  named : ∀ name ∈ r.file, i.file = some (.ofText name)
  directory : i.directory.isSome = true ↔ r.file = none ∧ (i.mode = .file ∨ i.mode = .temporary)
  makeDirectory : i.makeDirectory = true ↔ i.directory.isSome = true
  parent : ∀ directory ∈ i.directory, i.file.map Path.parent = some directory
  strict : i.strict = true ↔ i.mode = .temporary
  user : i.user.isSome = true ↔ i.mode = .accessList
  given : ∀ name ∈ i.user, name ∈ r.addUser ∨ name ∈ r.removeUser
  add : i.mode = .accessList → (i.add = true ↔ r.addUser.isSome = true)
  display : i.display =
    if i.mode ∈ [.oneTime, .clearOneTime, .accessList] then r.display else none

/-! ## The decision -/

/-- How a request can be decided. -/
inductive Decided (environment : List (Text × Text)) (r : Request) :
    Except AccessError Invocation → Prop where
  | refused {message : Text} : r.Contradicts → Decided environment r (.error (.usage message))
  | lacking {name reason : Text} : ¬ r.Contradicts → r.Lacks environment name →
      Decided environment r (.error (.environment name reason))
  | made {i : Invocation} : ¬ r.Contradicts → (∀ name, ¬ r.Lacks environment name) → Meets r i →
      Decided environment r (.ok i)

open Request

variable {s : Selector} {i : Invocation}

/-- A request that makes one choice only, which needs no variable, is taken for an invocation. -/
theorem Decided.alone (one : ¬ (r.addUser.isSome = true ∧ r.removeUser.isSome = true))
    (short : ∀ name ∈ r.file, name.length ≤ 4095) (only : r.selectors = [s])
    (free : s ≠ .temporary) (meets : Meets r i) : Decided environment r (.ok i) := by
  have unneeded : r.needed = none := by
    cases s <;> simp_all [needed]
  refine .made (not_contradicts (by simp [only]) one short) ?_ meets
  rintro name ⟨longest, needed, -⟩
  cases unneeded.symm.trans needed

theorem decided_oneTimeFor (chosen : r.has .oneTime = true)
    (one : ¬ (r.addUser.isSome = true ∧ r.removeUser.isSome = true)) :
    Decided environment r (oneTimeFor r) := by
  unfold oneTimeFor
  split
  · next input => exact .refused (.of_two chosen (t := .input) input nofun)
  split
  · next temporary => exact .refused (.of_two chosen (t := .temporary) temporary nofun)
  split
  · next user => exact .refused (.of_two chosen (t := .user) user nofun)
  split
  · next file => exact .refused (.of_two chosen (t := .file) file nofun)
  next input temporary user file =>
  have only : r.selectors = [.oneTime] := by
    refine selectors_eq_singleton chosen fun t other => ?_
    cases t <;> simp_all [has]
  have unnamed : r.file = none := by simpa using file
  refine .alone one (by simp [unnamed]) only nofun ?_
  constructor <;> cases hc : r.clearOneTime <;> simp [chosenMode, only, hc, unnamed]

theorem decided_accessListFor (chosen : r.has .user = true)
    (one : ¬ (r.addUser.isSome = true ∧ r.removeUser.isSome = true))
    (shared : r.has .oneTime = false) : Decided environment r (accessListFor r) := by
  unfold accessListFor
  split
  · next input => exact .refused (.of_two chosen (t := .input) input nofun)
  split
  · next temporary => exact .refused (.of_two chosen (t := .temporary) temporary nofun)
  split
  · next file => exact .refused (.of_two chosen (t := .file) file nofun)
  next input temporary file =>
  have only : r.selectors = [.user] := by
    refine selectors_eq_singleton chosen fun t other => ?_
    cases t <;> simp_all [has]
  have unnamed : r.file = none := by simpa using file
  refine .alone one (by simp [unnamed]) only nofun ?_
  rcases ha : r.addUser with _ | name
  · rcases hr : r.removeUser with _ | name
    · simp [has, ha, hr] at chosen
    · constructor <;> simp [chosenMode, only, ha, hr, unnamed]
  · constructor <;> simp [chosenMode, only, ha, unnamed]

theorem decided_streamFor (chosen : r.has .input = true) (nobody : r.has .user = false)
    (shared : r.has .oneTime = false) : Decided environment r (streamFor r) := by
  have nobody' : r.addUser.isSome = false ∧ r.removeUser.isSome = false := by
    simpa [has] using nobody
  unfold streamFor
  split
  · next name named =>
      have conflicts : r.Contradicts :=
        .of_two chosen (t := .file) (by simp [has, named]) nofun
      split <;> exact .refused conflicts
  next unnamed =>
  split
  · next temporary => exact .refused (.of_two chosen (t := .temporary) temporary nofun)
  next temporary =>
  have only : r.selectors = [.input] := by
    refine selectors_eq_singleton chosen fun t other => ?_
    cases t <;> simp_all [has]
  refine .alone (by simp [nobody']) (by simp [unnamed]) only nofun ?_
  constructor <;> simp [chosenMode, only, unnamed]

theorem decided_namedFileFor {name : Text} (named : r.file = some name)
    (nobody : r.has .user = false) (shared : r.has .oneTime = false)
    (unread : r.has .input = false) : Decided environment r (namedFileFor r name) := by
  have nobody' : r.addUser.isSome = false ∧ r.removeUser.isSome = false := by
    simpa [has] using nobody
  have chosen : r.has .file = true := by simp [has, named]
  unfold namedFileFor
  split
  · next long => exact .refused (.longName named long)
  next short =>
  split
  · next temporary => exact .refused (.of_two chosen (t := .temporary) temporary nofun)
  next temporary =>
  have only : r.selectors = [.file] := by
    refine selectors_eq_singleton chosen fun t other => ?_
    cases t <;> simp_all [has]
  have bound : name.length ≤ 4095 := Nat.not_lt.mp short
  refine .alone (by simp [nobody']) (by simp [named, bound]) only nofun ?_
  constructor <;> simp [chosenMode, only, named]

theorem meets_fileIn {mode : Mode} (file : mode = .file ∨ mode = .temporary)
    (chosen : r.chosenMode = mode) (unnamed : r.file = none) (directory : Path) :
    Meets r (fileIn mode r directory) where
  mode := chosen.symm
  viewOnly := rfl
  file := by simp [fileIn, file]
  named := by simp [unnamed]
  directory := by simp [fileIn, file, unnamed]
  makeDirectory := by simp [fileIn]
  parent := by
    rintro _ ⟨⟩
    exact congrArg some (parent_passwordFile directory)
  strict := by simp [fileIn]
  user := by rcases file with rfl | rfl <;> simp [fileIn]
  given := nofun
  add := by rcases file with rfl | rfl <;> simp [fileIn]
  display := by rcases file with rfl | rfl <;> simp [fileIn]

/-- Only a variable keeps a request for a directory of its own from being carried out. -/
theorem decided_fileIn {mode : Mode} {place : Text → Path} (compatible : ¬ r.Contradicts)
    (file : mode = .file ∨ mode = .temporary) (chosen : r.chosenMode = mode)
    (unnamed : r.file = none) (needed : r.needed = some (name, longest)) :
    Decided environment r
      (boundedVariable environment name longest >>= fun value =>
        .ok (fileIn mode r (place value))) := by
  by_cases unusable : Unusable environment name longest
  · obtain ⟨reason, failed⟩ := boundedVariable_of_unusable unusable
    rw [failed]
    exact .lacking compatible ⟨longest, needed, unusable⟩
  · obtain ⟨value, found⟩ := boundedVariable_of_usable unusable
    rw [found]
    refine .made compatible ?_ (meets_fileIn file chosen unnamed _)
    rintro _ ⟨_, needed', unusable'⟩
    cases needed.symm.trans needed'
    exact unusable unusable'

theorem decided_ofRequest (environment : List (Text × Text)) (r : Request) :
    Decided environment r (ofRequest environment r) := by
  unfold ofRequest
  split
  · next both =>
      obtain ⟨add, remove⟩ := Bool.and_eq_true_iff.mp both
      exact .refused (.addAndRemove add remove)
  next one =>
  have one : ¬ (r.addUser.isSome = true ∧ r.removeUser.isSome = true) := by simpa using one
  split
  · next chosen => exact decided_oneTimeFor chosen one
  next shared =>
  have shared : r.has .oneTime = false := by simpa [has] using shared
  split
  · next chosen => exact decided_accessListFor chosen one shared
  next nobody =>
  have nobody : r.has .user = false := by simpa [has] using nobody
  split
  · next chosen => exact decided_streamFor chosen nobody shared
  next unread =>
  have unread : r.has .input = false := by simpa [has] using unread
  split
  · next name named => exact decided_namedFileFor named nobody shared unread
  next unnamed =>
  split
  · next chosen =>
      have only : r.selectors = [.temporary] := by
        refine selectors_eq_singleton chosen fun t other => ?_
        cases t <;> simp_all [has]
      have compatible : ¬ r.Contradicts := not_contradicts (by simp [only]) one (by simp [unnamed])
      rw [temporaryDirectory, bind_assoc]
      exact decided_fileIn compatible (.inr rfl) (by simp [chosenMode, only]) unnamed
        (by simp [needed, only, longestUser])
  · next shared' =>
      have none : r.selectors = [] := by
        refine selectors_eq_nil fun t => ?_
        cases t <;> simp_all [has]
      have compatible : ¬ r.Contradicts := not_contradicts (by simp [none]) one (by simp [unnamed])
      rw [defaultDirectory, bind_assoc]
      exact decided_fileIn compatible (.inl rfl) (by simp [chosenMode, none]) unnamed
        (by simp [needed, none, longestHome])

/-- Which of three ways a request goes can be read off its options and two variables: it is refused
for its options, it is refused for its environment, or it is taken for an invocation that does what
it says. -/
theorem request_decided (environment : List (Text × Text)) (r : Request) :
    ((∃ message, ofRequest environment r = .error (.usage message)) ↔ r.Contradicts) ∧
    (∀ name, (∃ reason, ofRequest environment r = .error (.environment name reason)) ↔
      ¬ r.Contradicts ∧ r.Lacks environment name) ∧
    ((∃ i, ofRequest environment r = .ok i ∧ Meets r i) ↔
      ¬ r.Contradicts ∧ ∀ name, ¬ r.Lacks environment name) := by
  have decided := decided_ofRequest environment r
  generalize ofRequest environment r = decision at decided
  cases decided with
  | refused contradicts => simp [contradicts]
  | @lacking missing reason compatible lacks =>
      obtain ⟨longest, needed, unusable⟩ := lacks
      refine ⟨by simp [compatible], fun name => ?_, ?_⟩
      · constructor
        · rintro ⟨_, ⟨⟩⟩
          exact ⟨compatible, longest, needed, unusable⟩
        · rintro ⟨-, _, needed', -⟩
          cases needed.symm.trans needed'
          exact ⟨reason, rfl⟩
      · have lacks : r.Lacks environment missing := ⟨longest, needed, unusable⟩
        simp only [reduceCtorEq, false_and, exists_false, false_iff, not_and, not_forall,
          Classical.not_not]
        exact fun _ => ⟨missing, lacks⟩
  | made compatible unneeded meets => simp [compatible, unneeded, meets]

end Invocation
end VncAccess
