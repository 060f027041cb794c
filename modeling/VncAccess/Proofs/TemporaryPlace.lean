import VncAccess.Proofs.Choosing
import VncAccess.Proofs.Lemmas.Ways

/-!
# Where passwords are kept for a while

The directory is named after the user, among those that all users share. It is there as long as the
name has no slash in it: a slash makes the name into several, of which the first can lead away.
-/

namespace VncAccess

/-! ## Names in a text -/

namespace Text

variable {separator : Glyph} {t piece : Text}

theorem splitOn_of_notMem (none : separator ∉ t) : splitOn separator t = [t] := by
  induction t with
  | nil => rfl
  | cons g t ih =>
      have ne : separator ≠ g := List.ne_of_not_mem_cons none
      rw [splitOn, if_neg ne.symm, ih (List.not_mem_of_not_mem_cons none)]

theorem notMem_of_mem_splitOn (h : piece ∈ splitOn separator t) : separator ∉ piece := by
  induction t generalizing piece with
  | nil =>
      rw [splitOn, List.mem_singleton] at h
      rw [h]
      exact List.not_mem_nil
  | cons g t ih =>
      rw [splitOn] at h
      split at h
      · rcases List.mem_cons.mp h with rfl | h
        · exact List.not_mem_nil
        · exact ih h
      next ne =>
      split at h
      · rw [List.mem_singleton.mp h, List.mem_singleton]
        exact Ne.symm ne
      · next first pieces split =>
          rw [split] at ih
          rcases List.mem_cons.mp h with rfl | h
          · exact List.not_mem_cons_of_ne_of_not_mem (Ne.symm ne) (ih (List.mem_cons_self ..))
          · exact ih (List.mem_cons_of_mem _ h)

end Text

namespace Path

variable {t : Text}

theorem anchorOf_eq_relative_iff : anchorOf t = .relative ↔ t.head? ≠ some Text.slash := by
  cases t with
  | nil => simp [anchorOf]
  | cons g t =>
      by_cases absolute : g = Text.slash
      · have filled : ((g :: t).takeWhile (· = Text.slash)).length =
            (t.takeWhile (· = Text.slash)).length + 1 := by simp [absolute]
        rw [anchorOf, filled]
        split <;> simp_all
      · simp [anchorOf, absolute]

theorem slash_notMem_of_mem_names {name : Text} (h : name ∈ (ofText t).names) :
    Text.slash ∉ name :=
  Text.notMem_of_mem_splitOn (List.mem_filter.mp h).1

theorem ofText_of_name (noSlash : Text.slash ∉ t) (filled : t ≠ []) (notDot : t ≠ dot) :
    ofText t = ⟨.relative, [t]⟩ := by
  have relative : anchorOf t = .relative :=
    anchorOf_eq_relative_iff.mpr fun h => noSlash (List.mem_of_mem_head? h)
  rw [ofText, relative, Text.splitOn_of_notMem noSlash]
  simp [filled, notDot]

end Path

/-! ## Ways to a child -/

namespace Tree

variable {t : Tree} {user : Int} {links : Nat} {here : Location} {name top : Bytes} {s : Spot}

/-- A path whose last name is a plain one ends below the directory before, or nowhere. -/
theorem Leads.child (long : 2 < name.length) (leads : Leads t user false links here [name] s) :
    s = .free (here ++ [name]) ∨ ∃ e, s = .taken (here ++ [name]) e := by
  cases leads with
  | empty | dot | up => exact absurd long (by decide)
  | free => exact .inl rfl
  | link => exact .inr ⟨_, rfl⟩
  | down _ _ _ _ rest =>
      cases rest
      exact .inr ⟨_, rfl⟩
  | jump _ _ _ last => cases last rfl

theorem Leads.grandchild {mode : Nat} {owner : Int} (longTop : 2 < top.length)
    (long : 2 < name.length) (directory : t.lookup [top] = some (.directory mode owner))
    (leads : Leads t user false links [] [top, name] s) :
    s = .free [top, name] ∨ ∃ e, s = .taken [top, name] e := by
  cases leads with
  | empty | dot | up => exact absurd longTop (by decide)
  | down _ _ _ _ rest => exact rest.child long
  | jump _ _ found => cases directory.symm.trans found

end Tree

/-! ## The directory of a user -/

namespace Invocation

variable {environment : List (Text × Text)} {r : Request} {user : Text}

/-- The directory for the passwords of a user. -/
def userDirectory (user : Text) : Path := (Path.ofText "/tmp").child (user ++ "-vnc")

theorem temporaryDirectory_of_set (set : environment.lookup (Text.ofString "USER") = some user)
    (short : user.length ≤ 32) : temporaryDirectory environment = .ok (userDirectory user) := by
  have bound : ¬ (longestUser : Int) < user.length := by
    simp only [longestUser]
    omega
  rw [temporaryDirectory, boundedVariable, set]
  simp only [if_neg bound]
  rfl

/-- A slash in front takes the directory away from those that all users share. -/
theorem userDirectory_of_absolute (absolute : user.head? = some Text.slash) :
    userDirectory user = .ofText (user ++ "-vnc") := by
  have anchor : (Path.ofText (user ++ "-vnc")).anchor ≠ .relative := by
    rw [Path.ofText, Ne, Path.anchorOf_eq_relative_iff, Classical.not_not, List.head?_append,
      absolute]
    rfl
  exact if_neg anchor

theorem userDirectory_of_relative (relative : user.head? ≠ some Text.slash) :
    userDirectory user = ⟨.root, "tmp" :: (Path.ofText (user ++ "-vnc")).names⟩ := by
  have tmp : Path.ofText "/tmp" = ⟨.root, ["tmp"]⟩ := by decide
  have anchor : (Path.ofText (user ++ "-vnc")).anchor = .relative := by
    rw [Path.ofText, Path.anchorOf_eq_relative_iff]
    cases user with
    | nil => decide
    | cons g user => simpa using relative
  rw [userDirectory, tmp, Path.child, Path.join, if_pos anchor]
  rfl

/-- The directory bears the user's name in full only if no slash is in the name. -/
theorem userDirectory_eq_iff :
    userDirectory user = ⟨.root, ["tmp", user ++ "-vnc"]⟩ ↔ Text.slash ∉ user := by
  constructor
  · intro eq slashed
    have last : user ++ "-vnc" ∈ (userDirectory user).names := by simp [eq]
    have inside : user ++ "-vnc" ∈ (Path.ofText (user ++ "-vnc")).names := by
      by_cases absolute : user.head? = some Text.slash
      · rwa [userDirectory_of_absolute absolute] at last
      · rw [userDirectory_of_relative absolute] at last
        refine (List.mem_cons.mp last).resolve_left fun same => ?_
        exact absurd (same ▸ List.mem_append_left _ slashed) (by decide)
    exact Path.slash_notMem_of_mem_names inside (List.mem_append_left _ slashed)
  · intro noSlash
    have name : Path.ofText (user ++ "-vnc") = ⟨.relative, [user ++ "-vnc"]⟩ := by
      have suffix : Text.slash ∉ Text.ofString "-vnc" := by decide
      refine Path.ofText_of_name ?_ (by simp [Text.ofString, Text.ofChars]) ?_
      · exact fun h => (List.mem_append.mp h).elim noSlash suffix
      · intro same
        have lengths := congrArg List.length same
        simp [Path.dot, Text.ofString, Text.ofChars] at lengths
    rw [userDirectory_of_relative fun h => noSlash (List.mem_of_mem_head? h), name]

theorem ofRequest_of_temporary (only : r.selectors = [.temporary]) :
    ofRequest environment r =
      (temporaryDirectory environment).bind fun directory =>
        .ok (fileIn .temporary r directory) := by
  have has (s : Selector) : r.has s = true ↔ s = .temporary := by
    rw [← Request.mem_selectors, only, List.mem_singleton]
  have chosen : r.temporary = true := (has .temporary).mpr rfl
  have input := has .input
  have oneTime := has .oneTime
  have user := has .user
  have file := has .file
  simp only [Request.has, reduceCtorEq, iff_false, Bool.not_eq_true, Bool.or_eq_false_iff,
    Option.isSome_eq_false_iff, Option.isNone_iff_eq_none] at input oneTime user file
  simp [ofRequest, input, oneTime, user, file, chosen]
  rfl

/-- A directory that is made ready for its owner alone, and the file that is written there. -/
structure Provides (i : Invocation) (place : Path) : Prop where
  directory : i.directory = some place
  made : i.makeDirectory = true
  strict : i.strict = true
  file : i.file = some { place with names := place.names ++ [Text.ofString "passwd"] }

theorem provides_fileIn (r : Request) (directory : Path) :
    Provides (fileIn .temporary r directory) directory where
  directory := rfl
  made := rfl
  strict := rfl
  file := rfl

/-- From the root of a tree with a directory for temporary files, the path leads to one entry of
that directory, whether there is one yet or not. -/
def LeadsBelow (directory : Path) (name : Text) : Prop :=
  ∀ (fs : FileSystem) (mode : Nat) (owner : Int) (s : Tree.Spot),
    fs.tree.lookup [Text.toBytes "tmp"] = some (.directory mode owner) →
    fs.tree.resolve fs.owner fs.current false directory = .ok s →
    s = .free [Text.toBytes "tmp", name.toBytes] ∨
      ∃ e, s = .taken [Text.toBytes "tmp", name.toBytes] e

theorem leadsBelow_child (user : Text) :
    LeadsBelow ⟨.root, ["tmp", user ++ "-vnc"]⟩ (user ++ "-vnc") := by
  intro fs mode owner s found resolved
  have long : 2 < (user ++ "-vnc" : Text).toBytes.length := by
    have suffix : (Text.ofString "-vnc").toBytes.length = 4 := by decide
    rw [Text.toBytes, List.flatMap_append, List.length_append]
    exact Nat.lt_add_left _ (suffix ▸ by decide)
  rw [Tree.resolve] at resolved
  split at resolved
  · cases resolved
  · exact (Tree.leads_of_walk resolved).grandchild (by decide) long found

/-- Whoever asks for a temporary directory gets one, and it is looked after strictly. It is the one
that bears the user's name if no slash is in the name. -/
theorem temporary_directory_placed (environment : List (Text × Text)) (user : Text) (r : Request)
    (set : environment.lookup (Text.ofString "USER") = some user) (short : user.length ≤ 32)
    (only : r.selectors = [.temporary]) :
    ∃ i directory, ofRequest environment r = .ok i ∧ Provides i directory ∧
      (directory = ⟨.root, ["tmp", user ++ "-vnc"]⟩ ↔ Text.slash ∉ user) ∧
      (Text.slash ∉ user → LeadsBelow directory (user ++ "-vnc")) ∧
      (user.head? = some Text.slash → directory = .ofText (user ++ "-vnc")) := by
  refine ⟨_, userDirectory user, ?_, provides_fileIn r _, userDirectory_eq_iff, fun noSlash => ?_,
    userDirectory_of_absolute⟩
  · rw [ofRequest_of_temporary only, temporaryDirectory_of_set set short]
    rfl
  · rw [userDirectory_eq_iff.mpr noSlash]
    exact leadsBelow_child user

theorem temporary_directory_placed_plain :
    ∃ i, ofRequest [("USER", "alice")] { temporary := true } = .ok i ∧
      Provides i ⟨.root, ["tmp", "alice-vnc"]⟩ := by
  obtain ⟨i, directory, taken, provides, named, -⟩ :=
    temporary_directory_placed [("USER", "alice")] "alice" { temporary := true } rfl (by decide) rfl
  obtain rfl := named.mpr (by decide)
  exact ⟨i, taken, provides⟩

/-- A user's name can begin with a slash, or lead back to the root. -/
theorem temporary_directory_elsewhere :
    (∃ i, ofRequest [("USER", "/home/alice")] { temporary := true } = .ok i ∧
      Provides i ⟨.root, ["home", "alice-vnc"]⟩) ∧
    ∃ i directory, ofRequest [("USER", "../alice")] { temporary := true } = .ok i ∧
      Provides i directory ∧
      Tree.resolve { entries := [([Text.toBytes "tmp"], .directory 0o1777 0)] } 0 [] false
        directory = .ok (.free [Text.toBytes "alice-vnc"]) := by
  refine ⟨⟨_, rfl, ?_⟩, _, ⟨.root, ["tmp", "..", "alice-vnc"]⟩, rfl, ?_, rfl⟩
  · constructor <;> decide
  · constructor <;> decide

end Invocation
end VncAccess
