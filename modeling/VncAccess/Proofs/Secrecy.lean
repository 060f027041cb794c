import VncAccess.Proofs.Agreement
import VncAccess.Proofs.Lemmas.Blindness
import VncAccess.Proofs.Lemmas.Mirrored
import VncAccess.Proofs.Lemmas.Veiled

/-!
# What shows of the passwords

Two requests that differ in the passwords that are entered, but not in their lengths and
repetitions, end in the same way. They ask and say the same, and leave the same files but for the
bytes of the password file.
-/

namespace VncAccess

open Secret FileSystem

/-! ## Slots of the same length -/

namespace Password

variable {first first' : Bytes} {second second' : Option Bytes}

end Password

/-! ## Hosts that are the same to anyone who does not read the password file -/

/-- The trees are the same but for the bytes of the file that a path names, or of a temporary one
for it that the system does not remove. -/
inductive SameButContent (path : Path) (fs gs : FileSystem) : Prop where
  | file {base : Tree} {l : Location} {content content' : Bytes} :
      { fs with tree := base }.Names path l → content'.length = content.length →
      fs.tree = base.put l (.file 0o600 fs.owner content) →
      gs.tree = base.put l (.file 0o600 fs.owner content') → SameButContent path fs gs
  | temporary {base : Tree} {l : Location} {mode : Nat} {content content' : Bytes} : fs.Retains →
      { fs with tree := base }.Temporary path.parent l → mode % 0o100 = 0 →
      content'.length = content.length → fs.tree = base.put l (.file mode fs.owner content) →
      gs.tree = base.put l (.file mode fs.owner content') → SameButContent path fs gs

/-- What shows of two requests is the same. The secret is in the password file, or in a stream of
passwords. -/
structure Indistinct (i : Invocation) (s t : Host) : Prop where
  prompts : t.terminal.prompts = s.terminal.prompts
  console : t.console = s.console
  tree : t.files.tree = s.files.tree ∨
    i.mode ≠ .stream ∧ ∃ path, i.file = some path ∧ SameButContent path s.files t.files
  output : t.output = s.output ∨
    i.mode = .stream ∧ t.output.written.length = s.output.written.length

/-- The hosts are the same but for the entries to come, of which only the bytes differ. -/
inductive DifferInEntries (i : Invocation) (h : Host) : Host → Prop where
  | typed {answers : List Answer} : i.mode = .file ∨ i.mode = .temporary →
      Password.Alike h.terminal.answers answers →
      DifferInEntries i h { h with terminal := { h.terminal with answers } }
  | piped {rest : Bytes} : i.mode = .stream →
      Password.lengthsAhead 2 rest = Password.lengthsAhead 2 h.input.rest →
      DifferInEntries i h { h with input := { h.input with rest } }

variable {i : Invocation} {s t : Host}

theorem sharesConsole_differInEntries : SharesConsole (DifferInEntries i) where
  same _ _ differ := by cases differ <;> rfl
  keeps _ _ _ differ := by
    cases differ with
    | typed typed alike => exact .typed typed alike
    | piped piped ahead => exact .piped piped ahead

theorem Host.SameButTyped.indistinct (same : s.SameButTyped t) : Indistinct i s t := by
  obtain ⟨_, _, rfl⟩ := same
  exact ⟨rfl, rfl, .inl rfl, .inl rfl⟩

theorem Host.SameButPiped.indistinct (same : s.SameButPiped t) : Indistinct i s t := by
  obtain ⟨_, _, rfl⟩ := same
  exact ⟨rfl, rfl, .inl rfl, .inl rfl⟩

theorem DifferInEntries.mode (differ : DifferInEntries i s t) :
    i.mode = .file ∨ i.mode = .temporary ∨ i.mode = .stream := by
  cases differ with
  | typed typed => exact typed.imp_right .inl
  | piped piped => exact .inr (.inr piped)

theorem DifferInEntries.indistinct (differ : DifferInEntries i s t) : Indistinct i s t := by
  cases differ <;> exact ⟨rfl, rfl, .inl rfl, .inl rfl⟩

theorem Indistinct.withFiles (h : Indistinct i s t) {fs gs : FileSystem}
    (tree : gs.tree = fs.tree ∨
      i.mode ≠ .stream ∧ ∃ path, i.file = some path ∧ SameButContent path fs gs) :
    Indistinct i (s.withFiles fs) (t.withFiles gs) :=
  ⟨h.prompts, h.console, tree, h.output⟩

/-- Both computations have the same value or the same failure, and what shows of them is the
same. -/
def SameEnd {α : Type} (i : Invocation) (x y : Run α) (s t : Host) : Prop :=
  Together x y s t (fun a s' b t' => b = a ∧ Indistinct i s' t') fun _ => Indistinct i

section Ends

variable {α β : Type} {x y : Run α} {f g : α → Run β}

theorem SameEnd.bind (ends : SameEnd i x y s t)
    (next : ∀ a s' t', Indistinct i s' t' → SameEnd i (f a) (g a) s' t') :
    SameEnd i (x >>= f) (y >>= g) s t :=
  Matches.bind ends next

theorem SameEnd.released (ends : SameEnd i x y s t) (p p' : Pair) :
    SameEnd i (Run.always (Password.releasePair p) x) (Run.always (Password.releasePair p') y)
      s t := by
  have released {s' t' : Host} (shown : Indistinct i s' t') :
      Indistinct i (Password.releasePair p s') (Password.releasePair p' t') :=
    ⟨shown.prompts, shown.console, shown.tree, shown.output⟩
  refine Run.together_always (Together.imp ends ?_ fun _ _ _ => released)
  rintro a s' _ t' ⟨rfl, shown⟩
  exact ⟨rfl, released shown⟩

end Ends

/-! ## Writing a pair -/

namespace Password.File

variable {m m' : Memory} {p p' : Pair} {path : Path}

end Password.File

/-! ## Requests -/

namespace Command

open Password

/-- The requests have not got to their entries yet, and what they have done since they started from
`h` is nothing but to say something and to look at files. -/
def Ahead (i : Invocation) (h s t : Host) : Prop :=
  DifferInEntries i s t ∧ h.Becomes h.files.tree s

variable {h : Host}

theorem sharesConsole_ahead : SharesConsole (Ahead i h) where
  same _ _ ahead := sharesConsole_differInEntries.same _ _ ahead.1
  keeps _ _ console ahead :=
    ⟨sharesConsole_differInEntries.keeps _ _ console ahead.1, ahead.2.said console⟩

theorem Ahead.toned (ahead : Ahead i h s t) (off : Bool) :
    Ahead i h (if off then setConsole withoutColour s else s)
      (if off then setConsole withoutColour t else t) := by
  cases off with
  | true => exact sharesConsole_ahead.change ahead withoutColour
  | false => exact ahead

theorem Ahead.bind {α β : Type} {x : Run α} {f g : α → Run β} (ahead : Ahead i h s t)
    (hx : Blind (Ahead i h) x)
    (next : ∀ a s' t', Ahead i h s' t' → SameEnd i (f a) (g a) s' t') :
    SameEnd i (x >>= f) (x >>= g) s t := by
  refine Together.bind ((hx s t ahead).imp (fun _ _ _ _ => id)
    fun _ _ _ left => left.1.indistinct) ?_
  rintro _ s' a t' ⟨rfl, ahead'⟩
  exact next a s' t' ahead'

end Command
end VncAccess
