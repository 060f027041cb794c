import VncAccess.Proofs.Lemmas.Replacing
import VncAccess.Proofs.Lemmas.Together

/-!
# Trees under a veil

The veil of a tree leaves out what is in its files. A path leads to the same place under the veil,
and so a file is moved in the same way whatever is in it.
-/

namespace VncAccess

def Entry.veil : Entry → Entry
  | directory mode owner => directory mode owner
  | file mode owner _ => file mode owner []
  | link target => link target

namespace Tree

def Spot.veil : Spot → Spot
  | taken l e => taken l e.veil
  | free l => free l

def veil (t : Tree) : Tree := { t with entries := t.entries.map fun x => (x.1, x.2.veil) }

variable {t t' : Tree} {user : Int} {followLast : Bool} {p : Permission} {l : Location}

theorem lookup_veil (t : Tree) (l : Location) : t.veil.lookup l = (t.lookup l).map Entry.veil := by
  by_cases root : l = []
  · subst root
    rfl
  · rw [lookup_of_ne_nil root, lookup_of_ne_nil root, veil]
    induction t.entries with
    | nil => rfl
    | cons x entries ih =>
        obtain ⟨k, e⟩ := x
        simp only [List.map_cons, List.lookup_cons]
        cases l == k with
        | true => rfl
        | false => exact ih

theorem isDirectory_veil (t : Tree) (l : Location) : t.veil.isDirectory l = t.isDirectory l := by
  rw [isDirectory, isDirectory, lookup_veil]
  rcases t.lookup l with _ | _ | _ | _ <;> rfl

theorem permits_veil (t : Tree) (user : Int) (p : Permission) (l : Location) :
    t.veil.permits user p l = t.permits user p l := by
  rw [permits, permits, lookup_veil]
  rcases t.lookup l with _ | _ | _ | _ <;> rfl

theorem walkWith_veil {jump jump' : Location → List Bytes → Except Errno Spot}
    (jumps : ∀ here names, jump' here names = (jump here names).map Spot.veil) (here : Location)
    (names : List Bytes) :
    t.veil.walkWith user followLast jump' here names =
      (t.walkWith user followLast jump here names).map Spot.veil := by
  induction names generalizing here with
  | nil =>
      rw [walkWith, walkWith, lookup_veil]
      cases t.lookup here <;> rfl
  | cons name rest ih =>
      rw [walkWith, walkWith]
      rw [isDirectory_veil, permits_veil]
      dsimp only
      rw [lookup_veil]
      split
      · rfl
      split
      · exact ih here
      split
      · rfl
      split
      · exact ih here
      split
      · exact ih here.dropLast
      split
      · rfl
      rcases t.lookup (here ++ [name]) with _ | _ | _ | target
      · dsimp only [Option.map_none]
        split <;> rfl
      · exact ih (here ++ [name])
      · exact ih (here ++ [name])
      · dsimp only [Option.map_some, Entry.veil]
        split
        · rfl
        · exact jumps _ _

theorem walk_veil (links : Nat) (here : Location) (names : List Bytes) :
    t.veil.walk user followLast links here names =
      (t.walk user followLast links here names).map Spot.veil := by
  induction links generalizing here names with
  | zero =>
      refine walkWith_veil ?_ here names
      intro _ _
      rfl
  | succ links ih => exact walkWith_veil ih here names

theorem resolve_veil (current : Location) (path : Path) :
    t.veil.resolve user current followLast path =
      (t.resolve user current followLast path).map Spot.veil := by
  rw [resolve, resolve]
  split
  · rfl
  · exact walk_veil ..

end Tree

namespace FileSystem

variable {fs gs : FileSystem}

/-- The files are the same but for what is in them. -/
structure Veiled (fs gs : FileSystem) : Prop where
  tree : gs.tree.veil = fs.tree.veil
  rest : gs = { fs with tree := gs.tree }

namespace Veiled

theorem current (h : fs.Veiled gs) : gs.current = fs.current := by rw [h.rest]

theorem owner (h : fs.Veiled gs) : gs.owner = fs.owner := by rw [h.rest]

theorem faultAt (h : fs.Veiled gs) (call : Call) : gs.faultAt call = fs.faultAt call := by
  rw [h.rest]
  rfl

theorem counted (h : fs.Veiled gs) (call : Call) : (fs.counted call).Veiled (gs.counted call) where
  tree := h.tree
  rest := by
    rw [h.rest]
    rfl

theorem permits (h : fs.Veiled gs) (p : Permission) (l : Location) :
    gs.tree.permits gs.owner p l = fs.tree.permits fs.owner p l := by
  rw [← Tree.permits_veil, h.tree, Tree.permits_veil, h.owner]

theorem resolve (h : fs.Veiled gs) (followLast : Bool) (path : Path) :
    (gs.tree.resolve gs.owner gs.current followLast path).map Tree.Spot.veil =
      (fs.tree.resolve fs.owner fs.current followLast path).map Tree.Spot.veil := by
  rw [← Tree.resolve_veil, h.tree, Tree.resolve_veil, h.owner, h.current]

end Veiled

/-- The files of either side with a temporary one, which is open to nobody but its owner. -/
inductive DraftedAlike (fs : FileSystem) (temporary : Location) :
    FileSystem → FileSystem → Prop where
  | intro {mode : Nat} {content content' : Bytes} {calls : List Call} : mode % 0o100 = 0 →
      content'.length = content.length → DraftedAlike fs temporary
        (fs.after (fs.tree.put temporary (.file mode fs.owner content)) calls)
        (fs.after (fs.tree.put temporary (.file mode fs.owner content')) calls)

theorem DraftedAlike.counted {temporary : Location} {fs' gs' : FileSystem}
    (h : fs.DraftedAlike temporary fs' gs') (call : Call) :
    fs.DraftedAlike temporary (fs'.counted call) (gs'.counted call) := by
  obtain @⟨mode, content, content', calls, closed, length⟩ := h
  have more : fs.DraftedAlike temporary
      (fs.after (fs.tree.put temporary (.file mode fs.owner content)) (calls ++ [call]))
      (fs.after (fs.tree.put temporary (.file mode fs.owner content')) (calls ++ [call])) :=
    .intro closed length
  simpa [after, FileSystem.counted] using more

end FileSystem

/-! ## Replacing a file -/

namespace Password.File

open FileSystem

variable {path : Path} {content content' : Bytes} {s t : Host}

end Password.File
end VncAccess
