import CatalogSearch.Error
import CatalogSearch.Files.Path

namespace CatalogSearch

inductive Content where
  | text  (s : String)
  | bytes (bs : ByteArray)

def Content.text? : Content → Option String
  | text s   => some s
  | bytes bs => String.fromUTF8? bs

inductive FileNode where
  | file (content : Content)
  | directory

structure FileTree where
  nodes : List (Path × FileNode) := []

namespace FileTree

def node? (t : FileTree) (p : Path) : Option FileNode :=
  match t.nodes.lookup p with
  | some node => some node
  | none      => if p = [] ∨ t.nodes.any (·.1.under p) then some .directory else none

def put (t : FileTree) (p : Path) (node : FileNode) : FileTree where
  nodes := (t.nodes.filter (·.1 ≠ p)) ++ [(p, node)]

theorem mem_put (t : FileTree) : e ∈ (t.put p node).nodes ↔ e ∈ t.nodes ∧ e.1 ≠ p ∨ e = (p, node) := by
  simp [put]

theorem lookup_put (t : FileTree) :
    (t.put p node).nodes.lookup q = if q = p then some node else t.nodes.lookup q := by
  rw [put, List.lookup_append]
  by_cases hq : q = p
  case pos =>
    have hn : (t.nodes.filter (·.1 ≠ p)).lookup p = none := by
      rw [List.lookup_eq_none_iff]
      intro e he
      have hp : e.1 ≠ p := by simpa using (List.mem_filter.mp he).right
      simpa using hp.symm
    simp only [hq, hn, List.lookup_cons_self, Option.none_or, if_true]
  case neg =>
    have hs : (t.nodes.filter (·.1 ≠ p)).lookup q = t.nodes.lookup q := by
      induction t.nodes
      case nil           => rfl
      case cons hd tl hi => by_cases hp : hd.1 = p <;> grind
    have hn : [(p, node)].lookup q = none := by simp [List.lookup_cons, beq_false_of_ne hq]
    rw [hs, hn, Option.or_none, if_neg hq]

@[simp]
theorem node?_put_self (t : FileTree) : (t.put p node).node? p = some node := by
  simp [node?, lookup_put]

theorem node?_put_above (t : FileTree) (h : q <+: p) (hq : q ≠ p)
    (hf : ∀ content, t.node? q ≠ some (.file content)) : (t.put p node).node? q = some .directory := by
  have hu : (t.put p node).nodes.any (·.1.under q) :=
    List.any_eq_true.mpr ⟨(p, node), by simp [put], Path.under_iff.mpr ⟨h, hq⟩⟩
  rw [node?, lookup_put, if_neg hq]
  cases hn : t.nodes.lookup q
  case none => simp [hu]
  case some place =>
    cases place
    case file content => exact absurd (by simp [node?, hn]) (hf content)
    case directory    => rfl

theorem node?_put_aside (t : FileTree) (h : ¬ q <+: p) : (t.put p node).node? q = t.node? q := by
  have hn : ¬ Path.under p q := fun hu => h (Path.under_iff.mp hu).left
  have hu : (t.put p node).nodes.any (·.1.under q) = t.nodes.any (·.1.under q) := by
    rw [Bool.eq_iff_iff, List.any_eq_true, List.any_eq_true]
    constructor
    case mp =>
      rintro ⟨e, he, hu⟩
      rcases t.mem_put.mp he with ⟨he, _⟩ | rfl
      case inl => exact ⟨e, he, hu⟩
      case inr => exact absurd hu hn
    case mpr =>
      rintro ⟨e, he, hu⟩
      exact ⟨e, t.mem_put.mpr <| .inl ⟨he, fun hp => hn (hp ▸ hu)⟩, hu⟩
  have hq : q ≠ p := fun hq => h (hq ▸ List.prefix_rfl)
  simp only [node?, lookup_put, if_neg hq, hu]

def stepLimit : Nat := 255
def pathLimit : Nat := 4095

def walk (t : FileTree) (whole directory : Path) : List String → Except FileError (Option FileNode)
  | []            => .ok (some .directory)
  | step :: steps =>
    if stepLimit < step.utf8ByteSize then .error <| .nameTooLong whole.text
    else
      let next := directory ++ [step]
      match t.node? next with
      | none            => .ok none
      | some .directory => walk t whole next steps
      | some file       => if steps.isEmpty then .ok (some file) else .error <| .notDirectory whole.text

-- What lies at a path, if anything does. A path may not lead through a file.
def locate (t : FileTree) (p : Path) : Except FileError (Option FileNode) :=
  if pathLimit < p.text.utf8ByteSize then .error <| .nameTooLong p.text else t.walk p [] p

-- Whether there is anything at a path. Nothing lies below a file.
def contains (t : FileTree) (p : Path) : Except FileError Bool :=
  match t.locate p with
  | .ok node?                => .ok node?.isSome
  | .error (.notDirectory _) => .ok false
  | .error e                 => .error e

def makeStep (t : FileTree) (p : Path) : Except FileError FileTree := do
  match ← t.locate p with
  | some .directory => return t
  | some (.file _)  => throw <| .exists p.text
  | none            => return t.put p .directory

def makeSteps (t : FileTree) (directory : Path) : List String → Except FileError FileTree
  | []            => .ok t
  | step :: steps => do makeSteps (← t.makeStep (directory ++ [step])) (directory ++ [step]) steps

def makeDirectory (t : FileTree) (p : Path) : Except FileError FileTree := do
  match ← t.locate p with
  | some (.file _) => throw <| .exists p.text
  | _              => t.makeSteps [] p

def checkWritable (t : FileTree) (p : Path) : Except FileError Unit := do
  if let some .directory ← t.locate p then throw <| .isDirectory p.text

def write (t : FileTree) (p : Path) (s : String) : Except FileError FileTree := do
  t.checkWritable p
  return t.put p (.file (.text s))

def read (t : FileTree) (p : Path) : Except FileError Content := do
  match ← t.locate p with
  | some (.file content) => return content
  | some .directory      => throw <| .isDirectory p.text
  | none                 => throw <| .notFound p.text

def find (t : FileTree) (p : Path) : Except FileError (Option Content) := do
  if ← t.contains p then return some (← t.read p) else return none

def files (t : FileTree) : List (Path × Content) :=
  t.nodes.filterMap fun
    | (p, .file content)  => some (p, content)
    | (_, .directory)     => none

end FileTree
end CatalogSearch
