import CatalogSearch.Error

namespace CatalogSearch

-- A dialogue with notes of a type `N`, and questions of a type `Q` that each have a type of answers.
inductive Dialogue (N Q : Type) (A : Q → Type) (α : Type) where
  | done (outcome : Except Error α)
  | note (n : N) (rest : Dialogue N Q A α)
  | ask  (q : Q) (next : Except Error (A q) → Dialogue N Q A α)

structure Transcript (σ N Q α : Type) where
  outcome : Except Error α
  asked   : List Q
  notes   : List N
  state   : σ

-- A question in other words: what is noted before it is asked, and how an answer to it is understood.
structure Wording (N Q : Type) (A : Q → Type) (α : Type) where
  question   : Q
  notes      : List N := []
  understand : A question → Except Error α

namespace Dialogue

variable {N Q α β σ : Type} {A : Q → Type}

def bind : Dialogue N Q A α → (α → Dialogue N Q A β) → Dialogue N Q A β
  | .done (.ok x), f    => f x
  | .done (.error e), _ => .done (.error e)
  | .note n rest, f     => .note n (bind rest f)
  | .ask q next, f      => .ask q fun reply => bind (next reply) f

instance : Monad (Dialogue N Q A) where
  pure x := .done (.ok x)
  bind   := bind

instance : MonadLift (Except Error) (Dialogue N Q A) := ⟨.done⟩

def remark (n : N) : Dialogue N Q A Unit :=
  .note n (pure ())

def question (q : Q) : Dialogue N Q A (A q) :=
  .ask q .done

def attempt : Dialogue N Q A α → Dialogue N Q A (Except Error α)
  | .done outcome => .done (.ok outcome)
  | .note n rest  => .note n (attempt rest)
  | .ask q next   => .ask q fun reply => attempt (next reply)

def noteAll : List N → Dialogue N Q A α → Dialogue N Q A α
  | [], d      => d
  | n :: ns, d => .note n (noteAll ns d)

def reword {N' Q' : Type} {A' : Q' → Type} (notes : N → List N')
    (words : (q : Q) → Except Error (Wording N' Q' A' (A q))) : Dialogue N Q A α → Dialogue N' Q' A' α
  | .done outcome => .done outcome
  | .note n rest  => noteAll (notes n) (reword notes words rest)
  | .ask q next   =>
    match words q with
    | .error e => reword notes words (next (.error e))
    | .ok r    => noteAll r.notes <| .ask r.question fun reply =>
      reword notes words (next (reply >>= r.understand))

def run (partner : σ → (q : Q) → Except Error (A q) × σ) (s : σ) : Dialogue N Q A α → Transcript σ N Q α
  | .done outcome => { outcome, asked := [], notes := [], state := s }
  | .note n rest  =>
    let t := run partner s rest
    { t with notes := n :: t.notes }
  | .ask q next =>
    let (reply, s) := partner s q
    let t := run partner s (next reply)
    { t with asked := q :: t.asked }

end Dialogue

end CatalogSearch
