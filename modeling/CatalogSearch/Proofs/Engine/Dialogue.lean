import CatalogSearch.Engine.Dialogue
import CatalogSearch.Proofs.Outcome

namespace CatalogSearch

variable {N Q α β σ : Type} {A : Q → Type}

def Transcript.andThen (t : Transcript σ N Q α) (next : α → σ → Transcript σ N Q β) :
    Transcript σ N Q β :=
  match t.outcome with
  | .error e => { t with outcome := .error e }
  | .ok x    =>
    let u := next x t.state
    { u with asked := t.asked ++ u.asked, notes := t.notes ++ u.notes }

namespace Transcript

variable {t : Transcript σ N Q α} {next : α → σ → Transcript σ N Q β}

theorem andThen_of_ok (h : t.outcome = .ok x) :
    t.andThen next =
      { next x t.state with
        asked := t.asked ++ (next x t.state).asked, notes := t.notes ++ (next x t.state).notes } := by
  simp [andThen, h]

theorem andThen_of_error (h : t.outcome = .error e) :
    t.andThen next = { t with outcome := .error e } := by
  simp [andThen, h]

theorem andThen_outcome :
    (t.andThen next).outcome = t.outcome >>= fun x => (next x t.state).outcome := by
  cases h : t.outcome
  case error => rw [andThen_of_error h]; rfl
  case ok    => rw [andThen_of_ok h]; rfl

theorem andThen_outcome_eq_ok_iff :
    (t.andThen next).outcome = .ok y ↔ ∃ x, t.outcome = .ok x ∧ (next x t.state).outcome = .ok y := by
  rw [andThen_outcome, Outcome.bind_eq_ok_iff]

structure AmountsTo (t : Transcript σ N Q α) (asked : List Q) (state : σ) (outcome : Except Error α) :
    Prop where
  asked   : t.asked = asked
  state   : t.state = state
  outcome : t.outcome = outcome

variable {o : Except Error α} {f : α → Except Error β}

theorem AmountsTo.append (h : t.AmountsTo qs s (.ok x)) (hn : (next x s).AmountsTo qs' s' o') :
    (t.andThen next).AmountsTo (qs ++ qs') s' o' := by
  rw [andThen_of_ok h.outcome, h.state]
  exact ⟨congrArg₂ (· ++ ·) h.asked hn.asked, hn.state, hn.outcome⟩

theorem AmountsTo.stop (h : t.AmountsTo qs s (.error e)) : (t.andThen next).AmountsTo qs s (.error e) :=
  andThen_of_error h.outcome ▸ ⟨h.asked, h.state, rfl⟩

theorem AmountsTo.andThen (h : t.AmountsTo qs s o) (hn : ∀ x, (next x s).AmountsTo [] s (f x)) :
    (t.andThen next).AmountsTo qs s (o >>= f) := by
  cases o
  case error => exact h.stop
  case ok x  => exact List.append_nil qs ▸ h.append (hn x)

theorem AmountsTo.before (h : t.AmountsTo [] s (.ok x)) (hn : (next x s).AmountsTo qs s' o') :
    (t.andThen next).AmountsTo qs s' o' :=
  h.append hn

end Transcript

namespace Dialogue

theorem bind_bind (d : Dialogue N Q A α) (f : α → Dialogue N Q A β) (g : β → Dialogue N Q A γ) :
    (d.bind f).bind g = d.bind fun x => (f x).bind g := by
  induction d
  case done outcome => cases outcome <;> rfl
  case note hi      => simp [bind, hi]
  case ask hi       => simp [bind, hi]

theorem bind_done (d : Dialogue N Q A α) : d.bind (fun x => .done (.ok x)) = d := by
  induction d
  case done outcome => cases outcome <;> rfl
  case note hi      => simp [bind, hi]
  case ask hi       => simp [bind, hi]

instance : LawfulMonad (Dialogue N Q A) :=
  .mk' _ bind_done (fun _ _ => rfl) bind_bind

theorem mapM_liftM (outcomes : List (Except Error α)) :
    outcomes.mapM (fun o => (liftM o : Dialogue N Q A α)) = liftM (outcomes.mapM id) := by
  induction outcomes
  case nil => rfl
  case cons o os hi =>
    rw [List.mapM_cons, List.mapM_cons, hi]
    cases o
    case error => rfl
    case ok    => cases os.mapM id <;> rfl

section

variable {partner : σ → (q : Q) → Except Error (A q) × σ} {s : σ}

theorem run_bind (d : Dialogue N Q A α) (f : α → Dialogue N Q A β) :
    (d >>= f).run partner s = (d.run partner s).andThen fun x s => (f x).run partner s := by
  change (d.bind f).run partner s = _
  induction d generalizing s
  case done outcome =>
    cases outcome
    case error => rfl
    case ok    => simp [bind, run, Transcript.andThen]
  case note n rest hi =>
    simp only [bind, run, hi]
    cases h : (rest.run partner s).outcome <;> simp [Transcript.andThen, h]
  case ask q next hi =>
    simp only [bind, run, hi]
    cases h : ((next (partner s q).1).run partner (partner s q).2).outcome <;>
      simp [Transcript.andThen, h]

@[simp]
theorem run_pure (x : α) :
    (pure x : Dialogue N Q A α).run partner s =
      { outcome := .ok x, asked := [], notes := [], state := s } :=
  rfl

@[simp]
theorem run_liftM (o : Except Error α) :
    (liftM o : Dialogue N Q A α).run partner s =
      { outcome := o, asked := [], notes := [], state := s } :=
  rfl

@[simp]
theorem run_remark (n : N) :
    (remark n : Dialogue N Q A Unit).run partner s =
      { outcome := .ok (), asked := [], notes := [n], state := s } :=
  rfl

@[simp]
theorem run_question (q : Q) :
    (question q : Dialogue N Q A (A q)).run partner s =
      { outcome := (partner s q).1, asked := [q], notes := [], state := (partner s q).2 } :=
  rfl

theorem run_attempt (d : Dialogue N Q A α) :
    d.attempt.run partner s = { d.run partner s with outcome := .ok (d.run partner s).outcome } := by
  induction d generalizing s <;> simp_all [attempt, run]

theorem seq_ok_iff {d : Dialogue N Q A PUnit} {d' : Dialogue N Q A α} :
    ((d >>= fun _ => d').run partner s).outcome = .ok y ↔
      (d.run partner s).outcome = .ok () ∧ (d'.run partner (d.run partner s).state).outcome = .ok y := by
  rw [run_bind, Transcript.andThen_outcome_eq_ok_iff, exists_and_right]
  exact and_congr_left' ⟨fun ⟨_, h⟩ => h, fun h => ⟨(), h⟩⟩

theorem forM_ok_iff {f : β → Dialogue N Q A PUnit} {P : β → Prop} {xs : List β}
    (h : ∀ x s, ((f x).run partner s).outcome = .ok () ↔ P x) :
    ((xs.forM f).run partner s).outcome = .ok () ↔ ∀ x ∈ xs, P x := by
  induction xs generalizing s
  case nil => simp
  case cons x xs hi =>
    change ((f x >>= fun _ => xs.forM f).run partner s).outcome = _ ↔ _
    rw [seq_ok_iff, List.forall_mem_cons, h, hi]

@[simp]
theorem asked_discard (d : Dialogue N Q A α) :
    ((discard d).run partner s).asked = (d.run partner s).asked := by
  change ((d >>= fun _ => pure ()).run partner s).asked = _
  rw [run_bind]
  cases h : (d.run partner s).outcome <;> simp [Transcript.andThen, h]

end

def Silent : Dialogue N Q A α → Prop
  | .done _      => True
  | .note _ rest => Silent rest
  | .ask _ _     => False

theorem Silent.bind {d : Dialogue N Q A α} {f : α → Dialogue N Q A β} (h : d.Silent)
    (hf : ∀ x, (f x).Silent) : (d >>= f).Silent := by
  change (d.bind f).Silent
  induction d
  case done outcome =>
    cases outcome
    case error => trivial
    case ok x  => exact hf x
  case note n rest hi => exact hi h
  case ask            => exact h.elim

theorem Silent.asked {partner : σ → (q : Q) → Except Error (A q) × σ} {s : σ} {d : Dialogue N Q A α}
    (h : d.Silent) : (d.run partner s).asked = [] := by
  induction d generalizing s
  case done           => rfl
  case note n rest hi => exact hi h
  case ask            => exact h.elim

theorem silent_forM {f : β → Dialogue N Q A PUnit} (h : ∀ x, (f x).Silent) (xs : List β) :
    (xs.forM f).Silent := by
  induction xs
  case nil          => trivial
  case cons x xs hi => exact (h x).bind fun _ => hi

def numbered (replies : Nat → (q : Q) → Except Error (A q)) (n : Nat) (q : Q) :
    Except Error (A q) × Nat :=
  (replies n q, n + 1)

def against (client : (q : Q) → Except Error (A q)) (d : Dialogue N Q A α) : Transcript Unit N Q α :=
  d.run (fun s q => (client q, s)) ()

def length (client : (q : Q) → Except Error (A q)) : Dialogue N Q A α → Nat
  | .done _      => 1
  | .note _ rest => rest.length client + 1
  | .ask q next  => (next (client q)).length client + 2

section

variable {client : (q : Q) → Except Error (A q)}

theorem against_bind (d : Dialogue N Q A α) (f : α → Dialogue N Q A β) :
    (d >>= f).against client = (d.against client).andThen fun x _ => (f x).against client :=
  run_bind ..

@[simp]
theorem against_pure (x : α) :
    (pure x : Dialogue N Q A α).against client =
      { outcome := .ok x, asked := [], notes := [], state := () } :=
  rfl

@[simp]
theorem against_liftM (o : Except Error α) :
    (liftM o : Dialogue N Q A α).against client =
      { outcome := o, asked := [], notes := [], state := () } :=
  rfl

end

theorem run_numbered (client : (q : Q) → Except Error (A q)) (d : Dialogue N Q A α) (n : Nat) :
    (d.run (numbered fun _ => client) n).outcome = (d.against client).outcome ∧
    (d.run (numbered fun _ => client) n).asked = (d.against client).asked := by
  induction d generalizing n <;> simp_all [run, against, numbered]

end Dialogue
end CatalogSearch
