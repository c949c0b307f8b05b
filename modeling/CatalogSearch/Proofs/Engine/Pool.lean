import CatalogSearch.Proofs.Engine.Dialogue
import Mathlib.Algebra.Ring.Nat
import Mathlib.Data.Set.List
import Mathlib.Logic.Relation

namespace CatalogSearch

variable {N Q α : Type} {A : Q → Type}

inductive Task (N Q : Type) (A : Q → Type) (α : Type) where
  | queued   (d : Dialogue N Q A α)
  | working  (d : Dialogue N Q A α)
  | waiting  (q : Q) (next : Except Error (A q) → Dialogue N Q A α)
  | finished (outcome : Except Error α)

namespace Task

def busy : Task N Q A α → Bool
  | working _ | waiting _ _ => true
  | queued _ | finished _   => false

inductive Step (client : (q : Q) → Except Error (A q)) : Task N Q A α → List Q → Task N Q A α → Prop
  | note   : Step client (.working (.note n rest)) [] (.working rest)
  | ask    : Step client (.working (.ask q next)) [q] (.waiting q next)
  | answer : Step client (.waiting q next) [] (.working (next (client q)))
  | finish : Step client (.working (.done outcome)) [] (.finished outcome)

def rest (client : (q : Q) → Except Error (A q)) : Task N Q A α → Dialogue N Q A α
  | queued d         => d
  | working d        => d
  | waiting q next   => next (client q)
  | finished outcome => .done outcome

def outcome (client : (q : Q) → Except Error (A q)) (t : Task N Q A α) : Except Error α :=
  ((t.rest client).against client).outcome

def remaining (client : (q : Q) → Except Error (A q)) (t : Task N Q A α) : List Q :=
  ((t.rest client).against client).asked

@[simp]
theorem outcome_working : (working d : Task N Q A α).outcome client = (queued d).outcome client :=
  rfl

@[simp]
theorem remaining_working : (working d : Task N Q A α).remaining client = (queued d).remaining client :=
  rfl

def work (client : (q : Q) → Except Error (A q)) : Task N Q A α → Nat
  | queued d       => d.length client + 1
  | working d      => d.length client
  | waiting q next => (next (client q)).length client + 1
  | finished _     => 0

theorem Step.outcome {t t' : Task N Q A α} (h : Step client t asked t') :
    t'.outcome client = t.outcome client := by
  cases h <;> rfl

theorem Step.remaining {t t' : Task N Q A α} (h : Step client t asked t') :
    t.remaining client = asked ++ t'.remaining client := by
  cases h <;> rfl

theorem Step.work {t t' : Task N Q A α} (h : Step client t asked t') :
    t.work client = t'.work client + 1 := by
  cases h <;> rfl

theorem exists_step (client : (q : Q) → Except Error (A q)) {t : Task N Q A α} (h : t.busy) :
    ∃ asked t', Step client t asked t' := by
  cases t
  case queued   => contradiction
  case finished => contradiction
  case waiting  => exact ⟨_, _, .answer⟩
  case working d =>
    cases d
    case done => exact ⟨_, _, .finish⟩
    case note => exact ⟨_, _, .note⟩
    case ask  => exact ⟨_, _, .ask⟩

theorem finished_of_not_busy {t : Task N Q A α} (hb : ¬t.busy) (hq : ∀ d, t ≠ queued d) :
    t ∈ Set.range finished := by
  cases t
  case queued d   => exact absurd rfl (hq d)
  case working    => exact absurd rfl hb
  case waiting    => exact absurd rfl hb
  case finished o => exact ⟨o, rfl⟩

end Task

structure Pool (N Q : Type) (A : Q → Type) (α : Type) where
  tasks : List (Task N Q A α)
  sent  : List Q

namespace Pool

def start (ds : List (Dialogue N Q A α)) : Pool N Q A α where
  tasks := ds.map .queued
  sent  := []

def busy (p : Pool N Q A α) : Nat :=
  p.tasks.countP Task.busy

-- The client may answer every task in another way, but it does so at any time.
inductive Step (workers : Nat) (client : Nat → (q : Q) → Except Error (A q)) (p : Pool N Q A α) :
    Pool N Q A α → Prop
  | take (ht : p.tasks = before ++ .queued d :: after) (hw : p.busy < workers) :
    Step workers client p { p with tasks := before ++ .working d :: after }
  | proceed (ht : p.tasks = before ++ t :: after) (hs : Task.Step (client before.length) t asked t') :
    Step workers client p { tasks := before ++ t' :: after, sent := p.sent ++ asked }

abbrev Steps (workers : Nat) (client : Nat → (q : Q) → Except Error (A q)) :
    Pool N Q A α → Pool N Q A α → Prop :=
  Relation.ReflTransGen (Step workers client)

def Finished (p : Pool N Q A α) (outcomes : List (Except Error α)) : Prop :=
  p.tasks = outcomes.map .finished

section

variable (client : Nat → (q : Q) → Except Error (A q))

def outcomes (p : Pool N Q A α) : List (Except Error α) :=
  p.tasks.mapIdx fun i t => t.outcome (client i)

def requests (p : Pool N Q A α) : List Q :=
  p.sent ++ (p.tasks.mapIdx fun i t => t.remaining (client i)).flatten

end

variable {client : Nat → (q : Q) → Except Error (A q)} {p p' : Pool N Q A α}

theorem Step.outcomes (h : Step workers client p p') : p'.outcomes client = p.outcomes client := by
  cases h
  case take ht hw    => simp [Pool.outcomes, ht, List.mapIdx_append, List.mapIdx_cons]
  case proceed ht hs => simp [Pool.outcomes, ht, List.mapIdx_append, List.mapIdx_cons, hs.outcome]

theorem Step.requests (h : Step workers client p p') :
    (p'.requests client).Perm (p.requests client) := by
  cases h
  case take ht hw    => simp [Pool.requests, ht, List.mapIdx_append, List.mapIdx_cons]
  case proceed ht hs =>
    simp only [Pool.requests, ht, List.mapIdx_append, List.mapIdx_cons, List.flatten_append,
      List.flatten_cons, Nat.zero_add, hs.remaining, List.append_assoc]
    exact .append_left _ <| List.perm_append_comm_assoc ..

theorem Steps.outcomes (h : Steps workers client p p') : p'.outcomes client = p.outcomes client := by
  induction h
  case refl       => rfl
  case tail hs hi => exact hs.outcomes.trans hi

theorem Steps.requests (h : Steps workers client p p') :
    (p'.requests client).Perm (p.requests client) := by
  induction h
  case refl       => rfl
  case tail hs hi => exact hs.requests.trans hi

theorem outcomes_start (ds : List (Dialogue N Q A α)) :
    (start ds).outcomes client = ds.mapIdx fun i d => (d.against (client i)).outcome :=
  List.ext_getElem? fun i => by simp [Pool.outcomes, start, Task.outcome, Task.rest, Function.comp_def]

theorem requests_start (ds : List (Dialogue N Q A α)) :
    (start ds).requests client = (ds.mapIdx fun i d => (d.against (client i)).asked).flatten := by
  refine congrArg List.flatten <| List.ext_getElem? fun i => ?_
  simp [start, Task.remaining, Task.rest, Function.comp_def]

theorem Finished.outcomes_eq (h : p.Finished os) : p.outcomes client = os :=
  List.ext_getElem? fun i => by
    simp [Pool.outcomes, show p.tasks = _ from h, Function.comp_def, Task.outcome, Task.rest,
      Dialogue.against, Dialogue.run]

theorem Finished.requests_eq (h : p.Finished os) : p.requests client = p.sent := by
  have hr : ∀ asked ∈ p.tasks.mapIdx (fun i t => t.remaining (client i)), asked = [] := by
    intro asked ha
    rw [show p.tasks = _ from h] at ha
    obtain ⟨i, hi, rfl⟩ := List.mem_mapIdx.mp ha
    simp [Task.remaining, Task.rest, Dialogue.against, Dialogue.run]
  simp [Pool.requests, List.flatten_eq_nil_iff.mpr hr]

-- Whatever the order of the steps, each dialogue comes to what it comes to alone, and sends the same.
theorem Steps.finished {ds : List (Dialogue N Q A α)} (h : Steps workers client (start ds) p)
    (hf : p.Finished os) :
    os = ds.mapIdx (fun i d => (d.against (client i)).outcome) ∧
    p.sent.Perm (ds.mapIdx fun i d => (d.against (client i)).asked).flatten := by
  have ho : p.outcomes client = (start ds).outcomes client := h.outcomes
  have hr : (p.requests client).Perm ((start ds).requests client) := h.requests
  rw [hf.outcomes_eq, outcomes_start] at ho
  rw [hf.requests_eq, requests_start] at hr
  exact ⟨ho, hr⟩

theorem Steps.finished_alike {client : (q : Q) → Except Error (A q)} {ds : List (Dialogue N Q A α)}
    (h : Steps workers (fun _ => client) (start ds) p) (hf : p.Finished os) :
    os = ds.map (fun d => (d.against client).outcome) ∧
    p.sent.Perm (ds.flatMap fun d => (d.against client).asked) := by
  have hi {β : Type} (f : Dialogue N Q A α → β) : ds.mapIdx (fun _ d => f d) = ds.map f :=
    List.ext_getElem? fun i => by simp
  have ⟨ho, hp⟩ := h.finished hf
  rw [hi] at ho hp
  exact ⟨ho, List.flatMap_def ▸ hp⟩

def work (client : Nat → (q : Q) → Except Error (A q)) (p : Pool N Q A α) : Nat :=
  (p.tasks.mapIdx fun i t => t.work (client i)).sum

theorem Step.work (h : Step workers client p p') : p.work client = p'.work client + 1 := by
  cases h
  case take ht hw    => simp [Pool.work, ht, List.mapIdx_append, List.mapIdx_cons, Task.work]; omega
  case proceed ht hs => simp [Pool.work, ht, List.mapIdx_append, List.mapIdx_cons, hs.work]; omega

theorem exists_step (hw : 0 < workers) (client : Nat → (q : Q) → Except Error (A q))
    (p : Pool N Q A α) :
    (∃ os, p.Finished os) ∨ ∃ p', Step workers client p p' := by
  by_cases hb : ∃ t ∈ p.tasks, t.busy
  case pos =>
    have ⟨t, hm, hb⟩ := hb
    have ⟨before, after, ht⟩ := List.append_of_mem hm
    have ⟨asked, t', hs⟩ := Task.exists_step (client before.length) hb
    exact .inr ⟨_, .proceed ht hs⟩
  case neg =>
    -- Nobody is busy, so a queued task can be taken.
    have hb : ∀ t ∈ p.tasks, ¬t.busy := fun t hm hb' => hb ⟨t, hm, hb'⟩
    by_cases hq : ∃ d, .queued d ∈ p.tasks
    case pos =>
      have ⟨d, hm⟩ := hq
      have ⟨before, after, ht⟩ := List.append_of_mem hm
      have hn : p.busy = 0 := List.countP_eq_zero.mpr hb
      exact .inr ⟨_, .take ht (hn ▸ hw)⟩
    case neg =>
      have hf : p.tasks ∈ {ts | ∀ t ∈ ts, t ∈ Set.range Task.finished} := fun t hm =>
        Task.finished_of_not_busy (hb t hm) fun d hd => hq ⟨d, hd ▸ hm⟩
      have ⟨os, ho⟩ : p.tasks ∈ Set.range (List.map Task.finished) := Set.range_list_map _ ▸ hf
      exact .inl ⟨os, ho.symm⟩

theorem exists_finished (hw : 0 < workers) (client : Nat → (q : Q) → Except Error (A q))
    (p : Pool N Q A α) :
    ∃ p' os, Steps workers client p p' ∧ p'.Finished os := by
  induction h : p.work client using Nat.strong_induction_on generalizing p
  case h n hi =>
    rcases exists_step hw client p with ⟨os, hf⟩ | ⟨p', hs⟩
    case inl => exact ⟨p, os, .refl, hf⟩
    case inr =>
      have ⟨p'', os, hr, hf⟩ := hi (p'.work client) (by have := hs.work; omega) p' rfl
      exact ⟨p'', os, .head hs hr, hf⟩

end Pool
end CatalogSearch
