import CatalogSearch.Error
import Mathlib.Data.List.Forall2

namespace CatalogSearch.Outcome

variable {ε ε' α β : Type}

theorem bind_eq_ok_iff {x : Except ε α} {f : α → Except ε β} :
    (x >>= f) = .ok b ↔ ∃ a, x = .ok a ∧ f a = .ok b := by
  cases x <;> simp [bind, Except.bind]

theorem bind_eq_error_iff {x : Except ε α} {f : α → Except ε β} :
    (x >>= f) = .error e ↔ x = .error e ∨ ∃ a, x = .ok a ∧ f a = .error e := by
  cases x <;> simp [bind, Except.bind]

theorem exists_ok_iff {x : Except ε α} : (∃ a, x = .ok a) ↔ ∀ e, x ≠ .error e := by
  cases x <;> simp

theorem map_eq_ok_iff {x : Except ε α} {f : α → β} : x.map f = .ok b ↔ ∃ a, x = .ok a ∧ f a = b := by
  cases x <;> simp [Except.map]

theorem map_eq_bind (x : Except ε α) (f : α → β) : x.map f = x >>= fun a => .ok (f a) := by
  cases x <;> rfl

theorem map_eq_error_iff {x : Except ε α} {f : α → β} : x.map f = .error e ↔ x = .error e := by
  cases x <;> simp [Except.map]

theorem mapError_eq_ok_iff {x : Except ε α} {f : ε → ε'} : x.mapError f = .ok a ↔ x = .ok a := by
  cases x <;> simp [Except.mapError]

theorem mapError_eq_error_iff {x : Except ε α} {f : ε → ε'} :
    x.mapError f = .error e' ↔ ∃ e, x = .error e ∧ f e = e' := by
  cases x <;> simp [Except.mapError]

theorem mapM_cons_eq_ok_iff {f : α → Except ε β} {xs : List α} :
    (x :: xs).mapM f = .ok zs ↔ ∃ y ys, f x = .ok y ∧ xs.mapM f = .ok ys ∧ zs = y :: ys := by
  rw [List.mapM_cons]
  cases f x
  case error => simp [bind, Except.bind]
  case ok    => cases xs.mapM f <;> simp [bind, Except.bind, pure, Except.pure, eq_comm]

theorem mapM_append_eq_ok_iff {f : α → Except ε β} {xs xs' : List α} :
    (xs ++ xs').mapM f = .ok zs ↔ ∃ ys ys', xs.mapM f = .ok ys ∧ xs'.mapM f = .ok ys' ∧ zs = ys ++ ys' := by
  rw [List.mapM_append, bind_eq_ok_iff]
  cases xs'.mapM f <;> simp [bind, Except.bind, pure, Except.pure, eq_comm]

theorem mapM_eq_ok_iff {f : α → Except ε β} {xs : List α} :
    xs.mapM f = .ok ys ↔ xs.map f = ys.map .ok := by
  induction xs generalizing ys
  case nil => simp [pure, Except.pure, eq_comm]
  case cons x xs hi =>
    simp only [mapM_cons_eq_ok_iff, hi]
    constructor
    case mp =>
      rintro ⟨y, ys, hx, hxs, rfl⟩
      simp [hx, hxs]
    case mpr =>
      intro h
      obtain ⟨y, ys, rfl, hx, hxs⟩ := List.map_eq_cons_iff.mp h.symm
      exact ⟨y, ys, hx.symm, hxs.symm, rfl⟩

theorem mapM_congr {f g : α → Except ε β} {xs : List α} (h : ∀ x ∈ xs, f x = g x) : xs.mapM f = xs.mapM g := by
  induction xs
  case nil => rfl
  case cons x xs hi =>
    have ⟨hx, hxs⟩ := List.forall_mem_cons.mp h
    rw [List.mapM_cons, List.mapM_cons, hx, hi hxs]

theorem mapM_map {f : α → Except ε β} {g : β → γ} {xs : List α} :
    xs.mapM (fun x => (f x).map g) = (xs.mapM f).map (List.map g) := by
  induction xs
  case nil => rfl
  case cons x xs hi =>
    rw [List.mapM_cons, List.mapM_cons, hi]
    cases f x
    case error => rfl
    case ok    => cases xs.mapM f <;> rfl

theorem exists_mapM_eq_ok {f : α → Except ε β} {xs : List α} (h : ∀ x ∈ xs, ∃ y, f x = .ok y) :
    ∃ ys, xs.mapM f = .ok ys := by
  induction xs
  case nil => exact ⟨[], rfl⟩
  case cons x xs hi =>
    have ⟨⟨y, hy⟩, hxs⟩ := List.forall_mem_cons.mp h
    have ⟨ys, hys⟩ := hi hxs
    exact ⟨y :: ys, mapM_cons_eq_ok_iff.mpr ⟨y, ys, hy, hys, rfl⟩⟩

-- Items are selected by outcomes that are all successes. Those found are put in front of a list, so the
-- induction is on the items that are left.
theorem exists_filterM_eq_ok {f : α → Except ε Bool} {xs : List α} (h : ∀ x ∈ xs, ∃ b, f x = .ok b) :
    ∃ ys, xs.filterM f = .ok ys ∧ ys ⊆ xs := by
  suffices hs : ∀ found, ∃ ys, xs.filterAuxM f found = .ok ys ∧ ys ⊆ xs ++ found by
    have ⟨ys, hy, hsub⟩ := hs []
    exact ⟨ys.reverse, by rw [List.filterM, hy]; rfl, by simpa using hsub⟩
  induction xs
  case nil => exact fun found => ⟨found, rfl, List.Subset.refl _⟩
  case cons x xs hi =>
    intro found
    have ⟨⟨b, hb⟩, hxs⟩ := List.forall_mem_cons.mp h
    have ⟨ys, hy, hsub⟩ := hi hxs (cond b (x :: found) found)
    refine ⟨ys, by rw [List.filterAuxM, hb]; exact hy, fun y hm => ?_⟩
    have hm := hsub hm
    cases b <;> grind

theorem mapM_eq_error_iff {f : α → Except ε β} {xs : List α} :
    xs.mapM f = .error e ↔
      ∃ before x after, xs = before ++ x :: after ∧
        (∀ y ∈ before, ∃ z, f y = .ok z) ∧ f x = .error e := by
  induction xs
  case nil => simp [pure, Except.pure]
  case cons x xs hi =>
    rw [List.mapM_cons, bind_eq_error_iff]
    constructor
    case mp =>
      rintro (hx | ⟨y, hx, hr⟩)
      case inl => exact ⟨[], x, xs, rfl, nofun, hx⟩
      case inr =>
        rcases bind_eq_error_iff.mp hr with hr | ⟨_, _, ⟨⟩⟩
        obtain ⟨before, x', after, rfl, hb, he⟩ := hi.mp hr
        exact ⟨x :: before, x', after, rfl, List.forall_mem_cons.mpr ⟨⟨y, hx⟩, hb⟩, he⟩
    case mpr =>
      rintro ⟨before, x', after, hs, hb, he⟩
      cases before
      case nil =>
        cases hs
        exact .inl he
      case cons y before =>
        cases hs
        have ⟨⟨z, hz⟩, hb⟩ := List.forall_mem_cons.mp hb
        exact .inr ⟨z, hz, bind_eq_error_iff.mpr <| .inl <| hi.mpr ⟨before, x', after, rfl, hb, he⟩⟩

def First (Fault : α → ε → Prop) (xs : List α) (e : ε) : Prop :=
  ∃ before x after, xs = before ++ x :: after ∧ (∀ y ∈ before, ∀ e, ¬Fault y e) ∧ Fault x e

theorem mapM_eq_error_iff_first {f : α → Except ε β} {xs : List α} {Fault : α → ε → Prop}
    (hf : ∀ x ∈ xs, ∀ e, f x = .error e ↔ Fault x e) : xs.mapM f = .error e ↔ First Fault xs e := by
  have ho : ∀ x ∈ xs, (∃ y, f x = .ok y) ↔ ∀ e, ¬Fault x e := fun x hx => by
    rw [exists_ok_iff]
    exact forall_congr' fun e => not_congr (hf x hx e)
  rw [mapM_eq_error_iff]
  constructor
  case mp =>
    rintro ⟨before, x, after, rfl, hb, he⟩
    exact ⟨before, x, after, rfl, fun y hy => (ho y (by simp [hy])).mp (hb y hy), (hf x (by simp) e).mp he⟩
  case mpr =>
    rintro ⟨before, x, after, rfl, hb, he⟩
    exact ⟨before, x, after, rfl, fun y hy => (ho y (by simp [hy])).mpr (hb y hy), (hf x (by simp) e).mpr he⟩

section

variable {first : Except ε α} {rest : List (Except ε α)} {f : α → List α → Except ε β}

theorem bind_mapM_of_error (h : (first :: rest).mapM id = .error e) :
    (do f (← first) (← rest.mapM id)) = .error e := by
  rw [List.mapM_cons, id] at h
  rcases bind_eq_error_iff.mp h with hf | ⟨x, hf, hr⟩
  case inl => rw [hf]; rfl
  case inr =>
    rcases bind_eq_error_iff.mp hr with hr | ⟨_, _, ⟨⟩⟩
    rw [hf, hr]
    rfl

theorem bind_mapM_of_ok (h : (first :: rest).mapM id = .ok (x :: xs)) :
    (do f (← first) (← rest.mapM id)) = f x xs := by
  obtain ⟨_, _, hx, hxs, ⟨⟩⟩ := mapM_cons_eq_ok_iff.mp h
  rw [show first = .ok x from hx, hxs]
  rfl

end

def successes : List (Except ε α) → Nat
  | .ok _ :: outcomes => successes outcomes + 1
  | _                 => 0

theorem successes_of_error {before after : List (Except ε α)} (h : ∀ o ∈ before, ∃ a, o = .ok a) :
    successes (before ++ .error e :: after) = before.length := by
  induction before
  case nil => rfl
  case cons o before hi =>
    have ⟨⟨a, ho⟩, hb⟩ := List.forall_mem_cons.mp h
    rw [ho, List.cons_append, successes, hi hb, List.length_cons]

theorem successes_of_ok (xs : List α) : successes (xs.map (.ok : α → Except ε α)) = xs.length := by
  induction xs
  case nil           => rfl
  case cons x xs hi => rw [List.map_cons, successes, hi, List.length_cons]

theorem forall₂_of_mapM {f : α → Except ε β} {xs : List α} (h : xs.mapM f = .ok ys) :
    List.Forall₂ (fun x y => f x = .ok y) xs ys := by
  induction xs generalizing ys
  case nil => cases h; exact .nil
  case cons x xs ih =>
    obtain ⟨y, ys, hx, hxs, rfl⟩ := mapM_cons_eq_ok_iff.mp h
    exact .cons hx (ih hxs)

theorem mapM_of_ok {f g : α → Except ε β} {xs : List α} (h : xs.mapM f = .ok ys)
    (hi : ∀ x ∈ xs, ∀ y, f x = .ok y → g x = .ok y) : xs.mapM g = .ok ys := by
  induction xs generalizing ys
  case nil => exact h
  case cons x xs ih =>
    have ⟨y, ys, hx, hxs, hy⟩ := mapM_cons_eq_ok_iff.mp h
    have ⟨hi, his⟩ := List.forall_mem_cons.mp hi
    exact mapM_cons_eq_ok_iff.mpr ⟨y, ys, hi y hx, ih hxs his, hy⟩

theorem exists_of_forall₂ {R : α → β → Prop} {xs : List α} {ys : List β} (h : List.Forall₂ R xs ys)
    (hx : x ∈ xs) : ∃ y ∈ ys, R x y := by
  induction h
  case nil => cases hx
  case cons hr _ ih =>
    rcases List.mem_cons.mp hx with rfl | hx
    case inl => exact ⟨_, List.mem_cons_self, hr⟩
    case inr =>
      have ⟨y, hy, hr⟩ := ih hx
      exact ⟨y, List.mem_cons_of_mem _ hy, hr⟩

theorem exists_map_of_forall₂ {R : α → β → Prop} {S : α → γ → Prop} {f : γ → β} {xs : List α} {ys : List β}
    (h : List.Forall₂ R xs ys) (hi : ∀ x y, R x y → ∃ z, S x z ∧ y = f z) :
    ∃ zs, List.Forall₂ S xs zs ∧ ys = zs.map f := by
  induction h
  case nil => exact ⟨[], .nil, rfl⟩
  case cons hr _ ih =>
    have ⟨z, hz, hy⟩ := hi _ _ hr
    have ⟨zs, hzs, hys⟩ := ih
    exact ⟨z :: zs, .cons hz hzs, by rw [hy, hys, List.map_cons]⟩

theorem map_eq_of_mapM {f : α → Except ε β} {xs : List α} {p : α → γ} {q : β → γ}
    (h : xs.mapM f = .ok ys) (hi : ∀ x y, f x = .ok y → q y = p x) : ys.map q = xs.map p := by
  induction xs generalizing ys
  case nil => cases h; rfl
  case cons x xs ih =>
    obtain ⟨y, ys, hx, hxs, rfl⟩ := mapM_cons_eq_ok_iff.mp h
    rw [List.map_cons, List.map_cons, hi x y hx, ih hxs]

theorem map_eq_iff_forall₂ {f : α → Except ε β} {g : β → γ} {R : α → α → Prop} {xs xs' : List α}
    {ys ys' : List β} (h : xs.mapM f = .ok ys) (h' : xs'.mapM f = .ok ys')
    (hi : ∀ x ∈ xs, ∀ x' ∈ xs', ∀ y y', f x = .ok y → f x' = .ok y' → (g y = g y' ↔ R x x')) :
    ys.map g = ys'.map g ↔ List.Forall₂ R xs xs' := by
  induction xs generalizing xs' ys ys'
  case nil =>
    cases h
    cases forall₂_of_mapM h' <;> simp
  case cons x xs ih =>
    obtain ⟨y, ys, hx, hxs, rfl⟩ := mapM_cons_eq_ok_iff.mp h
    cases xs'
    case nil => cases h'; simp
    case cons x' xs' =>
      obtain ⟨y', ys', hx', hxs', rfl⟩ := mapM_cons_eq_ok_iff.mp h'
      have hh := hi x List.mem_cons_self x' List.mem_cons_self y y' hx hx'
      have ht := ih hxs hxs' fun x hx x' hx' => hi x (.tail _ hx) x' (.tail _ hx')
      simp only [List.map_cons, List.cons.injEq, List.forall₂_cons, hh, ht]

theorem mapM_filter {f : α → Except ε β} {xs : List α} {p : α → Bool} {q : β → Bool}
    (h : xs.mapM f = .ok ys) (hi : ∀ x y, f x = .ok y → q y = p x) :
    (xs.filter p).mapM f = .ok (ys.filter q) := by
  induction xs generalizing ys
  case nil => cases h; rfl
  case cons x xs ih =>
    obtain ⟨y, ys, hx, hxs, rfl⟩ := mapM_cons_eq_ok_iff.mp h
    by_cases hp : p x
    case pos =>
      rw [List.filter_cons_of_pos hp, List.filter_cons_of_pos (hi x y hx ▸ hp)]
      exact mapM_cons_eq_ok_iff.mpr ⟨y, _, hx, ih hxs, rfl⟩
    case neg =>
      rw [List.filter_cons_of_neg hp, List.filter_cons_of_neg (hi x y hx ▸ hp)]
      exact ih hxs

section

variable {f : α → Except ε β} {xs : List α} {ys : List β}

theorem exists_source_of_mem (h : xs.map f = ys.map .ok) (hy : y ∈ ys) : ∃ x ∈ xs, f x = .ok y :=
  List.mem_map.mp <| h ▸ List.mem_map_of_mem hy

theorem exists_outcome_of_mem (h : xs.map f = ys.map .ok) (hx : x ∈ xs) : ∃ y ∈ ys, f x = .ok y := by
  have hm : f x ∈ ys.map .ok := h ▸ List.mem_map_of_mem hx
  have ⟨y, hy, he⟩ := List.mem_map.mp hm
  exact ⟨y, hy, he.symm⟩

theorem exists_mapM_iff : (∃ ys, xs.mapM f = .ok ys) ↔ ∀ x ∈ xs, ∃ y, f x = .ok y := by
  constructor
  case mp =>
    rintro ⟨ys, hys⟩ x hx
    obtain ⟨y, -, hy⟩ := exists_outcome_of_mem (mapM_eq_ok_iff.mp hys) hx
    exact ⟨y, hy⟩
  case mpr => exact exists_mapM_eq_ok

variable {P : α → Prop} {Q : β → Prop}

theorem forall_outcomes_iff (h : xs.map f = ys.map .ok)
    (hi : ∀ x ∈ xs, ∀ y, f x = .ok y → (Q y ↔ P x)) : (∀ y ∈ ys, Q y) ↔ ∀ x ∈ xs, P x := by
  constructor
  case mp =>
    intro hq x hx
    have ⟨y, hy, he⟩ := exists_outcome_of_mem h hx
    exact (hi x hx y he).mp (hq y hy)
  case mpr =>
    intro hp y hy
    have ⟨x, hx, he⟩ := exists_source_of_mem h hy
    exact (hi x hx y he).mpr (hp x hx)

theorem exists_outcomes_iff (h : xs.map f = ys.map .ok)
    (hi : ∀ x ∈ xs, ∀ y, f x = .ok y → (Q y ↔ P x)) : (∃ y ∈ ys, Q y) ↔ ∃ x ∈ xs, P x := by
  constructor
  case mp =>
    intro ⟨y, hy, hq⟩
    have ⟨x, hx, he⟩ := exists_source_of_mem h hy
    exact ⟨x, hx, (hi x hx y he).mp hq⟩
  case mpr =>
    intro ⟨x, hx, hp⟩
    have ⟨y, hy, he⟩ := exists_outcome_of_mem h hx
    exact ⟨y, hy, (hi x hx y he).mpr hp⟩

end

end CatalogSearch.Outcome
