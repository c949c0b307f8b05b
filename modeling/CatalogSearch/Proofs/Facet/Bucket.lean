import CatalogSearch.Proofs.Facet.Encoding
import CatalogSearch.Proofs.Response

namespace CatalogSearch.Response

abbrev Bucket := List (String × Value)

def IsTerm (bucket : Bucket) : Prop :=
  bucket.lookup "from" = none ∧ bucket.lookup "to" = none

def shown? : Value → Option Bucket
  | .object bucket => if (bucket.lookup "key").getD .null = .str "" then none else some bucket
  | _              => none

theorem key_of_lookup {bucket : Bucket} (hk : bucket.lookup "key" ≠ some (.str "")) :
    (bucket.lookup "key").getD .null ≠ .str "" := by
  cases hl : bucket.lookup "key"
  case none   => nofun
  case some v => exact fun he => hk (hl.trans (congrArg some he))

theorem shown?_of_lookup {bucket : Bucket} (hk : bucket.lookup "key" ≠ some (.str "")) :
    shown? (.object bucket) = some bucket :=
  if_neg (key_of_lookup hk)

def buckets (aggregation : Value) : List Bucket :=
  match aggregation.member? "buckets" with
  | .ok (some (.list vs)) => vs.filterMap shown?
  | _                     => []

theorem shown?_texts (f : α → String) (xs : List α) :
    (xs.map fun x => Value.str (f x)).filterMap shown? = [] := by
  simp [shown?]

theorem member_eq_ok_iff {ms : List (String × Value)} :
    Value.member name (.object ms) = .ok v ↔ ms.lookup name = some v := by
  cases h : ms.lookup name <;> simp [Value.member, h]

theorem bounded_iff : ((bucket.lookup "from").isSome || (bucket.lookup "to").isSome) = true ↔ ¬IsTerm bucket := by
  rw [← Bool.not_eq_false, Bool.or_eq_false_iff]
  simp [IsTerm]

theorem bucketValue_of_term (ht : IsTerm bucket) : bucketValue registry code bucket = (do
    let key ← (Value.object bucket).member "key"
    match registry.find? code with
    | some t => t.encode key
    | none   => return key.text) :=
  if_neg (mt bounded_iff.mp (not_not.mpr ht))

theorem bucketValue_of_range (ht : ¬IsTerm bucket) : bucketValue registry code bucket =
    match registry.find? code with
    | some t => t.encodeRange (bucketRange bucket)
    | none   => .error (.missingTransformation code) :=
  if_pos (bounded_iff.mpr ht)

theorem bucketCount_eq_ok_iff : bucketCount registry code bucket = .ok count ↔
    bucketValue registry code bucket = .ok count.value ∧ bucket.lookup "doc_count" = some count.count := by
  simp only [bucketCount, Outcome.bind_eq_ok_iff, liftM, monadLift, MonadLift.monadLift,
    Outcome.mapError_eq_ok_iff, member_eq_ok_iff, pure, Except.pure, Except.ok.injEq]
  constructor
  case mp  => rintro ⟨_, hv, _, hc, rfl⟩; exact ⟨hv, hc⟩
  case mpr => exact fun ⟨hv, hc⟩ => ⟨_, hv, _, hc, rfl⟩

theorem value_of_term (hr : ∀ t ∈ registry.find? code, t = .rangeTokens) (ht : IsTerm bucket)
    (h : bucketValue registry code bucket = .ok value) :
    ∃ key, bucket.lookup "key" = some key ∧ value = key.text := by
  rw [bucketValue_of_term ht] at h
  obtain ⟨key, hk, hv⟩ := Outcome.bind_eq_ok_iff.mp h
  refine ⟨key, member_eq_ok_iff.mp <| Outcome.mapError_eq_ok_iff.mp hk, ?_⟩
  cases hf : registry.find? code
  case none =>
    rw [hf] at hv
    exact (Except.ok.inj hv).symm
  case some t =>
    rw [hf, hr t hf] at hv
    exact (Except.ok.inj hv).symm

theorem value_of_range (hr : ∀ t ∈ registry.find? code, t = .rangeTokens) (ht : ¬IsTerm bucket)
    (h : bucketValue registry code bucket = .ok value) :
    registry.find? code = some .rangeTokens ∧ value = (bucketRange bucket).token := by
  rw [bucketValue_of_range ht] at h
  cases hf : registry.find? code
  case none =>
    rw [hf] at h
    cases h
  case some t =>
    obtain rfl := hr t hf
    rw [hf] at h
    simp only [Transformation.encodeRange_rangeTokens] at h
    exact ⟨rfl, (Except.ok.inj h).symm⟩

theorem counts_of_values {vs : List Value} (h : vs.mapM (bucketCount? registry code) = .ok counts) :
    List.Forall₂ (fun bucket count => bucketCount registry code bucket = .ok count)
      (vs.filterMap shown?) (counts.filterMap id) := by
  induction vs generalizing counts
  case nil =>
    cases h
    exact .nil
  case cons v vs hi =>
    obtain ⟨count?, counts, hv, hs, rfl⟩ := Outcome.mapM_cons_eq_ok_iff.mp h
    cases v
    case object bucket =>
      by_cases hk : (bucket.lookup "key").getD .null = .str ""
      case pos =>
        simp only [bucketCount?, hk, if_true] at hv
        cases hv
        simpa [shown?, hk] using hi hs
      case neg =>
        simp only [bucketCount?, hk, if_false, Outcome.bind_eq_ok_iff] at hv
        obtain ⟨count, hc, hv⟩ := hv
        cases hv
        have hs' : shown? (.object bucket) = some bucket := by simp [shown?, hk]
        rw [List.filterMap_cons_some hs']
        exact .cons hc (hi hs)
    all_goals cases hv

theorem counts_of_facetField (h : facetField registry code aggregation = .ok field) :
    List.Forall₂ (fun bucket count => bucketCount registry code bucket = .ok count)
      (buckets aggregation) field.counts := by
  simp only [facetField, Outcome.bind_eq_ok_iff] at h
  obtain ⟨found, hb, vs, hv, counts, hc, h⟩ := h
  cases h
  replace hb : aggregation.member? "buckets" = .ok found := Outcome.mapError_eq_ok_iff.mp hb
  replace hv : (found.getD (.list [])).items = .ok vs := Outcome.mapError_eq_ok_iff.mp hv
  have hc := counts_of_values hc
  rw [buckets, hb]
  cases found
  case none =>
    obtain rfl := Except.ok.inj hv
    exact hc
  case some v =>
    cases v
    case list =>
      obtain rfl := Except.ok.inj hv
      exact hc
    case object =>
      obtain rfl := Except.ok.inj hv
      exact shown?_texts _ _ ▸ hc
    case str =>
      obtain rfl := Except.ok.inj hv
      exact shown?_texts _ _ ▸ hc
    all_goals exact absurd hv (by simp [Value.items])

end CatalogSearch.Response
