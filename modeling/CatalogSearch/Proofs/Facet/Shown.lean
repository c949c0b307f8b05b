import CatalogSearch.Proofs.Facet.OpenBound
import CatalogSearch.Proofs.Reply

namespace CatalogSearch.Response

-- A bound of a bucket, as it is written in the value that stands for the bucket.
inductive BoundShown : Option Value → String → Prop
  | absent : BoundShown none "*"
  | null   : BoundShown (some .null) "*"
  | empty  : BoundShown (some (.str "")) "*"
  | star   : BoundShown (some (.str "*")) "*"
  | whole {n : Int} (h : x.toRat? = some (n : ℚ)) : BoundShown (some (.double x)) (intText n)
  | other (ho : v ≠ .null ∧ v ≠ .str "" ∧ v ≠ .str "*")
    (hw : ∀ x (n : Int), v = .double x → x.toRat? ≠ some (n : ℚ)) : BoundShown (some v) v.text

structure Shows (bucket : Bucket) (count : FacetCount) : Prop where
  documents : bucket.lookup "doc_count" = some count.count
  term      : IsTerm bucket → ∃ key, bucket.lookup "key" = some key ∧ count.value = key.text
  range     : ¬IsTerm bucket → ∃ lower upper, BoundShown (bucket.lookup "from") lower ∧
    BoundShown (bucket.lookup "to") upper ∧ count.value = lower ++ "-" ++ upper

structure FacetOf (aggregation : String × Value) (field : FacetField) : Prop where
  code   : field.code = aggregation.1
  counts : List.Forall₂ Shows (buckets aggregation.2) field.counts

def Untransformed (registry : Registry) (aggregation : String × Value) : Prop :=
  registry.find? aggregation.1 = none ∧ ∃ bucket ∈ buckets aggregation.2, ¬IsTerm bucket

structure Counted (bucket : Bucket) : Prop where
  count : bucket.lookup "doc_count" ≠ none
  key   : IsTerm bucket → bucket.lookup "key" ≠ none

def IsAggregation (v : Value) : Prop :=
  ∃ parts vs, v = .object parts ∧ parts.lookup "buckets" = some (.list vs) ∧
    ∀ v ∈ vs, ∃ bucket, v = .object bucket ∧ Counted bucket

structure Regular (ms : Members) : Prop where
  kind : ms.lookup "aggregations" = none ∨ ms.lookup "aggregations" = some .null ∨
    ∃ fields, ms.lookup "aggregations" = some (.object fields)
  each : ∀ a ∈ aggregations ⟨.object ms⟩, IsAggregation a.2

theorem bucketBound_of_closed (h : bucket.lookup name = some v) (hn : v ≠ .null) (hs : v ≠ .str "*") :
    bucketBound bucket name = v := by
  rw [bucketBound, h, Option.getD_some]
  split
  · contradiction
  · contradiction
  · rfl

theorem boundShown_of_closed (ho : v ≠ .null ∧ v ≠ .str "" ∧ v ≠ .str "*") :
    BoundShown (some v) (FacetRange.boundText v) := by
  unfold FacetRange.boundText
  rw [if_neg (not_or.mpr ⟨ho.left, ho.right.left⟩)]
  cases v
  case double x =>
    simp only
    cases hx : x.toInt?
    case some n => exact .whole (Double.toInt?_eq_some_iff.mp hx)
    case none =>
      have hw (n : Int) : x.toRat? ≠ some (n : ℚ) :=
        fun hr => nomatch hx.symm.trans (Double.toInt?_eq_some_iff.mpr hr)
      exact .other ho fun _ n hd => by cases hd; exact hw n
  all_goals exact .other ho nofun

theorem boundShown (bucket : Bucket) (name : String) :
    BoundShown (bucket.lookup name) (FacetRange.boundText (FacetRange.settled (bucketBound bucket name))) := by
  cases hb : bucket.lookup name
  case none => rw [bucketBound, hb]; exact .absent
  case some v =>
    by_cases ho : v ≠ .null ∧ v ≠ .str "" ∧ v ≠ .str "*"
    case pos =>
      have ⟨hn, he, hs⟩ := ho
      rw [bucketBound_of_closed hb hn hs, FacetRange.settled, if_neg he]
      exact boundShown_of_closed ho
    case neg =>
      have ho : v = .null ∨ v = .str "" ∨ v = .str "*" := by simpa only [ne_eq, not_and_or, not_not] using ho
      rw [bucketBound, hb]
      rcases ho with rfl | rfl | rfl
      · exact .null
      · exact .empty
      · exact .star

theorem shows_of_bucketCount (hr : registry.OfTokens) (h : bucketCount registry code bucket = .ok count) :
    Shows bucket count :=
  have ⟨hv, hc⟩ := bucketCount_eq_ok_iff.mp h
  { documents := hc
    term      := fun ht => value_of_term (hr code) ht hv
    range     := fun ht =>
      ⟨_, _, boundShown bucket "from", boundShown bucket "to", (value_of_range (hr code) ht hv).right⟩ }

theorem ValueFault.of_tokens (hr : registry.OfTokens) (h : ValueFault registry code bucket err) :
    ¬IsTerm bucket ∧ registry.find? code = none ∧ err = .missingTransformation code ∨
      IsTerm bucket ∧ bucket.lookup "key" = none := by
  cases h
  case untransformed ht hn => exact .inl ⟨ht, hn, rfl⟩
  case keyless ht hk       => exact .inr ⟨ht, hk⟩
  case range ht hf he =>
    obtain rfl := hr _ _ hf
    cases (Transformation.encodeRange_rangeTokens _).symm.trans he
  case key ht hk hf he =>
    obtain rfl := hr _ _ hf
    cases he

-- Nothing else can be wrong with the aggregation of a code than a range without a token.
theorem untransformed_of_fault (hr : registry.OfTokens) (ha : IsAggregation v)
    (hf : AggregationFault registry code v err) :
    Untransformed registry (code, v) ∧ err = .missingTransformation code := by
  obtain ⟨parts, vs, rfl, hl, hc⟩ := ha
  rcases hf with hn | ⟨hb, hi⟩ | ⟨hb, hi, before, v, after, hv, _, hf⟩
  case kind => exact absurd rfl (hn parts)
  case buckets =>
    cases hl.symm.trans hb
    cases hi
  case bucket =>
    cases hl.symm.trans hb
    cases hi
    have hm : v ∈ vs := by simp [hv]
    obtain ⟨bucket, rfl, hb⟩ := hc v hm
    rcases hf with hn | ⟨hk, hf⟩ | ⟨_, _, hd⟩
    case kind      => exact absurd rfl (hn bucket)
    case countless => exact absurd hd hb.count
    case value     =>
      rcases hf.of_tokens hr with ⟨ht, hf, he⟩ | ⟨ht, hk⟩
      case inr => exact absurd hk (hb.key ht)
      case inl =>
        have hm : bucket ∈ buckets (.object parts) := by
          rw [buckets, Value.member?, hl]
          exact List.mem_filterMap.mpr ⟨_, hm, shown?_of_lookup hk⟩
        exact ⟨⟨hf, bucket, hm, ht⟩, he⟩

theorem facetField_of_untransformed (hr : registry.OfTokens) (ha : IsAggregation a.2) (hu : Untransformed registry a) :
    facetField registry a.1 a.2 = .error (.missingTransformation a.1) := by
  cases hf : facetField registry a.1 a.2
  case error err =>
    have ⟨_, he⟩ := untransformed_of_fault hr ha (facetField_eq_error_iff.mp hf)
    rw [he]
  case ok field =>
    have ⟨hn, bucket, hb, ht⟩ := hu
    have ⟨count, _, hc⟩ := Outcome.exists_of_forall₂ (counts_of_facetField hf) hb
    have ⟨hf, _⟩ := value_of_range (hr _) ht (bucketCount_eq_ok_iff.mp hc).left
    cases hn.symm.trans hf

theorem exists_facetField (hr : registry.OfTokens) (ha : IsAggregation a.2) (hu : ¬Untransformed registry a) :
    ∃ field, facetField registry a.1 a.2 = .ok field := by
  refine Outcome.exists_ok_iff.mpr fun err hf => hu ?_
  exact (untransformed_of_fault hr ha (facetField_eq_error_iff.mp hf)).left

theorem facetOf_of_facetField (hr : registry.OfTokens) (h : facetField registry a.1 a.2 = .ok field) :
    FacetOf a field where
  code   := code_of_facetField h
  counts := (counts_of_facetField h).imp fun _ _ => shows_of_bucketCount hr

theorem Regular.countsByCode (h : Regular ms) : CountsByCode ⟨.object ms⟩ := by
  refine ⟨_, rfl, fun hv => ?_⟩
  rcases h.kind with ho | ho | ⟨fields, ho⟩
  case inr.inr => exact ⟨fields, ho⟩
  all_goals
    rw [ho] at hv
    cases hv

-- The facets of a reply without those of some codes. The first code in it that has a range but no range
-- tokens decides. Without such a code there is a facet for each one.
theorem facets_shown (h : Regular ms) (hr : registry.OfTokens) (without : List String) :
    let fields := facetFields ⟨.object ms⟩ registry without
    let shown := (aggregations ⟨.object ms⟩).filter fun a => !without.contains a.1
    (∀ before a after, shown = before ++ a :: after → (∀ b ∈ before, ¬Untransformed registry b) →
      Untransformed registry a → fields = .error (.missingTransformation a.1)) ∧
    ((∀ a ∈ shown, ¬Untransformed registry a) →
      ∃ found, fields = .ok found ∧ List.Forall₂ FacetOf shown found) := by
  intro fields shown
  have ha (a) (hm : a ∈ shown) : IsAggregation a.2 := h.each a (List.mem_of_mem_filter hm)
  have hf : fields = shown.mapM fun a => facetField registry a.1 a.2 := facetFields_eq_mapM h.countsByCode
  rw [hf]
  constructor
  case left =>
    intro before a after hs hb hu
    refine Outcome.mapM_eq_error_iff.mpr ⟨before, a, after, hs, fun b hm => ?_, ?_⟩
    · exact exists_facetField hr (ha b (by simp [hs, hm])) (hb b hm)
    · exact facetField_of_untransformed hr (ha a (by simp [hs])) hu
  case right =>
    intro hu
    have ⟨found, hm⟩ := Outcome.exists_mapM_eq_ok fun a hm => exists_facetField hr (ha a hm) (hu a hm)
    exact ⟨found, hm, (Outcome.forall₂_of_mapM hm).imp fun _ _ => facetOf_of_facetField hr⟩

theorem facets_shown_unless_priced :
    let bounded := [("from", .int 10), ("to", .str "*"), ("doc_count", .int 1)]
    let color := Value.object [("buckets", .list [.object [("key", .str "red"), ("doc_count", .int 2)]])]
    let price := Value.object [("buckets", .list [.object bounded])]
    let ms := [("aggregations", .object [("color", color), ("price", price)])]
    Regular ms ∧ facetFields ⟨.object ms⟩ {} [] = .error (.missingTransformation "price") ∧
    (∃ found, facetFields ⟨.object ms⟩ {} ["price"] = .ok found ∧
      List.Forall₂ FacetOf [("color", color)] found) ∧
    ∃ found, facetFields ⟨.object ms⟩ (.register {} "price") [] = .ok found ∧
      List.Forall₂ FacetOf [("color", color), ("price", price)] found := by
  intro bounded color price ms
  have hc : IsAggregation color :=
    ⟨_, _, rfl, rfl, List.forall_mem_singleton.mpr ⟨_, rfl, nofun, fun _ => nofun⟩⟩
  have hp : IsAggregation price :=
    ⟨_, _, rfl, rfl, List.forall_mem_singleton.mpr ⟨_, rfl, nofun, fun ht => nomatch ht.left⟩⟩
  have hr : Regular ms :=
    ⟨.inr <| .inr ⟨_, rfl⟩, List.forall_mem_cons.mpr ⟨hc, List.forall_mem_singleton.mpr hp⟩⟩
  have hu (registry : Registry) : ¬Untransformed registry ("color", color) := by
    rintro ⟨-, bucket, hb, ht⟩
    cases List.mem_singleton.mp hb
    exact ht ⟨rfl, rfl⟩
  refine ⟨hr, ?bare, ?selected, ?registered⟩
  case bare =>
    exact (facets_shown hr Registry.ofTokens_empty []).left [("color", color)] ("price", price) [] rfl
      (List.forall_mem_singleton.mpr (hu {})) ⟨rfl, bounded, .head _, fun ht => nomatch ht.left⟩
  case selected =>
    exact (facets_shown hr Registry.ofTokens_empty ["price"]).right <| List.forall_mem_singleton.mpr (hu {})
  case registered =>
    exact (facets_shown hr (Registry.ofTokens_empty.register "price") []).right <|
      List.forall_mem_cons.mpr ⟨hu _, List.forall_mem_singleton.mpr fun hp => nomatch hp.left⟩

end CatalogSearch.Response
