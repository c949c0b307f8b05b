import CatalogSearch.Proofs.Facet.Bucket
import CatalogSearch.Proofs.Facet.Filter
import CatalogSearch.Proofs.Facet.Token

namespace CatalogSearch

namespace FacetRange

def between (field : String) : Option Int → Option Int → Clause Atom
  | some lower, some upper => .group .filter
    [Operator.bounded field .gte (intText lower), Operator.bounded field .lte (intText upper)]
  | some lower, none => Operator.bounded field .gte (intText lower)
  | none, some upper => Operator.bounded field .lte (intText upper)
  | none, none       => .anything

def readInt : Option Int → Value
  | some n => .str (intText n)
  | none   => .null

theorem clause_readInt (field : String) (lower upper : Option Int) :
    clause field ⟨readInt lower, readInt upper⟩ = between field lower upper := by
  cases lower <;> cases upper <;> rfl

end FacetRange

namespace Selection

-- A selected value of a code has this clause, which stands between those of the other selected values.
def Selects (registry : Registry) (code value : String) (clause : String → Clause Atom) : Prop :=
  ∀ field before after, ∃ cs ds,
    valueClauses registry code field (.list <| before.map .str) = .ok cs ∧
    valueClauses registry code field (.list <| after.map .str) = .ok ds ∧
    valueClauses registry code field (.list <| (before ++ value :: after).map .str) =
      .ok (cs ++ clause field :: ds)

theorem selects_of_textClause
    (h : ∀ field, textClause registry code field value = clause field) :
    Selects registry code value clause := by
  intro field before after
  refine ⟨_, _, valueClauses_texts, valueClauses_texts, ?_⟩
  rw [valueClauses_texts, List.map_append, List.map_cons, h]

theorem selects_untransformed (h : registry.find? code = none) :
    Selects registry code value fun field => Operator.equality field (.str value) :=
  selects_of_textClause fun _ => by simp [textClause, Registry.decode, h]

theorem selects_plain {value : String} (h : registry.find? code = some .rangeTokens)
    (hn : ∀ r : FacetRange, ¬r.NamedBy value) :
    Selects registry code value fun field => Operator.equality field (.str value) :=
  selects_of_textClause fun _ => by
    simp [textClause, Registry.decode, Transformation.rangeTokens, h, Decoded.ofToken_of_unnamed hn]

theorem selects_range {r : FacetRange} (h : registry.find? code = some .rangeTokens) (hn : r.NamedBy value) :
    Selects registry code value r.clause :=
  selects_of_textClause fun _ => by
    simp [textClause, Registry.decode, Transformation.rangeTokens, h, Decoded.ofToken_of_named hn]

end Selection

namespace Response

inductive IntBound : Option Value → Option Int → Prop
  | absent : IntBound none none
  | null   : IntBound (some .null) none
  | star   : IntBound (some (.str "*")) none
  | empty  : IntBound (some (.str "")) none
  | int    : IntBound (some (.int n)) (some n)
  | double {n : Int} (h : x.toRat? = some (n : ℚ)) : IntBound (some (.double x)) (some n)

theorem IntBound.text (h : IntBound (bucket.lookup name) n) :
    FacetRange.boundText (if bucketBound bucket name = .str "" then .null else bucketBound bucket name) =
      n.elim "*" intText := by
  generalize hg : bucket.lookup name = given at h
  cases h
  case double h => simp [bucketBound, hg, FacetRange.boundText, Double.toInt?_eq_some_iff.mpr h]
  all_goals simp [bucketBound, hg, FacetRange.boundText, Value.text, Value.shown]

theorem boundText_readInt (n : Option Int) :
    FacetRange.BoundText (n.elim "*" intText).toList (FacetRange.readInt n) := by
  cases n
  case none   => exact .opened
  case some n => exact FacetRange.boundText_intText n

theorem token_named (hl : IntBound (bucket.lookup "from") lower)
    (hu : IntBound (bucket.lookup "to") upper) :
    FacetRange.NamedBy ⟨FacetRange.readInt lower, FacetRange.readInt upper⟩
      (bucketRange bucket).token := by
  refine ⟨_, _, [], boundText_readInt lower, boundText_readInt upper, .inl rfl, ?_⟩
  simp [bucketRange, FacetRange.token, FacetRange.create, hl.text, hu.text]

structure Selectable (registry : Registry) (code : String) (bucket : Bucket) (value : String) : Prop where
  untransformed : registry.find? code = none → IsTerm bucket →
    ∃ key, bucket.lookup "key" = some key ∧
      Selection.Selects registry code value fun field => Operator.equality field (.str key.text)
  range : registry.find? code = some .rangeTokens → ¬IsTerm bucket → ∀ lower upper,
    IntBound (bucket.lookup "from") lower → IntBound (bucket.lookup "to") upper →
      Selection.Selects registry code value fun field => FacetRange.between field lower upper
  plain : registry.find? code = some .rangeTokens → IsTerm bucket →
    ∃ key, bucket.lookup "key" = some key ∧ ((∀ r : FacetRange, ¬r.NamedBy key.text) →
      Selection.Selects registry code value fun field => Operator.equality field (.str key.text))

theorem selectable_of_bucketCount (h : bucketCount registry code bucket = .ok count) :
    Selectable registry code bucket count.value where
  untransformed hr ht := by
    have ⟨key, hk, hv⟩ := value_of_term (by simp [hr]) ht (bucketCount_eq_ok_iff.mp h).left
    exact ⟨key, hk, hv ▸ Selection.selects_untransformed hr⟩
  range hr ht lower upper hl hu := by
    have ⟨_, hv⟩ := value_of_range (by simp [hr]) ht (bucketCount_eq_ok_iff.mp h).left
    have hs := Selection.selects_range hr <| token_named hl hu
    simpa only [hv, FacetRange.clause_readInt] using hs
  plain hr ht := by
    have ⟨key, hk, hv⟩ := value_of_term (by simp [hr]) ht (bucketCount_eq_ok_iff.mp h).left
    refine ⟨key, hk, fun hn => ?_⟩
    rw [hv]
    exact Selection.selects_plain hr hn

-- Every facet that is shown has a value per bucket that is shown, in order, and each value selects
-- its bucket.
theorem facetFields_selectable {r : Response} (h : r.facetFields registry without = .ok fields) :
    List.Forall₂ (fun (code, aggregation) field => field.code = code ∧
        List.Forall₂ (fun bucket count => Selectable registry code bucket count.value)
          (buckets aggregation) field.counts)
      (r.aggregations.filter fun a => !without.contains a.1) fields := by
  refine (Outcome.forall₂_of_mapM <| facetFields_eq_ok h).imp fun (code, aggregation) field hf => ?_
  exact ⟨code_of_facetField hf, (counts_of_facetField hf).imp fun _ _ => selectable_of_bucketCount⟩

theorem facetFields_selectable_negative_bound :
    let minusTen : Double := .finite true ⟨4621819117588971520, by decide⟩
    let bucket : Bucket := [("key", .str "cold"), ("from", .double minusTen), ("doc_count", .int 3)]
    let reply := objectOf "aggregations" (objectOf "degrees" (objectOf "buckets" (.list [.object bucket])))
    let registry := Registry.register {} "degrees"
    facetFields ⟨reply⟩ registry [] = .ok [⟨"degrees", [⟨"-10-*", .int 3⟩]⟩] ∧
      Selection.Selects registry "degrees" "-10-*" fun field => Operator.bounded field .gte "-10" := by
  intro minusTen bucket reply registry
  have h : facetFields ⟨reply⟩ registry [] = .ok [⟨"degrees", [⟨"-10-*", .int 3⟩]⟩] := by
    rfl
  have ⟨⟨_, hb⟩, _⟩ := List.forall₂_cons.mp <| facetFields_selectable h
  have ⟨hs, _⟩ := List.forall₂_cons.mp hb
  have hten : minusTen.toRat? = some ((-10 : Int) : ℚ) := Double.toInt?_eq_some_iff.mp (by rfl)
  exact ⟨h, hs.range rfl (by simp [IsTerm, bucket]) (some (-10)) none (.double hten) .absent⟩

end Response
end CatalogSearch
