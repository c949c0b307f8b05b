import CatalogSearch.Proofs.Document.Identity
import CatalogSearch.Proofs.Facet.Bucket

namespace CatalogSearch

theorem Outcome.liftM_eq_error_iff {α : Type} {x : Except Misuse α} :
    (liftM x : Except Error α) = .error err ↔ ∃ cause, x = .error cause ∧ Error.misuse cause = err :=
  mapError_eq_error_iff

theorem Value.object_or_other (v : Value) : (∃ ms, v = .object ms) ∨ ∀ ms, v ≠ .object ms := by
  cases v <;> simp

theorem Value.member_object_eq_error_iff {ms : List (String × Value)} :
    Value.member name (.object ms) = .error cause ↔ ms.lookup name = none ∧ Misuse.absentKey = cause := by
  rw [Value.member]
  cases ms.lookup name <;> simp

theorem Value.member_eq_error {v : Value} (hn : ∀ ms, v ≠ .object ms) :
    v.member name = .error .wrongKind := by
  cases v
  case object ms => exact absurd rfl (hn ms)
  all_goals rfl

theorem Value.member_eq_error_iff {v : Value} : v.member name = .error cause ↔
    (∀ ms, v ≠ .object ms) ∧ Misuse.wrongKind = cause ∨
      ∃ ms, v = .object ms ∧ ms.lookup name = none ∧ Misuse.absentKey = cause := by
  rcases v.object_or_other with ⟨ms, rfl⟩ | hn
  case inl => simp [member_object_eq_error_iff]
  case inr => simp [member_eq_error hn, hn]

theorem Value.member?_eq_error {v : Value} (hn : ∀ ms, v ≠ .object ms) :
    v.member? name = .error .noSuchPart := by
  cases v
  case object ms => exact absurd rfl (hn ms)
  all_goals rfl

inductive Error.FromIndex : Error → Prop
  | connection            : FromIndex (.connection reason)
  | engine                : FromIndex (.engine reply)
  | missingTransformation : FromIndex (.missingTransformation code)
  | misuse                : FromIndex (.misuse cause)

theorem Error.kind_compile (cause : CompileError) : (Error.compile cause).kind?.isSome := by
  cases cause <;> rfl

inductive Value.NumberFault : Value → Misuse → Prop
  | null                              : NumberFault .null .wrongKind
  | date                              : NumberFault (.date s) .wrongKind
  | list                              : NumberFault (.list vs) .wrongKind
  | object                            : NumberFault (.object ms) .wrongKind
  | nan                               : NumberFault (.double .nan) .badValue
  | infinite                          : NumberFault (.double (.infinite negative)) .tooLarge
  | text (h : Integer.read? s = none) : NumberFault (.str s) .badValue

theorem Value.toWhole_eq_error_iff {v : Value} : v.toWhole = .error cause ↔ v.NumberFault cause := by
  constructor
  case mpr =>
    intro h
    cases h
    case text s h => simp [toWhole, h]
    all_goals rfl
  case mp =>
    intro h
    cases v
    case null     => cases h; exact .null
    case bool     => cases h
    case int      => cases h
    case date     => cases h; exact .date
    case list     => cases h; exact .list
    case object   => cases h; exact .object
    case double x =>
      cases x
      case finite   => cases h
      case infinite => cases h; exact .infinite
      case nan      => cases h; exact .nan
    case str s =>
      cases hs : Integer.read? s
      case some => simp [toWhole, hs] at h
      case none =>
        obtain rfl : Misuse.badValue = cause := by simpa [toWhole, hs] using h
        exact .text hs

namespace Response

abbrev Members := List (String × Value)

def IsError (ms : Members) : Prop :=
  ∃ v, ms.lookup "error" = some v ∧ v ≠ .null

inductive TotalFault (ms : Members) : Misuse → Prop
  | part (hp : ms.lookup "hits" = some v) (hn : ∀ part, v ≠ .object part) : TotalFault ms .noSuchPart
  | plain (hp : ms.lookup "hits" = some (.object part)) (ht : part.lookup "total" = some v)
    (hn : ∀ parts, v ≠ .object parts) (hf : v.NumberFault cause) : TotalFault ms cause
  | nested (hp : ms.lookup "hits" = some (.object part)) (ht : part.lookup "total" = some (.object parts))
    (hv : parts.lookup "value" = some v) (hf : v.NumberFault cause) : TotalFault ms cause

inductive ValueFault (registry : Registry) (code : String) (bucket : Bucket) : Error → Prop
  | untransformed (ht : ¬IsTerm bucket) (hr : registry.find? code = none) :
    ValueFault registry code bucket (.missingTransformation code)
  | range (ht : ¬IsTerm bucket) (hr : registry.find? code = some t)
    (he : t.encodeRange (bucketRange bucket) = .error cause) : ValueFault registry code bucket (.misuse cause)
  | keyless (ht : IsTerm bucket) (hk : bucket.lookup "key" = none) :
    ValueFault registry code bucket (.misuse .absentKey)
  | key (ht : IsTerm bucket) (hk : bucket.lookup "key" = some v) (hr : registry.find? code = some t)
    (he : t.encode v = .error cause) : ValueFault registry code bucket (.misuse cause)

inductive BucketFault (registry : Registry) (code : String) : Value → Error → Prop
  | kind (hn : ∀ bucket, v ≠ .object bucket) : BucketFault registry code v (.misuse .noSuchPart)
  | value (hk : bucket.lookup "key" ≠ some (.str "")) (hf : ValueFault registry code bucket err) :
    BucketFault registry code (.object bucket) err
  | countless (hk : bucket.lookup "key" ≠ some (.str "")) (hv : ∀ err, ¬ValueFault registry code bucket err)
    (hc : bucket.lookup "doc_count" = none) : BucketFault registry code (.object bucket) (.misuse .absentKey)

inductive AggregationFault (registry : Registry) (code : String) : Value → Error → Prop
  | kind (hn : ∀ parts, v ≠ .object parts) : AggregationFault registry code v (.misuse .noSuchPart)
  | buckets (hb : parts.lookup "buckets" = some v) (hi : v.items = .error cause) :
    AggregationFault registry code (.object parts) (.misuse cause)
  | bucket (hb : parts.lookup "buckets" = some v) (hi : v.items = .ok vs)
    (hf : Outcome.First (BucketFault registry code) vs err) : AggregationFault registry code (.object parts) err

inductive FacetsFault (registry : Registry) (ms : Members) : Error → Prop
  | kind (ha : ms.lookup "aggregations" = some v) (hv : v.holds) (hn : ∀ fields, v ≠ .object fields) :
    FacetsFault registry ms (.misuse .noSuchPart)
  | aggregation (ha : ms.lookup "aggregations" = some (.object fields))
    (hf : Outcome.First (fun field : String × Value => AggregationFault registry field.1 field.2) fields err) :
    FacetsFault registry ms err

inductive HitFault : Value → Misuse → Prop
  | kind (hn : ∀ parts, v ≠ .object parts) : HitFault v .wrongKind
  | sourceless (hs : parts.lookup "_source" = none) : HitFault (.object parts) .absentKey
  | source (hs : parts.lookup "_source" = some v) (hn : ∀ fields, v ≠ .object fields) :
    HitFault (.object parts) .wrongKind
  | productless (hs : parts.lookup "_source" = some (.object fields)) (hp : fields.lookup "product_id" = none) :
    HitFault (.object parts) .absentKey

inductive ProductsFault (ms : Members) : Misuse → Prop
  | hits (hp : ms.lookup "hits" = some (.object part)) (hh : part.lookup "hits" = some v) (hv : v.holds)
    (hi : v.items = .error cause) : ProductsFault ms cause
  | hit (hp : ms.lookup "hits" = some (.object part)) (hh : part.lookup "hits" = some v)
    (hi : v.items = .ok vs) (hf : Outcome.First HitFault vs cause) : ProductsFault ms cause

inductive ReplyFault (registry : Registry) (ms : Members) : Error → Prop
  | refused (he : IsError ms) : ReplyFault registry ms (.engine (Json.text (.object ms)))
  | total (he : ¬IsError ms) (hf : TotalFault ms cause) : ReplyFault registry ms (.misuse cause)
  | facets (he : ¬IsError ms) (ht : ∀ cause, ¬TotalFault ms cause) (hf : FacetsFault registry ms err) :
    ReplyFault registry ms err
  | products (he : ¬IsError ms) (ht : ∀ cause, ¬TotalFault ms cause)
    (hf : ∀ err, ¬FacetsFault registry ms err) (hp : ProductsFault ms cause) :
    ReplyFault registry ms (.misuse cause)

variable {ms : Members} {registry : Registry}

theorem ofReply_of_error (h : IsError ms) :
    ofReply (.object ms) = .error (.engine (Json.text (.object ms))) := by
  obtain ⟨v, hl, hv⟩ := h
  simp only [ofReply, Value.member?, hl]
  cases v
  case null => contradiction
  all_goals rfl

theorem ofReply_of_not_error (h : ¬IsError ms) : ofReply (.object ms) = .ok ⟨.object ms⟩ := by
  simp only [ofReply, Value.member?]
  cases hl : ms.lookup "error"
  case none => rfl
  case some v =>
    obtain rfl : v = .null := by_contra fun hv => h ⟨v, hl, hv⟩
    rfl

def countOf : Value → Except Misuse Int
  | .object parts => ((parts.lookup "value").getD (.int 0)).toWhole
  | v             => v.toWhole

theorem total_eq (ms : Members) : total ⟨.object ms⟩ =
    ((ms.lookup "hits").getD (.object [])).member? "total" >>= fun v => countOf (v.getD (.int 0)) :=
  rfl

theorem countOf_eq_error_iff : countOf v = .error cause ↔
    (∀ parts, v ≠ .object parts) ∧ v.NumberFault cause ∨
      ∃ parts w, v = .object parts ∧ parts.lookup "value" = some w ∧ w.NumberFault cause := by
  cases v
  case object parts =>
    rw [countOf, Value.toWhole_eq_error_iff]
    cases hv : parts.lookup "value"
    case none =>
      refine iff_of_false nofun ?_
      rintro (⟨hn, -⟩ | ⟨_, _, ⟨⟩, hw, -⟩)
      case inl => exact hn parts rfl
      case inr => cases hv.symm.trans hw
    case some w =>
      constructor
      case mp => exact fun h => .inr ⟨parts, w, rfl, hv, h⟩
      case mpr =>
        rintro (⟨hn, -⟩ | ⟨_, _, ⟨⟩, hw, hf⟩)
        case inl => exact absurd rfl (hn parts)
        case inr => exact Option.some.inj (hv.symm.trans hw) ▸ hf
  all_goals simp [countOf, Value.toWhole_eq_error_iff]

theorem hits_eq_error_iff : ((ms.lookup "hits").getD (.object [])).member? name = .error cause ↔
    ∃ v, ms.lookup "hits" = some v ∧ (∀ part, v ≠ .object part) ∧ Misuse.noSuchPart = cause := by
  cases ms.lookup "hits"
  case none => simp [Value.member?]
  case some v => cases v <;> simp [Value.member?]

theorem hits_eq_ok_iff : ((ms.lookup "hits").getD (.object [])).member? name = .ok found ↔
    ms.lookup "hits" = none ∧ found = none ∨
      ∃ part, ms.lookup "hits" = some (.object part) ∧ part.lookup name = found := by
  cases ms.lookup "hits"
  case none   => simp [Value.member?, eq_comm]
  case some v => cases v <;> simp [Value.member?]

theorem total_eq_error_iff : total ⟨.object ms⟩ = .error cause ↔ TotalFault ms cause := by
  have hz : ¬Value.NumberFault (.int 0) cause := nofun
  rw [total_eq, Outcome.bind_eq_error_iff]
  simp only [hits_eq_error_iff, hits_eq_ok_iff, countOf_eq_error_iff]
  constructor
  case mp =>
    rintro (⟨v, hp, hn, rfl⟩ | ⟨found, ⟨-, rfl⟩ | ⟨part, hp, ht⟩, hc⟩)
    · exact .part hp hn
    · simp [hz] at hc
    · cases found
      case none => simp [hz] at hc
      case some v =>
        rcases hc with ⟨hn, hf⟩ | ⟨parts, _, rfl, hv, hf⟩
        case inl => exact .plain hp ht hn hf
        case inr => exact .nested hp ht hv hf
  case mpr =>
    rintro (⟨hp, hn⟩ | ⟨hp, ht, hn, hf⟩ | ⟨hp, ht, hv, hf⟩)
    · exact .inl ⟨_, hp, hn, rfl⟩
    · exact .inr ⟨_, .inr ⟨_, hp, ht⟩, .inl ⟨hn, hf⟩⟩
    · exact .inr ⟨_, .inr ⟨_, hp, ht⟩, .inr ⟨_, _, rfl, hv, hf⟩⟩

theorem liftM_member_eq_error_iff {bucket : Bucket} :
    (liftM (Value.member name (.object bucket)) : Except Error Value) = .error err ↔
      bucket.lookup name = none ∧ Error.misuse .absentKey = err := by
  rw [Outcome.liftM_eq_error_iff]
  simp only [Value.member_object_eq_error_iff]
  constructor
  case mp  => rintro ⟨_, ⟨hl, rfl⟩, he⟩; exact ⟨hl, he⟩
  case mpr => exact fun ⟨hl, he⟩ => ⟨_, ⟨hl, rfl⟩, he⟩

theorem valueFault_term_iff {bucket : Bucket} (ht : IsTerm bucket) : ValueFault registry code bucket err ↔
    bucket.lookup "key" = none ∧ Error.misuse .absentKey = err ∨
      ∃ v, bucket.lookup "key" = some v ∧ ∃ t, registry.find? code = some t ∧
        ∃ cause, t.encode v = .error cause ∧ Error.misuse cause = err := by
  constructor
  case mp =>
    rintro (⟨hn, -⟩ | ⟨hn, -⟩ | ⟨-, hk⟩ | ⟨-, hk, hr, he⟩)
    · exact absurd ht hn
    · exact absurd ht hn
    · exact .inl ⟨hk, rfl⟩
    · exact .inr ⟨_, hk, _, hr, _, he, rfl⟩
  case mpr =>
    rintro (⟨hk, rfl⟩ | ⟨v, hk, t, hr, cause, he, rfl⟩)
    · exact .keyless ht hk
    · exact .key ht hk hr he

theorem valueFault_range_iff {bucket : Bucket} (ht : ¬IsTerm bucket) : ValueFault registry code bucket err ↔
    registry.find? code = none ∧ Error.missingTransformation code = err ∨
      ∃ t, registry.find? code = some t ∧
        ∃ cause, t.encodeRange (bucketRange bucket) = .error cause ∧ Error.misuse cause = err := by
  constructor
  case mp =>
    rintro (⟨-, hr⟩ | ⟨-, hr, he⟩ | ⟨hn, -⟩ | ⟨hn, -⟩)
    · exact .inl ⟨hr, rfl⟩
    · exact .inr ⟨_, hr, _, he, rfl⟩
    · exact absurd hn ht
    · exact absurd hn ht
  case mpr =>
    rintro (⟨hr, rfl⟩ | ⟨t, hr, cause, he, rfl⟩)
    · exact .untransformed ht hr
    · exact .range ht hr he

theorem bucketValue_eq_error_iff {bucket : Bucket} :
    bucketValue registry code bucket = .error err ↔ ValueFault registry code bucket err := by
  by_cases ht : IsTerm bucket
  case pos =>
    rw [valueFault_term_iff ht, bucketValue_of_term ht, Outcome.bind_eq_error_iff, liftM_member_eq_error_iff]
    refine or_congr_right <| exists_congr fun v => and_congr ?key ?encoding
    case key => exact Outcome.mapError_eq_ok_iff.trans member_eq_ok_iff
    case encoding =>
      cases registry.find? code
      case none   => simp [pure, Except.pure]
      case some t => simp [Outcome.liftM_eq_error_iff]
  case neg =>
    rw [valueFault_range_iff ht, bucketValue_of_range ht]
    cases registry.find? code
    case none   => simp
    case some t => simp [Outcome.liftM_eq_error_iff]

theorem exists_bucketValue_iff {bucket : Bucket} :
    (∃ value, bucketValue registry code bucket = .ok value) ↔ ∀ err, ¬ValueFault registry code bucket err := by
  rw [Outcome.exists_ok_iff]
  exact forall_congr' fun _ => not_congr bucketValue_eq_error_iff

theorem bucketCount_eq_error_iff {bucket : Bucket} (hk : bucket.lookup "key" ≠ some (.str "")) :
    bucketCount registry code bucket = .error err ↔ BucketFault registry code (.object bucket) err := by
  rw [bucketCount, Outcome.bind_eq_error_iff, bucketValue_eq_error_iff]
  constructor
  case mp =>
    rintro (hf | ⟨value, hv, h⟩)
    case inl => exact .value hk hf
    case inr =>
      rcases Outcome.bind_eq_error_iff.mp h with h | ⟨_, _, ⟨⟩⟩
      obtain ⟨hc, rfl⟩ := liftM_member_eq_error_iff.mp h
      exact .countless hk (exists_bucketValue_iff.mp ⟨value, hv⟩) hc
  case mpr =>
    rintro (hn | ⟨-, hf⟩ | ⟨-, hv, hc⟩)
    · exact absurd rfl (hn bucket)
    · exact .inl hf
    · obtain ⟨value, hv⟩ := exists_bucketValue_iff.mpr hv
      exact .inr ⟨value, hv, Outcome.bind_eq_error_iff.mpr <| .inl <| liftM_member_eq_error_iff.mpr ⟨hc, rfl⟩⟩

theorem bucketCount?_eq_error_iff :
    bucketCount? registry code v = .error err ↔ BucketFault registry code v err := by
  rcases v.object_or_other with ⟨bucket, rfl⟩ | hn
  case inr =>
    have hv : bucketCount? registry code v = .error (.misuse .noSuchPart) := by
      cases v
      case object bucket => exact absurd rfl (hn bucket)
      all_goals rfl
    rw [hv]
    constructor
    case mp => rintro ⟨⟩; exact .kind hn
    case mpr =>
      intro h
      cases h
      case kind => rfl
      all_goals exact absurd rfl (hn _)
  case inl =>
    by_cases hk : bucket.lookup "key" = some (.str "")
    case pos =>
      refine iff_of_false (by simp [bucketCount?, hk, pure, Except.pure]) ?_
      rintro (hn | ⟨hk', -⟩ | ⟨hk', -⟩)
      · exact hn bucket rfl
      · exact hk' hk
      · exact hk' hk
    case neg =>
      rw [← bucketCount_eq_error_iff hk, bucketCount?, if_neg (key_of_lookup hk), Outcome.bind_eq_error_iff]
      exact or_iff_left <| by rintro ⟨_, _, ⟨⟩⟩

theorem facetField_object (parts : Members) : facetField registry code (.object parts) = (do
    let vs ← (liftM ((parts.lookup "buckets").getD (.list [])).items : Except Error (List Value))
    let counts ← vs.mapM (bucketCount? registry code)
    return ⟨code, counts.filterMap id⟩) :=
  rfl

theorem facetField_eq_error_iff :
    facetField registry code v = .error err ↔ AggregationFault registry code v err := by
  rcases v.object_or_other with ⟨parts, rfl⟩ | hn
  case inr =>
    rw [facetField, Value.member?_eq_error hn]
    constructor
    case mp => rintro ⟨⟩; exact .kind hn
    case mpr =>
      intro h
      cases h
      case kind => rfl
      all_goals exact absurd rfl (hn _)
  case inl =>
    have hm (vs : List Value) : vs.mapM (bucketCount? registry code) = .error err ↔
        Outcome.First (BucketFault registry code) vs err :=
      Outcome.mapM_eq_error_iff_first fun _ _ _ => bucketCount?_eq_error_iff
    rw [facetField_object]
    constructor
    case mp =>
      intro h
      cases hb : parts.lookup "buckets"
      case none => rw [hb] at h; cases h
      case some v =>
        rw [hb, Option.getD_some] at h
        rcases Outcome.bind_eq_error_iff.mp h with hi | ⟨vs, hi, h⟩
        case inl =>
          obtain ⟨cause, hc, rfl⟩ := Outcome.liftM_eq_error_iff.mp hi
          exact .buckets hb hc
        case inr =>
          rcases Outcome.bind_eq_error_iff.mp h with hf | ⟨_, _, ⟨⟩⟩
          exact .bucket hb (Outcome.mapError_eq_ok_iff.mp hi) ((hm vs).mp hf)
    case mpr =>
      rintro (hn | ⟨hb, hi⟩ | ⟨hb, hi, hf⟩)
      · exact absurd rfl (hn parts)
      · rw [hb, Option.getD_some, hi]
        rfl
      · rw [hb, Option.getD_some, hi]
        refine Outcome.bind_eq_error_iff.mpr <| .inr ⟨_, rfl, ?_⟩
        exact Outcome.bind_eq_error_iff.mpr <| .inl <| (hm _).mpr hf

-- What a reply counts is an object. Anything else is only passed over if it holds nothing.
theorem facetFields_of_object (ha : ms.lookup "aggregations" = some (.object fields)) :
    facetFields ⟨.object ms⟩ registry [] = fields.mapM fun field => facetField registry field.1 field.2 := by
  have hf : fields.filter (fun field => !List.contains [] field.1) = fields :=
    List.filter_eq_self.mpr fun _ _ => rfl
  have hc : CountsByCode ⟨.object ms⟩ := ⟨_, rfl, fun _ => ⟨fields, ha⟩⟩
  simp only [facetFields_eq_mapM hc, aggregations, Value.member?, ha, hf]

theorem facetFields_of_other (ha : ms.lookup "aggregations" = some v) (hn : ∀ fields, v ≠ .object fields) :
    facetFields ⟨.object ms⟩ registry [] = if v.holds then .error (.misuse .noSuchPart) else .ok [] := by
  simp only [facetFields, Value.member?, ha]
  cases v
  case object fields => exact absurd rfl (hn fields)
  all_goals rfl

theorem facetFields_of_absent (ha : ms.lookup "aggregations" = none) :
    facetFields ⟨.object ms⟩ registry [] = .ok [] := by
  simp only [facetFields, Value.member?, ha]
  rfl

theorem facetFields_eq_error_iff :
    facetFields ⟨.object ms⟩ registry [] = .error err ↔ FacetsFault registry ms err := by
  have hm (fields : Members) : (fields.mapM fun field => facetField registry field.1 field.2) = .error err ↔
      Outcome.First (fun field : String × Value => AggregationFault registry field.1 field.2) fields err :=
    Outcome.mapM_eq_error_iff_first fun _ _ _ => facetField_eq_error_iff
  constructor
  case mp =>
    intro h
    cases ha : ms.lookup "aggregations"
    case none => cases (facetFields_of_absent ha).symm.trans h
    case some v =>
      rcases v.object_or_other with ⟨fields, rfl⟩ | hn
      case inl => exact .aggregation ha <| (hm fields).mp <| (facetFields_of_object ha).symm.trans h
      case inr =>
        rw [facetFields_of_other ha hn] at h
        split at h
        case isTrue hv => cases h; exact .kind ha hv hn
        case isFalse   => cases h
  case mpr =>
    intro h
    cases h
    case kind ha hv hn        => rw [facetFields_of_other ha hn, if_pos hv]
    case aggregation ha hf => rw [facetFields_of_object ha, hm]; exact hf

theorem productOf_eq_error_iff : productOf hit = .error cause ↔ HitFault hit cause := by
  have hd (source : Value) : (do return (← source.member "product_id").text : Except Misuse String) =
      .error cause ↔ source.member "product_id" = .error cause := by
    rw [Outcome.bind_eq_error_iff]
    exact or_iff_left <| by rintro ⟨_, _, ⟨⟩⟩
  rw [productOf, Outcome.bind_eq_error_iff]
  simp only [hd]
  constructor
  case mp =>
    rintro (hs | ⟨source, hs, hp⟩)
    case inl =>
      rcases Value.member_eq_error_iff.mp hs with ⟨hn, rfl⟩ | ⟨parts, rfl, hl, rfl⟩
      case inl => exact .kind hn
      case inr => exact .sourceless hl
    case inr =>
      rcases hit.object_or_other with ⟨parts, rfl⟩ | hn
      case inr => cases (Value.member_eq_error hn).symm.trans hs
      case inl =>
        have hs := member_eq_ok_iff.mp hs
        rcases Value.member_eq_error_iff.mp hp with ⟨hn, rfl⟩ | ⟨fields, rfl, hl, rfl⟩
        case inl => exact .source hs hn
        case inr => exact .productless hs hl
  case mpr =>
    intro h
    cases h
    case kind hn           => exact .inl <| Value.member_eq_error hn
    case sourceless hl     => exact .inl <| Value.member_object_eq_error_iff.mpr ⟨hl, rfl⟩
    case source hs hn      => exact .inr ⟨_, member_eq_ok_iff.mpr hs, Value.member_eq_error hn⟩
    case productless hs hl =>
      exact .inr ⟨_, member_eq_ok_iff.mpr hs, Value.member_object_eq_error_iff.mpr ⟨hl, rfl⟩⟩

def productsOf (found : Value) : Except Misuse (List String) :=
  if found.holds then found.items >>= (·.mapM productOf) else .ok []

theorem productIds_eq (ms : Members) : productIds ⟨.object ms⟩ =
    ((ms.lookup "hits").getD (.object [])).member? "hits" >>= fun found => productsOf (found.getD .null) :=
  rfl

theorem holds_of_items {v : Value} (hi : v.items = .ok vs) (hn : vs ≠ []) : v.holds := by
  cases v
  case list   => cases hi; simpa [Value.holds] using hn
  case object => cases hi; simpa [Value.holds] using hn
  case str    => cases hi; simpa [Value.holds] using hn
  all_goals cases hi

theorem productsOf_eq_error_iff : productsOf found = .error cause ↔
    found.holds ∧ found.items = .error cause ∨
      ∃ vs, found.items = .ok vs ∧ Outcome.First HitFault vs cause := by
  have hm (vs : List Value) : vs.mapM productOf = .error cause ↔ Outcome.First HitFault vs cause :=
    Outcome.mapM_eq_error_iff_first fun _ _ _ => productOf_eq_error_iff
  rw [productsOf]
  split
  case isTrue hv =>
    simp only [Outcome.bind_eq_error_iff, hm, hv, true_and]
  case isFalse hv =>
    refine iff_of_false nofun ?_
    rintro (⟨hv', -⟩ | ⟨vs, hi, hf⟩)
    case inl => exact hv hv'
    case inr =>
      have hn : vs ≠ [] := by
        obtain ⟨_, _, _, rfl, _⟩ := hf
        simp
      exact hv (holds_of_items hi hn)

theorem productIds_eq_error_iff (ht : ∀ cause, ¬TotalFault ms cause) :
    productIds ⟨.object ms⟩ = .error cause ↔ ProductsFault ms cause := by
  rw [productIds_eq, Outcome.bind_eq_error_iff]
  simp only [hits_eq_error_iff, hits_eq_ok_iff]
  constructor
  case mp =>
    rintro (⟨v, hp, hn, -⟩ | ⟨found, ⟨-, rfl⟩ | ⟨part, hp, hh⟩, h⟩)
    · exact absurd (.part hp hn) (ht _)
    · cases h
    · cases found
      case none => cases h
      case some found =>
        rcases productsOf_eq_error_iff.mp h with ⟨hv, hi⟩ | ⟨vs, hi, hf⟩
        case inl => exact .hits hp hh hv hi
        case inr => exact .hit hp hh hi hf
  case mpr =>
    rintro (⟨hp, hh, hv, hi⟩ | ⟨hp, hh, hi, hf⟩)
    · exact .inr ⟨_, .inr ⟨_, hp, hh⟩, productsOf_eq_error_iff.mpr <| .inl ⟨hv, hi⟩⟩
    · exact .inr ⟨_, .inr ⟨_, hp, hh⟩, productsOf_eq_error_iff.mpr <| .inr ⟨_, hi, hf⟩⟩

theorem ValueFault.fromIndex (h : ValueFault registry code bucket err) : err.FromIndex := by
  cases h
  case untransformed => exact .missingTransformation
  all_goals exact .misuse

theorem AggregationFault.fromIndex (h : AggregationFault registry code v err) : err.FromIndex := by
  cases h
  case kind    => exact .misuse
  case buckets => exact .misuse
  case bucket hf =>
    obtain ⟨_, _, _, _, _, hb⟩ := hf
    cases hb
    case value hf => exact hf.fromIndex
    all_goals exact .misuse

theorem FacetsFault.fromIndex (h : FacetsFault registry ms err) : err.FromIndex := by
  cases h
  case kind           => exact .misuse
  case aggregation hf =>
    obtain ⟨_, _, _, _, _, ha⟩ := hf
    exact ha.fromIndex

theorem ReplyFault.fromIndex (h : ReplyFault registry ms err) : err.FromIndex := by
  cases h
  case refused   => exact .engine
  case total     => exact .misuse
  case facets hf => exact hf.fromIndex
  case products  => exact .misuse

end Response
end CatalogSearch
