import CatalogSearch.Facet.Filter
import CatalogSearch.Facet.Request
import CatalogSearch.Proofs.Facet.RoundTrip

namespace CatalogSearch.FacetRange

inductive GivenBound : Value → Prop
  | none                      : GivenBound .null
  | empty                     : GivenBound (.str "")
  | int                       : GivenBound (.int n)
  | positive (h : Numeral cs) : GivenBound (.str <| String.ofList cs)
  | negative (h : Numeral cs) : GivenBound (.str <| String.ofList ('-' :: cs))

def settled (bound : Value) : Value :=
  if bound = .str "" then .null else bound

theorem create_eq (lower upper : Value) : create lower upper = ⟨settled lower, settled upper⟩ :=
  rfl

theorem settled_ne_empty (bound : Value) : settled bound ≠ .str "" := by
  rw [settled]
  split
  case isTrue    => nofun
  case isFalse h => exact h

theorem GivenBound.settled (h : GivenBound b) : GivenBound (settled b) := by
  rw [FacetRange.settled]
  split
  case isTrue  => exact .none
  case isFalse => exact h

def boundAsRead (bound : Value) : Value :=
  if bound = .null ∨ bound = .str "" then .null else .str bound.text

def asRead (r : FacetRange) : FacetRange where
  lower := boundAsRead r.lower
  upper := boundAsRead r.upper

theorem boundAsRead_eq_null_iff : boundAsRead b = .null ↔ b = .null ∨ b = .str "" := by
  by_cases h : b = .null ∨ b = .str "" <;> simp [boundAsRead, h]

theorem GivenBound.boundText_asRead (h : GivenBound b) :
    BoundText (boundText b).toList (boundAsRead b) := by
  cases h
  case none       => exact .opened
  case empty      => exact .opened
  case int n      => exact boundText_intText n
  case positive h => simpa [boundAsRead, boundText, Value.text, h.ne_nil] using BoundText.positive h
  case negative h => simpa [boundAsRead, boundText, Value.text] using BoundText.negative h

theorem ofToken_token {r : FacetRange} (hl : GivenBound r.lower) (hu : GivenBound r.upper) :
    Decoded.ofToken r.token = .range r.asRead := by
  refine Decoded.ofToken_of_named <| namedBy_iff.mpr <| .inl
    ⟨_, _, hl.boundText_asRead, hu.boundText_asRead, ?_⟩
  simp [token]

theorem BoundText.eq_null_of_star (h : BoundText ['*'] b) : b = .null := by
  cases h
  case opened     => rfl
  case positive h =>
    obtain ⟨d, ds, he, hd⟩ := h.head
    cases he
    exact absurd hd (by decide)

theorem GivenBound.boundText_eq_star_iff (h : GivenBound b) :
    boundText b = "*" ↔ b = .null ∨ b = .str "" := by
  constructor
  case mp =>
    intro hs
    have hb := h.boundText_asRead
    rw [hs] at hb
    exact boundAsRead_eq_null_iff.mp hb.eq_null_of_star
  case mpr => rintro (rfl | rfl) <;> rfl

theorem clause_congr {r s : FacetRange} (hl : r.lower = .null ↔ s.lower = .null)
    (hu : r.upper = .null ↔ s.upper = .null) (hlt : r.lower.text = s.lower.text)
    (hut : r.upper.text = s.upper.text) : r.clause field = s.clause field := by
  simp only [clause, hl, hu, hlt, hut]

theorem clause_asRead (r : FacetRange) (field : String) :
    r.asRead.clause field = (create r.lower r.upper).clause field := by
  have hn (b : Value) : boundAsRead b = .null ↔ settled b = .null := by
    by_cases h : b = .str "" <;> simp [boundAsRead_eq_null_iff, settled, h]
  have ht (b : Value) : (boundAsRead b).text = (settled b).text := by
    by_cases h : b = .str ""
    case pos => simp [boundAsRead, settled, h]
    case neg => by_cases hb : b = .null <;> simp [boundAsRead, settled, h, hb, Value.text]
  exact clause_congr (hn _) (hn _) (ht _) (ht _)

theorem clause_eq_create_iff (r : FacetRange) (field : String) :
    r.clause field = (create r.lower r.upper).clause field ↔
      r.lower ≠ .str "" ∧ r.upper ≠ .str "" := by
  obtain ⟨lower, upper⟩ := r
  constructor
  case mp =>
    refine fun h => ⟨?below, ?above⟩
    case below =>
      rintro (rfl : lower = .str "")
      by_cases hn : upper = .null <;> by_cases he : upper = .str "" <;>
        simp [clause, create, hn, he, Operator.bounded, Clause.anything] at h
    case above =>
      rintro (rfl : upper = .str "")
      by_cases hn : lower = .null <;> by_cases he : lower = .str "" <;>
        simp [clause, create, hn, he, Operator.bounded, Clause.anything] at h
  case mpr =>
    rintro ⟨hl, hu⟩
    rw [create, if_neg hl, if_neg hu]

def Counts (r : FacetRange) (name : String) : Prop :=
  ∃ bound, (FacetRequest.boundsValue r).member? name = .ok (some bound)

theorem counts_from_iff {r : FacetRange} : r.Counts "from" ↔ r.lower ≠ .null := by
  by_cases hl : r.lower = .null <;> by_cases hu : r.upper = .null <;>
    simp [Counts, FacetRequest.boundsValue, Value.member?, lookup_entries_cons, hl, hu]

theorem counts_to_iff {r : FacetRange} : r.Counts "to" ↔ r.upper ≠ .null := by
  by_cases hl : r.lower = .null <;> by_cases hu : r.upper = .null <;>
    simp [Counts, FacetRequest.boundsValue, Value.member?, lookup_entries_cons, hl, hu]

theorem GivenBound.closed_iff (h : GivenBound b) :
    (b ≠ .null ↔ boundText b ≠ "*") ↔ b ≠ .str "" := by
  rw [ne_eq (boundText b), h.boundText_eq_star_iff]
  by_cases hb : b = .str "" <;> simp [hb]

-- The same bounds of a range are open to its clause, to its aggregation and to its token.
structure OpenAlike (r : FacetRange) (field : String) : Prop where
  clause : ∃ read, Decoded.ofToken r.token = .range read ∧ r.clause field = read.clause field
  lower  : r.Counts "from" ↔ boundText r.lower ≠ "*"
  upper  : r.Counts "to" ↔ boundText r.upper ≠ "*"

theorem openAlike_of_nonempty {r : FacetRange} (hl : GivenBound r.lower) (hu : GivenBound r.upper)
    (hle : r.lower ≠ .str "") (hue : r.upper ≠ .str "") : r.OpenAlike field where
  clause :=
    ⟨_, ofToken_token hl hu, clause_asRead r field ▸ (clause_eq_create_iff r field).mpr ⟨hle, hue⟩⟩
  lower  := counts_from_iff.trans <| hl.closed_iff.mpr hle
  upper  := counts_to_iff.trans <| hu.closed_iff.mpr hue

-- The same bounds are open everywhere unless an empty text is given for one of them, which is never so
-- for a range as it is created.
theorem openAlike_iff {r : FacetRange} (hl : GivenBound r.lower) (hu : GivenBound r.upper)
    (field : String) :
    (r.OpenAlike field ↔ r.lower ≠ .str "" ∧ r.upper ≠ .str "") ∧
      ((r.Counts "from" ↔ boundText r.lower ≠ "*") ↔ r.lower ≠ .str "") ∧
      ((r.Counts "to" ↔ boundText r.upper ≠ "*") ↔ r.upper ≠ .str "") ∧
      (create r.lower r.upper).OpenAlike field := by
  refine ⟨⟨fun h => ?nonempty, fun ⟨hle, hue⟩ => openAlike_of_nonempty hl hu hle hue⟩, ?below, ?above,
    ?created⟩
  case nonempty =>
    obtain ⟨read, hr, he⟩ := h.clause
    obtain rfl : r.asRead = read := Decoded.range.inj <| (ofToken_token hl hu).symm.trans hr
    exact (clause_eq_create_iff r field).mp <| he.trans <| clause_asRead r field
  case below   => rw [counts_from_iff, hl.closed_iff]
  case above   => rw [counts_to_iff, hu.closed_iff]
  case created =>
    rw [create_eq]
    exact openAlike_of_nonempty hl.settled hu.settled (settled_ne_empty _) (settled_ne_empty _)

theorem openAlike_up_to_fraction :
    OpenAlike ⟨.int (-5), .str "1.5"⟩ "price" ∧ (create (.str "") (.str "1.5")).OpenAlike "price" := by
  have hf : Numeral (['1'] ++ '.' :: ['5']) :=
    .fraction (digits_singleton (by decide)) (digits_singleton (by decide))
  have hu : GivenBound (.str "1.5") := .positive hf
  obtain ⟨hi, _⟩ := openAlike_iff (r := ⟨.int (-5), .str "1.5"⟩) .int hu "price"
  obtain ⟨_, _, _, hc⟩ := openAlike_iff (r := ⟨.str "", .str "1.5"⟩) .empty hu "price"
  exact ⟨hi.mpr ⟨by decide, by decide⟩, hc⟩

theorem not_openAlike_from_empty :
    ¬∀ (r : FacetRange) (field : String),
      GivenBound r.lower → GivenBound r.upper → r.OpenAlike field := by
  intro h
  have ha := h ⟨.str "", .int 5⟩ "price" .empty .int
  exact ha.lower.mp ⟨_, rfl⟩ rfl

end CatalogSearch.FacetRange
