import CatalogSearch.Facet.Range
import Mathlib.Data.Nat.Notation
import Mathlib.Logic.Basic

namespace CatalogSearch

attribute [local instance (high)] instPowNat instNatPowNat

theorem Integer.fits_iff : Integer.fits limit n ↔ limit = 0 ∨ n.natAbs < 10 ^ limit := by
  rw [fits, Bool.or_eq_true, decide_eq_true_iff, decide_eq_true_iff]
  exact or_congr_right' fun h => Nat.length_toDigits_le_iff (by decide) (Nat.pos_of_ne_zero h)

theorem Integer.fits_unlimited (n : Int) : Integer.fits 0 n :=
  fits_iff.mpr <| .inl rfl

namespace Value

mutual

theorem fits_unlimited : (v : Value) → v.fits 0
  | .int n     => Integer.fits_unlimited n
  | .list vs   => fitItems_unlimited vs
  | .object ms => fitMembers_unlimited ms
  | .null | .bool _ | .double _ | .str _ | .date _ => rfl

theorem fitItems_unlimited : (vs : List Value) → fitItems 0 vs
  | []      => rfl
  | v :: vs => by rw [fitItems, fits_unlimited v, fitItems_unlimited vs, Bool.true_and]

theorem fitMembers_unlimited : (ms : List (String × Value)) → fitMembers 0 ms
  | []           => rfl
  | (_, v) :: ms => by rw [fitMembers, fits_unlimited v, fitMembers_unlimited ms, Bool.true_and]

end

end Value

namespace FacetRange

theorem boundFits_unlimited (bound : Value) : boundFits 0 bound := by
  cases bound
  case double x =>
    rw [boundFits]
    cases x.toInt?
    case none   => rfl
    case some n => exact Integer.fits_unlimited n
  all_goals exact Value.fits_unlimited _

theorem encode_eq_ok_iff {r : FacetRange} {token : String} : r.encode limit = .ok token ↔
    boundFits limit r.lower ∧ boundFits limit r.upper ∧ r.token = token := by
  rw [encode, ← and_assoc, ← Bool.and_eq_true]
  split
  case isTrue h  => simp [h]
  case isFalse h => simp [h]

theorem encode_unlimited (r : FacetRange) : r.encode 0 = .ok r.token :=
  encode_eq_ok_iff.mpr ⟨boundFits_unlimited _, boundFits_unlimited _, rfl⟩

end FacetRange

namespace Registry

variable {r : Registry}

theorem find?_insert : (r.insert code t).find? code' = if code' = code then some t else r.find? code' :=
  OrderedMap.get?_insert _

theorem has_register_iff : (r.register code).has code' ↔ code' = code ∨ r.has code' := by
  rw [has, register, find?_insert]
  split
  case isTrue h  => simp [h]
  case isFalse h => simp [h, has]

def OfTokens (r : Registry) : Prop :=
  ∀ code, ∀ t ∈ r.find? code, t = .rangeTokens

theorem ofTokens_empty : OfTokens {} :=
  nofun

theorem OfTokens.register (h : r.OfTokens) (code : String) : (r.register code).OfTokens := by
  intro code' t ht
  rw [Registry.register, find?_insert] at ht
  split at ht
  case isTrue  => exact (Option.some.inj ht).symm
  case isFalse => exact h code' t ht

end Registry

theorem Transformation.encodeRange_rangeTokens (r : FacetRange) :
    Transformation.rangeTokens.encodeRange r = .ok r.token :=
  r.encode_unlimited

end CatalogSearch
