import CatalogSearch.Http.Client
import Mathlib.Data.List.DropRight
import Mathlib.Tactic.IntervalCases

namespace CatalogSearch

namespace Segment

def IsUnreserved (c : Char) : Prop :=
  c.isAlphanum ∨ c ∈ ['_', '.', '-', '~']

-- A segment has no characters but those and escapes, which are two hexadecimal digits behind `%`.
inductive IsSegment : List Char → Prop
  | nil : IsSegment []
  | unreserved (h : IsUnreserved c) (hs : IsSegment cs) : IsSegment (c :: cs)
  | escape (ha : (Json.hexValue? a).isSome) (hb : (Json.hexValue? b).isSome) (hs : IsSegment cs) :
      IsSegment ('%' :: a :: b :: cs)

def bytes? : List Char → Option (List UInt8)
  | []                    => some []
  | '%' :: a :: b :: rest => do
    let high ← Json.hexValue? a
    let low ← Json.hexValue? b
    return UInt8.ofNat (high * 16 + low) :: (← bytes? rest)
  | '%' :: _              => none
  | c :: rest             => (bytes? rest).map (String.utf8EncodeChar c ++ ·)

def decode? (segment : String) : Option String :=
  (bytes? segment.toList).bind fun bytes => String.fromUTF8? bytes.toByteArray

theorem toNat_lt (c : Char) : c.toNat < 0x110000 := by
  rcases c.valid with h | ⟨_, h⟩
  case inl => exact h.trans (by decide)
  case inr => exact h

theorem utf8_eq (c : Char) : (utf8 c).map UInt8.ofNat = String.utf8EncodeChar c := by
  have hlt := toNat_lt c
  have hn : c.val.toNat = c.toNat := rfl
  simp only [utf8, String.utf8EncodeChar, hn]
  generalize c.toNat = n at hlt
  by_cases one : n < 0x80
  case pos => rw [if_pos one, if_pos (show n ≤ 127 by omega)]; rfl
  case neg =>
    rw [if_neg one, if_neg (show ¬n ≤ 127 by omega)]
    by_cases two : n < 0x800
    case pos =>
      have h₁ : 0xC0 + n / 0x40 = n / 64 % 32 + 192 := by omega
      have h₂ : 0x80 + n % 0x40 = n % 64 + 128 := by omega
      rw [if_pos two, if_pos (show n ≤ 2047 by omega), h₁, h₂]
      rfl
    case neg =>
      rw [if_neg two, if_neg (show ¬n ≤ 2047 by omega)]
      have h₃ : 0x80 + n / 0x40 % 0x40 = n / 64 % 64 + 128 := by omega
      have h₄ : 0x80 + n % 0x40 = n % 64 + 128 := by omega
      by_cases three : n < 0x10000
      case pos =>
        have h₁ : 0xE0 + n / 0x1000 = n / 4096 % 16 + 224 := by omega
        rw [if_pos three, if_pos (show n ≤ 65535 by omega), h₁, h₃, h₄]
        rfl
      case neg =>
        have h₁ : 0xF0 + n / 0x40000 = n / 262144 % 8 + 240 := by omega
        have h₂ : 0x80 + n / 0x1000 % 0x40 = n / 4096 % 64 + 128 := by omega
        rw [if_neg three, if_neg (show ¬n ≤ 65535 by omega), h₁, h₂, h₃, h₄]
        rfl

theorem lt_of_mem_utf8 (h : b ∈ utf8 c) : b < 256 := by
  have hlt := toNat_lt c
  simp only [utf8] at h
  split at h
  case isTrue => simp at h; omega
  case isFalse =>
    split at h
    case isTrue => simp at h; omega
    case isFalse =>
      split at h
      case isTrue  => simp at h; omega
      case isFalse => simp at h; omega

theorem hexValue?_hexDigit (h : n < 16) : Json.hexValue? (hexDigit n) = some n := by
  interval_cases n <;> rfl

theorem isPlain_iff : isPlain c ↔ IsUnreserved c := by
  have ha : c.isAlphanum = ((decide (c.val ≥ 'A'.val ∧ c.val ≤ 'Z'.val) || (c.val ≥ 'a'.val && c.val ≤ 'z'.val)) ||
    (c.val ≥ '0'.val && c.val ≤ '9'.val)) := rfl
  simp only [isPlain, IsUnreserved, ha, Char.le_def, Bool.or_eq_true, Bool.and_eq_true, decide_eq_true_eq,
    List.mem_cons, List.not_mem_nil, or_false, ge_iff_le]
  grind

theorem bytes?_plain (h : c ≠ '%') : bytes? (c :: rest) = (bytes? rest).map (String.utf8EncodeChar c ++ ·) := by
  rw [bytes?.eq_def]
  split
  case h_1 he => cases he
  case h_2 he => cases he; exact absurd rfl h
  case h_3 he => cases he; exact absurd rfl h
  case h_4 he => cases he; rfl

theorem bytes?_escapeByte (h : b < 256) :
    bytes? (escapeByte b ++ rest) = (bytes? rest).map (UInt8.ofNat b :: ·) := by
  have hb : b / 16 * 16 + b % 16 = b := Nat.div_add_mod' b 16
  simp only [escapeByte, List.cons_append, List.nil_append, bytes?, hexValue?_hexDigit (show b / 16 < 16 by omega),
    hexValue?_hexDigit (show b % 16 < 16 by omega), Option.bind_eq_bind, Option.bind_some, hb]
  cases bytes? rest <;> rfl

theorem bytes?_escapeBytes {bs : List Nat} (h : ∀ b ∈ bs, b < 256) :
    bytes? (bs.flatMap escapeByte ++ rest) = (bytes? rest).map (bs.map UInt8.ofNat ++ ·) := by
  induction bs
  case nil => cases h : bytes? rest <;> simp [h]
  case cons b bs hi =>
    have ⟨hb, hs⟩ := List.forall_mem_cons.mp h
    rw [List.flatMap_cons, List.append_assoc, bytes?_escapeByte hb, hi hs, Option.map_map]
    rfl

theorem bytes?_encodeChar (c : Char) (rest : List Char) :
    bytes? (encodeChar c ++ rest) = (bytes? rest).map (String.utf8EncodeChar c ++ ·) := by
  rw [encodeChar]
  split
  case isTrue h  => exact bytes?_plain fun he => absurd (he ▸ h) (by decide)
  case isFalse h => rw [bytes?_escapeBytes fun b => lt_of_mem_utf8, utf8_eq]

theorem bytes?_encodeChars (cs : List Char) :
    bytes? (cs.flatMap encodeChar) = some (cs.flatMap String.utf8EncodeChar) := by
  induction cs
  case nil          => rfl
  case cons c cs hi => rw [List.flatMap_cons, bytes?_encodeChar, hi, List.flatMap_cons]; rfl

theorem fromUTF8?_toByteArray (s : String) : String.fromUTF8? s.toByteArray = some s := by
  rw [String.fromUTF8?, dif_pos s.isValidUTF8]
  rfl

theorem decode?_encode (s : String) : decode? (encode s) = some s := by
  have hb : (s.toList.flatMap String.utf8EncodeChar).toByteArray = s.toByteArray := String.utf8Encode_toList
  rw [decode?, encode, String.toList_ofList, bytes?_encodeChars, Option.bind_some, hb, fromUTF8?_toByteArray]

theorem encode_injective (h : encode s = encode s') : s = s' :=
  Option.some.inj <| by rw [← decode?_encode s, h, decode?_encode]

theorem isSegment_escapeBytes {bs : List Nat} (h : ∀ b ∈ bs, b < 256) (hs : IsSegment cs) :
    IsSegment (bs.flatMap escapeByte ++ cs) := by
  induction bs
  case nil => exact hs
  case cons b bs hi =>
    have ⟨hb, h⟩ := List.forall_mem_cons.mp h
    refine .escape ?_ ?_ (hi h)
    case refine_1 => rw [hexValue?_hexDigit (by omega)]; rfl
    case refine_2 => rw [hexValue?_hexDigit (by omega)]; rfl

theorem isSegment_encode (s : String) : IsSegment (encode s).toList := by
  rw [encode, String.toList_ofList]
  induction s.toList
  case nil => exact .nil
  case cons c cs hi =>
    rw [List.flatMap_cons, encodeChar]
    split
    case isTrue h => exact .unreserved (isPlain_iff.mp h) hi
    case isFalse  => exact isSegment_escapeBytes (fun b => lt_of_mem_utf8) hi

end Segment

namespace Http

structure IsBase (path base : String) : Prop where
  slashes : ∃ n, path.toList = base.toList ++ List.replicate n '/'
  bare    : base.toList.getLast? ≠ some '/'

theorem isBase_basePath (path : String) : IsBase path (basePath path) where
  slashes := by
    have hs : ∀ c ∈ path.toList.rtakeWhile (· = '/'), c = '/' := fun c hc => by
      simpa using List.mem_rtakeWhile_imp hc
    refine ⟨(path.toList.rtakeWhile (· = '/')).length, ?_⟩
    rw [basePath, String.toList_ofList, ← List.eq_replicate_of_mem hs]
    exact List.rdropWhile_append_rtakeWhile.symm
  bare := by
    rw [basePath, String.toList_ofList]
    change (path.toList.rdropWhile (· = '/')).getLast? ≠ _
    intro h
    obtain ⟨hn, hl⟩ := List.mem_getLast?_eq_getLast h
    exact List.rdropWhile_last_not _ _ hn (by simp [← hl])

theorem url_document (path id : String) :
    url path ["_doc", Segment.encode id] = basePath path ++ "/_doc/" ++ Segment.encode id := by
  rw [← String.toList_inj, url, String.toList_intercalate]
  simp [List.intercalate]

-- A document is stored under the path of the index without slashes at its end, and a segment that is decoded to its
-- identity. So documents are stored under one address only if they have the same identity.
theorem documents_addressed_apart (c : Connection) :
    ∃ (base : String) (address : String → String), IsBase c.path base ∧
      (∀ id body, ∀ {σ : Type} (partner : σ → HttpRequest → Except Error HttpReply × σ) (s : σ),
        ((exchange c (.question (.update (.str id) body))).run partner s).asked =
          [⟨"PUT", address id, body, c.timeout⟩]) ∧
      (∀ id, ∃ segment, address id = base ++ "/_doc/" ++ segment ∧
        Segment.IsSegment segment.toList ∧ Segment.decode? segment = some id) ∧
      ∀ id id', address id = address id' ↔ id = id' := by
  refine ⟨basePath c.path, fun id => url c.path ["_doc", Segment.encode id], isBase_basePath c.path,
    fun _ _ _ _ _ => rfl, fun id => ?segment, fun id id' => ⟨fun h => ?same, fun h => h ▸ rfl⟩⟩
  case segment =>
    exact ⟨Segment.encode id, url_document c.path id, Segment.isSegment_encode id, Segment.decode?_encode id⟩
  case same =>
    simp only [url_document, String.append_right_inj] at h
    exact Segment.encode_injective h

example : url "http://localhost:9200/products/" ["_doc", Segment.encode "sku 1_locale:en"] =
    "http://localhost:9200/products/_doc/sku%201_locale%3Aen" := by
  decide +kernel

end Http
end CatalogSearch
