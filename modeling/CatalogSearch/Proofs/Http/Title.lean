import CatalogSearch.Http.Title
import Mathlib.Data.List.Forall2

namespace CatalogSearch.Title

def spellings : Char → List Char
  | 't' => ['t', 'T']
  | 'i' => ['i', 'I', '\u0130', '\u0131']
  | 'l' => ['l', 'L']
  | 'e' => ['e', 'E']
  | c   => [c]

def Spelled (tag cs : List Char) : Prop :=
  List.Forall₂ (fun t c => c ∈ spellings t) tag cs

structure First (tag cs front occurrence rest : List Char) : Prop where
  parts   : cs = front ++ (occurrence ++ rest)
  spelled : Spelled tag occurrence
  first   : ∀ front' occurrence' rest', cs = front' ++ (occurrence' ++ rest') → Spelled tag occurrence' →
    front.length ≤ front'.length

def Titled (page before title : List Char) : Prop :=
  ∃ opening closing after, Spelled openTag opening ∧ Spelled closeTag closing ∧
    page = before ++ (opening ++ (title ++ (closing ++ after)))

def FirstTitle (page title : List Char) : Prop :=
  ∃ before opening behind closing after,
    First openTag page before opening behind ∧ First closeTag behind title closing after

-- The leftmost title of a page, and of all that begin there the shortest one.
def LeftmostTitle (page title : List Char) : Prop :=
  ∃ before, Titled page before title ∧ ∀ before' title', Titled page before' title' →
    before.length ≤ before'.length ∧ (before.length = before'.length → title.length ≤ title'.length)

theorem isCaseOf_iff (h : t ∈ closeTag) : isCaseOf t c ↔ c ∈ spellings t := by
  have ht : c.toNat = 84 ↔ c = 'T' := Char.toNat_inj (d := 'T')
  have hi : c.toNat = 73 ↔ c = 'I' := Char.toNat_inj (d := 'I')
  have hl : c.toNat = 76 ↔ c = 'L' := Char.toNat_inj (d := 'L')
  have he : c.toNat = 69 ↔ c = 'E' := Char.toNat_inj (d := 'E')
  have hc : c.toNat = 0x130 ↔ c = '\u0130' := Char.toNat_inj (d := '\u0130')
  have hs : c.toNat = 0x131 ↔ c = '\u0131' := Char.toNat_inj (d := '\u0131')
  simp only [closeTag, List.mem_cons, List.not_mem_nil, or_false] at h
  rcases h with rfl | rfl | rfl | rfl | rfl | rfl | rfl | rfl
  all_goals simp [isCaseOf, spellings, ht, hi, hl, he, hc, hs, or_assoc]

variable {tag : List Char}

theorem spelled_of_afterTag? (ht : tag ⊆ closeTag) (h : afterTag? tag cs = some rest) :
    ∃ occurrence, Spelled tag occurrence ∧ cs = occurrence ++ rest := by
  induction tag generalizing cs
  case nil =>
    cases h
    exact ⟨[], .nil, rfl⟩
  case cons t tag hi =>
    have ⟨ht, hts⟩ := List.cons_subset.mp ht
    cases cs
    case nil => cases h
    case cons c cs =>
      rw [afterTag?] at h
      split at h
      case isFalse => cases h
      case isTrue hc =>
        have ⟨occurrence, hs, he⟩ := hi hts h
        exact ⟨c :: occurrence, .cons ((isCaseOf_iff ht).mp hc) hs, congrArg _ he⟩

theorem afterTag?_of_spelled (ht : tag ⊆ closeTag) (h : Spelled tag occurrence) :
    afterTag? tag (occurrence ++ rest) = some rest := by
  induction h
  case nil => rfl
  case cons hc _ hi =>
    have ⟨ht, hts⟩ := List.cons_subset.mp ht
    rw [List.cons_append, afterTag?, if_pos ((isCaseOf_iff ht).mpr hc), hi hts]

theorem Spelled.length_eq (h : Spelled tag occurrence) : occurrence.length = tag.length :=
  (List.Forall₂.length_eq h).symm

def Occurs (tag cs : List Char) : Prop :=
  ∃ front occurrence rest, cs = front ++ (occurrence ++ rest) ∧ Spelled tag occurrence

theorem First.here (h : Spelled tag occurrence) : First tag (occurrence ++ rest) [] occurrence rest where
  parts   := rfl
  spelled := h
  first   := fun _ _ _ _ _ => Nat.zero_le _

-- Where no tag is at the front, the first one is behind the first character.
theorem First.behind (h : First tag cs front occurrence rest) (ht : tag ⊆ closeTag)
    (hn : afterTag? tag (c :: cs) = none) : First tag (c :: cs) (c :: front) occurrence rest where
  parts   := congrArg _ h.parts
  spelled := h.spelled
  first   := by
    intro front' occurrence' rest' hp hs
    cases front'
    case nil =>
      rw [hp, List.nil_append, afterTag?_of_spelled ht hs] at hn
      cases hn
    case cons c' front' =>
      cases hp
      exact Nat.succ_le_succ <| h.first front' occurrence' rest' rfl hs

theorem exists_first (ht : tag ⊆ closeTag) (hn : tag ≠ []) (h : Occurs tag cs) : ∃ front occurrence rest,
    First tag cs front occurrence rest ∧ afterFirst? tag cs = some rest ∧ beforeFirst? tag cs = some front := by
  induction cs
  case nil =>
    have ⟨_, occurrence, _, hp, hs⟩ := h
    have ho : occurrence = [] := (List.append_eq_nil_iff.mp (List.append_eq_nil_iff.mp hp.symm).right).left
    exact absurd (List.length_eq_zero_iff.mp <| by rw [← hs.length_eq, ho, List.length_nil]) hn
  case cons c cs hi =>
    cases ha : afterTag? tag (c :: cs)
    case some rest =>
      have ⟨occurrence, hs, he⟩ := spelled_of_afterTag? ht ha
      exact ⟨[], occurrence, rest, he ▸ .here hs, by simp [afterFirst?, ha], by simp [beforeFirst?, ha]⟩
    case none =>
      have ho : Occurs tag cs := by
        obtain ⟨front, occurrence, rest, hp, hs⟩ := h
        cases front
        case nil =>
          rw [hp, List.nil_append, afterTag?_of_spelled ht hs] at ha
          cases ha
        case cons => cases hp; exact ⟨_, _, _, rfl, hs⟩
      have ⟨front, occurrence, rest, hf, hr, hb⟩ := hi ho
      exact ⟨c :: front, occurrence, rest, hf.behind ht ha, by simp [afterFirst?, ha, hr],
        by simp [beforeFirst?, ha, hb]⟩

theorem Occurs.cons (h : Occurs tag cs) : Occurs tag (c :: cs) := by
  have ⟨front, occurrence, rest, hp, hs⟩ := h
  exact ⟨c :: front, occurrence, rest, congrArg _ hp, hs⟩

theorem occurs_of_afterTag? (ht : tag ⊆ closeTag) (h : afterTag? tag cs = some rest) : Occurs tag cs := by
  have ⟨occurrence, hs, he⟩ := spelled_of_afterTag? ht h
  exact ⟨[], occurrence, rest, he, hs⟩

theorem occurs_of_afterFirst? (ht : tag ⊆ closeTag) (h : afterFirst? tag cs = some rest) : Occurs tag cs := by
  induction cs
  case nil => cases h
  case cons c cs hi =>
    cases ha : afterTag? tag (c :: cs)
    case some => exact occurs_of_afterTag? ht ha
    case none =>
      rw [afterFirst?, ha] at h
      exact (hi h).cons

theorem occurs_of_beforeFirst? (ht : tag ⊆ closeTag) (h : beforeFirst? tag cs = some front) : Occurs tag cs := by
  induction cs generalizing front
  case nil => cases h
  case cons c cs hi =>
    cases ha : afterTag? tag (c :: cs)
    case some => exact occurs_of_afterTag? ht ha
    case none =>
      rw [beforeFirst?, ha] at h
      have ⟨_, h, _⟩ := Option.map_eq_some_iff.mp h
      exact (hi h).cons

theorem First.suffix (h : First tag cs front occurrence rest) (hp : cs = front' ++ (occurrence' ++ rest'))
    (hs : Spelled tag occurrence') : ∃ between, rest = between ++ rest' := by
  have hl := h.first _ _ _ hp hs
  have ho : occurrence.length = occurrence'.length := h.spelled.length_eq.trans hs.length_eq.symm
  rw [h.parts, ← List.append_assoc, ← List.append_assoc, List.append_eq_append_iff] at hp
  rcases hp with ⟨between, _, hr⟩ | ⟨between, he, hr⟩
  case inl => exact ⟨between, hr⟩
  case inr =>
    have hn : between = [] := by
      have hb := congrArg List.length he
      simp only [List.length_append] at hb
      exact List.length_eq_zero_iff.mp (by omega)
    exact ⟨[], by rw [hr, hn]; rfl⟩

theorem openTag_subset : openTag ⊆ closeTag := by
  decide

theorem Titled.exists_first (h : Titled page before title) : ∃ title, FirstTitle page title ∧
    ((afterFirst? openTag page).bind (beforeFirst? closeTag)) = some title := by
  obtain ⟨opening, closing, after, ho, hc, hp⟩ := h
  obtain ⟨front, first, behind, hf, ha, _⟩ :=
    Title.exists_first openTag_subset (by decide) ⟨_, _, _, hp, ho⟩
  have ⟨between, hb⟩ := hf.suffix hp ho
  have hm : Occurs closeTag behind := ⟨between ++ title, closing, after, by rw [hb, List.append_assoc], hc⟩
  obtain ⟨text, nearest, rest, hn, _, ht⟩ := Title.exists_first (List.Subset.refl _) (by decide) hm
  exact ⟨text, ⟨_, _, _, _, _, hf, hn⟩, by rw [ha, Option.bind_some, ht]⟩

theorem FirstTitle.leftmost (h : FirstTitle page title) : LeftmostTitle page title := by
  have ⟨before, opening, behind, closing, after, ho, hc⟩ := h
  refine ⟨before, ⟨opening, closing, after, ho.spelled, hc.spelled, by rw [ho.parts, hc.parts]⟩, ?_⟩
  rintro before' title' ⟨opening', closing', after', ho', hc', hp⟩
  refine ⟨ho.first _ _ _ hp ho', fun hl => ?_⟩
  rw [ho.parts] at hp
  have ⟨_, hr⟩ := List.append_inj hp hl
  have ⟨_, hb⟩ := List.append_inj hr <| ho.spelled.length_eq.trans ho'.length_eq.symm
  exact hc.first _ _ _ hb hc'

theorem LeftmostTitle.unique (h : LeftmostTitle page title) (h' : LeftmostTitle page title') : title = title' := by
  obtain ⟨before, ht, hf⟩ := h
  obtain ⟨before', ht', hf'⟩ := h'
  have hl := Nat.le_antisymm (hf _ _ ht').left (hf' _ _ ht).left
  have hs := Nat.le_antisymm ((hf _ _ ht').right hl) ((hf' _ _ ht).right hl.symm)
  obtain ⟨opening, closing, after, ho, _, hp⟩ := ht
  obtain ⟨opening', closing', after', ho', _, hp'⟩ := ht'
  have ⟨_, hr⟩ := List.append_inj (hp.symm.trans hp') hl
  have ⟨_, hb⟩ := List.append_inj hr <| ho.length_eq.trans ho'.length_eq.symm
  exact (List.append_inj hb hs).left

theorem firstTitle_iff_leftmost : FirstTitle page title ↔ LeftmostTitle page title := by
  constructor
  case mp  => exact FirstTitle.leftmost
  case mpr =>
    intro h
    have ⟨before, ht, _⟩ := h
    have ⟨title', hf, _⟩ := ht.exists_first
    exact h.unique hf.leftmost ▸ hf

theorem find?_eq (page : String) : find? page =
    ((afterFirst? openTag page.toList).bind (beforeFirst? closeTag)).map fun title => strip (String.ofList title) := by
  rw [find?]
  cases afterFirst? openTag page.toList
  case none      => rfl
  case some rest => cases h : beforeFirst? closeTag rest <;> simp [h]

theorem exists_find?_eq (h : Titled page.toList before title) :
    ∃ title, FirstTitle page.toList title ∧ find? page = some (strip (String.ofList title)) := by
  have ⟨title, hf, ht⟩ := h.exists_first
  exact ⟨title, hf, by rw [find?_eq, ht, Option.map_some]⟩

example : find? "</title><Title> 502 <title>\nGateway </T\u0131TLE></title>" = some "502 <title>\nGateway" := by
  decide +kernel

theorem find?_eq_none (h : ∀ before title, ¬Titled page.toList before title) : find? page = none := by
  cases hr : afterFirst? openTag page.toList
  case none      => rw [find?_eq, hr]; rfl
  case some rest =>
    cases hb : beforeFirst? closeTag rest
    case none => rw [find?_eq, hr, Option.bind_some, hb]; rfl
    case some =>
      obtain ⟨before, opening, rest', ho, ha, _⟩ :=
        Title.exists_first openTag_subset (by decide) (occurs_of_afterFirst? openTag_subset hr)
      obtain rfl : rest = rest' := Option.some.inj <| hr.symm.trans ha
      obtain ⟨title, closing, after, hp, hc⟩ := occurs_of_beforeFirst? (List.Subset.refl _) hb
      exact absurd ⟨opening, closing, after, ho.spelled, hc, by rw [ho.parts, hp]⟩ (h before title)

end CatalogSearch.Title
