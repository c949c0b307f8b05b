import CatalogSearch.Proofs.Outcome
import CatalogSearch.Toml.Printer
import CatalogSearch.Toml.Reader

namespace CatalogSearch.Toml

inductive Expressible : Value → Prop
  | bool   : Expressible (.bool b)
  | int    : Expressible (.int n)
  | double : Expressible (.double x)
  | str    : Expressible (.str s)
  | date   : Expressible (.date s)
  | list   : (∀ v ∈ vs, Expressible v) → Expressible (.list vs)
  | object : (∀ m ∈ ms, Expressible m.2) → Expressible (.object ms)

attribute [simp] Expressible.bool Expressible.int Expressible.double Expressible.str Expressible.date

@[simp]
theorem expressible_list_iff : Expressible (.list vs) ↔ ∀ v ∈ vs, Expressible v :=
  ⟨fun | .list h => h, .list⟩

@[simp]
theorem expressible_object_iff : Expressible (.object ms) ↔ ∀ m ∈ ms, Expressible m.2 :=
  ⟨fun | .object h => h, .object⟩

theorem exists_itemLines (h : ∀ v ∈ vs, ∃ text, literal level v = .ok text) :
    ∃ lines, itemLines level vs = .ok lines := by
  induction vs
  case nil => exact ⟨[], rfl⟩
  case cons v vs hi =>
    have ⟨⟨text, ht⟩, hvs⟩ := List.forall_mem_cons.mp h
    have ⟨lines, hl⟩ := hi hvs
    exact ⟨_, by rw [itemLines, ht, hl]; rfl⟩

theorem exists_inlineEntries (h : ∀ m ∈ ms, ∃ text, literal 0 m.2 = .ok text) :
    ∃ entries, inlineEntries ms = .ok entries := by
  induction ms
  case nil => exact ⟨[], rfl⟩
  case cons m ms hi =>
    have ⟨⟨text, ht⟩, hms⟩ := List.forall_mem_cons.mp h
    have ⟨entries, he⟩ := hi hms
    exact ⟨_, by rw [inlineEntries, ht, he]; rfl⟩

theorem Expressible.exists_literal (h : Expressible v) (level : Nat) :
    ∃ text, literal level v = .ok text := by
  induction h generalizing level
  case list vs _ hi =>
    cases vs
    case nil => exact ⟨_, rfl⟩
    case cons v vs =>
      have ⟨lines, hl⟩ := exists_itemLines fun w hw => hi w hw (level + 1)
      exact ⟨_, by rw [literal, hl]; rfl⟩
  case object ms _ hi =>
    cases ms
    case nil => exact ⟨_, rfl⟩
    case cons m ms =>
      have ⟨entries, he⟩ := exists_inlineEntries fun n hn => hi n hn 0
      exact ⟨_, by rw [literal, he]; rfl⟩
  all_goals exact ⟨_, rfl⟩

theorem Expressible.exists_standsApart (h : Expressible v) : ∃ apart, standsApart v = .ok apart := by
  cases h
  case list vs h =>
    cases vs
    case nil => exact ⟨_, rfl⟩
    case cons v vs =>
      rw [standsApart]
      have ⟨fits, hf⟩ := Outcome.exists_mapM_eq_ok (f := fitsLine) fun w hw =>
        have ⟨text, ht⟩ := (h w hw).exists_literal 1
        ⟨_, by rw [fitsLine, ht]; rfl⟩
      split
      case isTrue  => exact ⟨_, by rw [hf]; rfl⟩
      case isFalse => exact ⟨_, rfl⟩
  all_goals exact ⟨_, rfl⟩

theorem exists_entryLines (h : ∀ m ∈ ms, Expressible m.2) : ∃ lines, entryLines ms = .ok lines := by
  have hs : ∀ m ∈ ms, ∃ b, (do return !(← standsApart m.2) : Except Misuse Bool) = .ok b := by
    intro m hm
    have ⟨apart, ha⟩ := (h m hm).exists_standsApart
    exact ⟨_, by rw [ha]; rfl⟩
  have ⟨own, ho, hsub⟩ := Outcome.exists_filterM_eq_ok hs
  rw [entryLines, ho]
  refine Outcome.exists_mapM_eq_ok fun (key, v) hm => ?_
  have ⟨text, ht⟩ := (h (key, v) (hsub hm)).exists_literal 0
  exact ⟨_, by simp only [ht]; rfl⟩

theorem exists_listedTexts (h : ∀ v ∈ vs, ∃ texts, tableTexts name true v = .ok texts) :
    ∃ texts, listedTexts name vs = .ok texts := by
  induction vs
  case nil => exact ⟨[], rfl⟩
  case cons v vs hi =>
    have ⟨⟨own, ho⟩, hvs⟩ := List.forall_mem_cons.mp h
    have ⟨rest, hr⟩ := hi hvs
    exact ⟨_, by rw [listedTexts, ho, hr]; rfl⟩

theorem exists_innerTexts (name : String) (ha : ∀ m ∈ ms, Expressible m.2)
    (h : ∀ m ∈ ms, ∀ name, ∃ texts, tableTexts name false m.2 = .ok texts) :
    ∃ texts, innerTexts name ms = .ok texts := by
  induction ms
  case nil => exact ⟨[], rfl⟩
  case cons m ms hi =>
    have ⟨hm, hms⟩ := List.forall_mem_cons.mp h
    have ⟨hma, hmsa⟩ := List.forall_mem_cons.mp ha
    have ⟨apart, hp⟩ := hma.exists_standsApart
    have ⟨own, ho⟩ := hm (if name = "" then keyText m.1 else name ++ "." ++ keyText m.1)
    have ⟨rest, hr⟩ := hi hmsa hms
    rw [innerTexts, hp]
    cases apart
    case false => exact ⟨_, by rw [hr]; rfl⟩
    case true  => exact ⟨_, by simp only [bind, Except.bind, if_true, ho, hr]; rfl⟩

theorem Expressible.exists_tableTexts (h : Expressible v) (name : String) (listed : Bool) :
    ∃ texts, tableTexts name listed v = .ok texts := by
  induction h generalizing name listed
  case list vs _ hi =>
    rw [tableTexts]
    exact exists_listedTexts fun w hw => hi w hw name true
  case object ms ha hi =>
    have ⟨lines, hl⟩ := exists_entryLines ha
    have ⟨inner, hn⟩ := exists_innerTexts name ha fun m hm name => hi m hm name false
    exact ⟨_, by rw [tableTexts, hl, hn]; rfl⟩
  all_goals exact ⟨_, rfl⟩

theorem Expressible.exists_text (h : Expressible v) : ∃ s, text v = .ok s := by
  have ⟨texts, ht⟩ := h.exists_tableTexts "" false
  exact ⟨_, by rw [text, ht]; rfl⟩

def ReadsBack (nesting : Nat) (document : Value) : Prop :=
  ∀ s, text document = .ok s → read s nesting = .ok document

end CatalogSearch.Toml
