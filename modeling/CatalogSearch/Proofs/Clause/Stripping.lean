import CatalogSearch.Proofs.Clause.Phrase

namespace CatalogSearch

namespace Phrase

inductive Marks : List Char → Prop
  | nil : Marks []
  | plain (h : Marks cs) : Marks ('"' :: cs)
  | encoded (h : Marks cs) : Marks (encodedMark ++ cs)

-- The characters of an encoded mark, with other marks between them.
def Scattered (text : List Char) : Prop :=
  ∃ first second, Marks first ∧ Marks second ∧ first ++ second ≠ [] ∧
    '%' :: first ++ '2' :: second ++ ['2'] <:+: text

def stripped (text : List Char) : List Char :=
  (removeEncodedMarks text).filter (· ≠ '"')

section

variable {c : Char} {text front rest left marks : List Char}

theorem toList_unquote (text : String) : (unquote text).toList = stripped text.toList := by
  simp [unquote, stripped]

theorem plain_not_mem_stripped (text : List Char) : '"' ∉ stripped text := by
  simp [stripped]

theorem encodedMark_prefix_iff : encodedMark <+: c :: rest ↔ c = '%' ∧ ['2', '2'] <+: rest := by
  rw [encodedMark, List.cons_prefix_cons, eq_comm]

theorem not_mark_in_front (h : ∀ rest', c = '%' → rest = '2' :: '2' :: rest' → False) :
    ¬encodedMark <+: c :: rest := by
  intro hp
  have ⟨hc, rest', hr⟩ := encodedMark_prefix_iff.mp hp
  exact h rest' hc hr.symm

theorem removeEncodedMarks_cons (h : ¬encodedMark <+: c :: rest) :
    removeEncodedMarks (c :: rest) = c :: removeEncodedMarks rest := by
  rw [removeEncodedMarks]
  intro rest' hc hr
  exact h <| encodedMark_prefix_iff.mpr ⟨hc, rest', hr.symm⟩

theorem stripped_cons (hm : ¬encodedMark <+: c :: rest) (hp : c ≠ '"') :
    stripped (c :: rest) = c :: stripped rest := by
  simp [stripped, removeEncodedMarks_cons hm, hp]

theorem stripped_plain (rest : List Char) : stripped ('"' :: rest) = stripped rest := by
  have hm : ¬encodedMark <+: '"' :: rest := fun h => absurd (encodedMark_prefix_iff.mp h).left (by decide)
  simp [stripped, removeEncodedMarks_cons hm]

theorem stripped_encoded (rest : List Char) : stripped (encodedMark ++ rest) = stripped rest := by
  simp [stripped, encodedMark, removeEncodedMarks]

theorem Marks.stripped_append (h : Marks marks) : stripped (marks ++ rest) = stripped rest := by
  induction h
  case nil          => rfl
  case plain hi     => rw [List.cons_append, stripped_plain, hi]
  case encoded hi   => rw [List.append_assoc, stripped_encoded, hi]

theorem Marks.head_ne (h : Marks marks) (hn : marks ≠ []) : ∃ c ms, marks = c :: ms ∧ c ≠ '2' := by
  cases h
  case nil     => contradiction
  case plain   => exact ⟨_, _, rfl, by decide⟩
  case encoded => exact ⟨_, _, rfl, by decide⟩

theorem exists_of_stripped_eq_cons (h : stripped text = c :: left) :
    ∃ marks rest, Marks marks ∧ text = marks ++ c :: rest ∧ ¬encodedMark <+: c :: rest ∧
      stripped rest = left := by
  fun_induction removeEncodedMarks text
  case case1 rest hi =>
    obtain ⟨marks, rest', hm, hr, hp, hl⟩ := hi (stripped_encoded rest ▸ h)
    exact ⟨_, rest', .encoded hm, by rw [hr]; rfl, hp, hl⟩
  case case2 b rest hb hi =>
    have hp := not_mark_in_front hb
    by_cases hq : b = '"'
    case pos =>
      subst hq
      obtain ⟨marks, rest', hm, hr, hp, hl⟩ := hi (stripped_plain rest ▸ h)
      exact ⟨_, rest', .plain hm, by rw [hr]; rfl, hp, hl⟩
    case neg =>
      cases stripped_cons hp hq ▸ h
      exact ⟨[], rest, .nil, rfl, hp, rfl⟩
  case case3 => cases h

theorem exists_suffix_of_stripped (h : stripped text = front ++ left) :
    ∃ rest, rest <:+ text ∧ stripped rest = left := by
  induction front generalizing text
  case nil => exact ⟨text, List.suffix_refl text, h⟩
  case cons c front hi =>
    have ⟨marks, rest, _, ht, _, hr⟩ := exists_of_stripped_eq_cons h
    have ⟨rest', hs, hl⟩ := hi hr
    exact ⟨rest', ht ▸ hs.trans ((List.suffix_cons c rest).trans (List.suffix_append marks _)), hl⟩

theorem prefix_append_cons_iff (h : c ∉ marks) : marks <+: front ++ c :: rest ↔ marks <+: front := by
  induction front generalizing marks <;> cases marks <;> simp at h
  case nil.cons         => simp [List.cons_prefix_cons, Ne.symm h.left]
  case cons.cons hi _ _ => simp [List.cons_prefix_cons, hi h.right]
  all_goals simp

theorem removeEncodedMarks_append (front rest : List Char) :
    removeEncodedMarks (front ++ '%' :: rest) = removeEncodedMarks front ++ removeEncodedMarks ('%' :: rest) := by
  fun_induction removeEncodedMarks front
  case case1 front hi => exact hi
  case case2 b front hb hi =>
    have hp := not_mark_in_front hb
    have hr : '%' ∉ ['2', '2'] := by decide
    rw [encodedMark_prefix_iff, ← prefix_append_cons_iff hr, ← encodedMark_prefix_iff] at hp
    rw [List.cons_append, removeEncodedMarks_cons hp, hi, List.cons_append]
  case case3 => rfl

theorem stripped_append (front rest : List Char) :
    stripped (front ++ '%' :: rest) = stripped front ++ stripped ('%' :: rest) := by
  simp only [stripped, removeEncodedMarks_append, List.filter_append]

end

section

variable {text rest first second : List Char}

theorem not_mark_of_scattered (hf : Marks first) (hs : Marks second) (hn : first ++ second ≠ []) :
    ¬encodedMark <+: '%' :: (first ++ '2' :: (second ++ '2' :: rest)) := by
  intro hp
  have ⟨_, hp⟩ := encodedMark_prefix_iff.mp hp
  by_cases he : first = []
  case neg =>
    have ⟨c, ms, hc, h2⟩ := hf.head_ne he
    rw [hc] at hp
    exact h2 (List.cons_prefix_cons.mp hp).left.symm
  case pos =>
    subst he
    have ⟨c, ms, hc, h2⟩ := hs.head_ne hn
    rw [hc] at hp
    exact h2 (List.cons_prefix_cons.mp (List.cons_prefix_cons.mp hp).right).left.symm

theorem stripped_scattered (hf : Marks first) (hs : Marks second) (hn : first ++ second ≠ []) :
    stripped ('%' :: (first ++ '2' :: (second ++ '2' :: rest))) = encodedMark ++ stripped rest := by
  have h2 (cs : List Char) : stripped ('2' :: cs) = '2' :: stripped cs :=
    stripped_cons (fun h => absurd (encodedMark_prefix_iff.mp h).left (by decide)) (by decide)
  rw [stripped_cons (not_mark_of_scattered hf hs hn) (by decide), hf.stripped_append, h2,
    hs.stripped_append, h2]
  rfl

theorem encodedMark_infix_stripped_iff : encodedMark <:+: stripped text ↔ Scattered text := by
  constructor
  case mp =>
    intro ⟨front, left, h⟩
    rw [List.append_assoc] at h
    have ⟨rest, hsuffix, hr⟩ := exists_suffix_of_stripped h.symm
    have ⟨marks, rest₁, _, ht₁, hp, hr⟩ := exists_of_stripped_eq_cons hr
    have ⟨first, rest₂, hf, ht₂, _, hr⟩ := exists_of_stripped_eq_cons hr
    have ⟨second, rest₃, hs, ht₃, _, _⟩ := exists_of_stripped_eq_cons hr
    refine ⟨first, second, hf, hs, ?apart, ?stands⟩
    case apart =>
      intro hn
      have ⟨hf, hs⟩ := List.append_eq_nil_iff.mp hn
      subst hf hs
      exact hp ⟨rest₃, by rw [ht₂, ht₃]; rfl⟩
    case stands =>
      have hi : '%' :: first ++ '2' :: second ++ ['2'] <:+: rest :=
        ⟨marks, rest₃, by simp [ht₁, ht₂, ht₃]⟩
      exact hi.trans hsuffix.isInfix
  case mpr =>
    intro ⟨first, second, hf, hs, hn, front, rest, ht⟩
    have ht : text = front ++ '%' :: (first ++ '2' :: (second ++ '2' :: rest)) := by simp [← ht]
    rw [ht, stripped_append, stripped_scattered hf hs hn, ← List.append_assoc]
    exact List.infix_append ..

end

end Phrase

namespace Operator

open Phrase

-- A phrase that full text is searched as has no plain quotation mark. It has an encoded one if and only if there
-- is one in the text with other marks between its characters.
theorem phrase_marks_iff {tuning : Tuning} {field text f phrase : String}
    (h : fullText.clause tuning field text = .group .must [.atom (.phrase f phrase)]) :
    '"' ∉ phrase.toList ∧ (encodedMark <:+: phrase.toList ↔ Scattered text.toList) := by
  rw [clause] at h
  split at h
  case isFalse => cases h
  case isTrue =>
    cases h
    rw [toList_unquote]
    exact ⟨plain_not_mem_stripped _, encodedMark_infix_stripped_iff⟩

theorem phrase_marks_nested :
    fullText.clause {} "name" "%22a \"b\"%22" = .group .must [.atom (.phrase "name" "a b")] ∧
      '"' ∉ "a b".toList ∧ (encodedMark <:+: "a b".toList ↔ Scattered "%22a \"b\"%22".toList) := by
  have h : fullText.clause {} "name" "%22a \"b\"%22" = .group .must [.atom (.phrase "name" "a b")] := by rfl
  exact ⟨h, phrase_marks_iff h⟩

theorem phrase_keeps_scattered_mark :
    ¬∀ (tuning : Tuning) (field text f phrase : String),
      fullText.clause tuning field text = .group .must [.atom (.phrase f phrase)] →
        '"' ∉ phrase.toList ∧ ¬encodedMark <:+: phrase.toList := by
  intro h
  have hc : fullText.clause {} "name" "\"a%2\"2b\"" = .group .must [.atom (.phrase "name" "a%22b")] := by rfl
  have ⟨_, hn⟩ := h _ _ _ _ _ hc
  exact hn ⟨['a'], ['b'], by decide⟩

end Operator
end CatalogSearch
