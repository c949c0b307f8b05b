import CatalogSearch.Clause.Operator
import Mathlib.Data.List.Infix
import Mathlib.Data.List.TakeWhile

namespace CatalogSearch

namespace Phrase

structure IsLine (text line : List Char) : Prop where
  single : '\n' ∉ line
  whole  : ∃ front rest, text = front ++ line ++ rest ∧
    (front = [] ∨ ∃ earlier, front = earlier ++ ['\n']) ∧ (rest = [] ∨ ∃ later, rest = '\n' :: later)

def occurrences (mark cs : List Char) : Nat :=
  cs.tails.countP (mark.isPrefixOf ·)

-- What is left of a text if a mark is taken out wherever it stands, from left to right. What comes together
-- by that stays.
inductive Without (mark : List Char) : List Char → List Char → Prop
  | none (h : ¬mark <:+: text) : Without mark text text
  | first (h : ¬mark <:+: front ++ mark.dropLast) (hr : Without mark rest left) :
    Without mark (front ++ mark ++ rest) (front ++ left)

section

variable {mark cs text piece front rest line inner : List Char}

theorem occurs_iff : occurs mark cs ↔ mark <:+: cs := by
  induction cs
  case nil     => simp [occurs]
  case cons hi => simp [occurs, List.infix_cons_iff, hi]

theorem append_prefix_iff (mark : List Char) : mark ++ inner <+: cs ↔ mark <+: cs ∧ inner <+: cs.drop mark.length := by
  constructor
  case mp =>
    rintro ⟨rest, rfl⟩
    rw [List.append_assoc, List.drop_left]
    exact ⟨List.prefix_append .., List.prefix_append ..⟩
  case mpr =>
    rintro ⟨⟨rest, rfl⟩, h⟩
    rw [List.drop_left] at h
    exact (List.prefix_append_right_inj mark).mpr h

theorem infix_takeWhile_iff (h : '\n' ∉ mark) :
    mark <:+: cs.takeWhile (· ≠ '\n') ↔ ∃ inner, '\n' ∉ inner ∧ inner ++ mark <+: cs := by
  constructor
  case mp =>
    rintro ⟨inner, rest, hi⟩
    refine ⟨inner, fun hm => ?_, (List.prefix_append _ rest).trans <| hi ▸ List.takeWhile_prefix _⟩
    have hm : '\n' ∈ cs.takeWhile (· ≠ '\n') := hi ▸ List.mem_append_left _ (List.mem_append_left _ hm)
    exact absurd (List.mem_takeWhile_imp hm) (by decide)
  case mpr =>
    rintro ⟨inner, hn, rest, rfl⟩
    have hp : ∀ c ∈ inner ++ mark, decide (c ≠ '\n') := fun c hc =>
      decide_eq_true fun he => (List.mem_append.mp (he ▸ hc)).elim hn h
    rw [List.takeWhile_append_of_pos hp]
    exact List.infix_append ..

theorem encloses_iff (hm : mark ≠ []) (h : '\n' ∉ mark) :
    encloses mark cs ↔ ∃ inner, '\n' ∉ inner ∧ mark ++ inner ++ mark <:+: cs := by
  induction cs
  case nil => simp [encloses, hm]
  case cons c cs hi =>
    have hc : (mark.isPrefixOf (c :: cs) ∧ occurs mark (((c :: cs).drop mark.length).takeWhile (· ≠ '\n'))) ↔
        ∃ inner, '\n' ∉ inner ∧ mark ++ inner ++ mark <+: c :: cs := by
      simp only [List.isPrefixOf_iff_prefix, occurs_iff, infix_takeWhile_iff h, List.append_assoc,
        append_prefix_iff mark, and_left_comm, exists_and_left]
    simp only [encloses, Bool.or_eq_true, Bool.and_eq_true, hc, hi, List.infix_cons_iff, and_or_left, exists_or]

theorem exists_line_end (rest : List Char) :
    ∃ tail later, rest = tail ++ later ∧ '\n' ∉ tail ∧ (later = [] ∨ ∃ next, later = '\n' :: next) := by
  induction rest
  case nil => exact ⟨[], [], rfl, List.not_mem_nil, .inl rfl⟩
  case cons c rest hi =>
    by_cases hc : c = '\n'
    case pos => exact ⟨[], c :: rest, rfl, List.not_mem_nil, .inr ⟨rest, hc ▸ rfl⟩⟩
    case neg =>
      obtain ⟨tail, later, rfl, hn, hl⟩ := hi
      exact ⟨c :: tail, later, rfl, List.not_mem_cons_of_ne_of_not_mem (Ne.symm hc) hn, hl⟩

theorem exists_line_begin (front : List Char) :
    ∃ earlier head, front = earlier ++ head ∧ '\n' ∉ head ∧
      (earlier = [] ∨ ∃ before, earlier = before ++ ['\n']) := by
  obtain ⟨tail, later, hr, hn, hl⟩ := exists_line_end front.reverse
  refine ⟨later.reverse, tail.reverse, ?_, mt List.mem_reverse.mp hn, ?_⟩
  · rw [← List.reverse_append, ← hr, List.reverse_reverse]
  · rcases hl with rfl | ⟨next, rfl⟩
    case inl => exact .inl rfl
    case inr => exact .inr ⟨next.reverse, List.reverse_cons⟩

theorem exists_line_of_infix (h : piece <:+: text) (hn : '\n' ∉ piece) :
    ∃ line, IsLine text line ∧ piece <:+: line := by
  obtain ⟨front, rest, rfl⟩ := h
  obtain ⟨earlier, head, rfl, hh, he⟩ := exists_line_begin front
  obtain ⟨tail, later, rfl, ht, hl⟩ := exists_line_end rest
  refine ⟨head ++ piece ++ tail, ⟨?_, earlier, later, ?_, he, hl⟩, List.infix_append ..⟩
  · simp only [List.mem_append, hh, hn, ht, or_self, not_false_eq_true]
  · simp only [List.append_assoc]

theorem IsLine.infix (h : IsLine text line) : line <:+: text := by
  obtain ⟨front, rest, rfl, -, -⟩ := h.whole
  exact List.infix_append ..

theorem encloses_iff_line (hm : mark ≠ []) (h : '\n' ∉ mark) :
    encloses mark text ↔ ∃ line, IsLine text line ∧ ∃ inner, mark ++ inner ++ mark <:+: line := by
  rw [encloses_iff hm h]
  constructor
  case mp =>
    intro ⟨inner, hn, hi⟩
    have hp : '\n' ∉ mark ++ inner ++ mark := by
      simp only [List.mem_append, h, hn, or_self, not_false_eq_true]
    obtain ⟨line, hl, hi⟩ := exists_line_of_infix hi hp
    exact ⟨line, hl, inner, hi⟩
  case mpr =>
    intro ⟨line, hl, inner, hi⟩
    refine ⟨inner, fun hn => hl.single (hi.subset ?_), hi.trans hl.infix⟩
    exact List.mem_append_left _ (List.mem_append_right _ hn)

end

section

variable {m : Char} {ms cs rest line : List Char}

theorem occurrences_cons :
    occurrences mark (c :: cs) = occurrences mark cs + if mark <+: c :: cs then 1 else 0 := by
  simp [occurrences, List.countP_cons]

theorem occurrences_pos_iff (hm : mark ≠ []) : 0 < occurrences mark cs ↔ mark <:+: cs := by
  induction cs
  case nil => simp [occurrences, hm]
  case cons c cs hi =>
    rw [occurrences_cons, List.infix_cons_iff, ← hi]
    split <;> simp [*]

theorem infix_append_iff_of_not_mem (h : m ∉ cs) : m :: ms <:+: cs ++ rest ↔ m :: ms <:+: rest := by
  induction cs
  case nil => rfl
  case cons c cs hi =>
    have hc : m ≠ c := List.ne_of_not_mem_cons h
    rw [List.cons_append, List.infix_cons_iff, List.cons_prefix_cons, hi (List.not_mem_of_not_mem_cons h)]
    simp only [hc, false_and, false_or]

theorem exists_twice_prefix_iff :
    (∃ inner, mark ++ inner ++ mark <+: cs) ↔ mark <+: cs ∧ mark <:+: cs.drop mark.length := by
  simp only [List.append_assoc, append_prefix_iff mark, exists_and_left]
  rfl

-- A mark whose first character stands nowhere else in it does not overlap with itself.
theorem two_le_occurrences_iff (h : m ∉ ms) :
    2 ≤ occurrences (m :: ms) line ↔ ∃ inner, m :: ms ++ inner ++ m :: ms <:+: line := by
  induction line
  case nil => simp [occurrences]
  case cons c line hi =>
    simp only [occurrences_cons, List.infix_cons_iff, exists_or, ← hi, exists_twice_prefix_iff]
    by_cases hp : m :: ms <+: c :: line
    case neg => simp only [hp, if_false, Nat.add_zero, false_and, false_or]
    case pos =>
      have hl : m :: ms <:+: (c :: line).drop (m :: ms).length ↔ 0 < occurrences (m :: ms) line := by
        obtain ⟨rest, hr⟩ := hp
        have hl : ms ++ rest = line := (List.cons_eq_cons.mp hr).right
        rw [occurrences_pos_iff (List.cons_ne_nil m ms), ← hr, List.drop_left, ← hl, infix_append_iff_of_not_mem h]
      simp only [hp, hl, if_true, true_and]
      omega

theorem occurrences_singleton : occurrences [m] cs = cs.count m := by
  induction cs
  case nil => rfl
  case cons c cs hi =>
    simp only [occurrences_cons, List.count_cons, hi, List.cons_prefix_cons, List.nil_prefix, and_true,
      beq_iff_eq, eq_comm (a := m)]

end

section

variable {mark text left left' front front' rest rest' : List Char}

theorem length_le_of_first (h : ¬mark <:+: front ++ mark.dropLast)
    (he : front ++ mark ++ rest = front' ++ mark ++ rest') : front.length ≤ front'.length := by
  by_contra hl
  have hm : mark ≠ [] := by
    rintro rfl
    exact h List.nil_infix
  have hd : front ++ mark.dropLast <+: front' ++ mark ++ rest' :=
    he ▸ ((List.prefix_append_right_inj front).mpr (List.dropLast_prefix mark)).trans (List.prefix_append ..)
  have hp : front' ++ mark <+: front ++ mark.dropLast := by
    refine List.prefix_of_prefix_length_le (List.prefix_append ..) hd ?_
    have := List.length_pos_iff.mpr hm
    simp only [List.length_append, List.length_dropLast]
    omega
  exact h <| (List.suffix_append front' mark).isInfix.trans hp.isInfix

theorem Without.unique (h : Without mark text left) (h' : Without mark text left') : left = left' := by
  induction h generalizing left'
  case none h =>
    cases h'
    case none  => rfl
    case first => exact absurd (List.infix_append ..) h
  case first front rest left h hr hi =>
    generalize he : front ++ mark ++ rest = text at h'
    cases h'
    case none hn => exact absurd (he ▸ List.infix_append ..) hn
    case first front' rest' left' h' hr' =>
      have hl := Nat.le_antisymm (length_le_of_first h he) (length_le_of_first h' he.symm)
      rw [List.append_assoc, List.append_assoc] at he
      obtain ⟨rfl, hm⟩ := List.append_inj he hl
      rw [hi (List.append_cancel_left hm ▸ hr')]

theorem without_removeEncodedMarks (text : List Char) : Without encodedMark text (removeEncodedMarks text) := by
  fun_induction removeEncodedMarks text
  case case1 rest hi =>
    have h : ¬encodedMark <:+: [] ++ encodedMark.dropLast := by decide
    exact .first h hi
  case case2 c rest hc hi =>
    have hp : ¬encodedMark <+: c :: rest := by
      rintro ⟨rest', hr⟩
      cases hr
      exact hc rest' rfl rfl
    generalize removeEncodedMarks rest = left at hi
    cases hi
    case none h => exact .none fun ho => (List.infix_cons_iff.mp ho).elim hp h
    case first front rest left h hr =>
      have hd : c :: (front ++ encodedMark.dropLast) <+: c :: (front ++ encodedMark ++ rest) := by
        refine (List.prefix_cons_inj c).mpr <| List.IsPrefix.trans ?_ (List.prefix_append ..)
        exact (List.prefix_append_right_inj front).mpr (List.dropLast_prefix encodedMark)
      have hf : ¬encodedMark <:+: c :: front ++ encodedMark.dropLast := fun ho =>
        (List.infix_cons_iff.mp ho).elim (fun hb => hp (hb.trans hd)) h
      exact .first hf hr
  case case3 => exact .none (by decide)

end

theorem without_encodedMark_iff {text left : List Char} :
    Without encodedMark text left ↔ left = removeEncodedMarks text := by
  constructor
  case mp => exact fun h => h.unique (without_removeEncodedMarks text)
  case mpr =>
    rintro rfl
    exact without_removeEncodedMarks text

def QuotesInLine (text : List Char) : Prop :=
  ∃ line, IsLine text line ∧ (2 ≤ line.count '"' ∨ 2 ≤ occurrences encodedMark line)

theorem isQuoted_iff : isQuoted text ↔ QuotesInLine text.toList := by
  have he : encloses encodedMark text.toList ↔
      ∃ line, IsLine text.toList line ∧ 2 ≤ occurrences encodedMark line := by
    rw [encloses_iff_line (by decide) (by decide)]
    exact exists_congr fun line => and_congr_right fun _ => (two_le_occurrences_iff (by decide)).symm
  have hq : encloses ['"'] text.toList ↔ ∃ line, IsLine text.toList line ∧ 2 ≤ line.count '"' := by
    rw [encloses_iff_line (by decide) (by decide)]
    refine exists_congr fun line => and_congr_right fun _ => ?_
    rw [← occurrences_singleton, two_le_occurrences_iff List.not_mem_nil]
  rw [isQuoted, Bool.or_eq_true, he, hq, ← exists_or, QuotesInLine]
  exact exists_congr fun line => by rw [← and_or_left, or_comm]

end Phrase

namespace Operator

open Phrase

-- Full text is searched as a phrase if and only if a line of it has two quotation marks of one kind. The phrase
-- is what is left of the text when first its encoded marks are taken out and then the plain ones. Otherwise
-- the words of the text are searched as it stands.
theorem fullText_exact (tuning : Tuning) (field text : String) :
    let sent := fullText.clause tuning field text
    ∃ left, (∀ other, Without encodedMark text.toList other ↔ other = left) ∧
      ((∃ f phrase, sent = .group .must [.atom (.phrase f phrase)]) ↔ QuotesInLine text.toList) ∧
      (QuotesInLine text.toList →
        sent = .group .must [.atom (.phrase tuning.phraseField (String.ofList (left.filter (· ≠ '"'))))]) ∧
      (¬QuotesInLine text.toList → sent = .group .should [.atom (.words tuning.searchFields text true)]) := by
  intro sent
  refine ⟨removeEncodedMarks text.toList, fun other => without_encodedMark_iff, ?_⟩
  by_cases h : isQuoted text
  case pos =>
    have hq : QuotesInLine text.toList := isQuoted_iff.mp h
    have hs : sent = .group .must [.atom (.phrase tuning.phraseField (unquote text))] := if_pos h
    exact ⟨⟨fun _ => hq, fun _ => ⟨_, _, hs⟩⟩, fun _ => hs, fun hn => absurd hq hn⟩
  case neg =>
    have hq : ¬QuotesInLine text.toList := mt isQuoted_iff.mpr h
    have hs : sent = .group .should [.atom (.words tuning.searchFields text true)] := if_neg h
    refine ⟨⟨fun ⟨f, phrase, hp⟩ => ?_, fun hp => absurd hp hq⟩, fun hp => absurd hp hq, fun _ => hs⟩
    cases hs.symm.trans hp

example : isQuoted "size 7\" %22" = false ∧ isQuoted "7\"\n8\"" = false ∧ isQuoted "7\" or 8\"" = true := by decide

end Operator
end CatalogSearch
