import CatalogSearch.Facet.Escape
import Mathlib.Data.List.Infix
import Mathlib.Logic.Function.Defs

namespace CatalogSearch.Reserved

def tokens : List (List Char) :=
  [['&', '&'], ['|', '|'], ['\\'], ['+'], ['-'], ['!'], ['('], [')'], ['\x7b'], ['\x7d'], ['['], [']'],
    ['^'], ['~'], ['*'], ['?'], [':'], ['"'], [';'], ['/']]

def token? (cs : List Char) : Option (List Char) :=
  tokens.find? (·.isPrefixOf cs)

def read? (cs : List Char) : Option (List Char) :=
  match cs with
  | []           => some []
  | '\\' :: rest => (token? rest).bind fun token => (read? (rest.drop token.length)).map (token ++ ·)
  | c :: rest    => if (token? (c :: rest)).isSome then none else (read? rest).map (c :: ·)
termination_by cs.length
decreasing_by
  all_goals simp only [List.length_cons, List.length_drop]
  all_goals omega

def unescape? (text : String) : Option String :=
  (read? text.toList).map String.ofList

-- A text, part by part, beside the code that it is for. A part is a reserved token with its backslash, or
-- a character that nothing reserved begins with where it stands.
inductive Escapes : List Char → List Char → Prop
  | nil : Escapes [] []
  | token (hm : token ∈ tokens) (h : Escapes code text) : Escapes (token ++ code) ('\\' :: (token ++ text))
  | plain (hn : ∀ token ∈ tokens, ¬token <+: c :: text) (h : Escapes code text) :
      Escapes (c :: code) (c :: text)

theorem tokens_eq : tokens = ['&', '&'] :: ['|', '|'] :: single.map ([·]) :=
  rfl

theorem eq_of_begins : ∀ token ∈ tokens, ∀ other ∈ tokens, token <+: other → token = other := by
  decide

theorem mem_of_token? (h : token? cs = some token) : token ∈ tokens ∧ token <+: cs :=
  ⟨List.mem_of_find?_eq_some h, List.isPrefixOf_iff_prefix.mp <| by simpa using List.find?_some h⟩

theorem token?_eq_none_iff : token? cs = none ↔ ∀ token ∈ tokens, ¬token <+: cs := by
  simp [token?]

theorem token?_append (hm : token ∈ tokens) (rest : List Char) : token? (token ++ rest) = some token := by
  cases h : token? (token ++ rest)
  case none => exact absurd (List.prefix_append ..) (token?_eq_none_iff.mp h token hm)
  case some other =>
    have ⟨hm', hp⟩ := mem_of_token? h
    rcases List.prefix_or_prefix_of_prefix hp (List.prefix_append ..) with hp | hp
    case inl => rw [eq_of_begins _ hm' _ hm hp]
    case inr => rw [eq_of_begins _ hm _ hm' hp]

theorem read?_of_escapes (h : Escapes code text) : read? text = some code := by
  induction h
  case nil => rw [read?]
  case token hm _ hi => rw [read?, token?_append hm, Option.bind_some, List.drop_left, hi, Option.map_some]
  case plain c text _ hn _ hi =>
    -- A backslash is reserved itself, so it is no plain character.
    have hb : c ≠ '\\' := by
      rintro rfl
      exact hn ['\\'] (by decide) ⟨text, rfl⟩
    simp [read?, token?_eq_none_iff.mpr hn, hi]

theorem escapes_of_read? (h : read? text = some code) : Escapes code text := by
  fun_induction read? text generalizing code
  case case1 =>
    cases h
    exact .nil
  case case2 rest hi =>
    obtain ⟨token, ht, hr⟩ := Option.bind_eq_some_iff.mp h
    obtain ⟨code, hc, rfl⟩ := Option.map_eq_some_iff.mp hr
    obtain ⟨hm, rest, rfl⟩ := mem_of_token? ht
    replace hi := hi token hc
    rw [List.drop_left] at hi
    exact .token hm hi
  case case3 => cases h
  case case4 c rest _ hn hi =>
    obtain ⟨code, hc, rfl⟩ := Option.map_eq_some_iff.mp h
    exact .plain (token?_eq_none_iff.mp <| by simpa using hn) (hi hc)

theorem read?_eq_some_iff : read? text = some code ↔ Escapes code text :=
  ⟨escapes_of_read?, read?_of_escapes⟩

theorem head?_escapeChars (h : (escapeChars cs).head? = some c) : c = '\\' ∨ cs.head? = some c := by
  rw [escapeChars.eq_def] at h
  split at h
  case h_3 =>
    split at h
    case isTrue  => exact .inl (Option.some.inj h).symm
    case isFalse => exact .inr h
  case h_4 => cases h
  all_goals exact .inl (Option.some.inj h).symm

theorem pair_not_in_front (hb : p ≠ '\\') (h : ∀ cs', c = p → cs = p :: cs' → False) :
    ¬[p, p] <+: c :: escapeChars cs := by
  intro hp
  obtain ⟨rfl, text, ht⟩ := List.cons_prefix_cons.mp hp
  have hh : (escapeChars cs).head? = some p := by rw [← ht]; rfl
  obtain ⟨cs', hc⟩ := List.head?_eq_some_iff.mp <| (head?_escapeChars hh).resolve_left hb
  exact h cs' rfl hc

theorem escapes_escapeChars (cs : List Char) : Escapes cs (escapeChars cs) := by
  fun_induction escapeChars cs
  case case1 rest hi => exact .token (show ['&', '&'] ∈ tokens by decide) hi
  case case2 rest hi => exact .token (show ['|', '|'] ∈ tokens by decide) hi
  case case3 c rest _ _ hs hi => exact .token (show [c] ∈ tokens by simpa [tokens_eq] using hs) hi
  case case4 c rest ha ho hs hi =>
    refine .plain ?_ hi
    rw [tokens_eq, List.forall_mem_cons, List.forall_mem_cons, List.forall_mem_map]
    refine ⟨pair_not_in_front (by decide) ha, pair_not_in_front (by decide) ho, fun d hd hp => hs ?_⟩
    rw [(List.cons_prefix_cons.mp hp).left.symm]
    exact List.contains_iff_mem.mpr hd
  case case5 => exact .nil

theorem escapes_escape (code : String) : Escapes code.toList (escape code).toList := by
  rw [escape, String.toList_ofList]
  exact escapes_escapeChars code.toList

theorem unescape?_escape (code : String) : unescape? (escape code) = some code := by
  rw [unescape?, read?_eq_some_iff.mpr (escapes_escape code), Option.map_some, String.ofList_toList]

theorem escape_injective : Function.Injective escape := fun code other h => by
  have ho := unescape?_escape other
  rw [← h, unescape?_escape] at ho
  exact Option.some.inj ho

-- The reader takes what a code is escaped to, and it reads this code. So nothing reserved is left without
-- a backslash, no backslash of the code itself is taken for one of escaping, and no other code is escaped
-- to the same.
theorem escape_reversible (code : String) :
    unescape? (escape code) = some code ∧ Escapes code.toList (escape code).toList ∧
      ∀ other, escape other = escape code → other = code :=
  ⟨unescape?_escape code, escapes_escape code, fun _ => @escape_injective _ _⟩

example : escapeChars ['&', '&', '&'] = ['\\', '&', '&', '&'] :=
  rfl

end CatalogSearch.Reserved
