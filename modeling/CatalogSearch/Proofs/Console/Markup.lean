import Mathlib.Data.List.TakeWhile
import CatalogSearch.Console.Markup
import CatalogSearch.Proofs.Console.Lawful

namespace CatalogSearch

namespace Markup

def Tagless (ms : List Mark) : Prop :=
  ∀ m ∈ ms, ∀ tag, m ≠ .tag tag

def firstBracket? (cs : List Char) : Option Char :=
  (cs.dropWhile (!isBracket ·)).head?

variable {cs : List Char}

theorem firstBracket?_cons : firstBracket? (c :: cs) = if isBracket c then some c else firstBracket? cs := by
  by_cases hc : isBracket c <;> simp [firstBracket?, hc]

theorem slashes_add (n k : Nat) : slashes (n + k) = slashes n ++ slashes k :=
  List.replicate_add ..

theorem firstBracket?_slashes (n : Nat) (cs : List Char) :
    firstBracket? (slashes n ++ cs) = firstBracket? cs := by
  have hs : ∀ c ∈ slashes n, (!isBracket c) = true := fun c hc => List.eq_of_mem_replicate hc ▸ rfl
  rw [firstBracket?, List.dropWhile_append_of_pos hs, firstBracket?]

theorem readTag?_eq_none_iff : readTag? (hd :: cs) = none ↔ opensTag hd → firstBracket? cs ≠ some ']' := by
  by_cases ho : opensTag hd
  case neg => simp [readTag?, ho]
  case pos =>
    simp only [readTag?, ho, if_true, firstBracket?]
    split
    case h_1 heq => simp [heq]
    case h_2 hne =>
      refine iff_of_true rfl fun _ h => ?_
      obtain ⟨rest, hr⟩ := List.head?_eq_some_iff.mp h
      exact hne rest hr

-- A tag does not depend on what follows it.
theorem readTag?_append (h : readTag? cs = some (tag, rest)) (rest' : List Char) :
    readTag? (tag ++ ']' :: rest') = some (tag, rest') := by
  cases cs
  case nil => cases h
  case cons hd tl =>
    simp only [readTag?] at h
    split at h
    case isFalse => cases h
    case isTrue ho =>
      split at h
      case h_2 => cases h
      case h_1 =>
        cases h
        have ht : ∀ c ∈ tl.takeWhile (!isBracket ·), (fun c => !isBracket c) c = true :=
          fun _ => List.mem_takeWhile_imp
        simp only [List.cons_append, readTag?, ho, if_true]
        rw [List.dropWhile_append_of_pos ht, List.takeWhile_append_of_pos ht]
        simp [isBracket]

section

variable {n : Nat}

theorem marks_slashes (n k : Nat) (cs : List Char) : marks k (slashes n ++ cs) = marks (k + n) cs := by
  induction n generalizing k
  case zero      => rfl
  case succ n hi =>
    rw [slashes, List.replicate_succ, List.cons_append, marks, ← slashes, hi, Nat.add_right_comm]
    rfl

theorem marks_tag (h : readTag? cs = some (tag, rest)) : marks n ('[' :: cs) =
    .plain (slashes (n / 2)) :: (if n % 2 = 0 then .tag tag else .escaped tag) :: marks 0 rest := by
  rw [marks]
  split
  case h_1 h' => cases h.symm.trans h'; rfl
  case h_2 h' => cases h.symm.trans h'

theorem marks_bracket (h : readTag? cs = none) :
    marks n ('[' :: cs) = consPlain (slashes (n - 1) ++ ['[']) (marks 0 cs) := by
  rw [marks]
  split
  case h_1 h' => cases h.symm.trans h'
  case h_2    => rfl

theorem marks_plain (hs : c ≠ '\\') (hb : c ≠ '[') :
    marks n (c :: cs) = consPlain (slashes n ++ [c]) (marks 0 cs) := by
  rw [marks] <;> assumption

theorem escapeTags_tag (h : readTag? cs = some (tag, rest)) :
    escapeTags n ('[' :: cs) = slashes (2 * n + 1) ++ '[' :: tag ++ ']' :: escapeTags 0 rest := by
  rw [escapeTags]
  split
  case h_1 h' => cases h.symm.trans h'; rfl
  case h_2 h' => cases h.symm.trans h'

theorem escapeTags_bracket (h : readTag? cs = none) :
    escapeTags n ('[' :: cs) = slashes n ++ '[' :: escapeTags 0 cs := by
  rw [escapeTags]
  split
  case h_1 h' => cases h.symm.trans h'
  case h_2    => rfl

theorem escapeTags_plain (hs : c ≠ '\\') (hb : c ≠ '[') :
    escapeTags n (c :: cs) = slashes n ++ c :: escapeTags 0 cs := by
  rw [escapeTags] <;> assumption

end

theorem firstBracket?_escapeTags (n k : Nat) (cs : List Char) :
    firstBracket? (escapeTags n cs ++ slashes k) = firstBracket? cs := by
  induction n, cs using escapeTags.induct
  case case1 n => rw [escapeTags, ← slashes_add, ← List.append_nil (slashes _), firstBracket?_slashes]
  case case2 n cs hi => rw [escapeTags, hi, firstBracket?_cons]; rfl
  case case3 n cs tag rest h hi =>
    simp [escapeTags_tag h, firstBracket?_slashes, firstBracket?_cons, isBracket]
  case case4 n cs h hi =>
    simp [escapeTags_bracket h, firstBracket?_slashes, firstBracket?_cons, isBracket]
  case case5 n c cs hs hb hi =>
    simp [escapeTags_plain hs hb, firstBracket?_slashes, firstBracket?_cons, hi]

theorem exists_escapeTags_eq (n : Nat) (cs : List Char) : ∃ rest, escapeTags n cs = slashes n ++ rest := by
  induction n, cs using escapeTags.induct
  case case1 n => exact ⟨[], by rw [escapeTags, List.append_nil]⟩
  case case2 n cs hi =>
    obtain ⟨rest, hr⟩ := hi
    exact ⟨slashes 1 ++ rest, by rw [escapeTags, hr, slashes_add, List.append_assoc]⟩
  case case3 n cs tag rest h hi =>
    refine ⟨slashes (n + 1) ++ '[' :: tag ++ ']' :: escapeTags 0 rest, ?_⟩
    rw [escapeTags_tag h, show 2 * n + 1 = n + (n + 1) by omega, slashes_add]
    simp
  case case4 n cs h hi       => exact ⟨_, escapeTags_bracket h⟩
  case case5 n c cs hs hb hi => exact ⟨_, escapeTags_plain hs hb⟩

theorem readTag?_escapeTags (h : readTag? cs = none) (k : Nat) :
    readTag? (escapeTags 0 cs ++ slashes k) = none := by
  cases cs
  case nil => cases k <;> simp [escapeTags, slashes, readTag?, List.replicate_succ, opensTag]
  case cons hd tl =>
    by_cases hb : hd = '['
    case pos =>
      subst hb
      cases ht : readTag? tl
      case none   => simp [escapeTags_bracket ht, slashes, readTag?, opensTag]
      case some m => simp [escapeTags_tag ht, slashes, readTag?, opensTag]
    by_cases hs : hd = '\\'
    case pos =>
      obtain ⟨rest, hr⟩ := exists_escapeTags_eq 1 tl
      simp [hs, escapeTags, hr, slashes, readTag?, opensTag]
    case neg =>
      rw [escapeTags_plain hs hb]
      refine readTag?_eq_none_iff.mpr fun ho => ?_
      exact firstBracket?_escapeTags 0 k tl ▸ readTag?_eq_none_iff.mp h ho

theorem Tagless.consPlain (h : Tagless ms) (ds : List Char) : Tagless (consPlain ds ms) := by
  unfold Markup.consPlain
  split
  case h_1 => exact List.forall_mem_cons.mpr ⟨nofun, (List.forall_mem_cons.mp h).right⟩
  case h_2 => exact List.forall_mem_cons.mpr ⟨nofun, h⟩

-- Escaped text has no tags, even with backslashes behind it.
theorem tagless_escapeTags (n k : Nat) (cs : List Char) : Tagless (marks 0 (escapeTags n cs ++ slashes k)) := by
  induction n, cs using escapeTags.induct
  case case1 n =>
    rw [escapeTags, ← slashes_add, ← List.append_nil (slashes _), marks_slashes, marks]
    exact List.forall_mem_singleton.mpr nofun
  case case2 n cs hi =>
    rw [escapeTags]
    exact hi
  case case3 n cs tag rest h hi =>
    rw [escapeTags_tag h]
    simp only [List.append_assoc, List.cons_append]
    rw [marks_slashes, marks_tag (by simpa using readTag?_append h _)]
    -- An odd number of backslashes escapes the tag.
    have ho : (0 + (2 * n + 1)) % 2 ≠ 0 := by omega
    rw [if_neg ho]
    exact List.forall_mem_cons.mpr ⟨nofun, List.forall_mem_cons.mpr ⟨nofun, hi⟩⟩
  case case4 n cs h hi =>
    rw [escapeTags_bracket h, List.append_assoc, marks_slashes, List.cons_append,
      marks_bracket (readTag?_escapeTags h k)]
    exact hi.consPlain _
  case case5 n c cs hs hb hi =>
    rw [escapeTags_plain hs hb, List.append_assoc, marks_slashes, List.cons_append, marks_plain hs hb]
    exact hi.consPlain _

theorem tagless_escape (s : String) : Tagless (marks 0 (escape s).toList) := by
  simp only [escape, String.toList_ofList]
  split
  case isTrue  => exact tagless_escapeTags 0 1 s.toList
  case isFalse => exact List.append_nil (escapeTags 0 s.toList) ▸ tagless_escapeTags 0 0 s.toList

def Showable (paint : Opening → Except Misuse Unit) (openings : List Opening) (ms : List Mark) : Prop :=
  ∃ t, apply paint openings ms = .ok t

-- Tags without parameters can be painted.
def PaintsBare (paint : Opening → Except Misuse Unit) : Prop :=
  ∀ style, paint ⟨style, []⟩ = .ok ()

variable {paint : Opening → Except Misuse Unit}

section

variable {openings openings' : List Opening} {name : List Char}

theorem Showable.plain (h : Showable paint openings ms) (cs : List Char) :
    Showable paint openings (.plain cs :: ms) := by
  obtain ⟨t, ht⟩ := h
  exact ⟨shown openings cs ++ t, by rw [apply, ht]; rfl⟩

theorem Showable.escaped (h : Showable paint openings ms) (cs : List Char) :
    Showable paint openings (.escaped cs :: ms) := by
  obtain ⟨t, ht⟩ := h
  exact ⟨shown openings ('[' :: cs ++ [']']) ++ t, by rw [apply, ht]; rfl⟩

theorem showable_plain_iff : Showable paint openings (.plain cs :: ms) ↔ Showable paint openings ms := by
  refine ⟨fun ⟨t, ht⟩ => ?_, fun h => h.plain cs⟩
  cases hm : apply paint openings ms
  case ok t    => exact ⟨t, hm⟩
  case error e => rw [apply, hm] at ht; cases ht

theorem Showable.consPlain (h : Showable paint openings ms) (ds : List Char) :
    Showable paint openings (consPlain ds ms) := by
  unfold Markup.consPlain
  split
  case h_1 => exact showable_plain_iff.mpr (showable_plain_iff.mp h)
  case h_2 => exact h.plain ds

theorem Tagless.showable (h : Tagless ms) : Showable paint openings ms := by
  induction ms
  case nil => exact ⟨[], rfl⟩
  case cons m ms hi =>
    have ⟨hm, hms⟩ := List.forall_mem_cons.mp h
    cases m
    case tag tag    => exact absurd rfl (hm tag)
    case plain cs   => exact (hi hms).plain cs
    case escaped cs => exact (hi hms).escaped cs

theorem Showable.opened (hn : Style.nameOf (String.ofList name) = .ok style) (he : '=' ∉ name)
    (hs : name.head? ≠ some '/') (hp : PaintsBare paint) (h : Showable paint (⟨style, []⟩ :: openings) ms) :
    Showable paint openings (.tag name :: ms) := by
  obtain ⟨t, ht⟩ := h
  have hne : ∀ c ∈ name, decide (c ≠ '=') = true := fun c hc => decide_eq_true fun h => he (h ▸ hc)
  have hd : name.dropWhile (· ≠ '=') = [] := List.dropWhile_eq_nil_iff.mpr hne
  refine ⟨t, ?_⟩
  simp only [apply, List.takeWhile_eq_self_iff.mpr hne, hd]
  split
  case h_1 => exact absurd rfl hs
  case h_2 =>
    simp only [hn, bind, Except.bind, List.tail_nil, ht, hp style]
    rfl

theorem Showable.closed (hc : close openings (strip (String.ofList name)) = .ok openings') (he : '=' ∉ name)
    (h : Showable paint openings' ms) : Showable paint openings (.tag ('/' :: name) :: ms) := by
  obtain ⟨t, ht⟩ := h
  have hne : ∀ c ∈ name, decide (c ≠ '=') = true := fun c hc => decide_eq_true fun h => he (h ▸ hc)
  have ht' : ('/' :: name).takeWhile (· ≠ '=') = '/' :: name := by
    rw [List.takeWhile_cons_of_pos (by decide), List.takeWhile_eq_self_iff.mpr hne]
  refine ⟨t, ?_⟩
  simp only [apply, ht', hc]
  exact ht

end

theorem consPlain_append (cs ds : List Char) (ms : List Mark) :
    consPlain cs (consPlain ds ms) = consPlain (cs ++ ds) ms := by
  match ms with
  | []                => rfl
  | .plain es :: ms   => simp [consPlain]
  | .tag es :: ms     => rfl
  | .escaped es :: ms => rfl

def isPlain (c : Char) : Bool :=
  c ≠ '\\' && c ≠ '['

theorem marks_text {ds : List Char} (h : ds.all isPlain) (hn : ds ≠ []) (cs : List Char) :
    marks 0 (ds ++ cs) = consPlain ds (marks 0 cs) := by
  induction ds
  case nil => exact absurd rfl hn
  case cons c ds hi =>
    obtain ⟨⟨hs, hb⟩, hds⟩ : (c ≠ '\\' ∧ c ≠ '[') ∧ ds.all isPlain := by simpa [isPlain] using h
    rw [List.cons_append, marks_plain hs hb]
    by_cases hd : ds = []
    case pos => rw [hd]; rfl
    case neg => rw [hi hds hd, consPlain_append]; rfl

def Reads (paint : Opening → Except Misuse Unit) (openings : List Opening) (cs : List Char) : Prop :=
  Showable paint openings (marks 0 cs)

theorem exists_read_iff {s : String} : (∃ t, read paint s = .ok t) ↔ Reads paint [] s.toList :=
  Iff.rfl

section

variable {openings : List Opening} {name ds : List Char} {style : String}

theorem Reads.text (h : Reads paint openings cs) (ht : ds.all isPlain) : Reads paint openings (ds ++ cs) := by
  by_cases hn : ds = []
  case pos => exact hn ▸ h
  case neg =>
    rw [Reads, marks_text ht hn]
    exact h.consPlain ds

structure IsStyle (name : List Char) (style : String) : Prop where
  opens  : ∀ cs, readTag? (name ++ ']' :: cs) = some (name, cs)
  closes : ∀ cs, readTag? ('/' :: (name ++ ']' :: cs)) = some ('/' :: name, cs)
  bare   : '=' ∉ name ∧ name.head? ≠ some '/' ∧ strip (String.ofList name) = String.ofList name
  named  : Style.nameOf (String.ofList name) = .ok style

theorem IsStyle.close (h : IsStyle name style) :
    close (⟨style, []⟩ :: openings) (strip (String.ofList name)) = .ok openings := by
  rw [h.bare.right.right, Markup.close, h.named]
  split <;> simp [Opening.check, bind, Except.bind, pure, Except.pure]

theorem IsStyle.begin (h : IsStyle name style) (hp : PaintsBare paint)
    (hr : Reads paint (⟨style, []⟩ :: openings) cs) :
    Reads paint openings ('[' :: (name ++ ']' :: cs)) := by
  rw [Reads, marks_tag (h.opens cs)]
  exact .plain (.opened h.named h.bare.left h.bare.right.left hp hr) _

theorem IsStyle.finish (h : IsStyle name style) (hr : Reads paint openings cs) :
    Reads paint (⟨style, []⟩ :: openings) ('[' :: '/' :: (name ++ ']' :: cs)) := by
  rw [Reads, marks_tag (h.closes cs)]
  exact .plain (.closed h.close h.bare.left hr) _

end

theorem exists_marks_bracketless {ds : List Char} (hd : '[' ∉ ds) (n : Nat) : ∃ es, marks n ds = [.plain es] := by
  induction ds generalizing n
  case nil => exact ⟨_, by rw [marks]⟩
  case cons c ds hi =>
    obtain ⟨hb, hd⟩ := List.ne_and_not_mem_of_not_mem_cons hd
    by_cases hs : c = '\\'
    case pos =>
      rw [hs, marks]
      exact hi hd _
    case neg =>
      obtain ⟨es, he⟩ := hi hd 0
      exact ⟨_, by rw [marks_plain hs hb.symm, he]; rfl⟩

-- A style that stays open over a text without an opening bracket is closed behind it, unless the text ends in
-- a backslash.
theorem exists_marks_closed {ds : List Char} (hd : '[' ∉ ds) (hc : readTag? cs = some (tag, [])) (n : Nat) :
    ∃ es m, marks n (ds ++ '[' :: cs) = [.plain es, m, .plain []] ∧ (m = .tag tag ∨ m = .escaped tag) := by
  induction ds generalizing n
  case nil =>
    refine ⟨_, _, by rw [List.nil_append, marks_tag hc, marks]; rfl, ?_⟩
    split <;> simp
  case cons c ds hi =>
    obtain ⟨hb, hd⟩ := List.ne_and_not_mem_of_not_mem_cons hd
    by_cases hs : c = '\\'
    case pos =>
      rw [hs, List.cons_append, marks]
      exact hi hd _
    case neg =>
      obtain ⟨es, m, he, hm⟩ := hi hd 0
      rw [List.cons_append, marks_plain hs hb.symm, he]
      exact ⟨_, m, rfl, hm⟩

theorem isStyle_of_mem (h : style ∈ Console.styles) : IsStyle style.toList style := by
  simp only [Console.styles, List.mem_cons, List.not_mem_nil, or_false] at h
  rcases h with rfl | rfl | rfl | rfl
  all_goals exact ⟨fun _ => rfl, fun _ => rfl, by decide, by decide⟩

theorem toList_styled (style text : String) : (Console.styled style text).toList =
    '[' :: (style.toList ++ ']' :: (text.toList ++ '[' :: '/' :: (style.toList ++ [']']))) := by
  simp [Console.styled]

theorem all_isPlain (h : Console.Unmarked text) : text.toList.all isPlain := by
  refine List.all_eq_true.mpr fun c hc => ?_
  have hs : c ≠ '\\' := fun he => h.right (he ▸ hc)
  have hb : c ≠ '[' := fun he => h.left (he ▸ hc)
  simp [isPlain, hs, hb]

theorem reads_styled {text : List Char} (hp : PaintsBare paint) (hs : style ∈ Console.styles) (ht : '[' ∉ text) :
    Reads paint [] ('[' :: (style.toList ++ ']' :: (text ++ '[' :: '/' :: (style.toList ++ [']'])))) := by
  have h := isStyle_of_mem hs
  obtain ⟨es, m, hm, hk⟩ := exists_marks_closed ht (h.closes []) 0
  refine h.begin hp ?_
  rw [Reads, hm]
  refine .plain ?_ _
  rcases hk with rfl | rfl
  case inl => exact .closed h.close h.bare.left (.plain ⟨[], rfl⟩ _)
  case inr => exact .escaped (.plain ⟨[], rfl⟩ _) _

theorem reads_follows (hp : PaintsBare paint) (hs : style ∈ Console.styles) (hl : label.all isPlain)
    (h : Reads paint [] cs) :
    Reads paint [] ('[' :: (style.toList ++ ']' :: (label ++ '[' :: '/' :: (style.toList ++ ']' :: cs)))) :=
  have hs := isStyle_of_mem hs
  hs.begin hp <| (hs.finish h).text hl

theorem exists_read_of_bracketless {s : String} (h : '[' ∉ s.toList) : ∃ t, read paint s = .ok t := by
  obtain ⟨es, he⟩ := exists_marks_bracketless h 0
  refine exists_read_iff.mpr ?_
  rw [Reads, he]
  exact .plain ⟨[], rfl⟩ _

-- All that the program says of its own accord can be shown, with whatever is quoted in it.
theorem lawful {title : String → Except Misuse StyledText} (hp : PaintsBare paint)
    (ht : ∀ {s : String}, '[' ∉ s.toList → ∃ t, title s = .ok t) :
    @LawfulConsole ⟨read paint, title, escape⟩ :=
  let _ : Console := ⟨read paint, title, escape⟩
  { plain   := exists_read_of_bracketless
    title   := ht
    escaped := fun text => (tagless_escape text).showable
    behind  := fun {front text} hf h => by
      refine exists_read_iff.mpr ?_
      rw [String.toList_append]
      exact Reads.text h (all_isPlain hf)
    styled  := fun {style text} hs ht => by
      refine exists_read_iff.mpr ?_
      rw [toList_styled]
      exact reads_styled hp hs ht
    follows := fun {style label text} hs hl h => by
      refine exists_read_iff.mpr ?_
      rw [String.toList_append, toList_styled]
      simpa using reads_follows hp hs (all_isPlain hl) h }

instance : LawfulConsole :=
  lawful (fun _ => rfl) exists_read_of_bracketless

instance : @LawfulConsole undrawn :=
  lawful (fun _ => rfl) fun _ => ⟨_, rfl⟩

end Markup
end CatalogSearch
