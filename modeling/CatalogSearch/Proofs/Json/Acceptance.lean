import CatalogSearch.Proofs.Json

namespace CatalogSearch.Json

def Accepts (rest : List Char) : Except ReadFault (α × List Char) → Prop
  | .ok (_, rest') => rest' = rest
  | .error fault   => fault ≠ .malformed

def Ends (rest : List Char) : Prop :=
  ∀ c ∈ rest.head?, isAsciiDigit c = false ∧ c ≠ '.' ∧ c ≠ 'e' ∧ c ≠ 'E'

theorem Digits.span (h : Digits ds) (hr : ∀ c ∈ rest.head?, isAsciiDigit c = false) :
    (ds ++ rest).span isAsciiDigit = (ds, rest) := by
  rw [List.span_eq_takeWhile_dropWhile, List.takeWhile_append_of_pos h.right, List.dropWhile_append_of_pos h.right]
  cases rest
  case nil       => simp
  case cons c cs => simp [hr c rfl]

theorem readWhole_append (h : IsWhole ws) (hr : ∀ c ∈ rest.head?, isAsciiDigit c = false) :
    readWhole (ws ++ rest) = some (ws, rest) := by
  cases h
  case zero => rfl
  case digits hd hz =>
    obtain ⟨d, ds, rfl⟩ := List.exists_cons_of_ne_nil hd.left
    rw [readWhole.eq_def]
    split
    case h_1 he =>
      cases he
      exact absurd rfl hz
    case h_2 => rw [hd.span hr]

theorem readFraction_append (h : IsFraction fs) (hr : ∀ c ∈ rest.head?, isAsciiDigit c = false ∧ c ≠ '.') :
    ∃ ds, readFraction (fs ++ rest) = (ds, rest) := by
  cases h
  case none =>
    rw [List.nil_append, readFraction.eq_def]
    split
    case h_1 => exact absurd rfl (hr '.' rfl).right
    case h_2 => exact ⟨[], rfl⟩
  case digits ds hd =>
    obtain ⟨d, ds, rfl⟩ := List.exists_cons_of_ne_nil hd.left
    rw [List.cons_append, readFraction, hd.span fun c hc => (hr c hc).left]
    exact ⟨_, rfl⟩

theorem readExponent_append (h : IsExponent es) (hr : Ends rest) :
    ∃ power, readExponent (es ++ rest) = (power, rest) := by
  cases h
  case none =>
    cases rest
    case nil => exact ⟨none, rfl⟩
    case cons c cs =>
      have ⟨_, _, he, hE⟩ := hr c rfl
      rw [List.nil_append, readExponent.eq_def]
      simp only
      rw [if_neg (not_or.mpr ⟨he, hE⟩)]
      exact ⟨none, rfl⟩
  case digits e sign ds he hs hd =>
    have hp := hd.span fun c hc => (hr c hc).left
    obtain ⟨d, ds, rfl⟩ := List.exists_cons_of_ne_nil hd.left
    have hn : d ≠ '-' ∧ d ≠ '+' := by
      have hd := hd.right d List.mem_cons_self
      exact ⟨fun he => absurd (he ▸ hd) (by decide), fun he => absurd (he ▸ hd) (by decide)⟩
    rw [readExponent.eq_def]
    simp only [List.cons_append]
    rw [if_pos he]
    obtain rfl | rfl | rfl : sign = [] ∨ sign = ['+'] ∨ sign = ['-'] := by simpa using hs
    all_goals rw [List.cons_append] at hp
    all_goals simp [-List.span_eq_takeWhile_dropWhile, hn.left, hn.right, hp]

theorem accepts_readUnsigned (h : IsUnsigned cs) (hr : Ends rest) (negative : Bool) :
    Accepts rest (readUnsigned negative (cs ++ rest)) := by
  obtain ⟨hw, hf, he⟩ := h
  rename_i ws fs es
  have hes : ∀ c ∈ (es ++ rest).head?, isAsciiDigit c = false ∧ c ≠ '.' := by
    cases he
    case none => exact fun c hc => ⟨(hr c hc).left, (hr c hc).right.left⟩
    case digits e sign ds he _ _ =>
      rintro _ ⟨⟩
      rcases he with rfl | rfl <;> exact ⟨by decide, by decide⟩
  have hfs : ∀ c ∈ (fs ++ (es ++ rest)).head?, isAsciiDigit c = false := by
    cases hf
    case none => exact fun c hc => (hes c hc).left
    case digits =>
      rintro _ ⟨⟩
      decide
  obtain ⟨ds, hf⟩ := readFraction_append hf hes
  obtain ⟨power, he⟩ := readExponent_append he hr
  rw [List.append_assoc, List.append_assoc, readUnsigned, readWhole_append hw hfs]
  simp only [orMalformed, bind, Except.bind, hf, he]
  split
  case isTrue =>
    split
    case isTrue  => exact fun he => by cases he
    case isFalse => rfl
  case isFalse => rfl

theorem exists_escapedChar? (h : e ∈ ['"', '\\', '/', 'b', 'f', 'n', 'r', 't']) : ∃ c, escapedChar? e = some c := by
  simp only [List.mem_cons, List.not_mem_nil, or_false] at h
  rcases h with rfl | rfl | rfl | rfl | rfl | rfl | rfl | rfl
  all_goals exact ⟨_, rfl⟩

theorem exists_readHex (h : ∀ c ∈ cs, (hexValue? c).isSome) : ∃ n, readHex cs = some n := by
  rw [readHex]
  generalize 0 = m
  induction cs generalizing m
  case nil => exact ⟨m, rfl⟩
  case cons c cs hi =>
    obtain ⟨hc, hcs⟩ := List.forall_mem_cons.mp h
    obtain ⟨x, hx⟩ := Option.isSome_iff_exists.mp hc
    obtain ⟨n, hn⟩ := hi hcs (m * 16 + x)
    exact ⟨n, by rw [List.foldlM_cons, hx]; exact hn⟩

theorem exists_readUnits (h : IsContent cs) (rest : List Char) :
    ∃ us, readUnits (cs ++ '"' :: rest) = some (us, rest) := by
  induction h
  case nil => exact ⟨[], rfl⟩
  case plain c cs hc _ hb _ hi =>
    have ⟨us, hu⟩ := hi
    simp [readUnits, hc, hb, hu]
  case escape e cs he _ hi =>
    have ⟨us, hu⟩ := hi
    have ⟨c, hc⟩ := exists_escapedChar? he
    have hn : e ≠ 'u' := fun hu => absurd (hu ▸ he) (by decide)
    simp [readUnits, hc, hn, hu]
  case unit a b c d cs hx _ hi =>
    have ⟨us, hu⟩ := hi
    have ⟨n, hn⟩ := exists_readHex hx
    simp [readUnits, hn, hu]

theorem exists_readString (h : IsText ('"' :: cs)) (rest : List Char) :
    ∃ s, readString (cs ++ rest) = some (s, rest) := by
  cases h
  case mk hc =>
    have ⟨us, hu⟩ := exists_readUnits hc rest
    rw [readString, List.append_assoc, List.singleton_append, hu]
    exact ⟨_, rfl⟩

theorem skipSpace_append (h : Spaces s) (cs : List Char) : skipSpace (s ++ cs) = skipSpace cs :=
  List.dropWhile_append_of_pos h

theorem skipSpace_cons (h : isSpace c = false) : skipSpace (c :: cs) = c :: cs :=
  List.dropWhile_cons_of_neg (by simp [h])

theorem isSpace_iff : isSpace c ↔ c = ' ' ∨ c = '\t' ∨ c = '\n' ∨ c = '\r' := by
  simp [isSpace, or_assoc]

theorem ends_of_spaces (hs : Spaces s) (hr : Ends rest) : Ends (s ++ rest) := by
  cases s
  case nil => exact hr
  case cons x s =>
    rintro _ ⟨⟩
    rcases isSpace_iff.mp (hs x List.mem_cons_self) with rfl | rfl | rfl | rfl
    all_goals exact ⟨by decide, by decide, by decide, by decide⟩

theorem ends_cons (h : c ∈ [',', ']', '\x7d']) : Ends (c :: rest) := by
  rintro _ ⟨⟩
  simp only [List.mem_cons, List.not_mem_nil, or_false] at h
  rcases h with rfl | rfl | rfl <;> exact ⟨by decide, by decide, by decide, by decide⟩

theorem Accepts.bind {outcome : Except ReadFault (α × List Char)}
    {next : α × List Char → Except ReadFault (β × List Char)} (h : Accepts rest outcome)
    (hn : ∀ x, Accepts rest' (next (x, rest))) : Accepts rest' (outcome >>= next) := by
  cases outcome
  case error => exact h
  case ok found =>
    obtain ⟨x, _⟩ := found
    cases h
    exact hn x

theorem IsValue.exists_first (h : IsValue cs) : ∃ c rest, cs = c :: rest ∧ isSpace c = false ∧ c ≠ ']' := by
  obtain ⟨c, rest, he, hc⟩ := h.exists_beginning
  refine ⟨c, rest, he, ?_, ?_⟩
  case refine_1 =>
    refine Bool.eq_false_iff.mpr fun hs => ?_
    rcases isSpace_iff.mp hs with rfl | rfl | rfl | rfl <;> exact absurd hc (by decide)
  case refine_2 =>
    rintro rfl
    exact absurd hc (by decide)

theorem accepts_literal (h : cs ∈ literals) (fuel room : Nat) (rest : List Char) :
    Accepts rest (readValue (fuel + 1) room (cs ++ rest)) := by
  simp only [literals, List.map_cons, List.map_nil, List.mem_cons, List.not_mem_nil, or_false] at h
  rcases h with rfl | rfl | rfl | rfl | rfl | rfl <;> rfl

theorem readValue_unsigned (h : IsUnsigned cs) :
    readValue (fuel + 1) room (cs ++ rest) = readUnsigned false (cs ++ rest) := by
  obtain ⟨d, ds, rfl, hd⟩ := h.exists_digit
  rw [readValue.eq_def]
  simp only [List.cons_append]
  split
  case h_11 => rfl
  all_goals
    rename_i he
    obtain ⟨rfl, _⟩ := List.cons.inj he
    exact absurd hd (by decide)

theorem readValue_negative (h : IsUnsigned cs) :
    readValue (fuel + 1) room ('-' :: (cs ++ rest)) = readUnsigned true (cs ++ rest) := by
  obtain ⟨d, ds, rfl, hd⟩ := h.exists_digit
  rw [readValue.eq_def]
  simp only [List.cons_append]
  split
  case h_6 he =>
    obtain ⟨rfl, _⟩ := List.cons.inj (List.cons.inj he).right
    exact absurd hd (by decide)
  case h_10 he =>
    rw [← (List.cons.inj he).right]
  case h_11 hn => exact absurd rfl (hn _)
  all_goals
    rename_i he
    exact absurd (List.cons.inj he).left (by decide)

theorem Separated.exists_first {P : Char → Prop} (h : Separated Piece cs)
    (hp : ∀ p, Piece p → ∃ c rest, p = c :: rest ∧ P c) : ∃ c rest, cs = c :: rest ∧ P c := by
  cases h
  case last hv _ =>
    obtain ⟨c, rest, rfl, hc⟩ := hp _ hv
    exact ⟨c, _, rfl, hc⟩
  case cons hv _ _ _ =>
    obtain ⟨c, rest, rfl, hc⟩ := hp _ hv
    exact ⟨c, _, rfl, hc⟩

theorem IsMember.exists_first (h : IsMember cs) : ∃ c rest, cs = c :: rest ∧ c = '"' := by
  obtain ⟨⟨_⟩, _, _, _⟩ := h
  exact ⟨'"', _, rfl, rfl⟩

theorem accepts_member (h : IsMember m) (hs : Spaces s) (hc : c = ',' ∨ c = '\x7d')
    (hv : ∀ v, IsValue v → v.length < m.length →
      Accepts (s ++ c :: after) (readValue fuel room (v ++ (s ++ c :: after))))
    (hn : c = ',' → ∀ members, Accepts rest (readMembers fuel room members (skipSpace after)))
    (hl : c = '\x7d' → after = rest) :
    Accepts rest (readMembers (fuel + 1) room before (m ++ (s ++ c :: after))) := by
  cases h
  case mk n sn sv v ht hsn hsv hv' =>
    obtain ⟨hc'⟩ := ht
    have ⟨name, ht⟩ := exists_readString (.mk hc') (sn ++ ':' :: (sv ++ (v ++ (s ++ c :: after))))
    have ha := hv v hv' (by simp; omega)
    obtain ⟨first, v, rfl, hf, _⟩ := hv'.exists_first
    rw [readMembers.eq_def]
    simp only [List.append_assoc, List.cons_append, List.nil_append] at ht ha ⊢
    simp only [ht, orMalformed, bind, Except.bind, skipSpace_append hsn, skipSpace_append hsv, skipSpace_cons hf,
      skipSpace_cons (rfl : isSpace ':' = false)]
    refine ha.bind fun value => ?_
    simp only [skipSpace_append hs]
    obtain rfl | rfl := hc
    case inl => exact hn rfl _
    case inr =>
      obtain rfl := hl rfl
      rfl

-- By recursion on the fuel, of which there are two units for each character.
mutual

theorem accepts_readValue (fuel room : Nat) (h : IsValue cs) (hr : Ends rest) (hf : 2 * cs.length < fuel) :
    Accepts rest (readValue fuel room (cs ++ rest)) := by
  match fuel with
  | 0 => exact absurd hf (Nat.not_lt_zero _)
  | fuel + 1 =>
    cases h
    case literal h  => exact accepts_literal h fuel room rest
    case unsigned h => rw [readValue_unsigned h]; exact accepts_readUnsigned h hr false
    case negative h => rw [List.cons_append, readValue_negative h]; exact accepts_readUnsigned h hr true
    case text h =>
      obtain ⟨hc⟩ := h
      have ⟨s, hs⟩ := exists_readString (.mk hc) rest
      rw [List.cons_append, readValue, hs]
      rfl
    case emptyList s hs =>
      rw [List.cons_append, readValue]
      cases room
      case zero => exact nofun
      case succ room =>
        simp only [inside, bind, Except.bind, List.append_assoc, List.singleton_append, skipSpace_append hs,
          skipSpace_cons (rfl : isSpace ']' = false)]
        rfl
    case list s cs hs h =>
      -- No item begins with the bracket that would close an empty list.
      rw [List.cons_append, readValue]
      cases room
      case zero => exact nofun
      case succ room =>
        have hi := accepts_readItems fuel room rest h (by simp at hf; omega)
        obtain ⟨c, cs, rfl, hc, hn⟩ := h.exists_first fun _ => IsValue.exists_first
        simp only [inside, bind, Except.bind, List.append_assoc, skipSpace_append hs, List.cons_append,
          skipSpace_cons hc]
        split
        case h_1 he => exact absurd (List.cons.inj he).left hn
        case h_2    => exact hi.bind fun _ => rfl
    case emptyObject s hs =>
      rw [List.cons_append, readValue]
      cases room
      case zero => exact nofun
      case succ room =>
        simp only [inside, bind, Except.bind, List.append_assoc, List.singleton_append, skipSpace_append hs,
          skipSpace_cons (rfl : isSpace '\x7d' = false)]
        rfl
    case object s cs hs h =>
      rw [List.cons_append, readValue]
      cases room
      case zero => exact nofun
      case succ room =>
        have hi := accepts_readMembers fuel room [] rest h (by simp at hf; omega)
        obtain ⟨c, cs, rfl, rfl⟩ := h.exists_first fun _ => IsMember.exists_first
        simp only [inside, bind, Except.bind, List.append_assoc, skipSpace_append hs, List.cons_append,
          skipSpace_cons (rfl : isSpace '"' = false)]
        exact hi.bind fun _ => rfl

theorem accepts_readItems (fuel room : Nat) (rest : List Char) (h : Separated IsValue cs)
    (hf : 2 * cs.length + 1 < fuel) :
    Accepts rest (readItems fuel room (cs ++ ']' :: rest)) := by
  match fuel with
  | 0 => exact absurd hf (Nat.not_lt_zero _)
  | fuel + 1 =>
    rw [readItems]
    cases h
    case last v s hv hs =>
      have hr : Ends (s ++ ']' :: rest) := ends_of_spaces hs <| ends_cons (by decide)
      have ha := accepts_readValue fuel room hv hr (by simp at hf; omega)
      rw [List.append_assoc]
      refine ha.bind fun _ => ?_
      simp only [skipSpace_append hs, skipSpace_cons (rfl : isSpace ']' = false)]
      rfl
    case cons v s s' vs hv hs hs' h =>
      have hr : Ends (s ++ ',' :: (s' ++ (vs ++ ']' :: rest))) := ends_of_spaces hs <| ends_cons (by decide)
      have ha := accepts_readValue fuel room hv hr (by simp at hf; omega)
      simp only [List.append_assoc, List.cons_append]
      refine ha.bind fun _ => ?_
      have hi := accepts_readItems fuel room rest h (by simp at hf; omega)
      obtain ⟨c, vs, rfl, hc, _⟩ := h.exists_first fun _ => IsValue.exists_first
      simp only [skipSpace_append hs, skipSpace_cons (rfl : isSpace ',' = false), skipSpace_append hs',
        List.cons_append, skipSpace_cons hc]
      exact hi.bind fun _ => rfl

theorem accepts_readMembers (fuel room : Nat) (before : List (String × Value)) (rest : List Char)
    (h : Separated IsMember cs) (hf : 2 * cs.length + 1 < fuel) :
    Accepts rest (readMembers fuel room before (cs ++ '\x7d' :: rest)) := by
  match fuel with
  | 0 => exact absurd hf (Nat.not_lt_zero _)
  | fuel + 1 =>
    cases h
    case last m s hm hs =>
      have hr : Ends (s ++ '\x7d' :: rest) := ends_of_spaces hs <| ends_cons (by decide)
      rw [List.append_assoc]
      refine accepts_member hm hs (.inr rfl) (fun v hv hlt => ?_) (fun he => absurd he (by decide)) fun _ => rfl
      exact accepts_readValue fuel room hv hr (by simp at hf; omega)
    case cons m s s' ms hm hs hs' h =>
      have hr : Ends (s ++ ',' :: (s' ++ (ms ++ '\x7d' :: rest))) := ends_of_spaces hs <| ends_cons (by decide)
      simp only [List.append_assoc, List.cons_append]
      refine accepts_member hm hs (.inl rfl) (fun v hv hlt => ?_) (fun _ members => ?_) fun he => absurd he (by decide)
      case refine_1 => exact accepts_readValue fuel room hv hr (by simp at hf; omega)
      case refine_2 =>
        have hi := accepts_readMembers fuel room members rest h (by simp at hf; omega)
        obtain ⟨c, ms, rfl, rfl⟩ := h.exists_first fun _ => IsMember.exists_first
        rwa [skipSpace_append hs', List.cons_append, skipSpace_cons (rfl : isSpace '"' = false)]

end

theorem not_isJson_of_malformed (h : read page nesting = .error .malformed) : ¬IsJson page.toList := by
  rintro ⟨s, v, s', hs, hv, hs', he⟩
  have hr : Ends s' := by
    rw [← List.append_nil s']
    exact ends_of_spaces hs' nofun
  have hf : 2 * v.length < 2 * page.toList.length + 2 := by
    rw [he]
    simp only [List.length_append]
    omega
  have ha := accepts_readValue (2 * page.toList.length + 2) nesting hv hr hf
  obtain ⟨c, v, rfl, hc, _⟩ := hv.exists_first
  have hp : skipSpace page.toList = c :: v ++ s' := by
    rw [he, skipSpace_append hs, List.cons_append, skipSpace_cons hc]
  rw [← hp] at ha
  rcases Outcome.bind_eq_error_iff.mp h with h | ⟨⟨value, rest⟩, hv, h⟩
  case inl =>
    rw [h] at ha
    exact ha rfl
  case inr =>
    rw [hv] at ha
    obtain rfl : rest = s' := ha
    have hn : skipSpace rest = [] := by
      rw [← List.append_nil rest]
      exact skipSpace_append hs' []
    simp only [hn] at h
    split at h
    case isTrue  => split at h <;> cases h
    case isFalse he => exact he rfl

-- Being read is to be JSON for all texts of whole characters with no number too long and no brackets too many.
theorem exists_read_iff (hl : read page nesting ≠ .error .longNumber) (hu : read page nesting ≠ .error .unpaired)
    (hd : openings page.toList ≤ nesting) : (∃ v, read page nesting = .ok v) ↔ IsJson page.toList := by
  constructor
  case mp  => exact fun ⟨_, h⟩ => isJson_of_read h
  case mpr =>
    intro hj
    cases h : read page nesting
    case ok v => exact ⟨v, rfl⟩
    case error fault =>
      cases fault
      case malformed   => exact absurd hj (not_isJson_of_malformed h)
      case longNumber  => exact absurd h hl
      case unpaired    => exact absurd h hu
      case deepNesting => exact absurd (lt_openings_of_read h) (Nat.not_lt_of_le hd)

end CatalogSearch.Json
