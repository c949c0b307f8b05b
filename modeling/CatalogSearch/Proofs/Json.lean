import CatalogSearch.Json.Reader
import CatalogSearch.Proofs.Outcome
import Mathlib.Data.List.TakeDrop

namespace CatalogSearch.Json

def Spaces (cs : List Char) : Prop :=
  ∀ c ∈ cs, isSpace c

inductive IsContent : List Char → Prop
  | nil : IsContent []
  | plain (hc : ¬c.toNat < 0x20) (hq : c ≠ '"') (hb : c ≠ '\\') (h : IsContent cs) : IsContent (c :: cs)
  | escape (he : e ∈ ['"', '\\', '/', 'b', 'f', 'n', 'r', 't']) (h : IsContent cs) : IsContent ('\\' :: e :: cs)
  | unit (hu : ∀ x ∈ [a, b, c, d], (hexValue? x).isSome) (h : IsContent cs) :
      IsContent ('\\' :: 'u' :: a :: b :: c :: d :: cs)

inductive IsText : List Char → Prop
  | mk (h : IsContent cs) : IsText ('"' :: (cs ++ ['"']))

def Digits (cs : List Char) : Prop :=
  cs ≠ [] ∧ ∀ c ∈ cs, isAsciiDigit c

inductive IsWhole : List Char → Prop
  | zero : IsWhole ['0']
  | digits (h : Digits cs) (hz : cs.head? ≠ some '0') : IsWhole cs

inductive IsFraction : List Char → Prop
  | none : IsFraction []
  | digits (h : Digits cs) : IsFraction ('.' :: cs)

inductive IsExponent : List Char → Prop
  | none : IsExponent []
  | digits (he : e = 'e' ∨ e = 'E') (hs : sign ∈ [[], ['+'], ['-']]) (h : Digits cs) : IsExponent (e :: (sign ++ cs))

inductive IsUnsigned : List Char → Prop
  | mk (hw : IsWhole ws) (hf : IsFraction fs) (he : IsExponent es) : IsUnsigned (ws ++ (fs ++ es))

inductive Separated (Piece : List Char → Prop) : List Char → Prop
  | last (hp : Piece p) (hs : Spaces s) : Separated Piece (p ++ s)
  | cons (hp : Piece p) (hs : Spaces s) (hs' : Spaces s') (h : Separated Piece ps) :
      Separated Piece (p ++ (s ++ ',' :: (s' ++ ps)))

def literals : List (List Char) :=
  ["null", "true", "false", "NaN", "Infinity", "-Infinity"].map String.toList

mutual

inductive IsValue : List Char → Prop
  | literal (h : cs ∈ literals) : IsValue cs
  | text (h : IsText cs) : IsValue cs
  | unsigned (h : IsUnsigned cs) : IsValue cs
  | negative (h : IsUnsigned cs) : IsValue ('-' :: cs)
  | emptyList (hs : Spaces s) : IsValue ('[' :: (s ++ [']']))
  | list (hs : Spaces s) (h : Separated IsValue cs) : IsValue ('[' :: (s ++ (cs ++ [']'])))
  | emptyObject (hs : Spaces s) : IsValue ('\x7b' :: (s ++ ['\x7d']))
  | object (hs : Spaces s) (h : Separated IsMember cs) : IsValue ('\x7b' :: (s ++ (cs ++ ['\x7d'])))

inductive IsMember : List Char → Prop
  | mk (hn : IsText n) (hs : Spaces s) (hs' : Spaces s') (hv : IsValue v) :
      IsMember (n ++ (s ++ ':' :: (s' ++ v)))

end

def IsJson (cs : List Char) : Prop :=
  ∃ s v s', Spaces s ∧ IsValue v ∧ Spaces s' ∧ cs = s ++ (v ++ s')

theorem exists_skipSpace (cs : List Char) : ∃ s, Spaces s ∧ cs = s ++ skipSpace cs :=
  ⟨cs.takeWhile isSpace, List.all_eq_true.mp List.all_takeWhile, List.takeWhile_append_dropWhile.symm⟩

theorem orMalformed_eq_ok_iff {x : Option α} : orMalformed x = .ok a ↔ x = some a := by
  cases x <;> simp [orMalformed]

theorem malformed_of_orMalformed {x : Option α} (h : orMalformed x = .error fault) : fault = .malformed := by
  cases x
  case none   => cases h; rfl
  case some a => cases h

theorem isSome_of_readHex (h : readHex cs = some n) : ∀ c ∈ cs, (hexValue? c).isSome := by
  rw [readHex] at h
  generalize 0 = m at h
  induction cs generalizing m
  case nil => exact List.forall_mem_nil _
  case cons c cs hi =>
    rw [List.foldlM_cons, Option.bind_eq_bind, Option.bind_eq_some_iff] at h
    obtain ⟨m', hm, h⟩ := h
    obtain ⟨x, hx, _⟩ := Option.map_eq_some_iff.mp hm
    exact List.forall_mem_cons.mpr ⟨by rw [hx]; rfl, hi _ h⟩

theorem mem_of_escapedChar? (h : escapedChar? e = some c) : e ∈ ['"', '\\', '/', 'b', 'f', 'n', 'r', 't'] := by
  rw [escapedChar?.eq_def] at h
  split at h
  case h_9 => cases h
  all_goals decide

theorem exists_content_of_readUnits (h : readUnits cs = some (us, rest)) :
    ∃ content, IsContent content ∧ cs = content ++ '"' :: rest := by
  fun_induction readUnits cs generalizing us
  case case1 =>
    cases h
    exact ⟨[], .nil, rfl⟩
  case case2 hi =>
    simp only [Option.bind_eq_bind, Option.bind_eq_some_iff] at h
    obtain ⟨_, hu, _, hr, h⟩ := h
    cases h
    have ⟨content, hc, he⟩ := hi hr
    exact ⟨_, .unit (isSome_of_readHex hu) hc, by rw [he]; rfl⟩
  case case3 hi =>
    simp only [Option.bind_eq_bind, Option.bind_eq_some_iff] at h
    obtain ⟨_, hu, _, hr, h⟩ := h
    cases h
    have ⟨content, hc, he⟩ := hi hr
    exact ⟨_, .escape (mem_of_escapedChar? hu) hc, by rw [he]; rfl⟩
  case case4 => cases h
  case case5 hq _ _ _ hn hi =>
    have ⟨hn, hb⟩ := not_or.mp hn
    have ⟨_, hr, h⟩ := Option.bind_eq_some_iff.mp h
    cases h
    have ⟨content, hc, he⟩ := hi hr
    exact ⟨_, .plain hn hq hb hc, by rw [he]; rfl⟩
  case case6 => cases h

theorem exists_text_of_readString (h : readString cs = some (s, rest)) :
    ∃ front, IsText ('"' :: front) ∧ cs = front ++ rest := by
  have ⟨(us, rest'), hu, he⟩ := Option.map_eq_some_iff.mp h
  cases he
  have ⟨content, hc, hs⟩ := exists_content_of_readUnits hu
  exact ⟨content ++ ['"'], .mk hc, by rw [hs, List.append_assoc]; rfl⟩

theorem digits_of_span (h : cs.span isAsciiDigit = (ds, rest)) (hn : ds ≠ []) : Digits ds ∧ cs = ds ++ rest := by
  rw [List.span_eq_takeWhile_dropWhile] at h
  cases h
  exact ⟨⟨hn, List.all_eq_true.mp List.all_takeWhile⟩, List.takeWhile_append_dropWhile.symm⟩

theorem isWhole_of_readWhole (h : readWhole cs = some (ws, rest)) : IsWhole ws ∧ cs = ws ++ rest := by
  rw [readWhole.eq_def] at h
  split at h
  case h_1 =>
    cases h
    exact ⟨.zero, rfl⟩
  case h_2 hz =>
    split at h
    case h_1 => cases h
    case h_2 hn hs =>
      cases h
      have ⟨hd, he⟩ := digits_of_span hs hn
      refine ⟨.digits hd fun hh => ?_, he⟩
      obtain ⟨ds, rfl⟩ := List.head?_eq_some_iff.mp hh
      exact hz _ he

theorem isFraction_of_readFraction (h : readFraction cs = (ds, rest)) : ∃ fs, IsFraction fs ∧ cs = fs ++ rest := by
  rw [readFraction.eq_def] at h
  split at h
  case h_1 =>
    split at h
    case h_1 =>
      cases h
      exact ⟨[], .none, rfl⟩
    case h_2 hn hs =>
      cases h
      have ⟨hd, he⟩ := digits_of_span hs hn
      exact ⟨_, .digits hd, by rw [he]; rfl⟩
  case h_2 =>
    cases h
    exact ⟨[], .none, rfl⟩

theorem isExponent_of_readExponent (h : readExponent cs = (power, rest)) : ∃ es, IsExponent es ∧ cs = es ++ rest := by
  rw [readExponent.eq_def] at h
  split at h
  case h_1 =>
    split at h
    case isTrue e cs' he =>
      split at h
      case h_1 ds hs =>
        obtain ⟨sign, hm, hp⟩ : ∃ sign ∈ [[], ['+'], ['-']], cs' = sign ++ ds := by
          split at hs
          case h_1 => cases hs; exact ⟨['-'], by decide, rfl⟩
          case h_2 => cases hs; exact ⟨['+'], by decide, rfl⟩
          case h_3 => cases hs; exact ⟨[], by decide, rfl⟩
        split at h
        case h_1 =>
          cases h
          exact ⟨[], .none, rfl⟩
        case h_2 hn hd =>
          cases h
          obtain ⟨hd, hr⟩ := digits_of_span hd hn
          exact ⟨_, .digits he hm hd, by rw [hp, hr]; simp⟩
    case isFalse =>
      cases h
      exact ⟨[], .none, rfl⟩
  case h_2 =>
    cases h
    exact ⟨[], .none, rfl⟩

theorem exists_unsigned_of_readUnsigned (h : readUnsigned negative cs = .ok (v, rest)) :
    ∃ front, IsUnsigned front ∧ cs = front ++ rest := by
  obtain ⟨⟨ws, cs'⟩, hw, h⟩ := Outcome.bind_eq_ok_iff.mp h
  have ⟨hw, hc⟩ := isWhole_of_readWhole <| orMalformed_eq_ok_iff.mp hw
  simp only at h
  generalize hf : readFraction cs' = fraction at h
  obtain ⟨fs, cs''⟩ := fraction
  generalize he : readExponent cs'' = exponent at h
  obtain ⟨power, rest'⟩ := exponent
  obtain rfl : rest' = rest := by
    simp only at h
    split at h
    case isTrue =>
      split at h
      case isTrue  => cases h
      case isFalse => cases h; rfl
    case isFalse => cases h; rfl
  have ⟨fs, hf, hc'⟩ := isFraction_of_readFraction hf
  have ⟨es, he, hc''⟩ := isExponent_of_readExponent he
  exact ⟨_, .mk hw hf he, by rw [hc, hc', hc'']; simp⟩

theorem fault_of_readUnsigned (h : readUnsigned negative cs = .error fault) :
    fault = .malformed ∨ fault = .longNumber := by
  rcases Outcome.bind_eq_error_iff.mp h with h | ⟨⟨ws, cs'⟩, _, h⟩
  case inl => exact .inl (malformed_of_orMalformed h)
  case inr =>
    simp only at h
    split at h
    case isTrue =>
      split at h
      case isTrue  => cases h; exact .inr rfl
      case isFalse => cases h
    case isFalse => cases h

def openings (cs : List Char) : Nat :=
  cs.countP fun c => c = '[' || c = '\x7b'

theorem openings_append (cs ds : List Char) : openings (cs ++ ds) = openings cs + openings ds :=
  List.countP_append

-- Part by part a text is not refused for halves of characters, and for its depth only if there are more openings
-- than there is room.
structure Refused (room : Nat) (cs : List Char) (fault : ReadFault) : Prop where
  paired : fault ≠ .unpaired
  deep   : fault = .deepNesting → room < openings cs

theorem refused_malformed : Refused room cs .malformed :=
  ⟨nofun, nofun⟩

def Reads (Front : List Char → Prop) (close : List Char) (room : Nat) (cs : List Char) :
    Except ReadFault (α × List Char) → Prop
  | .ok (_, rest) => ∃ front, Front front ∧ cs = front ++ (close ++ rest)
  | .error fault  => Refused room cs fault

theorem reads_literal {v : Value} (text : String) (h : text.toList ∈ literals) (hc : cs = text.toList ++ rest) :
    Reads IsValue [] room cs (.ok (v, rest)) :=
  ⟨_, .literal h, hc⟩

theorem reads_unsigned (sign : List Char) (hv : ∀ front, IsUnsigned front → IsValue (sign ++ front)) :
    Reads IsValue [] room (sign ++ cs) (readUnsigned negative cs) := by
  cases h : readUnsigned negative cs
  case error fault => rcases fault_of_readUnsigned h with rfl | rfl <;> exact ⟨nofun, nofun⟩
  case ok found =>
    obtain ⟨v, rest⟩ := found
    have ⟨front, hf, hc⟩ := exists_unsigned_of_readUnsigned h
    exact ⟨_, hv front hf, by rw [hc, List.append_assoc]; rfl⟩

theorem Reads.enclosed {outcome : Except ReadFault (α × List Char)} (h : Reads Front close room cs outcome)
    (value : α → Value) (ho : opening = '[' ∨ opening = '\x7b')
    (hv : ∀ front, Front front → IsValue (opening :: (s ++ (front ++ close)))) :
    Reads IsValue [] (room + 1) (opening :: (s ++ cs)) (outcome >>= fun found => pure (value found.1, found.2)) := by
  cases outcome
  case error fault =>
    refine ⟨Refused.paired h, fun hf => ?_⟩
    have hlt : room < openings cs := Refused.deep h hf
    have hone : openings (opening :: (s ++ cs)) = openings (s ++ cs) + 1 := by
      rcases ho with rfl | rfl <;> simp [openings]
    rw [hone, openings_append]
    omega
  case ok found =>
    have ⟨front, hf, hc⟩ := h
    exact ⟨_, hv front hf, by rw [hc]; simp⟩

theorem Reads.later {outcome : Except ReadFault (α × List Char)} (h : Reads Front close room cs outcome)
    (hf : ∀ front, Front front → Front' (before ++ front)) : Reads Front' close room (before ++ cs) outcome := by
  cases outcome
  case error fault =>
    refine ⟨Refused.paired h, fun he => ?_⟩
    have hlt : room < openings cs := Refused.deep h he
    rw [openings_append]
    omega
  case ok found =>
    have ⟨front, hp, hc⟩ := h
    exact ⟨_, hf front hp, by rw [hc, List.append_assoc]⟩

theorem Reads.map {outcome : Except ReadFault (α × List Char)} {f : α → β} (h : Reads Front close room cs outcome) :
    Reads Front close room cs (outcome >>= fun found => pure (f found.1, found.2)) := by
  cases outcome
  case error => exact h
  case ok    => exact h

theorem reads_last {v : α} (hp : Piece p) (hc : cs = p ++ rest) (hr : skipSpace rest = c :: rest') :
    Reads (Separated Piece) [c] room cs (.ok (v, rest')) := by
  have ⟨s, hs, he⟩ := exists_skipSpace rest
  exact ⟨_, .last hp hs, by rw [hc, he, hr]; simp⟩

theorem Reads.next {outcome : Except ReadFault (α × List Char)} (hp : Piece p) (hc : cs = p ++ rest)
    (hr : skipSpace rest = ',' :: rest') (h : Reads (Separated Piece) close room (skipSpace rest') outcome) :
    Reads (Separated Piece) close room cs outcome := by
  have ⟨s, hs, he⟩ := exists_skipSpace rest
  have ⟨s', hs', he'⟩ := exists_skipSpace rest'
  have hc : cs = p ++ (s ++ ',' :: s') ++ skipSpace rest' := by
    rw [hc, he, hr]
    simp [← he']
  rw [hc]
  refine h.later fun ps hps => ?_
  have hs := Separated.cons hp hs hs' hps
  simpa using hs

-- By induction on the fuel, of which every call has less.
mutual

theorem reads_readValue (fuel room : Nat) (cs : List Char) : Reads IsValue [] room cs (readValue fuel room cs) := by
  match fuel with
  | 0 => exact refused_malformed
  | fuel + 1 =>
    rw [readValue.eq_def]
    simp only
    split
    case h_1 => exact reads_literal "null" (by decide) rfl
    case h_2 => exact reads_literal "true" (by decide) rfl
    case h_3 => exact reads_literal "false" (by decide) rfl
    case h_4 => exact reads_literal "NaN" (by decide) rfl
    case h_5 => exact reads_literal "Infinity" (by decide) rfl
    case h_6 => exact reads_literal "-Infinity" (by decide) rfl
    case h_7 rest =>
      cases h : readString rest
      case none => exact refused_malformed
      case some found =>
        obtain ⟨text, rest'⟩ := found
        have ⟨front, ht, hc⟩ := exists_text_of_readString h
        exact ⟨_, .text ht, by rw [hc]; rfl⟩
    case h_8 rest =>
      cases room
      case zero => exact ⟨nofun, fun _ => by simp [openings]⟩
      case succ room =>
        have ⟨s, hs, hc⟩ := exists_skipSpace rest
        have hr := (reads_readItems fuel room (skipSpace rest)).enclosed .list (.inl rfl) fun _ => .list hs
        rw [← hc] at hr
        simp only [inside, bind, Except.bind]
        split
        case h_1 rest' he => exact ⟨_, .emptyList hs, by rw [hc, he]; simp⟩
        case h_2          => exact hr
    case h_9 rest =>
      cases room
      case zero => exact ⟨nofun, fun _ => by simp [openings]⟩
      case succ room =>
        have ⟨s, hs, hc⟩ := exists_skipSpace rest
        have hr := (reads_readMembers fuel room [] (skipSpace rest)).enclosed .object (.inr rfl) fun _ => .object hs
        rw [← hc] at hr
        simp only [inside, bind, Except.bind]
        split
        case h_1 rest' he => exact ⟨_, .emptyObject hs, by rw [hc, he]; simp⟩
        case h_2          => exact hr
    case h_10 => exact reads_unsigned ['-'] fun _ => .negative
    case h_11 => exact reads_unsigned [] fun _ => .unsigned

theorem reads_readItems (fuel room : Nat) (cs : List Char) :
    Reads (Separated IsValue) [']'] room cs (readItems fuel room cs) := by
  match fuel with
  | 0 => exact refused_malformed
  | fuel + 1 =>
    rw [readItems]
    have hv := reads_readValue fuel room cs
    cases h : readValue fuel room cs
    all_goals rw [h] at hv
    case error => exact hv
    case ok found =>
      obtain ⟨v, rest⟩ := found
      obtain ⟨front, hf, hc⟩ := hv
      simp only [bind, Except.bind]
      split
      case h_1 he => exact reads_last hf hc he
      case h_2 he => exact .next hf hc he (reads_readItems fuel room _).map
      case h_3    => exact refused_malformed

theorem reads_readMembers (fuel room : Nat) (before : List (String × Value)) (cs : List Char) :
    Reads (Separated IsMember) ['\x7d'] room cs (readMembers fuel room before cs) := by
  match fuel with
  | 0 => exact refused_malformed
  | fuel + 1 =>
    rw [readMembers.eq_def]
    simp only
    split
    case h_2 => exact refused_malformed
    case h_1 rest =>
      cases h : readString rest
      case none => exact refused_malformed
      case some found =>
        obtain ⟨name, named⟩ := found
        have ⟨n, hn, hc⟩ := exists_text_of_readString h
        have ⟨s, hs, hc'⟩ := exists_skipSpace named
        simp only [orMalformed, bind, Except.bind]
        split
        case h_2 => exact refused_malformed
        case h_1 rest' he =>
          have ⟨s', hs', hc''⟩ := exists_skipSpace rest'
          have hc : '"' :: rest = '"' :: (n ++ (s ++ ':' :: s')) ++ skipSpace rest' := by
            rw [hc, hc', he]
            simp [← hc'']
          have hv : Reads IsMember [] room ('"' :: rest) (readValue fuel room (skipSpace rest')) := by
            rw [hc]
            exact (reads_readValue fuel room _).later fun v hv => by simpa using IsMember.mk hn hs hs' hv
          cases h : readValue fuel room (skipSpace rest')
          all_goals rw [h] at hv
          case error => exact hv
          case ok found =>
            obtain ⟨v, valued⟩ := found
            obtain ⟨front, hf, hc⟩ := hv
            simp only
            split
            case h_1 he => exact reads_last hf hc he
            case h_2 he => exact .next hf hc he (reads_readMembers fuel room _ _)
            case h_3    => exact refused_malformed

end

def IsIndented (cs : List Char) : Prop :=
  ∃ s v, Spaces s ∧ IsValue v ∧ cs = s ++ v

theorem reads_page (nesting : Nat) (page : List Char) :
    Reads IsIndented [] nesting page (readValue (2 * page.length + 2) nesting (skipSpace page)) := by
  have ⟨s, hs, hc⟩ := exists_skipSpace page
  have hv := (reads_readValue (2 * page.length + 2) nesting (skipSpace page)).later fun v hv =>
    show IsIndented (s ++ v) from ⟨s, v, hs, hv, rfl⟩
  rwa [← hc] at hv

theorem isJson_of_readValue
    (h : readValue (2 * page.length + 2) nesting (skipSpace page) = .ok (v, rest)) (hn : (skipSpace rest).isEmpty) :
    IsJson page := by
  have hp := reads_page nesting page
  rw [h] at hp
  obtain ⟨_, ⟨s, v, hs, hv, rfl⟩, hc⟩ := hp
  have ⟨s', hs', he⟩ := exists_skipSpace rest
  rw [List.isEmpty_iff.mp hn, List.append_nil] at he
  exact ⟨s, v, s', hs, hv, hs', by rw [hc, he, List.append_assoc]; rfl⟩

theorem isJson_of_read (h : read page nesting = .ok v) : IsJson page.toList := by
  obtain ⟨⟨v', rest⟩, hr, h⟩ := Outcome.bind_eq_ok_iff.mp h
  simp only at h
  split at h
  case isTrue hn => exact isJson_of_readValue hr hn
  case isFalse   => cases h

theorem isJson_of_unpaired (h : read page nesting = .error .unpaired) : IsJson page.toList := by
  have hp := reads_page nesting page.toList
  rcases Outcome.bind_eq_error_iff.mp h with h | ⟨⟨v, rest⟩, hr, h⟩
  case inl =>
    rw [h] at hp
    exact absurd rfl (Refused.paired hp)
  case inr =>
    simp only at h
    split at h
    case isTrue hn => exact isJson_of_readValue hr hn
    case isFalse   => cases h

theorem lt_openings_of_read (h : read page nesting = .error .deepNesting) : nesting < openings page.toList := by
  have hp := reads_page nesting page.toList
  rcases Outcome.bind_eq_error_iff.mp h with h | ⟨⟨v, rest⟩, _, h⟩
  case inl =>
    rw [h] at hp
    exact Refused.deep hp rfl
  case inr =>
    simp only at h
    split at h
    case isTrue  => split at h <;> cases h
    case isFalse => cases h

theorem readValue_brackets (hf : 2 * room < fuel) (hn : room < n) :
    readValue fuel room (List.replicate n '[') = .error .deepNesting := by
  induction room generalizing fuel n
  case zero =>
    obtain ⟨fuel, rfl⟩ := Nat.exists_eq_add_one.mpr hf
    obtain ⟨n, rfl⟩ := Nat.exists_eq_add_one.mpr hn
    rw [List.replicate_succ, readValue]
    rfl
  case succ room hi =>
    obtain ⟨fuel, rfl⟩ : ∃ k, fuel = k + 2 := Nat.exists_eq_add_of_le' (by omega)
    obtain ⟨n, rfl⟩ : ∃ k, n = k + 2 := Nat.exists_eq_add_of_le' (by omega)
    have hs : skipSpace (List.replicate (n + 1) '[') = List.replicate (n + 1) '[' :=
      List.dropWhile_cons_of_neg (by decide)
    have hr : readValue fuel room (List.replicate (n + 1) '[') = .error .deepNesting := hi (by omega) (by omega)
    have hi : readItems (fuel + 1) room (List.replicate (n + 1) '[') = .error .deepNesting := by
      rw [readItems, hr]
      rfl
    rw [List.replicate_succ, readValue, hs]
    simp only [inside, bind, Except.bind]
    split
    case h_1 he => cases he
    case h_2    => rw [hi]

theorem read_brackets (h : nesting < n) :
    read (String.ofList (List.replicate n '[')) nesting = .error .deepNesting := by
  obtain ⟨n, rfl⟩ := Nat.exists_eq_add_one.mpr (Nat.zero_lt_of_lt h)
  have hs : skipSpace (List.replicate (n + 1) '[') = List.replicate (n + 1) '[' :=
    List.dropWhile_cons_of_neg (by decide)
  rw [read, String.toList_ofList, hs, readValue_brackets (by rw [List.length_replicate]; omega) h]
  rfl

theorem IsWhole.exists_digit (h : IsWhole cs) : ∃ d rest, cs = d :: rest ∧ isAsciiDigit d := by
  cases h
  case zero => exact ⟨'0', [], rfl, by decide⟩
  case digits hd _ =>
    obtain ⟨d, rest, rfl⟩ := List.exists_cons_of_ne_nil hd.left
    exact ⟨d, rest, rfl, hd.right d List.mem_cons_self⟩

theorem IsUnsigned.exists_digit (h : IsUnsigned cs) : ∃ d rest, cs = d :: rest ∧ isAsciiDigit d := by
  obtain ⟨hw, _, _⟩ := h
  obtain ⟨d, rest, rfl, hd⟩ := hw.exists_digit
  exact ⟨d, _, rfl, hd⟩

def beginnings : List Char :=
  ['n', 't', 'f', 'N', 'I', '-', '"', '[', '\x7b']

theorem IsValue.exists_beginning (h : IsValue cs) :
    ∃ c rest, cs = c :: rest ∧ (isAsciiDigit c ∨ c ∈ beginnings) := by
  cases h
  case literal h =>
    have hl : literals.all (fun cs => beginnings.any (cs.head? = some ·)) := by rfl
    obtain ⟨c, hc, hh⟩ := List.any_eq_true.mp <| List.all_eq_true.mp hl _ h
    obtain ⟨rest, rfl⟩ := List.head?_eq_some_iff.mp (of_decide_eq_true hh)
    exact ⟨c, rest, rfl, .inr hc⟩
  case text h =>
    cases h
    exact ⟨'"', _, rfl, .inr (by decide)⟩
  case unsigned h =>
    have ⟨d, rest, he, hd⟩ := h.exists_digit
    exact ⟨d, rest, he, .inl hd⟩
  case negative    => exact ⟨'-', _, rfl, .inr (by decide)⟩
  case emptyList   => exact ⟨'[', _, rfl, .inr (by decide)⟩
  case list        => exact ⟨'[', _, rfl, .inr (by decide)⟩
  case emptyObject => exact ⟨'\x7b', _, rfl, .inr (by decide)⟩
  case object      => exact ⟨'\x7b', _, rfl, .inr (by decide)⟩

theorem not_isJson_of_head? (h : cs.head? = some c) (hs : ¬isSpace c) (hd : ¬isAsciiDigit c) (hb : c ∉ beginnings) :
    ¬IsJson cs := by
  rintro ⟨s, v, s', hsp, hv, _, he⟩
  obtain ⟨rest, rfl⟩ := List.head?_eq_some_iff.mp h
  obtain ⟨c', rest', rfl, hc⟩ := hv.exists_beginning
  cases s
  case nil =>
    cases he
    exact hc.elim hd hb
  case cons =>
    cases he
    exact hs <| hsp c List.mem_cons_self

theorem IsValue.exists_ne_bracket (h : IsValue cs) : ∃ c ∈ cs, c ≠ '[' := by
  cases h
  case literal h =>
    have hl : literals.all (·.any (· ≠ '[')) := by rfl
    obtain ⟨c, hc, hn⟩ := List.any_eq_true.mp <| List.all_eq_true.mp hl _ h
    exact ⟨c, hc, of_decide_eq_true hn⟩
  case text h =>
    cases h
    exact ⟨'"', by simp, by decide⟩
  case unsigned h =>
    obtain ⟨d, rest, rfl, hd⟩ := h.exists_digit
    exact ⟨d, List.mem_cons_self, fun he => absurd (he ▸ hd) (by decide)⟩
  case negative    => exact ⟨'-', by simp, by decide⟩
  case emptyList   => exact ⟨']', by simp, by decide⟩
  case list        => exact ⟨']', by simp, by decide⟩
  case emptyObject => exact ⟨'\x7d', by simp, by decide⟩
  case object      => exact ⟨'\x7d', by simp, by decide⟩

theorem not_isJson_brackets (n : Nat) : ¬IsJson (List.replicate n '[') := by
  rintro ⟨s, v, s', _, hv, _, he⟩
  have ⟨c, hm, hc⟩ := hv.exists_ne_bracket
  have hr : c ∈ List.replicate n '[' := by
    rw [he]
    exact List.mem_append_right _ (List.mem_append_left _ hm)
  exact hc (List.eq_of_mem_replicate hr)

end CatalogSearch.Json
