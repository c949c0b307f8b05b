import CatalogSearch.Proofs.Clause.Phrase
import CatalogSearch.Proofs.Outcome
import CatalogSearch.Settings.Parse

namespace CatalogSearch.Settings

inductive IsTier : Value → Prop
  | whole      : IsTier (.list [.int boost, .int months])
  | fractional : IsTier (.list [.double boost, .int months])

inductive Kind where
  | text
  | time
  | texts
  | flag
  | whole
  | tiers
  deriving DecidableEq

namespace Kind

inductive Suits : Kind → Value → Prop
  | text                                     : Suits .text (.str s)
  | seconds                                  : Suits .time (.double x)
  | wholeSeconds                             : Suits .time (.int n)
  | texts {fields : List String}             : Suits .texts (.list (fields.map .str))
  | flag                                     : Suits .flag (.bool b)
  | whole                                    : Suits .whole (.int n)
  | tiers (h : ∀ tier ∈ vs, IsTier tier)     : Suits .tiers (.list vs)

-- What a value that suits is kept as: a whole time as a double, and everything else as it is.
inductive Keeps : Kind → Value → Value → Prop
  | rounded (h : Double.ofInt? n = some x) : Keeps .time (.int n) (.double x)
  | same {kind : Kind} (h : kind.Suits v) (hn : kind = .time → ∀ n, v ≠ .int n) : Keeps kind v v

def reason : Kind → Value → String
  | text, _        => "must be a string"
  | time, _        => "must be a number"
  | texts, _       => "must be a list of strings"
  | flag, _        => "must be a boolean"
  | whole, _       => "must be an integer"
  | tiers, .list _ => "each tier must be [boost, months]"
  | tiers, _       => "must be a list of [boost, months]"

def check : Kind → String → Value → Except Error Value
  | text  => textOf
  | time  => timeOf
  | texts => textsOf
  | flag  => flagOf
  | whole => wholeOf
  | tiers => tiersOf

end Kind

structure Key where
  part  : String
  name  : String
  kind  : Kind
  value : Settings → Value

def Key.label (key : Key) : String :=
  key.part ++ "." ++ key.name

def keys : List Key := [
    ⟨"elasticsearch", "url", .text, (·.url)⟩,
    ⟨"elasticsearch", "timeout", .time, (·.timeout)⟩,
    ⟨"search", "full_text_fields", .texts, (·.fullTextFields)⟩,
    ⟨"search", "phrase_field", .text, (·.phraseField)⟩,
    ⟨"search", "sort_by_score_first", .flag, (·.sortByScoreFirst)⟩,
    ⟨"search", "sibling_workers", .whole, (·.siblingWorkers)⟩,
    ⟨"recency_boost", "enabled", .flag, (·.recencyEnabled)⟩,
    ⟨"recency_boost", "field", .text, (·.recencyField)⟩,
    ⟨"recency_boost", "tiers", .tiers, (·.recencyTiers)⟩,
    ⟨"display", "colored_output", .flag, (·.coloredOutput)⟩
  ]

def Key.read (table : List (String × Value)) (key : Key) : Except Error Value :=
  readKey ((table.lookup key.part).getD (.object [])) key.name (key.value {}) (key.kind.check key.label)

def Key.given? (table : List (String × Value)) (key : Key) : Option Value :=
  match table.lookup key.part with
  | some (.object entries) => entries.lookup key.name
  | _                      => none

def Key.Settled (table : List (String × Value)) (key : Key) (setting : Value) : Prop :=
  match key.given? table with
  | some v => key.kind.Keeps v setting
  | none   => setting = key.value {}

def ofValues (origin : Option String) : List Value → Settings
  | [url, timeout, fullTextFields, phraseField, sortByScoreFirst, siblingWorkers, recencyEnabled, recencyField,
      recencyTiers, coloredOutput] =>
    { url, timeout, fullTextFields, phraseField, sortByScoreFirst, siblingWorkers, recencyEnabled, recencyField,
      recencyTiers, coloredOutput, path := origin }
  | _ => {}

-- A value in place of a part of settings that a key cannot be looked up in: a list or a text with the name of
-- the key in it, or a value in which nothing can be looked for.
inductive Hides (name : String) : Value → Prop
  | item (h : .str name ∈ vs)             : Hides name (.list vs)
  | piece (h : name.toList <:+: s.toList) : Hides name (.str s)
  | other (ho : ∀ entries, v ≠ .object entries) (hl : ∀ vs, v ≠ .list vs) (hs : ∀ s, v ≠ .str s) : Hides name v

-- What is wrong with a key in a table: its value does not suit it, is too large for a double, or cannot be
-- looked up.
inductive Offence (table : List (String × Value)) (key : Key) : Error → Prop
  | unfit (hp : table.lookup key.part = some (.object entries)) (hn : entries.lookup key.name = some v)
    (h : ¬key.kind.Suits v) : Offence table key (.settings (.invalid key.label (key.kind.reason v)))
  | tooLarge (hp : table.lookup key.part = some (.object entries))
    (hn : entries.lookup key.name = some (.int n)) (hk : key.kind = .time) (h : Double.ofInt? n = none) :
    Offence table key (.misuse .tooLarge)
  | hidden (hp : table.lookup key.part = some v) (h : Hides key.name v) :
    Offence table key (.misuse .wrongKind)

theorem isTier_iff : isTier v ↔ IsTier v := by
  constructor
  case mpr => rintro (_ | _) <;> rfl
  case mp =>
    intro h
    unfold isTier at h
    split at h
    · exact .whole
    · exact .fractional
    · cases h

theorem all_isText_iff : vs.all isText ↔ ∃ fields : List String, vs = fields.map .str := by
  constructor
  case mpr =>
    rintro ⟨fields, rfl⟩
    simp [isText]
  case mp =>
    intro h
    induction vs
    case nil => exact ⟨[], rfl⟩
    case cons v vs hi =>
      have ⟨hv, hvs⟩ := Bool.and_eq_true_iff.mp (List.all_cons ▸ h)
      obtain ⟨fields, rfl⟩ := hi hvs
      cases v
      case str field => exact ⟨field :: fields, rfl⟩
      all_goals cases hv

namespace Kind

variable {kind : Kind}

theorem Keeps.suits (h : kind.Keeps v w) : kind.Suits v := by
  cases h
  case rounded   => exact .wholeSeconds
  case same hs _ => exact hs

theorem Keeps.suits_kept (h : kind.Keeps v w) : kind.Suits w := by
  cases h
  case rounded   => exact .seconds
  case same hs _ => exact hs

theorem Keeps.eq_of_not_whole (h : kind.Keeps v w) (hn : kind = .time → ∀ n, v ≠ .int n) : w = v := by
  cases h
  case rounded => exact absurd rfl (hn rfl _)
  case same    => rfl

theorem check_of_suits (label : String) (h : kind.Suits v) :
    (∃ w, kind.check label v = .ok w ∧ kind.Keeps v w) ∨
    kind = .time ∧ ∃ n, v = .int n ∧ Double.ofInt? n = none ∧
      kind.check label v = .error (.misuse .tooLarge) := by
  cases h
  case wholeSeconds n =>
    cases hn : Double.ofInt? n
    case none   => exact .inr ⟨rfl, n, rfl, hn, by simp [check, timeOf, hn]⟩
    case some x => exact .inl ⟨.double x, by simp [check, timeOf, hn], .rounded hn⟩
  case texts fields =>
    exact .inl ⟨_, if_pos <| all_isText_iff.mpr ⟨fields, rfl⟩, .same .texts nofun⟩
  case tiers vs ht =>
    exact .inl ⟨_, if_pos <| List.all_eq_true.mpr fun tier hm => isTier_iff.mpr (ht tier hm),
      .same (.tiers ht) nofun⟩
  case text    => exact .inl ⟨_, rfl, .same .text nofun⟩
  case seconds => exact .inl ⟨_, rfl, .same .seconds fun _ => nofun⟩
  case flag    => exact .inl ⟨_, rfl, .same .flag nofun⟩
  case whole   => exact .inl ⟨_, rfl, .same .whole nofun⟩

theorem check_of_not_suits (h : ¬kind.Suits v) :
    kind.check label v = .error (.settings (.invalid label (kind.reason v))) := by
  cases kind
  case text =>
    cases v
    case str => exact absurd .text h
    all_goals rfl
  case time =>
    cases v
    case double => exact absurd .seconds h
    case int    => exact absurd .wholeSeconds h
    all_goals rfl
  case texts =>
    cases v
    case list vs =>
      refine if_neg fun ha => h ?_
      obtain ⟨fields, rfl⟩ := all_isText_iff.mp ha
      exact .texts
    all_goals rfl
  case flag =>
    cases v
    case bool => exact absurd .flag h
    all_goals rfl
  case whole =>
    cases v
    case int => exact absurd .whole h
    all_goals rfl
  case tiers =>
    cases v
    case list vs =>
      exact if_neg fun ha => h <| .tiers fun tier hm => isTier_iff.mp <| List.all_eq_true.mp ha tier hm
    all_goals rfl

theorem check_eq_ok_iff : kind.check label v = .ok w ↔ kind.Keeps v w := by
  constructor
  case mp =>
    intro h
    by_cases hs : kind.Suits v
    case neg => cases (check_of_not_suits hs).symm.trans h
    case pos =>
      rcases check_of_suits label hs with ⟨w', hw, hk⟩ | ⟨_, _, _, _, hc⟩
      case inl => exact Except.ok.inj (hw.symm.trans h) ▸ hk
      case inr => cases hc.symm.trans h
  case mpr =>
    intro h
    cases h
    case rounded h => simp [check, timeOf, h]
    case same hs hn =>
      rcases check_of_suits label hs with ⟨w', hw, hk⟩ | ⟨hk, n, hv, _⟩
      case inl => exact hw.trans <| congrArg Except.ok <| hk.eq_of_not_whole hn
      case inr => exact absurd hv (hn hk n)

end Kind

section

variable {part : Value}

theorem entry?_of_hides (h : Hides name part) : entry? part name = .error .wrongKind := by
  cases h
  case item h  => simp [h, entry?]
  case piece h => simp [Phrase.occurs_iff.mpr h, entry?]
  case other ho hl hs =>
    cases part
    case object entries => exact absurd rfl (ho entries)
    case list vs        => exact absurd rfl (hl vs)
    case str s          => exact absurd rfl (hs s)
    all_goals rfl

theorem entry?_of_not_hides (ho : ∀ entries, part ≠ .object entries) (h : ¬Hides name part) :
    entry? part name = .ok none := by
  cases part
  case object entries => exact absurd rfl (ho entries)
  case list vs        =>
    have hn : .str name ∉ vs := fun hm => h (.item hm)
    simp [hn, entry?]
  case str s =>
    have hn : ¬Phrase.occurs name.toList s.toList := fun ho => h (.piece (Phrase.occurs_iff.mp ho))
    simp [hn, entry?]
  all_goals exact absurd (.other nofun nofun nofun) h

end

section

variable {table : List (String × Value)} {key : Key}

theorem Key.given?_eq_some_iff : key.given? table = some v ↔
    ∃ entries, table.lookup key.part = some (.object entries) ∧ entries.lookup key.name = some v := by
  rw [Key.given?]
  split
  case h_1 entries hp => simp [hp]
  case h_2 hn         => exact iff_of_false nofun fun ⟨entries, hp, _⟩ => hn entries hp

theorem read_of_object (h : table.lookup key.part = some (.object entries)) :
    Key.read table key =
      ((entries.lookup key.name).map (key.kind.check key.label)).getD (.ok (key.value {})) := by
  rw [Key.read, h]
  change (Except.ok (entries.lookup key.name) >>= _ : Except Error Value) = _
  cases entries.lookup key.name <;> rfl

theorem read_of_hides (hp : table.lookup key.part = some part) (h : Hides key.name part) :
    Key.read table key = .error (.misuse .wrongKind) := by
  rw [Key.read, hp, Option.getD_some, readKey, entry?_of_hides h]
  rfl

theorem read_of_not_hides (hp : table.lookup key.part = some part) (ho : ∀ entries, part ≠ .object entries)
    (h : ¬Hides key.name part) : Key.read table key = .ok (key.value {}) := by
  rw [Key.read, hp, Option.getD_some, readKey, entry?_of_not_hides ho h]
  rfl

theorem read_cases (table : List (String × Value)) (key : Key) :
    Key.read table key = ((key.given? table).map (key.kind.check key.label)).getD (.ok (key.value {})) ∨
    ∃ part, table.lookup key.part = some part ∧ Hides key.name part ∧
      Key.read table key = .error (.misuse .wrongKind) := by
  rw [Key.given?]
  split
  case h_1 entries hp => exact .inl <| read_of_object hp
  case h_2 ho =>
    cases hp : table.lookup key.part
    case none => exact .inl <| by rw [Key.read, hp]; rfl
    case some part =>
      by_cases hh : Hides key.name part
      case pos => exact .inr ⟨part, rfl, hh, read_of_hides hp hh⟩
      case neg => exact .inl <| read_of_not_hides hp (fun entries he => ho entries (he ▸ hp)) hh

theorem read_eq_error_iff : Key.read table key = .error err ↔ Offence table key err := by
  constructor
  case mpr =>
    intro h
    cases h
    case unfit hp hn h        => simp [read_of_object hp, hn, Kind.check_of_not_suits h]
    case tooLarge hp hn hk h  => simp [read_of_object hp, hn, hk, Kind.check, timeOf, h]
    case hidden hp h          => exact read_of_hides hp h
  case mp =>
    intro h
    rcases read_cases table key with hr | ⟨part, hp, hh, hr⟩
    case inr =>
      cases hr.symm.trans h
      exact .hidden hp hh
    case inl =>
      rw [hr] at h
      cases hg : key.given? table
      case none => rw [hg] at h; cases h
      case some v =>
        have ⟨entries, hp, hn⟩ := Key.given?_eq_some_iff.mp hg
        rw [hg, Option.map_some, Option.getD_some] at h
        by_cases hs : key.kind.Suits v
        case neg =>
          cases (Kind.check_of_not_suits hs).symm.trans h
          exact .unfit hp hn hs
        case pos =>
          rcases Kind.check_of_suits key.label hs with ⟨w, hw, _⟩ | ⟨hk, n, rfl, hd, hc⟩
          case inl => cases hw.symm.trans h
          case inr =>
            cases hc.symm.trans h
            exact .tooLarge hp hn hk hd

theorem settled_iff :
    ((key.given? table).map (key.kind.check key.label)).getD (.ok (key.value {})) = .ok setting ↔
      key.Settled table setting := by
  rw [Key.Settled]
  cases key.given? table
  case none   => simp [eq_comm]
  case some v => exact Kind.check_eq_ok_iff

theorem settled_of_read (h : Key.read table key = .ok setting) : key.Settled table setting := by
  rcases read_cases table key with hr | ⟨_, _, _, hr⟩
  case inl => exact settled_iff.mp (hr.symm.trans h)
  case inr => cases hr.symm.trans h

theorem Key.Settled.suits (h : key.Settled table setting) (hd : key.kind.Suits (key.value {})) :
    key.kind.Suits setting := by
  rw [Key.Settled] at h
  split at h
  case h_1 => exact h.suits_kept
  case h_2 => exact h ▸ hd

end

theorem parse_eq (table : List (String × Value)) (origin : Option String) :
    parse (.object table) origin = (keys.mapM (Key.read table)).map (ofValues origin) := by
  simp only [keys, List.mapM_cons, List.mapM_nil, Outcome.map_eq_bind, bind_assoc, pure_bind]
  rfl

theorem parse_eq_ok_iff : parse (.object table) origin = .ok s ↔
    s.path = origin ∧ ∀ key ∈ keys, Key.read table key = .ok (key.value s) := by
  rw [parse_eq, Outcome.map_eq_ok_iff]
  constructor
  case mp =>
    rintro ⟨vs, hv, rfl⟩
    have hv := Outcome.mapM_eq_ok_iff.mp hv
    have hl : vs.length = 10 := by simpa [keys] using (congrArg List.length hv).symm
    match vs, hl with
    | [_, _, _, _, _, _, _, _, _, _], _ => exact ⟨rfl, by simpa [keys, ofValues] using hv⟩
  case mpr =>
    rintro ⟨rfl, hr⟩
    refine ⟨keys.map (·.value s), Outcome.mapM_eq_ok_iff.mpr ?_, rfl⟩
    rw [List.map_map]
    exact List.map_congr_left hr

theorem exists_parse_iff_read :
    (∃ s, parse (.object table) origin = .ok s) ↔ ∀ key ∈ keys, ∃ v, Key.read table key = .ok v := by
  have hp : (∃ s, parse (.object table) origin = .ok s) ↔ ∃ vs, keys.mapM (Key.read table) = .ok vs := by
    rw [parse_eq]
    cases keys.mapM (Key.read table) <;> simp [Except.map]
  exact hp.trans Outcome.exists_mapM_iff

theorem suits_default : ∀ key ∈ keys, key.kind.Suits (key.value {}) := by
  have hf : Kind.Suits .texts ({} : Settings).fullTextFields :=
    show Kind.Suits .texts (.list (["name^3", "brand^2", "description", "full_text_search"].map .str)) from .texts
  have ht : Kind.Suits .tiers ({} : Settings).recencyTiers := by
    refine .tiers fun tier hm => ?_
    obtain ⟨_, _, rfl⟩ := List.mem_map.mp hm
    exact .whole
  simp only [keys, List.forall_mem_cons]
  exact ⟨.text, .seconds, hf, .text, .flag, .whole, .flag, .text, ht, .flag, List.forall_mem_nil _⟩

theorem suits_of_parse (h : parse (.object table) origin = .ok s) :
    ∀ key ∈ keys, key.kind.Suits (key.value s) :=
  fun key hm => (settled_of_read ((parse_eq_ok_iff.mp h).right key hm)).suits (suits_default key hm)

end CatalogSearch.Settings
