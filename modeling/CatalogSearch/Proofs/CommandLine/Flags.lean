import CatalogSearch.Proofs.CommandLine.Facets
import CatalogSearch.Proofs.CommandLine.Preview
import CatalogSearch.Proofs.Engine.Siblings

namespace CatalogSearch

theorem Query.conjunction_of_ne_nil (h : cs ≠ []) : conjunction cs = .group .filter cs := by
  cases cs
  case nil  => exact absurd rfl h
  case cons => rfl

theorem Engine.registry_of_ofSettings {r : Registry} (h : ofSettings settings r today = .ok e) : e.registry = r := by
  simp only [ofSettings] at h
  split at h
  case isTrue =>
    split at h
    case h_1 => cases h
    case h_2 =>
      obtain ⟨_, _, h⟩ := Outcome.bind_eq_ok_iff.mp h
      obtain ⟨_, _, h⟩ := Outcome.bind_eq_ok_iff.mp h
      obtain ⟨_, _, h⟩ := Outcome.bind_eq_ok_iff.mp h
      cases h
      rfl
  case isFalse =>
    obtain ⟨_, _, h⟩ := Outcome.bind_eq_ok_iff.mp h
    obtain ⟨_, _, h⟩ := Outcome.bind_eq_ok_iff.mp h
    cases h
    rfl

namespace Selection

-- What one selected value asks for: a range, if its code is ranged and a range is what the value names, and else the
-- very text.
inductive Asks (ranged : Prop) (code value : String) : Clause Atom → Prop
  | range (hr : ranged) (hn : FacetRange.NamedBy r value) : Asks ranged code value (r.clause code)
  | term (hn : ranged → ∀ r, ¬FacetRange.NamedBy r value) : Asks ranged code value (Operator.equality code (.str value))

def AsksAny (Ranged : String → Prop) (flags : List (String × String)) (code : String) (c : Clause Atom) : Prop :=
  ∃ cs, c = .group .should cs ∧ List.Forall₂ (Asks (Ranged code) code) (valuesOf code flags) cs

inductive AsksAll (Ranged : String → Prop) : List (String × String) → Clause Atom → Prop
  | none : AsksAll Ranged [] .anything
  | some (hn : flags ≠ []) (h : List.Forall₂ (AsksAny Ranged flags) (flags.map (·.1)).eraseDups cs) :
      AsksAll Ranged flags (.group .filter cs)

variable {registry : Registry}

theorem asks_textClause (hr : registry.OfTokens) :
    Asks (registry.has code) code value (textClause registry code code value) := by
  rw [textClause, Registry.decode]
  cases hf : registry.find? code
  case none   => exact .term fun h => by simp [Registry.has, hf] at h
  case some t =>
    obtain rfl := hr code t hf
    have hh : registry.has code := by simp [Registry.has, hf]
    simp only [Option.elim_some, Transformation.rangeTokens]
    by_cases h : ∃ r : FacetRange, r.NamedBy value
    case pos =>
      obtain ⟨r, hn⟩ := h
      rw [Decoded.ofToken_of_named hn]
      exact .range hh hn
    case neg =>
      have hn : ∀ r : FacetRange, ¬r.NamedBy value := not_exists.mp h
      rw [Decoded.ofToken_of_unnamed hn]
      exact .term fun _ => hn

theorem asksAny_alternatives (hr : registry.OfTokens) (flags : List (String × String)) (code : String) :
    AsksAny (registry.has ·) flags code (alternatives registry (code, valuesOf code flags)) :=
  ⟨_, rfl, List.forall₂_map_right_iff.mpr <| List.forall₂_same.mpr fun _ _ => asks_textClause hr⟩

theorem active_grouped (flags : List (String × String)) :
    active (.grouped flags) = (flags.map (·.1)).eraseDups.map fun code => (code, valuesOf code flags) := by
  rw [active, OrderedMap.entries_grouped]
  refine List.filter_eq_self.mpr fun e he => decide_eq_true ?_
  obtain ⟨code, hc, rfl⟩ := List.mem_map.mp he
  exact valuesOf_ne_nil_iff.mpr <| List.mem_eraseDups.mp hc

theorem asksAll_grouped (flags : List (String × String)) (hr : registry.OfTokens) :
    AsksAll (registry.has ·) flags
      (Query.conjunction ((active (.grouped flags)).map (alternatives registry))) := by
  rw [active_grouped, List.map_map]
  by_cases hn : flags = []
  case pos => exact hn ▸ .none
  case neg =>
    have hc : (flags.map (·.1)).eraseDups ≠ [] := by
      obtain ⟨flag, rest, rfl⟩ := List.exists_cons_of_ne_nil hn
      rw [List.map_cons, List.eraseDups_cons]
      exact List.cons_ne_nil _ _
    rw [Query.conjunction_of_ne_nil (mt List.map_eq_nil_iff.mp hc)]
    exact .some hn <| List.forall₂_map_right_iff.mpr <| List.forall₂_same.mpr fun code _ =>
      asksAny_alternatives hr _ code

end Selection

namespace CommandLine

def Flawed (text : String) : Prop :=
  '=' ∉ text.toList ∨ text.toList.head? = some '='

instance (text : String) : Decidable (Flawed text) :=
  inferInstanceAs <| Decidable (_ ∨ _)

theorem IsPair.toList_eq (h : IsPair text code value) : text.toList = code.toList ++ '=' :: value.toList := by
  rw [h.parts]
  simp

theorem IsPair.not_flawed (h : IsPair text code value) : ¬Flawed text := by
  rw [Flawed, h.toList_eq]
  rintro (hm | hh)
  case inl => simp at hm
  case inr =>
    cases hc : code.toList
    case nil => exact h.nonempty <| String.toList_eq_nil_iff.mp hc
    case cons c cs =>
      rw [hc] at hh
      obtain rfl : c = '=' := Option.some.inj hh
      exact h.single (hc ▸ List.mem_cons_self)

theorem exists_isPair (h : ¬Flawed text) : ∃ code value, IsPair text code value := by
  have ⟨hm, hh⟩ := not_or.mp h
  have ⟨front, rest, hs, hf⟩ := List.eq_append_cons_of_mem (not_not.mp hm)
  refine ⟨String.ofList front, String.ofList rest, ?parts, by rwa [String.toList_ofList], ?nonempty⟩
  case parts =>
    rw [← String.toList_inj, hs]
    simp
  case nonempty =>
    intro he
    have hn : front = [] := by simpa using congrArg String.toList he
    exact hh (by rw [hs, hn]; rfl)

theorem pairOf_of_isPair (h : IsPair text code value) (option : String) : pairOf option text = .ok (code, value) := by
  have hp : ∀ c ∈ code.toList, decide (c ≠ '=') = true := fun c hc => decide_eq_true fun he => h.single (he ▸ hc)
  have hf : text.toList.takeWhile (· ≠ '=') = code.toList := by
    rw [h.toList_eq, List.takeWhile_append_of_pos hp]
    simp
  have hr : (text.toList.dropWhile (· ≠ '=')).tail? = some value.toList := by
    rw [h.toList_eq, List.dropWhile_append_of_pos hp]
    simp
  rw [pairOf, hf, hr]
  cases hc : code.toList
  case nil       => exact absurd (String.toList_eq_nil_iff.mp hc) h.nonempty
  case cons c cs => simp only [← hc, String.ofList_toList]

theorem IsPair.unique (h : IsPair text code value) (h' : IsPair text code' value') : code = code' ∧ value = value' := by
  have he := (pairOf_of_isPair h "").symm.trans (pairOf_of_isPair h' "")
  exact Prod.mk.inj (Except.ok.inj he)

theorem pairOf_of_flawed (h : Flawed text) (option : String) :
    pairOf option text = .error (.invalidValue option ("expected CODE=VALUE, got " ++ quoted text)) := by
  cases hp : pairOf option text
  case ok pair => exact absurd h (isPair_of_pairOf hp).not_flawed
  case error e =>
    rw [pairOf] at hp
    split at hp
    case h_1 => cases hp
    case h_2 => exact hp.symm

abbrev ArePairs : List String → List (String × String) → Prop :=
  List.Forall₂ fun text flag => IsPair text flag.1 flag.2

theorem exists_arePairs {texts : List String} (h : ∀ text ∈ texts, ¬Flawed text) : ∃ flags, ArePairs texts flags := by
  induction texts
  case nil => exact ⟨[], .nil⟩
  case cons text texts hi =>
    have ⟨ht, hs⟩ := List.forall_mem_cons.mp h
    have ⟨code, value, hp⟩ := exists_isPair ht
    have ⟨flags, hf⟩ := hi hs
    exact ⟨(code, value) :: flags, .cons hp hf⟩

open SearchArguments

theorem select_ofTexts (m : OrderedMap (List String)) (code value : String) :
    select (.ofTexts m) code value = .ofTexts (m.append code value) := by
  rw [Selection.ofTexts, Selection.ofTexts, OrderedMap.append, OrderedMap.mapValues_insert, select,
    OrderedMap.get?_mapValues]
  cases m.get? code <;> simp

theorem foldl_select (flags : List (String × String)) (m : OrderedMap (List String)) :
    flags.foldl (fun selection flag => select selection flag.1 flag.2) (.ofTexts m) =
      .ofTexts (flags.foldl (fun m flag => m.append flag.1 flag.2) m) := by
  induction flags generalizing m
  case nil               => rfl
  case cons flag flags hi => rw [List.foldl_cons, List.foldl_cons, select_ofTexts, hi]

theorem selectionOf_of_pairs (h : ArePairs texts flags) : selectionOf texts = .ok (.ofTexts (.grouped flags)) := by
  have hp : texts.mapM (pairOf "--filter") = .ok flags := by
    induction h
    case nil => rfl
    case cons hp _ hi => exact Outcome.mapM_cons_eq_ok_iff.mpr ⟨_, _, pairOf_of_isPair hp _, hi, rfl⟩
  rw [selectionOf, hp]
  exact congrArg Except.ok (foldl_select flags ∅)

theorem selectionOf_of_flawed {texts : List String} (h : ∃ text ∈ texts, Flawed text) : ∃ before text after,
    texts = before ++ text :: after ∧ (∀ t ∈ before, ¬Flawed t) ∧ Flawed text ∧
      selectionOf texts = .error (.invalidValue "--filter" ("expected CODE=VALUE, got " ++ quoted text)) := by
  have ⟨text, hm, hf⟩ := h
  cases hp : texts.mapM (pairOf "--filter")
  case ok flags =>
    have ⟨_, _, ho⟩ := Outcome.exists_outcome_of_mem (Outcome.mapM_eq_ok_iff.mp hp) hm
    exact absurd hf (isPair_of_pairOf ho).not_flawed
  case error e =>
    have ⟨before, text, after, hs, hb, he⟩ := Outcome.mapM_eq_error_iff.mp hp
    have hf : Flawed text := by
      by_contra hn
      have ⟨_, _, hn⟩ := exists_isPair hn
      rw [pairOf_of_isPair hn] at he
      cases he
    refine ⟨before, text, after, hs, fun t ht => ?_, hf, ?_⟩
    case refine_1 =>
      have ⟨_, ho⟩ := hb t ht
      exact (isPair_of_pairOf ho).not_flawed
    case refine_2 =>
      rw [pairOf_of_flawed hf] at he
      cases he
      rw [selectionOf, hp]
      rfl

section

variable {a : SearchArguments} {o : SearchOrder} {nesting : Nat}

theorem order_eq_ok_iff : a.order nesting = .ok o ↔
    criteriaOf nesting a.criteria = .ok o.criteria ∧
    facetsOf a.facets a.rangeFacets = .ok (o.options.facets, o.registry) ∧
    selectionOf a.filters = .ok o.options.selection ∧ contextOf a.contexts = .ok o.options.context ∧
    a.sort.mapM sortKeyOf = .ok o.options.sort ∧ o.options.rows = .int a.rows ∧ o.options.page = .int a.page := by
  simp only [order, Outcome.bind_eq_ok_iff, liftM, monadLift, MonadLift.monadLift, Outcome.mapError_eq_ok_iff, pure,
    Except.pure, Except.ok.injEq]
  constructor
  case mp =>
    rintro ⟨criteria, hc, ⟨facets, registry⟩, hf, selection, hs, context, hx, sort, ht, rfl⟩
    exact ⟨hc, hf, hs, hx, ht, rfl, rfl⟩
  case mpr =>
    rintro ⟨hc, hf, hs, hx, ht, hr, hp⟩
    refine ⟨_, hc, _, hf, _, hs, _, hx, _, ht, ?_⟩
    rw [← hr, ← hp]

theorem order_of_pairs (ho : { a with filters := [] }.order nesting = .ok o) (hf : ArePairs a.filters flags) :
    a.order nesting = .ok { o with options.selection := .ofTexts (.grouped flags) } := by
  obtain ⟨hc, hr, _, hx, ht, hn, hp⟩ := order_eq_ok_iff.mp ho
  exact order_eq_ok_iff.mpr ⟨hc, hr, selectionOf_of_pairs hf, hx, ht, hn, hp⟩

theorem order_of_refusal (ho : { a with filters := [] }.order nesting = .ok o)
    (hs : selectionOf a.filters = .error cause) : a.order nesting = .error (.usage cause) := by
  obtain ⟨hc, hr, _⟩ := order_eq_ok_iff.mp ho
  simp only at hc hr
  rw [order, hc, hr, hs]
  rfl

theorem ofTokens_of_order (ho : a.order nesting = .ok o) : o.registry.OfTokens := by
  obtain ⟨_, hr, _⟩ := order_eq_ok_iff.mp ho
  obtain ⟨_, _, _, hg⟩ := options_of_facetsOf hr
  exact hg ▸ Registry.ofTokens_foldl_register Registry.ofTokens_empty

theorem has_iff_of_order (ho : a.order nesting = .ok o) (code : String) :
    o.registry.has code ↔ ∃ text ∈ a.rangeFacets, ∃ value, IsPair text code value := by
  obtain ⟨_, hr, _⟩ := order_eq_ok_iff.mp ho
  obtain ⟨options, hp, _, hg⟩ := options_of_facetsOf hr
  have hh : o.registry.has code ↔ code ∈ options.map (·.1) := hg ▸ Registry.has_registered_iff
  rw [hh]
  constructor
  case mp =>
    intro hm
    obtain ⟨option, ho, rfl⟩ := List.mem_map.mp hm
    obtain ⟨text, ht, value, _, hv, _⟩ := Outcome.exists_of_forall₂ hp.flip ho
    exact ⟨text, ht, value, hv⟩
  case mpr =>
    rintro ⟨text, ht, value, hv⟩
    obtain ⟨option, ho, _, _, hv', _⟩ := Outcome.exists_of_forall₂ hp ht
    exact List.mem_map.mpr ⟨option, ho, (hv'.unique hv).left⟩

end

section

variable {v : Invocation} {e : Engine} {a : SearchArguments} {o : SearchOrder} {nesting : Nat}
  {world : σ → (n : Need) → Except Error n.Supply × σ} {s : σ}

theorem exists_request_of_order (ho : { a with filters := [] }.order nesting = .ok o)
    (hc : Criteria.compile e.tuning o.criteria = .ok sent) (hb : e.recency.mapM (·.clauses) = .ok boost) :
    ∃ main : Request, e.request o.criteria o.options ∅ = .ok main ∧ main.query.criteria = sent := by
  obtain ⟨_, _, _, _, _, hr, hp⟩ := order_eq_ok_iff.mp ho
  have ht : o.options.page.times o.options.rows = .ok (.int (a.page * a.rows)) := by
    rw [hr, hp]
    rfl
  let query : Query := ⟨sent, o.options.context.clause, .anything, boost⟩
  exact ⟨⟨query, _, _, _, _⟩, Engine.request_eq_ok_iff.mpr
    ⟨Query.build_eq_ok_iff.mpr ⟨hc, rfl, rfl, hb⟩, ht, rfl, rfl, rfl⟩, rfl⟩

theorem filters_of_ofGiven {g : Given SearchOption} (h : ofGiven g = .ok a) :
    a.filters = g.values .filter ∧ a.rangeFacets = g.values .rangeFacet := by
  obtain ⟨_, _, h⟩ := Outcome.bind_eq_ok_iff.mp h
  simp only at h
  split at h
  case isFalse => cases h
  case isTrue =>
    obtain ⟨_, _, h⟩ := Outcome.bind_eq_ok_iff.mp h
    obtain ⟨_, _, h⟩ := Outcome.bind_eq_ok_iff.mp h
    cases h
    exact ⟨rfl, rfl⟩

variable [Console]

def Presents (v : Invocation) (dryRun : Bool) (t : Transcript σ Output Need ExitCode) (body : Value) : Prop :=
  if dryRun then Shows t body else Sends v t body

variable (world s) in
theorem search_presents {r : Request} (ho : a.order v.surroundings.nesting.json = .ok o)
    (he : Engine.ofSettings v.settings o.registry (some v.surroundings.today) = .ok e)
    (hr : e.request o.criteria o.options o.options.selection = .ok r) :
    let t := (search v a).run world s
    (∀ body, Presents v a.dryRun t body → body = r.toValue) ∧
    (a.dryRun ∨ v.Announced → Presents v a.dryRun t r.toValue) := by
  intro t
  have ht : t = (if a.dryRun then preview e o else carryOut v e o).run world s := by rw [← search_of_order ho he]
  cases hd : a.dryRun
  case true =>
    rw [hd, if_pos rfl, preview_of_ok hr] at ht
    simp [ht, Presents, Shows]
  case false =>
    rw [hd, if_neg Bool.false_ne_true] at ht
    simp only [ht, Presents, Bool.false_eq_true, if_false, false_or]
    by_cases ha : v.Announced
    case pos => exact ⟨fun _ => (sends_of_request ha hr).mp, fun _ => (sends_of_request ha hr).mpr rfl⟩
    case neg =>
      obtain ⟨cause, hn⟩ := carryOut_of_not_announced e o world s ha
      refine ⟨fun body => ?_, fun h => absurd h ha⟩
      rintro ⟨_, _, hs⟩
      rw [hn] at hs
      cases hs

theorem runCommand_query {g : Given SearchOption} (hg : OptionForm.read forms true arguments = .ok g)
    (hh : g.has .help = false) (ha : ofGiven g = .ok a) : runCommand v .query arguments = search v a := by
  simp only [runCommand, withOptions, hg, hh, ha]
  rfl

-- Every flag of a search counts, and counts once. Flags of the form `CODE=VALUE` set nothing but the filters of the
-- request, which have a clause for each code and in it one for each flag of the code, in the order of the flags. A
-- flag of another form is refused before anything is asked of anyone.
theorem flags_kept {g : Given SearchOption} (hg : OptionForm.read forms true arguments = .ok g)
    (hh : g.has .help = false) (ha : ofGiven g = .ok a) (v : Invocation)
    (ho : { a with filters := [] }.order v.surroundings.nesting.json = .ok o)
    (world : σ → (n : Need) → Except Error n.Supply × σ) (s : σ) :
    let t := (runCommand v .query arguments).run world s
    let Ranged code := ∃ text ∈ g.values .rangeFacet, ∃ value, IsPair text code value
    ((∀ text ∈ g.values .filter, ¬Flawed text) → ∃ flags filters,
      ArePairs (g.values .filter) flags ∧ Selection.AsksAll Ranged flags filters ∧
      ∀ e sent boost, Engine.ofSettings v.settings o.registry (some v.surroundings.today) = .ok e →
        Criteria.compile e.tuning o.criteria = .ok sent → e.recency.mapM (·.clauses) = .ok boost →
          ∃ main, e.request o.criteria o.options ∅ = .ok main ∧ main.query.criteria = sent ∧
            (∀ body, Presents v a.dryRun t body → body = (main.refilter filters).toValue) ∧
            (a.dryRun ∨ v.Announced → Presents v a.dryRun t (main.refilter filters).toValue)) ∧
    ((∃ text ∈ g.values .filter, Flawed text) → ∃ before flawed after,
      g.values .filter = before ++ flawed :: after ∧ (∀ text ∈ before, ¬Flawed text) ∧ Flawed flawed ∧
      t.asked = [] ∧ t.outcome = .ok .usage ∧ t.notes = [.raw .err <| withoutControls <| refusal (some .query) <|
        .invalidValue "--filter" ("expected CODE=VALUE, got " ++ quoted flawed)]) := by
  intro t Ranged
  obtain ⟨hf, hr⟩ := filters_of_ofGiven ha
  have ht : t = (search v a).run world s := by rw [← runCommand_query hg hh ha]
  rw [← hf]
  refine ⟨fun hn => ?kept, fun hx => ?refused⟩
  case kept =>
    obtain ⟨flags, hp⟩ := exists_arePairs hn
    have hRanged : (fun code => o.registry.has code = true) = Ranged := by
      funext code
      have hi := has_iff_of_order ho code
      rw [hr] at hi
      exact propext hi
    -- With the flags, the request is the one without them, but for its filters.
    let filters := Query.conjunction ((Selection.active (.grouped flags)).map (Selection.alternatives o.registry))
    refine ⟨flags, filters, hp, hRanged ▸ Selection.asksAll_grouped flags (ofTokens_of_order ho), ?_⟩
    intro e sent boost he hc hb
    obtain ⟨main, hm, hs⟩ := exists_request_of_order ho hc hb
    have hq : Query.filtersClause (.ofTexts (.grouped flags)) e.registry = .ok filters :=
      Engine.registry_of_ofSettings he ▸ Query.filtersClause_eq_ok _ _
    have hm' := Engine.request_refilter hm hq
    have h := search_presents world s (order_of_pairs ho hp) he hm'
    exact ⟨main, hm, hs, ht ▸ h⟩
  case refused =>
    obtain ⟨before, flawed, after, hs, hb, hw, he⟩ := selectionOf_of_flawed hx
    rw [search_of_refusal (order_of_refusal ho he)] at ht
    exact ⟨before, flawed, after, hs, hb, hw, ht ▸ rfl, ht ▸ rfl, ht ▸ rfl⟩

end

theorem flags_kept_in_turn :
    let line := ["-f", "color=red", "--filter=price=10-50", "--range-facet", "price=10-50", "-fcolor=", "--dry-run",
      "-f", "price=a=b", "-f", "color=red"]
    let texts := ["color=red", "price=10-50", "color=", "price=a=b", "color=red"]
    let Ranged code := ∃ text ∈ ["price=10-50"], ∃ value, IsPair text code value
    let shown := (runCommand quietly .query line).run (served "\x7b\x7d") ()
    let refused := (runCommand quietly .query ["-f", "color=red", "-f", "=blue"]).run (served "\x7b\x7d") ()
    (∃ flags filters main, ArePairs texts flags ∧ Selection.AsksAll Ranged flags filters ∧
      Shows shown (Request.refilter main filters).toValue) ∧
    refused.asked = [] ∧ refused.outcome = .ok .usage := by
  intro line texts Ranged shown refused
  constructor
  case left =>
    have hg : OptionForm.read forms true line = .ok
        ⟨[(.filter, "color=red"), (.filter, "price=10-50"), (.rangeFacet, "price=10-50"), (.filter, "color="),
          (.dryRun, none), (.filter, "price=a=b"), (.filter, "color=red")], []⟩ := by rfl
    have ho : ({ rangeFacets := ["price=10-50"], dryRun := true } : SearchArguments).order
          quietly.surroundings.nesting.json =
        .ok {
          options  := { facets := [.ranges "price" [⟨.str "10", .str "50"⟩]] }
          registry := .register {} "price" } := by
      rfl
    have ⟨hk, _⟩ := flags_kept hg rfl rfl quietly ho (served "\x7b\x7d") ()
    obtain ⟨flags, filters, hp, hf, hm⟩ := hk (by decide)
    obtain ⟨main, _, _, _, hs⟩ := hm _ .anything none rfl rfl rfl
    exact ⟨flags, filters, main, hp, hf, hs (.inl rfl)⟩
  case right =>
    have hg : OptionForm.read forms true ["-f", "color=red", "-f", "=blue"] =
        .ok ⟨[(.filter, "color=red"), (.filter, "=blue")], []⟩ := by rfl
    have ho : ({} : SearchArguments).order quietly.surroundings.nesting.json = .ok {} := by rfl
    have ⟨_, hr⟩ := flags_kept hg rfl rfl quietly ho (served "\x7b\x7d") ()
    obtain ⟨_, _, _, _, _, _, ha, ho, _⟩ := hr ⟨"=blue", by decide, .inr (by decide)⟩
    exact ⟨ha, ho⟩

end CommandLine
end CatalogSearch
