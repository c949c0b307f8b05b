import CatalogSearch.CommandLine.Action
import CatalogSearch.Proofs.CommandLine.Session
import CatalogSearch.Proofs.Console.Lawful
import CatalogSearch.Proofs.Number

namespace CatalogSearch

def SearchResult.Presentable [Console] (r : SearchResult) : Prop :=
  ∀ field ∈ r.facets, Console.ShowsTitle field.code ∧ ∀ c ∈ field.counts, Console.Shows c.count.text

namespace CommandLine

open Session

theorem unmarked_of_numberChar {text : String} (h : ∀ c ∈ text.toList, NumberChar c) : Console.Unmarked text :=
  ⟨fun hc => absurd (h _ hc) (by decide), fun hc => absurd (h _ hc) (by decide)⟩

def exitCodes : List ExitCode :=
  [.success, .failure, .engineFailure]

variable [Console] {v : Invocation} {e : Engine} {o : SearchOrder}
  {world : σ → (n : Need) → Except Error n.Supply × σ} {s : σ}

-- The address of the index can be shown wherever it is shown.
def Invocation.Announced (v : Invocation) : Prop :=
  v.verbose → Console.Shows (Console.styled "info" ("Querying " ++ v.url))

def complaint (message : String) : String :=
  Console.labelled "error" "Error:" (Console.escape message)

def announce (v : Invocation) : Session Unit :=
  if v.verbose then info ("Querying " ++ v.url) else pure ()

def conclude (outcome : Except Error SearchResult) : Session ExitCode :=
  match outcome with
  | .ok result              => do
    showResult result
    return .success
  | .error (.compile cause) => do
    complain cause.message
    return .failure
  | .error e                =>
    if e.kind?.isSome then do
      complain e.message
      hint "Check elasticsearch.url in your config"
      return .engineFailure
    else .done (.error e)

theorem carryOut_eq (v : Invocation) (e : Engine) (o : SearchOrder) : carryOut v e o = (do
    announce v
    conclude (← (converse v.connection v.debug (e.query o.criteria o.options)).attempt)) := by
  rw [carryOut, announce]
  split <;> rfl

theorem showTable_ok_iff : ((showTable title columns rows).run world s).outcome = .ok () ↔
    Console.ShowsTitle title ∧ ∀ row ∈ rows, ∀ cell ∈ row, Console.Shows cell := by
  simp only [Console.Shows, Console.ShowsTitle, ← Outcome.exists_mapM_iff]
  cases hr : rows.mapM (·.mapM Console.read)
  case error cause =>
    simp only [showTable, Table.read, hr]
    exact iff_of_false nofun fun h => nomatch h.right
  case ok cells =>
    cases ht : Console.title title
    case error cause =>
      simp only [showTable, Table.read, hr, ht]
      exact iff_of_false nofun fun h => nomatch h.left
    case ok heading =>
      simp only [showTable, Table.read, hr, ht]
      exact iff_of_true rfl ⟨⟨heading, rfl⟩, cells, rfl⟩

def showProducts (ids : List String) : Session Unit :=
  if ids.isEmpty then pure ()
  else showTable "Products" ["#", "Product ID"] <| ids.zipIdx.map fun (id, position) =>
    [natText (position + 1), Console.escape id]

def showField (field : FacetField) : Session Unit :=
  showTable field.code ["Value", "Count"] <| field.counts.map fun c => [Console.escape c.value, c.count.text]

theorem showResult_eq (r : SearchResult) : showResult r = (do
    say .out (Console.styled "success" (intText r.total) ++ " matching documents")
    showProducts r.productIds
    r.facets.forM showField) := by
  rw [showResult, showProducts]
  split <;> rfl

theorem silent_say (channel : Channel) (markup : String) : (say channel markup).Silent := by
  rw [say]
  cases Console.read markup <;> trivial

theorem silent_showTable : (showTable title columns rows).Silent := by
  rw [showTable]
  cases Table.read title columns rows <;> trivial

theorem silent_showResult (r : SearchResult) : (showResult r).Silent := by
  rw [showResult_eq]
  refine (silent_say ..).bind fun _ => .bind ?_ fun _ => Dialogue.silent_forM (fun _ => silent_showTable) _
  rw [showProducts]
  split
  case isTrue  => trivial
  case isFalse => exact silent_showTable

theorem silent_conclude (outcome : Except Error SearchResult) : (conclude outcome).Silent := by
  rw [conclude.eq_def]
  split
  case h_1 => exact (silent_showResult _).bind fun _ => trivial
  case h_2 => exact (silent_say ..).bind fun _ => trivial
  case h_3 =>
    split
    case isTrue  => exact (silent_say ..).bind fun _ => (silent_say ..).bind fun _ => trivial
    case isFalse => trivial

theorem conclude_of_no_kind (hk : ¬err.kind?.isSome) : conclude (.error err) = .done (.error err) := by
  cases err
  case compile cause => exact absurd (Error.kind_compile cause) hk
  all_goals simp [conclude, hk]

theorem announce_amountsTo (h : v.Announced) : ((announce v).run world s).AmountsTo [] s (.ok ()) := by
  rw [announce]
  split
  case isFalse => exact ⟨rfl, rfl, rfl⟩
  case isTrue hv =>
    obtain ⟨text, ht⟩ := h hv
    rw [info, run_say ht]
    exact ⟨rfl, rfl, rfl⟩

section

variable (e o world s)

theorem carryOut_of_not_announced (h : ¬v.Announced) : ∃ cause, (carryOut v e o).run world s =
    { outcome := .error (.misuse cause), asked := [], notes := [], state := s } := by
  rw [Invocation.Announced, Classical.not_imp] at h
  cases ht : Console.read (Console.styled "info" ("Querying " ++ v.url))
  case ok text     => exact absurd ⟨text, ht⟩ h.right
  case error cause =>
    rw [carryOut_eq, Dialogue.run_bind, announce, if_pos h.left, info, run_say_of_error ht]
    exact ⟨cause, rfl⟩

-- A search that is announced is held with the index, and then it is shown what has become of it.
theorem carryOut_of_announced (h : v.Announced) :
    let t := (e.query o.criteria o.options).run (index v.connection world) s
    let u := (conclude t.outcome).run world t.state
    ∃ notes, (carryOut v e o).run world s =
      { u with asked := t.asked.filterMap (needOf? v.connection), notes := notes ++ u.notes } := by
  intro t u
  have ⟨ha, hs, ho⟩ : ((announce v).run world s).AmountsTo [] s (.ok ()) := announce_amountsTo h
  have ⟨ha', hs', ho'⟩ : ((converse v.connection v.debug (e.query o.criteria o.options)).run world s).AmountsTo
      (t.asked.filterMap (needOf? v.connection)) t.state t.outcome := converse_amountsTo ..
  -- Nothing is asked any more when the outcome is shown.
  have hu : u.asked = [] := (silent_conclude _).asked
  refine ⟨((announce v).run world s).notes ++
    ((converse v.connection v.debug (e.query o.criteria o.options)).run world s).notes, ?_⟩
  rw [carryOut_eq, Dialogue.run_bind, Transcript.andThen_of_ok ho, hs, Dialogue.run_bind, Dialogue.run_attempt,
    Transcript.andThen_of_ok rfl]
  simp only [ha, ha', hs', ho', List.nil_append, List.append_assoc]
  change ({ u with asked := _ ++ u.asked, notes := _ } : Transcript ..) = _
  rw [hu, List.append_nil]

end

variable [LawfulConsole]

theorem Invocation.announced_of_bracketless (h : '[' ∉ v.url.toList) :
    v.Announced := by
  refine fun _ => LawfulConsole.styled (by decide) ?_
  rw [String.toList_append]
  exact List.not_mem_append (by decide) h

theorem shows_complaint (message : String) : Console.Shows (complaint message) :=
  Console.shows_labelled (by decide) (by decide) (LawfulConsole.escaped message)

variable (world s) in
theorem run_complain (message : String) : ∃ text,
    Console.read (complaint message) = .ok text ∧
      (complain message).run world s =
        { outcome := .ok (), asked := [], notes := [.line .err text], state := s } := by
  obtain ⟨text, ht⟩ := shows_complaint message
  exact ⟨text, ht, run_say ht .err⟩

theorem shows_natText (n : Nat) : Console.Shows (natText n) := by
  refine LawfulConsole.plain (unmarked_of_numberChar fun c hc => ?_).left
  rw [natText, String.toList_ofList] at hc
  exact numberChar_of_mem_toDigits hc

theorem shows_total (n : Int) :
    Console.Shows (Console.styled "success" (intText n) ++ " matching documents") :=
  LawfulConsole.follows (by decide) (unmarked_of_numberChar (numberChars_intText n)) <|
    LawfulConsole.plain (by decide)

theorem showProducts_ok (ids : List String) : ((showProducts ids).run world s).outcome = .ok () := by
  rw [showProducts]
  split
  case isTrue => rfl
  case isFalse =>
    refine showTable_ok_iff.mpr ⟨LawfulConsole.title (by decide), fun row hr => ?_⟩
    obtain ⟨⟨id, position⟩, -, rfl⟩ := List.mem_map.mp hr
    exact List.forall_mem_cons.mpr
      ⟨shows_natText _, List.forall_mem_singleton.mpr (LawfulConsole.escaped id)⟩

theorem showField_ok_iff {field : FacetField} : ((showField field).run world s).outcome = .ok () ↔
    Console.ShowsTitle field.code ∧ ∀ c ∈ field.counts, Console.Shows c.count.text := by
  rw [showField, showTable_ok_iff, List.forall_mem_map]
  simp [LawfulConsole.escaped]

theorem showResult_ok_iff {r : SearchResult} :
    ((showResult r).run world s).outcome = .ok () ↔ r.Presentable := by
  obtain ⟨text, ht⟩ := shows_total r.total
  rw [showResult_eq, Dialogue.seq_ok_iff, Dialogue.seq_ok_iff, run_say ht, and_iff_right rfl,
    and_iff_right (showProducts_ok _)]
  exact Dialogue.forM_ok_iff fun _ _ => showField_ok_iff

variable (world s) in
theorem conclude_compile (cause : CompileError) : ∃ text,
    Console.read (complaint cause.message) = .ok text ∧
      (conclude (.error (.compile cause))).run world s =
        { outcome := .ok .failure, asked := [], notes := [.line .err text], state := s } := by
  obtain ⟨text, ht, hr⟩ := run_complain world s cause.message
  exact ⟨text, ht, by rw [conclude, Dialogue.run_bind, hr]; rfl⟩

theorem conclude_of_kind (hk : err.kind?.isSome) (hc : ∀ cause, err ≠ .compile cause) :
    ((conclude (.error err)).run world s).outcome = .ok .engineFailure := by
  obtain ⟨hint, hh⟩ :
      Console.Shows ("  " ++ Console.labelled "info" "Hint:" "Check elasticsearch.url in your config") :=
    LawfulConsole.behind (by decide) <| Console.shows_labelled (by decide) (by decide) (LawfulConsole.plain (by decide))
  obtain ⟨text, -, hr⟩ := run_complain world s err.message
  have he : conclude (.error err) = (do
      complain err.message
      CommandLine.Session.hint "Check elasticsearch.url in your config"
      return .engineFailure) := by
    cases err
    case compile cause => exact absurd rfl (hc cause)
    all_goals simp only [conclude, hk, if_true]
  rw [he, Dialogue.run_bind, hr, Transcript.andThen_outcome]
  change ((say .err _ >>= _).run world s).outcome = _
  rw [Dialogue.run_bind, run_say hh]
  rfl

theorem conclude_ok_iff {r : SearchResult} : ((conclude (.ok r)).run world s).outcome = .ok code ↔
    r.Presentable ∧ code = .success := by
  rw [conclude, Dialogue.seq_ok_iff, showResult_ok_iff]
  exact and_congr_right fun _ => by simp [eq_comm]

theorem conclude_ends_iff {outcome : Except Error SearchResult} :
    (∃ code ∈ exitCodes, ((conclude outcome).run world s).outcome = .ok code) ↔
      (∀ err, outcome = .error err → err.kind?.isSome) ∧ ∀ r, outcome = .ok r → r.Presentable := by
  cases outcome
  case ok r =>
    simp only [conclude_ok_iff]
    simp [exitCodes]
  case error err =>
    by_cases hk : err.kind?.isSome
    case neg =>
      rw [conclude_of_no_kind hk]
      simp [Dialogue.run, hk]
    case pos =>
      refine iff_of_true ?_ ⟨fun _ h => Except.error.inj h ▸ hk, by rintro _ ⟨⟩⟩
      by_cases hc : ∃ cause, err = .compile cause
      case pos =>
        obtain ⟨cause, rfl⟩ := hc
        obtain ⟨text, -, hr⟩ := conclude_compile world s cause
        exact ⟨.failure, by simp [exitCodes], by rw [hr]⟩
      case neg => exact ⟨.engineFailure, by simp [exitCodes], conclude_of_kind hk (not_exists.mp hc)⟩

theorem carryOut_ends_iff :
    let found := ((e.query o.criteria o.options).run (index v.connection world) s).outcome
    (∃ code ∈ exitCodes, ((carryOut v e o).run world s).outcome = .ok code) ↔
      v.Announced ∧ (∀ err, found = .error err → err.kind?.isSome) ∧ ∀ r, found = .ok r → r.Presentable := by
  intro found
  by_cases h : v.Announced
  case pos =>
    obtain ⟨notes, hr⟩ := carryOut_of_announced e o world s h
    rw [hr, and_iff_right h]
    exact conclude_ends_iff
  case neg =>
    obtain ⟨cause, hr⟩ := carryOut_of_not_announced e o world s h
    rw [hr]
    refine iff_of_false ?_ fun hn => h hn.left
    rintro ⟨_, _, ⟨⟩⟩

def served (text : String) (w : Unit) : (n : Need) → Except Error n.Supply × Unit
  | .content _       => (.ok none, w)
  | .presence _      => (.ok false, w)
  | .makeDirectory _ => (.ok (), w)
  | .write _ _       => (.ok (), w)
  | .confirmation _  => (.ok none, w)
  | .reply _         => (.ok (.body text), w)

def quietly : Invocation where
  surroundings := { places := { home := [], directory := [] }, today := ⟨2024, 3, 31, by decide⟩ }

end CommandLine
end CatalogSearch
