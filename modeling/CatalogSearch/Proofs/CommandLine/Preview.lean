import CatalogSearch.Proofs.CommandLine.Rehearsal
import CatalogSearch.Proofs.CommandLine.Search
import CatalogSearch.Proofs.Console.Markup
import CatalogSearch.Proofs.Engine.Endings

namespace CatalogSearch

namespace CommandLine

open Session

section

variable {v : Invocation} {e : Engine} {o : SearchOrder}
  {world : σ → (n : Need) → Except Error n.Supply × σ} {s : σ}

theorem query_asked {partner : σ → Call → Except Error Value × σ} {r : Request}
    (hr : e.request criteria options options.selection = .ok r) :
    ∃ calls, ((e.query criteria options).run partner s).asked = Engine.callOf r :: calls := by
  have hm : ((e.main criteria options).run partner s).asked = [Engine.callOf r] :=
    (Engine.main_amountsTo hr).asked
  rw [Engine.query, Dialogue.run_bind, Transcript.andThen]
  split
  case h_1 => exact ⟨[], hm⟩
  case h_2 => exact ⟨_, congrArg (· ++ _) hm⟩

def Sends (v : Invocation) (t : Transcript σ Output Need ExitCode) (body : Value) : Prop :=
  ∃ r, Http.request v.connection (.select body) = .ok r ∧ t.asked.head? = some (.reply r)

theorem sends_iff {t : Transcript σ Output Need ExitCode}
    (h : t.asked = .reply ⟨"POST", Http.url v.url ["_search"], body, v.settings.timeout⟩ :: needs) :
    Sends v t body' ↔ body' = body := by
  rw [Sends, h]
  constructor
  case mp  => rintro ⟨_, ⟨⟩, ⟨⟩⟩; rfl
  case mpr => rintro rfl; exact ⟨_, rfl, rfl⟩

variable [Console]

def Reports (t : Transcript σ Output Need ExitCode) (message : String) : Prop :=
  t.outcome = .ok .failure ∧ ∃ text,
    Console.read (complaint message) = .ok text ∧ t.notes.getLast? = some (.line .err text)

def Shows (t : Transcript σ Output Need ExitCode) (body : Value) : Prop :=
  .document body ∈ t.notes

-- A dry run that shows what another session does.
structure Foretells (v : Invocation) (shown done : Transcript σ Output Need ExitCode) : Prop where
  silent  : shown.asked = []
  shows   : ∀ body, Shows shown body ↔ Sends v done body
  reports : ∀ message, Reports shown message ↔ Reports done message
  unsent  : ∀ message, Reports done message → done.asked = []

structure Idle (t : Transcript σ Output Need ExitCode) : Prop where
  asked   : t.asked = []
  shows   : ∀ body, ¬Shows t body
  reports : ∀ message, ¬Reports t message

section

variable {shown done : Transcript σ Output Need ExitCode}

theorem Idle.foretells (h : Idle shown) (ha : done.asked = []) (hn : ∀ message, ¬Reports done message) :
    Foretells v shown done where
  silent  := h.asked
  shows   := fun body => iff_of_false (h.shows body) <| by rintro ⟨r, -, hr⟩; simp [ha] at hr
  reports := fun message => iff_of_false (h.reports message) (hn message)
  unsent  := fun _ _ => ha

-- What a dry run comes to beside another session. This sends nothing if it cannot announce its search.
structure Outlook (v : Invocation) (shown done : Transcript σ Output Need ExitCode) : Prop where
  silent   : shown.asked = []
  foretold : v.Announced → Foretells v shown done
  barred   : ¬v.Announced → done.asked = [] ∧ ∀ message, ¬Reports done message

theorem Outlook.foretells_iff (h : Outlook v shown done) :
    Foretells v shown done ↔ v.Announced ∨ Idle shown := by
  constructor
  case mp =>
    intro hf
    refine or_iff_not_imp_left.mpr fun hv => ?_
    obtain ⟨ha, hn⟩ := h.barred hv
    refine ⟨h.silent, fun body hs => ?_, fun message hr => hn message ((hf.reports message).mp hr)⟩
    obtain ⟨r, -, hr⟩ := (hf.shows body).mp hs
    simp [ha] at hr
  case mpr =>
    intro hi
    by_cases hv : v.Announced
    case pos => exact h.foretold hv
    case neg =>
      obtain ⟨ha, hn⟩ := h.barred hv
      exact (hi.resolve_left hv).foretells ha hn

theorem Idle.outlook (h : Idle shown) (ha : done.asked = []) (hn : ∀ message, ¬Reports done message) :
    Outlook v shown done where
  silent   := h.asked
  foretold := fun _ => h.foretells ha hn
  barred   := fun _ => ⟨ha, hn⟩

theorem Idle.twice (h : Idle shown) : Outlook v shown shown :=
  h.outlook h.asked h.reports

end

theorem not_reports_of_error {t : Transcript σ Output Need ExitCode} (h : t.outcome = .error err)
    (message : String) : ¬Reports t message :=
  fun hr => nomatch h.symm.trans hr.left

theorem idle_done (err : Error) : Idle ((.done (.error err) : Session ExitCode).run world s) where
  asked   := rfl
  shows   := fun _ => List.not_mem_nil
  reports := not_reports_of_error rfl

theorem idle_sayRaw {code : ExitCode} (hc : code ≠ .failure) (channel : Channel) (text : String) :
    Idle ((do sayRaw channel text; return code : Session ExitCode).run world s) where
  asked   := rfl
  shows   := fun _ h => nomatch List.mem_singleton.mp h
  reports := fun _ h => hc (Except.ok.inj h.left)

theorem idle_showHelp (command : Option Command) : Idle ((showHelp command).run world s) :=
  idle_sayRaw (show ExitCode.success ≠ .failure by decide) ..

theorem idle_refuse (command : Option Command) (e : CallError) : Idle ((refuse command e).run world s) := by
  cases e
  case usage cause  => exact idle_sayRaw (by decide) ..
  case misuse cause => exact idle_done _

theorem preview_of_ok {r : Request} (hr : e.request o.criteria o.options o.options.selection = .ok r) :
    (preview e o).run world s =
      { outcome := .ok .success, asked := [], notes := [.document r.toValue], state := s } := by
  rw [preview, hr]
  rfl

theorem preview_of_compile
    (hr : e.request o.criteria o.options o.options.selection = .error (.compile cause)) :
    preview e o = conclude (.error (.compile cause)) := by
  rw [preview, hr]
  rfl

theorem preview_of_misuse
    (hr : e.request o.criteria o.options o.options.selection = .error (.misuse cause)) :
    preview e o = .done (.error (.misuse cause)) := by
  rw [preview, hr]

section

variable {a : SearchArguments}

theorem search_of_refusal (h : a.order v.surroundings.nesting.json = .error err) :
    search v a = refuse (some .query) err := by
  rw [search, h]

theorem search_of_misuse (ho : a.order v.surroundings.nesting.json = .ok o)
    (he : Engine.ofSettings v.settings o.registry (some v.surroundings.today) = .error cause) :
    search v a = .done (.error (.misuse cause)) := by
  simp only [search, ho, he]
  rfl

theorem search_of_order (ho : a.order v.surroundings.nesting.json = .ok o)
    (he : Engine.ofSettings v.settings o.registry (some v.surroundings.today) = .ok e) :
    search v a = if a.dryRun then preview e o else carryOut v e o := by
  simp only [search, ho, he]
  rfl

end

theorem sends_of_request {r : Request} (ha : v.Announced)
    (hr : e.request o.criteria o.options o.options.selection = .ok r) :
    Sends v ((carryOut v e o).run world s) body ↔ body = r.toValue := by
  obtain ⟨notes, hd⟩ := carryOut_of_announced e o world s ha
  obtain ⟨calls, hq⟩ : ∃ calls, ((e.query o.criteria o.options).run (index v.connection world) s).asked =
      Engine.callOf r :: calls := query_asked hr
  rw [hd, hq]
  exact sends_iff rfl

theorem preview_asked : ((preview e o).run world s).asked = [] := by
  cases hr : e.request o.criteria o.options o.options.selection
  case ok r => rw [preview_of_ok hr]
  case error err =>
    rcases Engine.error_of_request hr with ⟨cause, rfl⟩ | ⟨cause, rfl⟩
    case inl => rw [preview_of_compile hr]; exact (silent_conclude _).asked
    case inr => rw [preview_of_misuse hr]; rfl

theorem foretells_of_misuse (ha : v.Announced)
    (hr : e.request o.criteria o.options o.options.selection = .error (.misuse cause)) :
    Foretells v ((preview e o).run world s) ((carryOut v e o).run world s) := by
  obtain ⟨notes, hd⟩ := carryOut_of_announced e o world s ha
  have ⟨hq, hs, ho⟩ : ((e.query o.criteria o.options).run (index v.connection world) s).AmountsTo [] s
      (.error (.misuse cause)) := Engine.query_amountsTo_of_error hr
  rw [hd, preview_of_misuse hr, hq, hs, ho]
  exact (idle_done _).foretells rfl <| not_reports_of_error rfl

variable [LawfulConsole]

theorem conclude_failure_iff {outcome : Except Error SearchResult} :
    ((conclude outcome).run world s).outcome = .ok .failure ↔ ∃ cause, outcome = .error (.compile cause) := by
  constructor
  case mpr =>
    rintro ⟨cause, rfl⟩
    obtain ⟨text, -, hr⟩ := conclude_compile world s cause
    rw [hr]
  case mp =>
    intro h
    cases outcome
    case ok r => exact absurd (conclude_ok_iff.mp h).right (by decide)
    case error err =>
      by_contra hn
      by_cases hk : err.kind?.isSome
      case pos =>
        have hc : ∀ cause, err ≠ .compile cause := fun cause he => hn ⟨cause, congrArg _ he⟩
        exact absurd ((conclude_of_kind hk hc).symm.trans h) (by decide)
      case neg =>
        rw [conclude_of_no_kind hk] at h
        cases h

theorem foretells_of_request {r : Request} (hw : Replies world) (ha : v.Announced)
    (hr : e.request o.criteria o.options o.options.selection = .ok r) :
    Foretells v ((preview e o).run world s) ((carryOut v e o).run world s) := by
  obtain ⟨notes, hd⟩ := carryOut_of_announced e o world s ha
  have hf : Dialogue.Fails Error.FromIndex
      ((e.query o.criteria o.options).run (index v.connection world) s).outcome :=
    (Engine.endsWell_query hr).run (fun _ _ _ => index_fromIndex hw) s
  have hn : ∀ message, ¬Reports ((carryOut v e o).run world s) message := by
    rintro message ⟨ho, -⟩
    rw [hd] at ho
    obtain ⟨cause, hc⟩ := conclude_failure_iff.mp ho
    cases hf _ hc
  rw [preview_of_ok hr]
  refine ⟨rfl, fun body => ?_, fun message => iff_of_false ?_ (hn message),
    fun message h => absurd h (hn message)⟩
  case refine_1 =>
    refine Iff.trans ?_ (sends_of_request ha hr).symm
    simp [Shows]
  case refine_2 =>
    rintro ⟨ho, -⟩
    cases ho

theorem foretells_of_compile (ha : v.Announced)
    (hr : e.request o.criteria o.options o.options.selection = .error (.compile cause)) :
    Foretells v ((preview e o).run world s) ((carryOut v e o).run world s) := by
  obtain ⟨notes, hd⟩ := carryOut_of_announced e o world s ha
  have ⟨hq, hs, ho⟩ : ((e.query o.criteria o.options).run (index v.connection world) s).AmountsTo [] s
      (.error (.compile cause)) := Engine.query_amountsTo_of_error hr
  obtain ⟨text, -, hc⟩ := conclude_compile world s cause
  rw [hd, preview_of_compile hr, hq, hs, ho, hc]
  refine ⟨rfl, fun body => ?_, fun message => ?_, fun _ _ => rfl⟩
  case refine_1 => simp [Shows, Sends]
  case refine_2 => simp [Reports]

theorem outlook_of_order (hw : Replies world) :
    Outlook v ((preview e o).run world s) ((carryOut v e o).run world s) where
  silent   := preview_asked
  foretold := by
    intro ha
    cases hr : e.request o.criteria o.options o.options.selection
    case ok r => exact foretells_of_request hw ha hr
    case error err =>
      rcases Engine.error_of_request hr with ⟨cause, rfl⟩ | ⟨cause, rfl⟩
      case inl => exact foretells_of_compile ha hr
      case inr => exact foretells_of_misuse ha hr
  barred   := by
    intro ha
    obtain ⟨cause, hd⟩ := carryOut_of_not_announced e o world s ha
    rw [hd]
    exact ⟨rfl, not_reports_of_error rfl⟩

theorem outlook_of_arguments (hw : Replies world) (a : SearchArguments) :
    Outlook v ((search v { a with dryRun := true }).run world s)
      ((search v { a with dryRun := false }).run world s) := by
  have horder (dryRun : Bool) (nesting : Nat) : { a with dryRun }.order nesting = a.order nesting := rfl
  cases ho : a.order v.surroundings.nesting.json
  case error err =>
    rw [search_of_refusal ((horder ..).trans ho), search_of_refusal ((horder ..).trans ho)]
    exact (idle_refuse ..).twice
  case ok o =>
    cases he : Engine.ofSettings v.settings o.registry (some v.surroundings.today)
    case error cause =>
      rw [search_of_misuse ((horder ..).trans ho) he, search_of_misuse ((horder ..).trans ho) he]
      exact (idle_done _).twice
    case ok e =>
      rw [search_of_order ((horder ..).trans ho) he, search_of_order ((horder ..).trans ho) he]
      exact outlook_of_order hw

theorem outlook_of_lines {dry real : Given SearchOption}
    (hd : OptionForm.read SearchArguments.forms true dryLine = .ok dry)
    (hr : OptionForm.read SearchArguments.forms true realLine = .ok real) (h : Rehearses dry real)
    (hw : Replies world) :
    Outlook v ((runCommand v .query dryLine).run world s) ((runCommand v .query realLine).run world s) := by
  obtain ⟨outcome, ho, ho'⟩ := h.ofGiven
  have hh : real.has .help = dry.has .help := h.has (by decide)
  simp only [runCommand, withOptions, hd, hr, ho, ho', hh]
  split
  case isTrue => exact (idle_showHelp _).twice
  case isFalse =>
    cases outcome
    case error err => exact (idle_refuse ..).twice
    case ok a      => exact outlook_of_arguments hw a

-- A dry run sends nothing. It shows the body that the same search would first send, and it reports what this
-- search would report of its criteria before it sends anything, unless the search cannot be announced: then
-- it does neither, and the dry run still does.
theorem foretells_iff_announced {dry real : Given SearchOption}
    (hd : OptionForm.read SearchArguments.forms true dryLine = .ok dry)
    (hr : OptionForm.read SearchArguments.forms true realLine = .ok real) (h : Rehearses dry real)
    (hw : Replies world) (v : Invocation) (s : σ) :
    let shown := (runCommand v .query dryLine).run world s
    let done := (runCommand v .query realLine).run world s
    shown.asked = [] ∧
    (Foretells v shown done ↔ v.Announced ∨ Idle shown) ∧
    (¬v.Announced → done.asked = [] ∧ ∀ message, ¬Reports done message) :=
  have ho := outlook_of_lines hd hr h hw
  ⟨ho.silent, ho.foretells_iff, ho.barred⟩

end

theorem foretells_announced_page :
    let v := { quietly with verbose := true }
    let shown := (runCommand v .query ["--dry-run", "--rows", "5"]).run (served "\x7b\x7d") ()
    let done := (runCommand v .query ["--rows", "5"]).run (served "\x7b\x7d") ()
    Foretells v shown done ∧ ∃ body, Sends v done body := by
  intro v shown done
  have hw : Replies (served "\x7b\x7d") := fun _ _ => ⟨.body "\x7b\x7d", rfl⟩
  have ha : v.Announced := Invocation.announced_of_bracketless (by decide)
  have hr : OptionForm.read SearchArguments.forms true ["--rows", "5"] = .ok ⟨[(.rows, "5")], []⟩ := rfl
  obtain ⟨dry, hd, h⟩ := exists_rehearsal rfl hr
  obtain ⟨-, hf, -⟩ := foretells_iff_announced hd hr h hw v ()
  have hf : Foretells v shown done := hf.mpr (.inl ha)
  exact ⟨hf, _, (hf.shows _).mp (.head _)⟩

theorem not_foretells_bracketed_address :
    ¬∀ (v : Invocation) (dryLine realLine : List String) (dry real : Given SearchOption),
      OptionForm.read SearchArguments.forms true dryLine = .ok dry →
      OptionForm.read SearchArguments.forms true realLine = .ok real → Rehearses dry real →
        Foretells v ((runCommand v .query dryLine).run (served "\x7b\x7d") ())
          ((runCommand v .query realLine).run (served "\x7b\x7d") ()) := by
  intro h
  let v := { quietly with verbose := true, settings := { url := .str "http://es/[/products]" } }
  have hv : ¬v.Announced := by
    intro ha
    obtain ⟨text, ht⟩ := ha rfl
    have hn : (Console.read (Console.styled "info" ("Querying " ++ v.url))).toBool = false := by decide +kernel
    rw [ht] at hn
    cases hn
  have hd : OptionForm.read SearchArguments.forms true ["--dry-run"] = .ok ⟨[(.dryRun, none)], []⟩ := rfl
  have hr : OptionForm.read SearchArguments.forms true [] = .ok ⟨[], []⟩ := rfl
  have hg : Rehearses ⟨[(.dryRun, none)], []⟩ ⟨[], []⟩ := ⟨rfl, rfl, rfl⟩
  have hw : Replies (served "\x7b\x7d") := fun _ _ => ⟨.body "\x7b\x7d", rfl⟩
  obtain ⟨r, -, hs⟩ := ((h v _ _ _ _ hd hr hg).shows _).mp (.head _)
  rw [((outlook_of_lines hd hr hg hw).barred hv).left] at hs
  cases hs

end CommandLine
end CatalogSearch
