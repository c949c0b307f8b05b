import CatalogSearch.CommandLine.Program
import CatalogSearch.Proofs.Outcome

namespace CatalogSearch.CommandLine

-- The arguments of a dry run are those of another search with the flag.
structure Rehearses (dry real : Given SearchOption) : Prop where
  flag    : dry.has .dryRun
  options : real.options = dry.options.filter (·.1 ≠ .dryRun)
  rest    : real.rest = dry.rest

theorem eraseDups_filter [DecidableEq κ] (p : κ → Bool) (xs : List κ) :
    (xs.filter p).eraseDups = xs.eraseDups.filter p := by
  match xs with
  | []      => rfl
  | x :: xs =>
    have hi := eraseDups_filter p (xs.filter (! · == x))
    rw [List.eraseDups_cons]
    by_cases hx : p x
    case pos =>
      rw [List.filter_cons_of_pos hx, List.filter_cons_of_pos hx, List.eraseDups_cons, ← hi, List.filter_comm]
    case neg =>
      have hs : (xs.filter (! · == x)).filter p = xs.filter p := by
        rw [List.filter_filter]
        refine List.filter_congr fun y _ => ?_
        by_cases hy : y = x
        case pos => simp [hy, hx]
        case neg => simp [hy]
      rw [List.filter_cons_of_neg hx, List.filter_cons_of_neg hx, ← hi, hs]
termination_by xs.length
decreasing_by exact Nat.lt_succ_of_le (List.length_filter_le ..)

theorem forM_filter {f : κ → Except ε PUnit} {p : κ → Bool} {xs : List κ} (h : ∀ x, ¬p x → f x = .ok ()) :
    (xs.filter p).forM f = xs.forM f := by
  induction xs
  case nil => rfl
  case cons x xs hi =>
    change _ = f x >>= fun _ => xs.forM f
    by_cases hx : p x
    case pos =>
      rw [List.filter_cons_of_pos hx, ← hi]
      rfl
    case neg =>
      rw [List.filter_cons_of_neg hx, hi, h x hx]
      rfl

namespace Rehearses

variable {dry real : Given SearchOption}

theorem values (h : Rehearses dry real) (hk : key ≠ .dryRun) : real.values key = dry.values key := by
  rw [Given.values, Given.values, h.options, List.filterMap_filter]
  refine List.filterMap_congr fun (k, value) _ => ?_
  by_cases hd : k = .dryRun
  case pos => simp [hd, hk.symm]
  case neg => simp [hd]

theorem value? (h : Rehearses dry real) (hk : key ≠ .dryRun) : real.value? key = dry.value? key := by
  rw [Given.value?, Given.value?, h.values hk]

theorem keys (h : Rehearses dry real) : real.keys = dry.keys.filter (· ≠ .dryRun) := by
  rw [Given.keys, Given.keys, h.options, ← eraseDups_filter, List.filter_map]
  rfl

theorem has (h : Rehearses dry real) (hk : key ≠ .dryRun) : real.has key = dry.has key := by
  rw [Given.has, Given.has, h.options, List.any_filter]
  refine congrArg (List.any _) (funext fun (k, _) => ?_)
  by_cases hd : k = .dryRun
  case pos => simp [hd, hk.symm]
  case neg => simp [hd]

theorem has_dryRun (h : Rehearses dry real) : real.has .dryRun = false := by
  rw [Given.has, h.options, List.any_filter]
  simp

theorem rowsOf (h : Rehearses dry real) : SearchArguments.rowsOf real = SearchArguments.rowsOf dry := by
  rw [SearchArguments.rowsOf, SearchArguments.rowsOf, h.value? (by decide)]

theorem pageOf (h : Rehearses dry real) : SearchArguments.pageOf real = SearchArguments.pageOf dry := by
  rw [SearchArguments.pageOf, SearchArguments.pageOf, h.value? (by decide)]

theorem checkNumbers (h : Rehearses dry real) :
    SearchArguments.checkNumbers real = SearchArguments.checkNumbers dry := by
  rw [SearchArguments.checkNumbers, SearchArguments.checkNumbers, h.rowsOf, h.pageOf, h.keys]
  refine forM_filter fun key hk => ?_
  obtain rfl : key = .dryRun := by simpa using hk
  rfl

theorem ofGiven (h : Rehearses dry real) : ∃ outcome : Except UsageError SearchArguments,
    SearchArguments.ofGiven dry = outcome.map (fun a => { a with dryRun := true }) ∧
    SearchArguments.ofGiven real = outcome.map (fun a => { a with dryRun := false }) := by
  refine ⟨SearchArguments.ofGiven real, ?_⟩
  rw [SearchArguments.ofGiven, SearchArguments.ofGiven, h.checkNumbers, h.rowsOf, h.pageOf, h.rest,
    h.values (by decide), h.values (by decide), h.values (by decide), h.values (by decide),
    h.value? (by decide), h.has_dryRun, h.flag]
  cases SearchArguments.checkNumbers dry
  case error => exact ⟨rfl, rfl⟩
  case ok =>
    cases hx : (dry.rest.drop 1).isEmpty
    case false => simp only [hx]; exact ⟨rfl, rfl⟩
    case true =>
      simp only [hx]
      cases SearchArguments.rowsOf dry
      case error => exact ⟨rfl, rfl⟩
      case ok    => cases SearchArguments.pageOf dry <;> exact ⟨rfl, rfl⟩

end Rehearses

theorem exists_rehearsal {real : Given SearchOption} (hn : real.has .dryRun = false)
    (hr : OptionForm.read SearchArguments.forms true arguments = .ok real) :
    ∃ dry, OptionForm.read SearchArguments.forms true ("--dry-run" :: arguments) = .ok dry ∧
      Rehearses dry real := by
  refine ⟨{ real with options := (.dryRun, none) :: real.options }, ?_, rfl, ?_, rfl⟩
  case refine_1 =>
    have ha : OptionForm.readArgument SearchArguments.forms "--dry-run" =
        .ok { options := [(.dryRun, none)] } := rfl
    rw [OptionForm.read, OptionForm.readAll, if_neg (by decide), if_pos (by decide), ha]
    change (OptionForm.read SearchArguments.forms true arguments >>= _) = _
    rw [hr]
    rfl
  case refine_2 =>
    have hk : ∀ option ∈ real.options, option.1 ≠ .dryRun := by simpa [Given.has] using hn
    rw [List.filter_cons_of_neg (by simp), List.filter_eq_self.mpr (by simpa using hk)]

end CatalogSearch.CommandLine
