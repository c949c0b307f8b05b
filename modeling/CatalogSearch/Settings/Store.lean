import CatalogSearch.Files.Tree
import CatalogSearch.Settings.Parse
import CatalogSearch.Toml.Printer
import CatalogSearch.Toml.Reader

namespace CatalogSearch.Settings

def defaultPath (home : Path) : Path :=
  home ++ [".config", "facet-search", "config.toml"]

def missingWarning (path : Path) : String :=
  "No config file found at " ++ path.text ++
    ". Using defaults. Create config with: facet-search init-config"

def ofContent (path : Path) (nesting : Nat) : Option Content → Except Error (Settings × List String)
  | some content => do
    let some text := content.text? | throw <| .misuse .notText
    let data ← (Toml.read text nesting).mapError fun fault =>
      (fault.misuse?.map Error.misuse).getD (.settings <| .unreadable path.text)
    let settings ← parse data path.text
    return (settings, ← settings.validate)
  | none => do
    let settings : Settings := {}
    return (settings, missingWarning path :: (← settings.validate))

def load (files : FileTree) (path : Path) (nesting : Nat := ({} : Nesting).toml) :
    Except Error (Settings × List String) := do
  ofContent path nesting (← files.find path)

def document (s : Settings) : Except Misuse Value := do
  let d : Settings := {}
  let fields ← s.fullTextFields.items
  let enabled := if s.recencyEnabled.holds then [("enabled", .bool true)] else []
  let field := if s.recencyField.same d.recencyField then [] else [("field", s.recencyField)]
  let tiers ←
    if s.recencyTiers.same d.recencyTiers then pure []
    else do
      let rows ← (← s.recencyTiers.items).mapM fun tier => return .list (← tier.items)
      pure [("tiers", Value.list rows)]
  let recency := enabled ++ field ++ tiers
  return .object <| [
    ("elasticsearch", .object [("url", s.url), ("timeout", s.timeout)]),
    ("search", .object [
      ("full_text_fields", .list fields),
      ("phrase_field", s.phraseField),
      ("sort_by_score_first", s.sortByScoreFirst),
      ("sibling_workers", s.siblingWorkers)]),
    ("display", .object [("colored_output", s.coloredOutput)])] ++
    if recency.isEmpty then [] else [("recency_boost", .object recency)]

def save (s : Settings) (files : FileTree) (path : Path) : Except Error FileTree := do
  let files ← files.makeDirectory path.parent
  let document ← s.document
  files.checkWritable path
  let text ← Toml.text document
  files.write path text

end CatalogSearch.Settings
