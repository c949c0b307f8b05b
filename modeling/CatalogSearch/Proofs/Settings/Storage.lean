import CatalogSearch.Proofs.Files
import CatalogSearch.Proofs.Settings.Document

namespace CatalogSearch.Settings

variable {s : Settings}

theorem validate_settled (hv : v.holds = s.recencyTiers.holds) :
    ({ s with recencyTiers := v, path := origin } : Settings).validate = s.validate := by
  simp only [validate, hv]

variable {files : FileTree} {path : Path} {nesting : Nat}

open Outcome in
theorem exists_save (hp : files.Free path) (hd : s.document = .ok data) (ht : Toml.text data = .ok text) :
    ∃ saved, s.save files path = .ok saved ∧ saved.find path = .ok (some (.text text)) := by
  have ⟨made, hm, hr⟩ := hp.exists_ready
  refine ⟨_, ?_, hr.find_put⟩
  refine bind_eq_ok_iff.mpr ⟨made, by rw [hm]; rfl, ?_⟩
  refine bind_eq_ok_iff.mpr ⟨data, by rw [hd]; rfl, ?_⟩
  refine bind_eq_ok_iff.mpr ⟨(), by rw [hr.checkWritable]; rfl, ?_⟩
  refine bind_eq_ok_iff.mpr ⟨text, by rw [ht]; rfl, ?_⟩
  rw [hr.write]
  rfl

open Outcome in
theorem load_of_find (hf : files.find path = .ok (some (.text text))) (ht : Toml.read text nesting = .ok data)
    (hp : parse data path.text = .ok r) (hv : r.validate = .ok warnings) :
    load files path nesting = .ok (r, warnings) := by
  refine bind_eq_ok_iff.mpr ⟨some (.text text), by rw [hf]; rfl, ?_⟩
  refine bind_eq_ok_iff.mpr ⟨data, by rw [ht]; rfl, ?_⟩
  refine bind_eq_ok_iff.mpr ⟨r, hp, ?_⟩
  exact bind_eq_ok_iff.mpr ⟨warnings, hv, rfl⟩

-- Where TOML keeps the document of settings, a file keeps them: whatever was saved is loaded again, with the
-- warnings that it gave rise to. All settings are the same, and only tiers may be written as other numbers.
-- TOML does not keep all documents: there is a limit to the digits of the integers that it is read with.
theorem saved_loads_back (ht : s.WellTyped) (hv : s.validate = .ok warnings) (hp : files.Free path)
    (hr : ∀ data, s.document = .ok data → Toml.ReadsBack nesting data) :
    ∃ saved loaded, s.save files path = .ok saved ∧ load saved path nesting = .ok (loaded, warnings) ∧
      loaded = { s with recencyTiers := loaded.recencyTiers, path := some path.text } ∧
      s.recencyTiers.same loaded.recencyTiers := by
  have ⟨text, hw⟩ := ht.expressible.exists_text
  have ⟨saved, hs, hf⟩ := exists_save hp ht.document_eq hw
  have ⟨tiers, hts, htier⟩ := ht.recencyTiers
  have hsame : s.recencyTiers.same (settled s.recencyTiers Recency.defaultTiers) :=
    same_settled <| hts ▸ Value.same_list fun tier hm => (htier tier hm).same_self
  refine ⟨saved, _, hs, load_of_find hf (hr _ ht.document_eq text hw) ht.parse_document ?_, rfl, hsame⟩
  rw [validate_settled, hv]
  rw [hts] at hsame ⊢
  exact Value.holds_of_same_list hsame

def untiered : Settings where
  url            := .str "http://es"
  fullTextFields := .list []
  recencyField   := .str "updated_at"
  recencyTiers   := .list []

def untieredText : String :=
  "[elasticsearch]\nurl = \"http://es\"\ntimeout = 30.0\n\n" ++
  "[search]\nfull_text_fields = []\nphrase_field = \"name\"\n" ++
  "sort_by_score_first = false\nsibling_workers = 1\n\n" ++
  "[display]\ncolored_output = true\n\n" ++
  "[recency_boost]\nfield = \"updated_at\"\ntiers = []\n"

theorem untiered_wellTyped : untiered.WellTyped where
  url              := ⟨_, rfl⟩
  timeout          := ⟨_, rfl⟩
  fullTextFields   := ⟨[], rfl⟩
  phraseField      := ⟨_, rfl⟩
  sortByScoreFirst := ⟨_, rfl⟩
  siblingWorkers   := ⟨_, rfl⟩
  recencyEnabled   := ⟨_, rfl⟩
  recencyField     := ⟨_, rfl⟩
  recencyTiers     := ⟨[], rfl, List.forall_mem_nil _⟩
  coloredOutput    := ⟨_, rfl⟩

theorem untiered_free : FileTree.Free {} ["etc", "search.toml"] where
  named := by simp
  fits  := ⟨by decide +kernel, by decide +kernel⟩
  way   := fun d content hd hn hf => by simp [FileTree.node?, hn] at hf
  place := by simp [FileTree.node?]

theorem untiered_readsBack (hd : untiered.document = .ok data) : Toml.ReadsBack ({} : Nesting).toml data := by
  intro text ht
  cases (show untiered.document = .ok (.object untiered.parts) from rfl).symm.trans hd
  have hw : Toml.text (.object untiered.parts) = .ok untieredText := by decide +kernel
  cases hw.symm.trans ht
  decide +kernel

theorem saved_loads_back_untiered :
    ∃ saved loaded, untiered.save {} ["etc", "search.toml"] = .ok saved ∧
      load saved ["etc", "search.toml"] =
        .ok (loaded, ["search.full_text_fields is empty; FullText criteria will match nothing"]) ∧
      loaded = { untiered with recencyTiers := loaded.recencyTiers, path := some "/etc/search.toml" } ∧
      untiered.recencyTiers.same loaded.recencyTiers :=
  saved_loads_back untiered_wellTyped rfl untiered_free fun _ => untiered_readsBack

end CatalogSearch.Settings
