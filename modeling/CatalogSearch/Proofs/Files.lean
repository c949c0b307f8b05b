import CatalogSearch.Files.Tree

namespace CatalogSearch

structure Path.Fits (p : Path) : Prop where
  step_le : ∀ step ∈ p, step.utf8ByteSize ≤ FileTree.stepLimit
  text_le : p.text.utf8ByteSize ≤ FileTree.pathLimit

theorem Path.Fits.above {p q : Path} (h : p.Fits) (hq : q <+: p) : q.Fits where
  step_le := fun _ hs => h.step_le _ (hq.subset hs)
  text_le := Nat.le_trans (utf8ByteSize_text_le hq) h.text_le

theorem Path.not_prefix_parent {p : Path} (h : p ≠ []) : ¬ p <+: p.parent := by
  intro hp
  have hl := hp.length_le
  have hn := List.length_pos_iff.mpr h
  simp only [parent, List.length_dropLast] at hl
  omega

namespace FileTree

def Reaches (t : FileTree) (p : Path) : Prop :=
  ∀ d, d <+: p → d ≠ [] → t.node? d = some .directory

def Clear (t : FileTree) (p : Path) : Prop :=
  ∀ d content, d <+: p → d ≠ [] → t.node? d ≠ some (.file content)

structure Free (t : FileTree) (p : Path) : Prop where
  named : p ≠ []
  fits  : p.Fits
  way   : t.Clear p.parent
  place : t.node? p ≠ some .directory

variable {t : FileTree} {p : Path}

theorem Clear.above (h : t.Clear p) (hq : q <+: p) : t.Clear q :=
  fun d content hd => h d content (hd.trans hq)

theorem step_prefix {directory : Path} : directory ++ [step] <+: directory ++ step :: steps :=
  ⟨steps, List.append_cons .. |>.symm⟩

-- Going along directories, only the last step can lead to something else.
theorem walk_eq (hs : ∀ step ∈ steps, step.utf8ByteSize ≤ stepLimit) (hn : steps ≠ [])
    (h : t.Reaches (directory ++ steps.dropLast)) :
    t.walk whole directory steps = .ok (t.node? (directory ++ steps)) := by
  induction steps generalizing directory
  case nil => contradiction
  case cons hd tl hi =>
    have ⟨hstep, htl⟩ := List.forall_mem_cons.mp hs
    simp only [walk, if_neg (Nat.not_lt.mpr hstep)]
    cases tl
    case nil =>
      cases t.node? (directory ++ [hd])
      case none      => rfl
      case some node => cases node <;> rfl
    case cons hd' tl =>
      have h : t.Reaches (directory ++ hd :: (hd' :: tl).dropLast) := h
      simp only [h _ step_prefix (by simp)]
      have hw := hi htl (by simp) (List.append_cons .. ▸ h)
      rwa [← List.append_cons] at hw

theorem walk_clear (hs : ∀ step ∈ steps, step.utf8ByteSize ≤ stepLimit) (h : t.Clear (directory ++ steps)) :
    ∃ place, t.walk whole directory steps = .ok place ∧ ∀ content, place ≠ some (.file content) := by
  induction steps generalizing directory
  case nil => exact ⟨_, rfl, nofun⟩
  case cons hd tl hi =>
    have ⟨hstep, htl⟩ := List.forall_mem_cons.mp hs
    have hf := fun content => h _ content step_prefix (by simp)
    simp only [walk, if_neg (Nat.not_lt.mpr hstep)]
    cases hn : t.node? (directory ++ [hd])
    case none => exact ⟨none, rfl, nofun⟩
    case some node =>
      cases node
      case file content => exact absurd hn (hf content)
      case directory    => exact hi htl (List.append_cons .. ▸ h)

theorem locate_eq (hf : p.Fits) (hn : p ≠ []) (h : t.Reaches p.parent) : t.locate p = .ok (t.node? p) := by
  rw [locate, if_neg (Nat.not_lt.mpr hf.text_le)]
  exact walk_eq hf.step_le hn h

theorem locate_clear (hf : p.Fits) (h : t.Clear p) :
    ∃ place, t.locate p = .ok place ∧ ∀ content, place ≠ some (.file content) := by
  rw [locate, if_neg (Nat.not_lt.mpr hf.text_le)]
  exact walk_clear hf.step_le h

structure Made (t made : FileTree) (p : Path) : Prop where
  reached : made.Reaches p
  aside   : ∀ q, ¬ q <+: p → made.node? q = t.node? q

theorem exists_makeStep {directory : Path} (hf : Path.Fits (directory ++ [step])) (hr : t.Reaches directory)
    (hc : t.Clear (directory ++ [step])) :
    ∃ made, t.makeStep (directory ++ [step]) = .ok made ∧ t.Made made (directory ++ [step]) := by
  have hl := locate_eq hf (by simp) (by rwa [Path.parent, List.dropLast_concat])
  cases hn : t.node? (directory ++ [step])
  case none =>
    refine ⟨t.put (directory ++ [step]) .directory, by rw [makeStep, hl, hn]; rfl, ?reached, ?aside⟩
    case reached =>
      intro d hd hne
      by_cases hq : d = directory ++ [step]
      case pos => rw [hq, node?_put_self]
      case neg => exact t.node?_put_above hd hq fun content => hc d content hd hne
    case aside => exact fun q hq => t.node?_put_aside hq
  case some node =>
    cases node
    case file content => exact absurd hn (hc _ content List.prefix_rfl (by simp))
    case directory =>
      refine ⟨t, by rw [makeStep, hl, hn]; rfl, ?reached, fun _ _ => rfl⟩
      intro d hd hne
      rcases List.prefix_concat_iff.mp hd with rfl | hd
      case inl => exact hn
      case inr => exact hr d hd hne

-- All steps: by induction on them, from the directories that are already there.
theorem exists_makeSteps {directory : Path} (hf : Path.Fits (directory ++ steps)) (hr : t.Reaches directory)
    (hc : t.Clear (directory ++ steps)) :
    ∃ made, t.makeSteps directory steps = .ok made ∧ t.Made made (directory ++ steps) := by
  induction steps generalizing directory t
  case nil => exact ⟨t, rfl, by simpa using hr, fun _ _ => rfl⟩
  case cons hd tl hi =>
    have hp : directory ++ [hd] <+: directory ++ hd :: tl := step_prefix
    have ⟨first, he, hfirst⟩ := exists_makeStep (hf.above hp) hr (hc.above hp)
    have hfc : first.Clear (directory ++ hd :: tl) := by
      intro d content hpre hne
      by_cases hq : d <+: directory ++ [hd]
      case pos => simp [hfirst.reached d hq hne]
      case neg => exact hfirst.aside d hq ▸ hc d content hpre hne
    have ⟨made, hm, hmade⟩ := hi (List.append_cons .. ▸ hf) hfirst.reached (List.append_cons .. ▸ hfc)
    rw [← List.append_cons] at hmade
    refine ⟨made, by rw [makeSteps, he]; exact hm, hmade.reached, fun q hq => ?_⟩
    rw [hmade.aside q hq, hfirst.aside q fun h => hq (h.trans hp)]

theorem exists_makeDirectory (hf : p.Fits) (hc : t.Clear p) :
    ∃ made, t.makeDirectory p = .ok made ∧ t.Made made p := by
  have ⟨place, hl, hp⟩ := locate_clear hf hc
  have hr : t.Reaches [] := fun d hd hn => absurd (List.prefix_nil.mp hd) hn
  have ⟨made, hm, h⟩ := exists_makeSteps (List.nil_append p ▸ hf) hr hc
  refine ⟨made, ?_, h⟩
  rw [makeDirectory, hl]
  cases place
  case none      => exact hm
  case some node =>
    cases node
    case file content => exact absurd rfl (hp content)
    case directory    => exact hm

structure Ready (t : FileTree) (p : Path) : Prop where
  named : p ≠ []
  fits  : p.Fits
  way   : t.Reaches p.parent
  place : t.node? p ≠ some .directory

theorem Free.exists_ready (h : t.Free p) : ∃ made, t.makeDirectory p.parent = .ok made ∧ made.Ready p := by
  have ⟨made, hm, hmade⟩ := exists_makeDirectory (h.fits.above (List.dropLast_prefix p)) h.way
  have hp := hmade.aside p (Path.not_prefix_parent h.named)
  exact ⟨made, hm, h.named, h.fits, hmade.reached, hp ▸ h.place⟩

theorem Ready.checkWritable (h : t.Ready p) : t.checkWritable p = .ok () := by
  have hp := h.place
  rw [FileTree.checkWritable, locate_eq h.fits h.named h.way]
  cases hn : t.node? p
  case none => rfl
  case some node =>
    cases node
    case file      => rfl
    case directory => exact absurd hn hp

theorem Ready.write (h : t.Ready p) : t.write p s = .ok (t.put p (.file (.text s))) := by
  rw [FileTree.write, h.checkWritable]
  rfl

theorem Ready.find_put (h : t.Ready p) : (t.put p (.file content)).find p = .ok (some content) := by
  have hr : (t.put p (.file content)).Reaches p.parent := by
    intro d hd hn
    have hq : d ≠ p := fun hq => Path.not_prefix_parent h.named (hq ▸ hd)
    exact t.node?_put_above (hd.trans (List.dropLast_prefix p)) hq (by simp [h.way d hd hn])
  have hl := locate_eq h.fits h.named hr
  rw [node?_put_self] at hl
  rw [find, contains, hl]
  simp only [bind, Except.bind, Option.isSome, if_true, read, hl]
  rfl

end FileTree
end CatalogSearch
