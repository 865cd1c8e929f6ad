import Mathlib.Data.List.Sort
import ProposalLint.Proofs.Attempts
import ProposalLint.Proofs.Discovery.Order

namespace ProposalLint

open ProposalLint.Path

-- A pattern stands for a path as it is spelled, without a dot in front, or by its name.
def Glob.StandsFor (g : Glob) (path : String) : Prop :=
  g.matchesText path ∨ (∃ rest, below? "." path = some rest ∧ g.matchesText rest) ∨
    ∃ name, fileName? path = some name ∧ g.matchesText name

-- One of the patterns that can be read stands for the path.
def Excludes (patterns : List String) (path : String) : Prop :=
  ∃ pattern ∈ patterns, ∃ g, Glob.parse pattern = .ok g ∧ g.StandsFor path

def AllRead (patterns : List String) : Prop :=
  ∀ pattern ∈ patterns, ∃ g, Glob.parse pattern = .ok g

section Exclusions

variable {patterns : List String} {path : String}

theorem isExcluded_iff : isExcluded gs path ↔ ∃ g ∈ gs, g.StandsFor path := by
  simp only [isExcluded, List.any_eq_true, Bool.or_eq_true, Glob.StandsFor, Option.any_eq_true]
  cases below? "." path <;> simp [or_assoc]

theorem parseExclusions_isOk_iff :
    (∃ gs, parseExclusions patterns = .ok gs) ↔ AllRead patterns := by
  constructor
  case mp =>
    intro ⟨gs, h⟩ pattern hp
    have ⟨g, hg⟩ := exists_of_mapM h hp
    exact ⟨g, mapError_eq_ok_iff.mp hg⟩
  case mpr =>
    intro h
    refine mapM_ok_of_forall fun pattern hp => ?_
    have ⟨g, hg⟩ := h pattern hp
    exact ⟨g, mapError_eq_ok_iff.mpr hg⟩

theorem isExcluded_iff_excludes (h : parseExclusions patterns = .ok gs) :
    isExcluded gs path ↔ Excludes patterns path := by
  simp only [isExcluded_iff, mem_of_mapM h, mapError_eq_ok_iff, Excludes]
  grind

theorem excludes_append :
    Excludes (patterns ++ more) path ↔ Excludes patterns path ∨ Excludes more path := by
  simp only [Excludes, List.mem_append]
  grind

end Exclusions

section Spellings

variable {excluded xs : List String} {found : List (List String)}
  {c : List Component}

-- What is left of a list of paths: those whose first spelling is not excluded.
def Left (excluded xs : List String) (c : List Component) : Prop :=
  ∃ p, First xs p ∧ ¬Excludes excluded p ∧ components p = c

-- The exclusions make no difference between two first spellings of a path.
def Indifferent (excluded : List String) (found : List (List String)) : Prop :=
  ∀ xs ∈ found, ∀ ys ∈ found, ∀ p q, First xs p → First ys q → Same p q →
    (Excludes excluded p ↔ Excludes excluded q)

theorem exists_first_of_flatten (h : First found.flatten p) : ∃ xs ∈ found, First xs p := by
  induction found
  case nil => cases h.mem
  case cons xs found ih =>
    rw [List.flatten_cons, First.append_iff] at h
    cases h
    case inl h => exact ⟨xs, List.mem_cons_self, h⟩
    case inr h =>
      have ⟨ys, hm, hf⟩ := ih h.right
      exact ⟨ys, List.mem_cons_of_mem _ hm, hf⟩

theorem left_flatten_iff (h : Indifferent excluded found) :
    Left excluded found.flatten c ↔ ∃ xs ∈ found, Left excluded xs c := by
  constructor
  case mp =>
    intro ⟨p, hf, he, hc⟩
    have ⟨xs, hm, hf⟩ := exists_first_of_flatten hf
    exact ⟨xs, hm, p, hf, he, hc⟩
  case mpr =>
    intro ⟨xs, hm, p, hf, he, hc⟩
    -- Another list may have the spelling that comes first.
    have ⟨q, hq, hs⟩ := exists_first (List.mem_flatten.mpr ⟨xs, hm, hf.mem⟩)
    have ⟨ys, hm', hq'⟩ := exists_first_of_flatten hq
    have hqp := h ys hm' xs hm q p hq' hf hs
    exact ⟨q, hq, mt hqp.mp he, hs.trans hc⟩

theorem left_append_iff (h : First xs p) :
    Left excluded (xs ++ ys) (components p) ↔ ¬Excludes excluded p := by
  have hp : First (xs ++ ys) p := First.append_iff.mpr (.inl h)
  constructor
  case mp =>
    intro ⟨q, hq, he, hs⟩
    exact hq.eq hp hs ▸ he
  case mpr => exact fun he => ⟨p, hp, he, rfl⟩

-- Lists of paths in order that lead to the same paths differ at most in spelling.
theorem map_components_eq (h₁ : Increasing ps) (h₂ : Increasing qs)
    (h : ∀ c, c ∈ ps.map components ↔ c ∈ qs.map components) :
    ps.map components = qs.map components := by
  have hsorted : ∀ {ps}, Increasing ps →
      (ps.map components).Pairwise fun a b => orderComponents a b = .lt :=
    fun h => List.pairwise_map.mpr h
  have hnodup : ∀ {ps}, Increasing ps → (ps.map components).Nodup :=
    fun h => List.pairwise_map.mpr (h.imp Before.not_same)
  have hperm := (List.perm_ext_iff_of_nodup (hnodup h₁) (hnodup h₂)).mpr h
  refine hperm.eq_of_pairwise (fun a b _ _ hab hba => ?_) (hsorted h₁) (hsorted h₂)
  rw [orderComponents_eq_compare] at hab hba
  cases hab.symm.trans (Std.OrientedCmp.gt_of_lt hba)

end Spellings

namespace FileSystem

variable {fs : FileSystem} {inputs included excluded configured given : List String}

-- What inputs lead to, one list for each of them, and the documents that are left of it: the first
-- spellings that are not excluded, in order.
structure Leads (fs : FileSystem) (inputs excluded : List String) (found : List (List String))
    (ps : List String) : Prop where
  attempts   : inputs.mapM fs.documentsOf = .ok found
  read       : AllRead excluded
  increasing : Increasing ps
  mem        : ∀ p, p ∈ ps ↔ First found.flatten p ∧ ¬Excludes excluded p

theorem leads_filter (hf : inputs.mapM fs.documentsOf = .ok found)
    (hp : parseExclusions excluded = .ok gs) :
    fs.Leads inputs excluded found ((ordered found.flatten).filter (!isExcluded gs ·)) where
  attempts   := hf
  read       := parseExclusions_isOk_iff.mp ⟨gs, hp⟩
  increasing := (increasing_ordered found.flatten).filter _
  mem        := by simp [mem_ordered, ← isExcluded_iff_excludes hp]

namespace Leads

theorem eq (h : fs.Leads inputs excluded found ps) (h' : fs.Leads inputs excluded found ps') :
    ps = ps' :=
  h.increasing.eq_of_mem_iff h'.increasing fun p => (h.mem p).trans (h'.mem p).symm

theorem mem_map_components (h : fs.Leads inputs excluded found ps) :
    c ∈ ps.map components ↔ Left excluded found.flatten c := by
  simp only [List.mem_map, h.mem, Left]
  grind

-- Inputs that are among others lead somewhere if these do.
theorem of_subset (h : fs.Leads inputs excluded found ps) (hs : ∀ i ∈ inputs', i ∈ inputs) :
    ∃ found' ps', fs.Leads inputs' excluded found' ps' := by
  have ⟨_, hf⟩ := mapM_ok_of_forall fun i hi => exists_of_mapM h.attempts (hs i hi)
  have ⟨_, hp⟩ := parseExclusions_isOk_iff.mpr h.read
  exact ⟨_, _, leads_filter hf hp⟩

theorem map_components_eq (h : fs.Leads inputs excluded found ps) (hi : Indifferent excluded found)
    (h' : fs.Leads inputs' excluded found' ps') (hs : ∀ i, i ∈ inputs' ↔ i ∈ inputs) :
    ps'.map components = ps.map components := by
  have hmem : ∀ xs, xs ∈ found' ↔ xs ∈ found := by
    simp [mem_of_mapM h.attempts, mem_of_mapM h'.attempts, hs]
  have hi' : Indifferent excluded found' := by
    simpa only [Indifferent, hmem] using hi
  refine ProposalLint.map_components_eq h'.increasing h.increasing fun c => ?_
  simp only [h.mem_map_components, h'.mem_map_components, left_flatten_iff hi,
    left_flatten_iff hi', hmem]

-- An input that is put in front decides by its spelling what is left of a path.
theorem mem_map_components_cons (h : fs.Leads (input :: inputs) excluded found ps)
    (hd : fs.documentsOf input = .ok xs) (hf : First xs p) :
    components p ∈ ps.map components ↔ ¬Excludes excluded p := by
  have ⟨ys, _, hd', _, hfound⟩ := List.forall₂_cons_left_iff.mp (forall₂_of_mapM _ h.attempts)
  cases hd.symm.trans hd'
  rw [h.mem_map_components, hfound, List.flatten_cons]
  exact left_append_iff hf

-- If inputs can be put in front without effect, the exclusions make no difference.
theorem indifferent (h : fs.Leads inputs excluded found ps)
    (hsteady : ∀ input ∈ inputs, ∀ found' ps', fs.Leads (input :: inputs) excluded found' ps' →
      ps'.map components = ps.map components) : Indifferent excluded found := by
  have hleft : ∀ xs ∈ found, ∀ p, First xs p →
      (components p ∈ ps.map components ↔ ¬Excludes excluded p) := by
    intro xs hxs p hp
    have ⟨input, hm, hd⟩ := (mem_of_mapM h.attempts).mp hxs
    have ⟨_, _, h'⟩ := h.of_subset (List.forall_mem_cons.mpr ⟨hm, fun _ => id⟩)
    rw [← hsteady input hm _ _ h']
    exact h'.mem_map_components_cons hd hp
  intro xs hxs ys hys p q hp hq hs
  have hpq := (hleft xs hxs p hp).symm.trans (hs ▸ hleft ys hys q hq)
  exact not_iff_not.mp hpq

theorem mem_map_components_singleton (h : fs.Leads [input] excluded found ps)
    (hd : fs.documentsOf input = .ok xs) : c ∈ ps.map components ↔ Left excluded xs c := by
  have hfound : found = [xs] := by
    have hm := h.attempts
    rw [List.mapM_cons, hd] at hm
    exact (Except.ok.inj hm).symm
  rw [h.mem_map_components, hfound, List.flatten_singleton]

theorem congr (h : fs.Leads inputs excluded found ps) (hs : ∀ x, x ∈ excluded' ↔ x ∈ excluded) :
    fs.Leads inputs excluded' found ps where
  attempts   := h.attempts
  read       := by simpa only [AllRead, hs] using h.read
  increasing := h.increasing
  mem        := by simpa only [Excludes, hs] using h.mem

theorem narrowed (h : fs.Leads inputs excluded found ps) (hr : AllRead more) :
    ∃ rest, fs.Leads inputs (excluded ++ more) found rest ∧ rest.Sublist ps ∧
      ∀ p, p ∈ rest ↔ p ∈ ps ∧ ¬Excludes more p := by
  have ⟨gs, hp⟩ := parseExclusions_isOk_iff.mpr hr
  have hmem : ∀ p, p ∈ ps.filter (!isExcluded gs ·) ↔ p ∈ ps ∧ ¬Excludes more p := by
    simp [← isExcluded_iff_excludes hp]
  refine ⟨ps.filter (!isExcluded gs ·), ⟨h.attempts, ?_, h.increasing.filter _, ?_⟩,
    List.filter_sublist, hmem⟩
  · exact List.forall_mem_append.mpr ⟨h.read, hr⟩
  · intro p
    rw [hmem, h.mem, excludes_append, not_or, and_assoc]

end Leads

theorem discover_eq_ok_iff : fs.discover inputs included excluded = .ok ps ↔
    ∃ found, fs.Leads (if inputs.isEmpty then included else inputs) excluded found ps := by
  simp only [discover]
  generalize (if inputs.isEmpty then included else inputs) = asked
  constructor
  case mp =>
    intro h
    cases hp : parseExclusions excluded
    case error => simp [hp, Bind.bind, Except.bind] at h
    case ok gs =>
      cases hf : asked.mapM fs.documentsOf
      case error => simp [hp, hf, Bind.bind, Except.bind] at h
      case ok found =>
        simp only [hp, hf] at h
        cases h
        exact ⟨found, leads_filter hf hp⟩
  case mpr =>
    intro ⟨found, h⟩
    have ⟨gs, hp⟩ := parseExclusions_isOk_iff.mpr h.read
    rw [hp, h.attempts, h.eq (leads_filter h.attempts hp)]
    rfl

theorem discover_inputs (hne : inputs ≠ []) : fs.discover inputs included excluded = .ok ps ↔
    ∃ found, fs.Leads inputs excluded found ps := by
  rw [discover_eq_ok_iff]
  simp [hne]

-- The exclusions make no difference between the spellings that the inputs lead to.
def SpelledAlike (fs : FileSystem) (inputs excluded : List String) : Prop :=
  ∃ found, inputs.mapM fs.documentsOf = .ok found ∧ Indifferent excluded found

theorem Leads.spelledAlike_iff (h : fs.Leads inputs excluded found ps) :
    fs.SpelledAlike inputs excluded ↔ Indifferent excluded found := by
  simp [SpelledAlike, h.attempts]

theorem Leads.exists_alone (h : fs.Leads inputs excluded found ps) (included : List String) :
    ∃ alone, inputs.mapM (fun i => fs.discover [i] included excluded) = .ok alone := by
  refine mapM_ok_of_forall fun input hm => ?_
  have ⟨found', qs, h'⟩ := h.of_subset (List.forall_mem_singleton.mpr hm)
  exact ⟨qs, (discover_inputs (by simp)).mpr ⟨found', h'⟩⟩

theorem Leads.mem_union_iff (h : fs.Leads inputs excluded found ps)
    (hi : Indifferent excluded found)
    (ha : inputs.mapM (fun i => fs.discover [i] included excluded) = .ok alone) :
    c ∈ ps.map components ↔ ∃ qs ∈ alone, c ∈ qs.map components := by
  have halone : ∀ input ∈ inputs, (∃ xs, fs.documentsOf input = .ok xs ∧ Left excluded xs c) ↔
      ∃ qs, fs.discover [input] included excluded = .ok qs ∧ c ∈ qs.map components := by
    intro input hm
    have ⟨xs, hd⟩ := exists_of_mapM h.attempts hm
    have ⟨qs, hq⟩ := exists_of_mapM ha hm
    have ⟨_, h'⟩ := (discover_inputs (by simp)).mp hq
    simp only [hd, hq, Except.ok.injEq, exists_eq_left', h'.mem_map_components_singleton hd]
  rw [h.mem_map_components, left_flatten_iff hi]
  simp only [mem_of_mapM h.attempts, mem_of_mapM ha]
  grind

-- The documents of a run come in order, and exclusions work alike wherever they are given. That the
-- documents depend on the set of inputs alone is true if and only if the exclusions make no
-- difference between spellings; then they are all that the inputs lead to one by one.
structure Settled (fs : FileSystem) (inputs included configured given ps : List String) : Prop where
  increasing      : Increasing ps
  steady_iff      : (∀ inputs', (∀ i, i ∈ inputs' ↔ i ∈ inputs) → ∃ ps',
    fs.discover inputs' included (configured ++ given) = .ok ps' ∧
      ps'.map components = ps.map components) ↔ fs.SpelledAlike inputs (configured ++ given)
  union           : fs.SpelledAlike inputs (configured ++ given) → ∃ alone,
    inputs.mapM (fun i => fs.discover [i] included (configured ++ given)) = .ok alone ∧
      ∀ c, c ∈ ps.map components ↔ ∃ qs ∈ alone, c ∈ qs.map components
  interchangeable : ∀ configured' given',
    (∀ x, x ∈ configured' ++ given' ↔ x ∈ configured ++ given) →
      fs.discover inputs included (configured' ++ given') = .ok ps
  narrowed        : ∀ more, AllRead more → ∃ rest,
    fs.discover inputs included (configured ++ given ++ more) = .ok rest ∧ rest.Sublist ps ∧
      ∀ p, p ∈ rest ↔ p ∈ ps ∧ ¬Excludes more p

theorem discover_settled (fs : FileSystem) (included configured given : List String)
    (hne : inputs ≠ []) (ok : fs.discover inputs included (configured ++ given) = .ok ps) :
    fs.Settled inputs included configured given ps := by
  have ⟨found, h⟩ := (discover_inputs hne).mp ok
  refine ⟨h.increasing, ⟨fun hsteady => ?_, fun ha inputs' hs => ?_⟩, fun ha => ?_,
    fun configured' given' hs => ?_, fun more hr => ?_⟩
  · refine h.spelledAlike_iff.mpr (h.indifferent fun input hm found' ps' h' => ?_)
    have ⟨qs, hq, he⟩ := hsteady (input :: inputs) (by grind)
    have hok : fs.discover (input :: inputs) included (configured ++ given) = .ok ps' :=
      (discover_inputs (by simp)).mpr ⟨found', h'⟩
    cases hok.symm.trans hq
    exact he
  · have hne' : inputs' ≠ [] := by
      have ⟨input, hm⟩ := List.exists_mem_of_ne_nil inputs hne
      exact List.ne_nil_of_mem ((hs input).mpr hm)
    have ⟨found', ps', h'⟩ := h.of_subset fun i => (hs i).mp
    exact ⟨ps', (discover_inputs hne').mpr ⟨found', h'⟩,
      h.map_components_eq (h.spelledAlike_iff.mp ha) h' hs⟩
  · have ⟨alone, halone⟩ := h.exists_alone included
    exact ⟨alone, halone, fun c => h.mem_union_iff (h.spelledAlike_iff.mp ha) halone⟩
  · exact (discover_inputs hne).mpr ⟨found, h.congr hs⟩
  · have ⟨rest, hrest, hsub, hmem⟩ := h.narrowed hr
    exact ⟨rest, (discover_inputs hne).mpr ⟨found, hrest⟩, hsub, hmem⟩

-- A file that is spelled in two ways, of which the exclusion knows one.
theorem discover_settled_of_spellings :
    let fs : FileSystem := { root := .directory [("a", .directory [("b.md", .file [])])] }
    fs.discover ["a//b.md", "a"] [] (["c.md"] ++ ["a/b.md"]) = .ok ["a//b.md"] ∧
    fs.Settled ["a//b.md", "a"] [] ["c.md"] ["a/b.md"] ["a//b.md"] := by
  intro fs
  have ok : fs.discover ["a//b.md", "a"] [] (["c.md"] ++ ["a/b.md"]) = .ok ["a//b.md"] := by
    decide +kernel
  exact ⟨ok, discover_settled fs [] ["c.md"] ["a/b.md"] (by simp) ok⟩

-- The spelling that comes first decides whether the file is excluded.
theorem discover_not_steady_of_spellings :
    let fs : FileSystem := { root := .directory [("a", .directory [("b.md", .file [])])] }
    let excluded := ["a/b.md"]
    fs.discover ["a/b.md", "a//b.md"] [] excluded = .ok [] ∧
    fs.discover ["a//b.md", "a/b.md"] [] excluded = .ok ["a//b.md"] ∧
    fs.discover ["a/b.md"] [] excluded = .ok [] ∧
    fs.discover ["a//b.md"] [] excluded = .ok ["a//b.md"] := by
  decide +kernel

end FileSystem
end ProposalLint
