import ProposalLint.Proofs.Discovery.Union

namespace ProposalLint

open ProposalLint.Path

-- A name is no dot, is not two dots, and has no slash in it.
structure ProperName (name : String) : Prop where
  slash : '/' ∉ name.toList
  dot   : name ≠ "."
  dots  : name ≠ ".."

theorem ProperName.component?_ne_parent (h : ProperName name) :
    component? name ≠ some .parent := by
  have := h.dots
  unfold component?
  grind

-- All names in a tree of files are proper.
inductive Entry.Proper : Entry → Prop
  | file : Proper (.file bytes)
  | directory : (∀ e ∈ entries, ProperName e.1) → (∀ e ∈ entries, e.2.Proper) →
      Proper (.directory entries)

theorem Entry.Proper.at? {e : Entry} (h : e.Proper) (ha : e.at? place = some e') : e'.Proper := by
  induction place generalizing e
  case nil =>
    cases ha
    exact h
  case cons name place ih =>
    rw [Entry.at?, Option.bind_eq_some_iff] at ha
    have ⟨child, hc, ha⟩ := ha
    refine ih ?_ ha
    cases h
    case file => cases hc
    case directory entries hn hp =>
      have ⟨before, after, he, _⟩ := List.lookup_eq_some_iff.mp hc
      exact hp (name, child) (he ▸ List.mem_append_right _ List.mem_cons_self)

-- A path that goes by names alone from where it starts.
structure Direct (origin : List Component) (path : String) : Prop where
  start : start path = origin
  names : .parent ∉ body path

instance : Decidable (Direct origin path) :=
  decidable_of_iff (start path = origin ∧ .parent ∉ body path)
    ⟨fun h => ⟨h.left, h.right⟩, fun h => ⟨h.start, h.names⟩⟩

namespace Direct

variable {origin : List Component} {path name : String}

theorem join (h : Direct origin path) (hn : ProperName name) : Direct origin (join path name) := by
  have ⟨hstart, hbody⟩ := components_join hn.slash hn.dot path
  refine ⟨hstart.trans h.start, ?_⟩
  simpa [hbody, h.names] using hn.component?_ne_parent

theorem of_name (hn : ProperName name) : Direct [] name := by
  refine ⟨start_of_not_mem hn.slash hn.dot, ?_⟩
  simpa [body_of_not_mem hn.slash] using hn.component?_ne_parent

theorem components_ne_current (h : Direct origin path) (ho : origin ≠ [.current]) :
    components path ≠ [.current] := by
  intro hc
  have hcurrent : .current ∉ body path := fun hm => by simpa using mem_body hm
  rw [components_eq, h.start, List.append_eq_singleton_iff] at hc
  grind

end Direct

-- A pattern is followed from the root or from a dot, and the dot is not told.
def Reached (origin : List Component) (path : String) : Prop :=
  Direct origin path ∨ origin = [] ∧ path = "."

-- A part of a pattern that leads to names alone.
structure Glob.Tame (g : Glob) : Prop where
  name : ProperName g.text
  dots : FileSystem.dotNames g = []

namespace Glob

theorem text_of_parse (h : parse pattern = .ok g) : g.text = pattern := by
  unfold parse at h
  cases ht : tokensFrom 0 none [] pattern.toList
  all_goals
    rw [ht] at h
    cases h
  rfl

theorem parse_dot : parse "." = .ok ⟨".", [.char '.']⟩ := by
  decide +kernel

theorem parse_dots : parse ".." = .ok ⟨"..", [.char '.', .char '.']⟩ := by
  decide +kernel

end Glob

-- No piece of a pattern stands for a dot or two.
def Undotted (pattern : String) : Prop :=
  ∀ piece ∈ pieces pattern, ∀ g, Glob.parse piece = .ok g → FileSystem.dotNames g = []

instance : Decidable (Undotted pattern) :=
  decidable_of_iff (∀ piece ∈ pieces pattern, ∀ g ∈ (Glob.parse piece).toOption,
    FileSystem.dotNames g = []) (by
      refine forall₂_congr fun piece _ => forall_congr' fun g => imp_congr_left ?_
      cases Glob.parse piece <;> simp [Except.toOption])

namespace Undotted

variable {pattern piece : String}

theorem tame (h : Undotted pattern) (hm : piece ∈ pieces pattern) (hp : Glob.parse piece = .ok g) :
    g.Tame := by
  have hd := h piece hm g hp
  have ht := Glob.text_of_parse hp
  refine ⟨⟨ht ▸ slash_not_mem_of_mem_pieces hm, fun hdot => ?_, fun hdots => ?_⟩, hd⟩
  · rw [← ht, hdot, Glob.parse_dot] at hp
    cases hp
    exact absurd hd (by decide)
  · rw [← ht, hdots, Glob.parse_dots] at hp
    cases hp
    exact absurd hd (by decide)

theorem start_ne_current (h : Undotted pattern) : start pattern ≠ [.current] := by
  intro hs
  have hhead : (pieces pattern).head? = some "." := by
    unfold start at hs
    grind
  exact absurd (h "." (List.mem_of_head? hhead) _ Glob.parse_dot) (by decide)

end Undotted

namespace GlobPath

theorem mem_mergeComponents (h : g ∈ mergeComponents gs) : g ∈ gs := by
  fun_induction mergeComponents gs <;> grind

theorem mem_splitParts (h : part ∈ splitParts cs) : part ∈ (cs.splitOn '/').map String.ofList := by
  simp only [splitParts] at h
  split at h
  case isTrue => exact (List.dropLast_sublist _).subset h
  case isFalse => exact h

theorem mem_pieces_of_splitParts {text : String}
    (h : piece ∈ splitParts (if Path.isAbsolute text then text.toList.drop 1 else text.toList)) :
    piece ∈ pieces text := by
  have h := mem_splitParts h
  split at h
  case isTrue ha =>
    have ⟨cs, hc⟩ : ∃ cs, text.toList = '/' :: cs := by
      simpa [Path.isAbsolute, List.head?_eq_some_iff] using ha
    rw [pieces, hc, List.splitOn_cons_eq_if_modifyHead, if_pos (by simp)]
    exact List.mem_cons_of_mem _ (by simpa [hc] using h)
  case isFalse => exact h

-- The parts of a pattern are read from the pieces of its text.
theorem parse_cases (h : parse text = .ok p) : p.isAbsolute = Path.isAbsolute text ∧
    ∀ g ∈ p.parts, g = ⟨"", []⟩ ∨ ∃ piece ∈ pieces text, Glob.parse piece = .ok g := by
  simp only [parse, bind_eq_ok_iff] at h
  obtain ⟨_, _, parts, hparts, h⟩ := h
  cases h
  refine ⟨rfl, fun g hg => ?_⟩
  have hg := mem_mergeComponents hg
  have hread : g ∈ parts → ∃ piece ∈ pieces text, Glob.parse piece = .ok g := by
    intro hg
    have ⟨piece, hp, he⟩ := (mem_of_mapM hparts).mp hg
    exact ⟨piece, mem_pieces_of_splitParts hp, he⟩
  grind

end GlobPath

namespace FileSystem

variable {fs : FileSystem} {origin : List Component} {path : String}

theorem inside_direct (h : Reached origin path) (ho : origin ≠ [.current]) (hn : ProperName name) :
    Direct origin (inside path name) := by
  unfold inside
  cases h
  case inl h =>
    rw [if_neg (by simpa using h.components_ne_current ho)]
    exact h.join hn
  case inr h =>
    obtain ⟨rfl, rfl⟩ := h
    exact Direct.of_name hn

theorem mem_belowAll {x : String × Entry} (h : x ∈ belowAll path entries) :
    ∃ e ∈ entries, x = (inside path e.1, e.2) ∨ x ∈ below (inside path e.1) e.2 := by
  induction entries
  case nil => simp [belowAll] at h
  case cons e entries ih =>
    rw [belowAll] at h
    grind

theorem below_direct (he : e.Proper) (ho : origin ≠ [.current]) (hr : Reached origin path) :
    ∀ x ∈ below path e, Direct origin x.1 := by
  induction he generalizing path
  case file => simp [below]
  case directory entries hn _ ih =>
    intro x hx
    rw [below] at hx
    have ⟨e, hm, hx⟩ := mem_belowAll hx
    have hd := inside_direct hr ho (hn e hm)
    cases hx
    case inl hx => exact hx ▸ hd
    case inr hx => exact ih e hm (.inl hd) x hx

theorem find_eq_ok_iff : fs.find path = .ok e ↔
    ∃ place, fs.locate path = .ok place ∧ fs.root.at? place = some e := by
  rw [find, bind_eq_ok_iff]
  refine exists_congr fun place => and_congr_right fun _ => ?_
  cases fs.root.at? place <;> simp [Pure.pure, Except.pure, throw, throwThe, MonadExceptOf.throw]

theorem childrenOf_proper (hfs : fs.root.Proper) (path : String) :
    (Entry.directory (fs.childrenOf path)).Proper := by
  unfold childrenOf
  split
  case h_1 entries h =>
    have ⟨place, _, ha⟩ := find_eq_ok_iff.mp h
    exact hfs.at? ha
  case h_2 => exact .directory (by simp) (by simp)

theorem descendants_direct (hfs : fs.root.Proper) (ho : origin ≠ [.current])
    (hr : Reached origin path) : ∀ x ∈ fs.descendants path, Direct origin x.1 :=
  below_direct (childrenOf_proper hfs path) ho hr

theorem expandName_direct (hfs : fs.root.Proper) (ho : origin ≠ [.current])
    (hr : Reached origin path) (hg : g.Tame) : ∀ p ∈ fs.expandName g path, Direct origin p := by
  intro p hp
  unfold expandName at hp
  simp only [hg.dots, List.map_nil, List.nil_append] at hp
  split at hp
  case isTrue =>
    have := inside_direct hr ho hg.name
    grind
  case isFalse =>
    split at hp
    case isTrue =>
      have ⟨name, hm, hp⟩ := List.mem_filterMap.mp hp
      have ⟨e, he, hn⟩ := List.mem_map.mp hm
      cases childrenOf_proper hfs path
      case directory hnames _ =>
        have := inside_direct hr ho (hnames e he)
        grind
    case isFalse => cases hp

theorem expand_reached (hfs : fs.root.Proper) (ho : origin ≠ [.current])
    (hr : Reached origin path) (hg : ∀ g ∈ gs, g.Tame) :
    ∀ p ∈ fs.expand gs path, Reached origin p := by
  fun_induction expand fs gs path
  case case1 => simpa using hr
  case case2 g path hc =>
    intro p hp
    have ⟨x, hx, hp⟩ := List.mem_filterMap.mp hp
    have hd := descendants_direct hfs ho hr x hx
    grind [Reached]
  case case3 g path hc =>
    intro p hp
    exact .inl (expandName_direct hfs ho hr (hg g (by simp)) p hp)
  case case4 g h gs path hc ih =>
    intro p hp
    have ⟨q, hq, hp⟩ := List.mem_flatMap.mp hp
    have ⟨x, hx, hxq⟩ := List.mem_map.mp hq
    have hd := descendants_direct hfs ho hr x hx
    grind [Reached]
  case case5 g h gs path hc ih =>
    intro p hp
    have ⟨q, hq, hp⟩ := List.mem_flatMap.mp hp
    have hd := expandName_direct hfs ho hr (hg g (by simp)) q hq
    exact ih q (.inl hd) (fun g' hg' => hg g' (List.mem_cons_of_mem _ hg')) p hp

theorem mem_markdownAmong (h : p ∈ markdownAmong scopes place path entries) :
    ∃ e ∈ entries, p ∈ markdownBelow scopes (place ++ [e.1]) (join path e.1) e.2 := by
  induction entries
  case nil => simp [markdownAmong] at h
  case cons e entries ih =>
    rw [markdownAmong] at h
    grind

theorem markdownBelow_direct (he : e.Proper) (hd : Direct origin path) :
    ∀ p ∈ markdownBelow scopes place path e, Direct origin p := by
  induction he generalizing scopes place path
  case file =>
    intro p hp
    rw [markdownBelow] at hp
    split at hp
    case isTrue => exact List.eq_of_mem_singleton hp ▸ hd
    case isFalse => cases hp
  case directory entries hn _ ih =>
    intro p hp
    rw [markdownBelow] at hp
    have ⟨e, hm, hp⟩ := mem_markdownAmong hp
    exact ih e hm (hd.join (hn e hm)) p hp

theorem isFile_dot (fs : FileSystem) : fs.isFile "." = false := by
  unfold isFile
  split
  case h_1 e h =>
    have ⟨place, hl, ha⟩ := find_eq_ok_iff.mp h
    have hw : fs.walkPiece fs.cwd "." >>= .ok = .ok place := foldlM_of_locate hl
    have ⟨_, hw, he⟩ := bind_eq_ok_iff.mp hw
    cases he
    have hdot : component? "." = none := rfl
    have ⟨⟨entries, hdir⟩, hnext⟩ := walkPiece_cases hw
    obtain ⟨_, rfl⟩ : component? "." = none ∧ place = fs.cwd := by simpa [hdot] using hnext
    cases hdir.symm.trans ha
    rfl
  case h_2 => rfl

theorem glob_direct (hfs : fs.root.Proper) (hu : Undotted pattern)
    (hp : GlobPath.parse pattern = .ok g) : ∀ p ∈ fs.glob g, Direct (start pattern) p := by
  have ⟨habs, hparts⟩ := GlobPath.parse_cases hp
  have htame : ∀ part ∈ g.parts, part.Tame := by
    intro part hm
    cases hparts part hm
    case inl he => exact he ▸ ⟨⟨by decide, by decide, by decide⟩, rfl⟩
    case inr he =>
      have ⟨piece, hpiece, he⟩ := he
      exact hu.tame hpiece he
  have hr : Reached (start pattern) (if g.isAbsolute then "/" else ".") := by
    rw [habs]
    split
    case isTrue ha => exact .inl ⟨(isAbsolute_iff.mp ha).symm, by decide⟩
    case isFalse ha =>
      have := hu.start_ne_current
      unfold start at *
      grind [Reached]
  intro p hm
  unfold glob at hm
  have hd := expand_reached hfs hu.start_ne_current hr htame p
  have := isFile_dot fs
  grind [Reached]

theorem markdownFiles_direct (hfs : fs.root.Proper) (hd : Direct origin path) :
    ∀ p ∈ fs.markdownFiles path, Direct origin p := by
  unfold markdownFiles
  split
  case h_1 => simp
  case h_2 =>
    split
    case h_1 ha => exact markdownBelow_direct (hfs.at? ha) hd
    case h_2 => simp

-- An input that is there goes by names alone; any other is a pattern without dots.
def Steady (fs : FileSystem) (origin : List Component) (input : String) : Prop :=
  if fs.isDirectory input || fs.isFile input then Direct origin input
  else start input = origin ∧ Undotted input

instance : Decidable (fs.Steady origin input) :=
  inferInstanceAs (Decidable (if fs.isDirectory input || fs.isFile input then Direct origin input
    else start input = origin ∧ Undotted input))

theorem documentsOf_direct (hfs : fs.root.Proper) (hs : fs.Steady origin input)
    (h : fs.documentsOf input = .ok xs) : ∀ p ∈ xs, Direct origin p := by
  unfold documentsOf at h
  unfold Steady at hs
  split at h
  case isTrue hdir =>
    cases h
    exact markdownFiles_direct hfs (by simpa [hdir] using hs)
  case isFalse hdir =>
    split at h
    case isTrue hfile =>
      cases h
      simpa [hfile] using hs
    case isFalse hfile =>
      obtain ⟨rfl, hu⟩ : start input = origin ∧ Undotted input := by simpa [hdir, hfile] using hs
      split at h
      case h_1 hg =>
        cases h
        exact glob_direct hfs hu hg
      case h_2 => cases h

-- Two paths that lead to one place.
def SamePlace (fs : FileSystem) (p q : String) : Prop :=
  ∃ place, fs.locate p = .ok place ∧ fs.locate q = .ok place

theorem SamePlace.same (h : fs.SamePlace p q) (hp : Direct origin p) (hq : Direct origin q) :
    Same p q := by
  have ⟨place, hlp, hlq⟩ := h
  have ⟨ns, hns⟩ := exists_names hp.names
  have ⟨ms, hms⟩ := exists_names hq.names
  have hstart : start p = start q := hp.start.trans hq.start.symm
  have habs : isAbsolute p = isAbsolute q := by
    rw [Bool.eq_iff_iff, isAbsolute_iff, isAbsolute_iff, hstart]
  have hnames : ns = ms := by
    have he := (locate_eq hns hlp).symm.trans (locate_eq hms hlq)
    rw [habs] at he
    exact List.append_cancel_left he
  rw [Same, components_eq, components_eq, hstart, hns, hms, hnames]

-- A file is listed twice only if one way to it goes through two dots or the two start differently.
-- Inputs that all start alike and go by names lead to each file once.
theorem discover_apart (fs : FileSystem) (ok : fs.discover inputs included excluded = .ok ps) :
    (ps.Pairwise fun p q => fs.SamePlace p q → ∀ origin, ¬(Direct origin p ∧ Direct origin q)) ∧
    ∀ origin, fs.root.Proper →
      (∀ i ∈ (if inputs.isEmpty then included else inputs), fs.Steady origin i) →
      ps.Pairwise (¬fs.SamePlace · ·) := by
  have ⟨found, h⟩ := discover_eq_ok_iff.mp ok
  have hapart : ps.Pairwise fun p q =>
      fs.SamePlace p q → ∀ origin, ¬(Direct origin p ∧ Direct origin q) :=
    h.increasing.imp fun hb hsame _ hd => hb.not_same (hsame.same hd.left hd.right)
  refine ⟨hapart, fun origin hfs hs => ?_⟩
  have hdirect : ∀ p ∈ ps, Direct origin p := by
    intro p hp
    have ⟨xs, hxs, hm⟩ := List.mem_flatten.mp ((h.mem p).mp hp).left.mem
    have ⟨input, hi, hd⟩ := (mem_of_mapM h.attempts).mp hxs
    exact documentsOf_direct hfs (hs input hi) hd p hm
  exact hapart.imp_of_mem fun hp hq hpq hsame =>
    hpq hsame origin ⟨hdirect _ hp, hdirect _ hq⟩

-- A directory, a pattern and a file that overlap.
theorem discover_apart_of_overlap :
    let sips : Entry := .directory [("sip-1.md", .file []), ("sip-2.md", .file [])]
    let fs : FileSystem := { root := .directory [("sips", sips)] }
    let inputs := ["sips", "sips/sip-*.md", "sips//sip-1.md"]
    let ps := ["sips/sip-1.md", "sips/sip-2.md"]
    fs.discover inputs [] [] = .ok ps ∧ fs.root.Proper ∧ (∀ i ∈ inputs, fs.Steady [] i) ∧
    ps.Pairwise (¬fs.SamePlace · ·) := by
  intro sips fs inputs ps
  have ok : fs.discover inputs [] [] = .ok ps := by decide +kernel
  have hsips : sips.Proper := by
    refine .directory ?_ (by simp [Entry.Proper.file])
    simpa using ⟨⟨by decide, by decide, by decide⟩, ⟨by decide, by decide, by decide⟩⟩
  have hp : fs.root.Proper :=
    .directory (by simpa using ⟨by decide, by decide, by decide⟩) (by simpa using hsips)
  have hs : ∀ i ∈ inputs, fs.Steady [] i := by decide +kernel
  exact ⟨ok, hp, hs, (discover_apart fs ok).right [] hp hs⟩

-- One file is listed under two names.
theorem discover_not_apart_of_dot :
    let fs : FileSystem := { root := .directory [("sip-1.md", .file [])] }
    fs.discover ["sip-1.md", "./sip-1.md"] [] [] = .ok ["./sip-1.md", "sip-1.md"] ∧
    fs.SamePlace "./sip-1.md" "sip-1.md" := by
  intro fs
  exact ⟨by decide +kernel, ["sip-1.md"], by decide +kernel, by decide +kernel⟩

end FileSystem
end ProposalLint
