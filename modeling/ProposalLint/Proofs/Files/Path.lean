import Mathlib.Data.Set.List
import ProposalLint.Files.FileSystem
import ProposalLint.Proofs.Attempts

namespace ProposalLint

namespace Path

instance : Ord Component :=
  ⟨Component.order⟩

instance : Std.TransOrd Component :=
  inferInstanceAs (Std.TransCmp (compareLex (compareOn Component.rank) (compareOn Component.text)))

instance : Std.LawfulEqOrd Component where
  eq_of_compare {a b} h := by
    have h : compareLex (compareOn Component.rank) (compareOn Component.text) a b = .eq := h
    simp only [compareLex_eq_eq, compareOn, Std.LawfulEqOrd.compare_eq_iff_eq] at h
    have ⟨hr, ht⟩ := h
    cases a <;> cases b <;> simp_all [Component.rank, Component.text]

theorem orderComponents_eq_compare (as bs : List Component) :
    orderComponents as bs = compare as bs := by
  induction as generalizing bs
  case nil => cases bs <;> rfl
  case cons a as ih =>
    cases bs
    case nil => rfl
    case cons b bs =>
      rw [orderComponents, ih, List.compare_eq_compareLex, List.compareLex_cons_cons]
      rfl

-- Two spellings of one path.
def Same (p q : String) : Prop :=
  components p = components q

-- The order of paths, which makes no difference between spellings.
def Before (p q : String) : Prop :=
  order p q = .lt

theorem order_eq_eq_iff : order p q = .eq ↔ Same p q := by
  rw [order, orderComponents_eq_compare]
  exact Std.LawfulEqOrd.compare_eq_iff_eq

theorem order_eq_gt_iff : order p q = .gt ↔ Before q p := by
  rw [Before, order, order, orderComponents_eq_compare, orderComponents_eq_compare]
  exact Std.OrientedCmp.gt_iff_lt

theorem Before.trans (h₁ : Before p q) (h₂ : Before q r) : Before p r := by
  rw [Before, order, orderComponents_eq_compare] at *
  exact Std.TransCmp.lt_trans h₁ h₂

theorem Before.not_same (h : Before p q) : ¬Same p q := by
  intro hs
  have he := order_eq_eq_iff.mpr hs
  cases h.symm.trans he

theorem Before.asymm (h : Before p q) : ¬Before q p :=
  fun h' => (h.trans h').not_same rfl

instance : Std.Irrefl Before :=
  ⟨fun _ h => h.not_same rfl⟩

instance : Std.Antisymm Before :=
  ⟨fun _ _ h h' => absurd h' h.asymm⟩

section Join

variable {base name path : String}

-- Where a path starts from: the root, a dot, or nothing that is told.
def start (path : String) : List Component :=
  if isAbsolute path then [.root]
  else if (pieces path).head? == some "." then [.current]
  else []

def body (path : String) : List Component :=
  (pieces path).filterMap component?

theorem components_eq (path : String) : components path = start path ++ body path := by
  unfold components start body
  split
  case isTrue => rfl
  case isFalse => split <;> rfl

theorem isAbsolute_iff : isAbsolute path ↔ start path = [.root] := by
  unfold start
  grind

theorem mem_body (h : c ∈ body path) : c = .parent ∨ ∃ name, c = .normal name := by
  have ⟨piece, _, hc⟩ := List.mem_filterMap.mp h
  unfold component? at hc
  grind

theorem exists_names (h : .parent ∉ body path) : ∃ names, body path = List.map .normal names := by
  have hall : body path ∈ Set.range (List.map Component.normal) := by
    rw [Set.range_list_map]
    intro c hc
    have ⟨name, hn⟩ := (mem_body hc).resolve_left fun hp => h (hp ▸ hc)
    exact ⟨name, hn.symm⟩
  have ⟨names, hn⟩ := hall
  exact ⟨names, hn.symm⟩

theorem pieces_slash (base rest : String) :
    pieces (base ++ "/" ++ rest) = pieces base ++ pieces rest := by
  simp [pieces, String.toList_append, List.splitOn_append_cons_self]

theorem pieces_of_not_mem (h : '/' ∉ name.toList) : pieces name = [name] := by
  simp [pieces, List.splitOn_eq_singleton h]

theorem slash_not_mem_of_mem_splitOn {cs : List Char} (h : piece ∈ cs.splitOn '/') :
    '/' ∉ piece := by
  induction cs generalizing piece
  case nil => simp_all
  case cons c cs ih =>
    rw [List.splitOn_cons_eq_if_modifyHead] at h
    cases hs : cs.splitOn '/' <;> grind [List.modifyHead]

theorem slash_not_mem_of_mem_pieces (h : piece ∈ pieces path) : '/' ∉ piece.toList := by
  have ⟨cs, hc, hp⟩ := List.mem_map.mp h
  rw [← hp, String.toList_ofList]
  exact slash_not_mem_of_mem_splitOn hc

theorem body_of_not_mem (h : '/' ∉ name.toList) : body name = (component? name).toList := by
  rw [body, pieces_of_not_mem h]
  cases hc : component? name <;> simp [hc]

theorem body_slash (base rest : String) : body (base ++ "/" ++ rest) = body base ++ body rest := by
  rw [body, pieces_slash, List.filterMap_append]
  rfl

-- What follows a slash does not change where a path starts from.
theorem start_slash (base rest : String) :
    start (base ++ "/" ++ rest) = if base = "" then [.root] else start base := by
  split
  case isTrue hb =>
    subst hb
    have habs : isAbsolute ("" ++ "/" ++ rest) = true := by simp [isAbsolute]
    rw [start, if_pos habs]
  case isFalse hb =>
    have ⟨c, cs, hc⟩ : ∃ c cs, base.toList = c :: cs :=
      List.ne_nil_iff_exists_cons.mp (by simpa using hb)
    have habs : isAbsolute (base ++ "/" ++ rest) = isAbsolute base := by
      simp [isAbsolute, hc]
    have hhead : (pieces (base ++ "/" ++ rest)).head? = (pieces base).head? := by
      have hne : pieces base ≠ [] := by simp [pieces]
      rw [pieces_slash, List.head?_append, List.head?_eq_some_head hne, Option.some_or]
    rw [start, start, habs, hhead]

theorem not_isAbsolute_of_not_mem (h : '/' ∉ name.toList) : isAbsolute name = false := by
  rw [isAbsolute, beq_eq_false_iff_ne]
  exact fun hh => h (List.mem_of_head? hh)

theorem start_of_not_mem (h : '/' ∉ name.toList) (hd : name ≠ ".") : start name = [] := by
  simp [start, not_isAbsolute_of_not_mem h, pieces_of_not_mem h, hd]

-- The ways in which a name is put after a path.
theorem join_cases (h : '/' ∉ name.toList) (base : String) :
    (base = "" ∧ join base name = name) ∨
    (∃ front, base = front ++ "/" ∧ join base name = front ++ "/" ++ name) ∨
    base ≠ "" ∧ join base name = base ++ "/" ++ name := by
  have habs := not_isAbsolute_of_not_mem h
  by_cases hb : base = ""
  case pos => exact .inl ⟨hb, by simp [join, hb]⟩
  case neg =>
    by_cases hl : base.toList.getLast? = some '/'
    case pos =>
      have ⟨front, hf⟩ := List.getLast?_eq_some_iff.mp hl
      have he : base = String.ofList front ++ "/" := by
        rw [← String.toList_inj]
        simp [hf]
      refine .inr (.inl ⟨String.ofList front, he, ?_⟩)
      rw [← he]
      simp [join, habs, hb, hl]
    case neg => exact .inr (.inr ⟨hb, by simp [join, habs, hb, hl]⟩)

theorem components_join (h : '/' ∉ name.toList) (hd : name ≠ ".") (base : String) :
    start (join base name) = start base ∧
      body (join base name) = body base ++ (component? name).toList := by
  obtain ⟨hb, hj⟩ | ⟨front, hb, hj⟩ | ⟨hb, hj⟩ := join_cases h base
  · rw [hj, hb, start_of_not_mem h hd, body_of_not_mem h]
    exact ⟨rfl, rfl⟩
  · have hb : base = front ++ "/" ++ "" := by simpa using hb
    have hempty : body "" = [] := rfl
    rw [hj, hb, start_slash, start_slash, body_slash, body_slash, body_of_not_mem h, hempty,
      List.append_nil]
    exact ⟨rfl, rfl⟩
  · rw [hj, start_slash, if_neg hb, body_slash, body_of_not_mem h]
    exact ⟨rfl, rfl⟩

end Join

end Path

namespace FileSystem

open ProposalLint.Path

variable {fs : FileSystem} {path : String} {place : List String}

theorem walkPiece_cases (h : fs.walkPiece place piece = .ok next) :
    (∃ entries, fs.root.at? place = some (.directory entries)) ∧
    (component? piece = none ∧ next = place ∨
      component? piece = some .parent ∧ next = place.dropLast ∨
      component? piece = some (.normal piece) ∧ next = place ++ [piece]) := by
  unfold walkPiece at h
  cases ha : fs.root.at? place
  case none => simp [ha, throw, throwThe, MonadExceptOf.throw, Bind.bind, Except.bind] at h
  case some e =>
    cases e
    case file => simp [ha, throw, throwThe, MonadExceptOf.throw, Bind.bind, Except.bind] at h
    case directory entries =>
      refine ⟨⟨entries, rfl⟩, ?_⟩
      simp only [ha, Bind.bind, Except.bind, Pure.pure, Except.pure, throw, throwThe,
        MonadExceptOf.throw] at h
      unfold component?
      grind

-- A path that goes by names only leads to the place that has these names.
theorem foldlM_walkPiece {ps : List String} (hn : ps.filterMap component? = names.map .normal)
    (h : ps.foldlM fs.walkPiece place = .ok place') : place' = place ++ names := by
  induction ps generalizing place names
  case nil =>
    cases h
    simp_all
  case cons piece ps ih =>
    rw [List.foldlM_cons, bind_eq_ok_iff] at h
    have ⟨next, hw, h⟩ := h
    obtain ⟨_, ⟨hc, hnext⟩ | ⟨hc, _⟩ | ⟨hc, hnext⟩⟩ := walkPiece_cases hw
    · rw [List.filterMap_cons_none hc] at hn
      exact hnext ▸ ih hn h
    · rw [List.filterMap_cons_some hc] at hn
      cases names <;> simp at hn
    · rw [List.filterMap_cons_some hc] at hn
      cases names
      case nil => simp at hn
      case cons name names =>
        have ⟨hname, hn⟩ : piece = name ∧ ps.filterMap component? = names.map .normal := by
          simpa using hn
        rw [ih hn h, hnext, hname, List.append_assoc, List.singleton_append]

theorem foldlM_of_locate (h : fs.locate path = .ok place) :
    (pieces path).foldlM fs.walkPiece (if isAbsolute path then [] else fs.cwd) = .ok place := by
  simp only [locate, throw, throwThe, MonadExceptOf.throw, Bind.bind, Except.bind] at h
  split at h
  case isTrue => cases h
  case isFalse =>
    split at h
    case isTrue => cases h
    case isFalse => exact h

theorem locate_eq (hn : body path = names.map .normal) (h : fs.locate path = .ok place) :
    place = (if isAbsolute path then [] else fs.cwd) ++ names :=
  foldlM_walkPiece hn (foldlM_of_locate h)

end FileSystem
end ProposalLint
