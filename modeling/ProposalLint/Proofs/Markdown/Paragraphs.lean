import Mathlib.Data.List.Chain
import ProposalLint.Markdown.Tree

namespace ProposalLint

namespace Node

-- A paragraph that tells nothing but what it is around. It reaches from the start of the first node
-- in it to the end of the last one, if both have places.
structure IsAround (n : Node) (run : List Node) : Prop where
  kind     : n.kind = .paragraph
  payload  : n.payload = .none
  children : n.children = run
  position : ∀ first ∈ run.head?, ∀ last ∈ run.getLast?,
    n.position = first.position.bind fun p => last.position.map fun q => ⟨p.start, q.stop⟩

theorem IsAround.eq_branch (h : IsAround n run) (hr : run ≠ []) :
    n = branch .paragraph n.position .none run := by
  cases n
  case leaf => exact absurd h.children.symm hr
  case branch k p d cs =>
    have hk : k = .paragraph := h.kind
    have hd : d = .none := h.payload
    have hc : cs = run := h.children
    rw [hk, hd, hc]
    rfl

-- There is one paragraph around some nodes.
theorem IsAround.unique (hm : IsAround m run) (hn : IsAround n run) (hr : run ≠ []) : m = n := by
  have hf := List.head?_eq_some_head hr
  have hl := List.getLast?_eq_some_getLast hr
  have hp : m.position = n.position := (hm.position _ hf _ hl).trans (hn.position _ hf _ hl).symm
  rw [hm.eq_branch hr, hn.eq_branch hr, hp]

end Node

namespace Markdown

open Node

-- What stands in a row whose phrasing nodes were put into paragraphs: a node that was there before,
-- or a new paragraph.
inductive Child where
  | kept (n : Node)
  | created (paragraph : Node)

namespace Child

@[simp]
def node : Child → Node
  | kept n | created n => n

-- The nodes that stood in its place before.
@[simp]
def members : Child → List Node
  | kept n => [n]
  | created paragraph => paragraph.children

@[simp]
def isCreated : Child → Bool
  | kept _ => false
  | created _ => true

-- New paragraphs are put around phrasing nodes and around nothing else.
structure Sound (c : Child) : Prop where
  ne_nil   : c.members ≠ []
  phrasing : ∀ n ∈ c.members, n.kind.isPhrasing = c.isCreated
  around   : c.isCreated → c.node.IsAround c.members

end Child

-- The row as it was before.
def ungroup (children : List Child) : List Node :=
  children.flatMap Child.members

@[simp]
theorem ungroup_nil : ungroup [] = [] :=
  rfl

@[simp]
theorem ungroup_cons (c : Child) (cs : List Child) :
    ungroup (c :: cs) = c.members ++ ungroup cs := by
  simp [ungroup]

@[simp]
theorem ungroup_append (cs ds : List Child) : ungroup (cs ++ ds) = ungroup cs ++ ungroup ds := by
  simp [ungroup]

-- Phrasing nodes that stand in a row between others, and no phrasing node is next to them.
structure IsLongestRun (before run after : List Node) : Prop where
  ne_nil   : run ≠ []
  phrasing : ∀ n ∈ run, n.kind.isPhrasing
  starts   : ∀ n ∈ before.getLast?, ¬n.kind.isPhrasing
  stops    : ∀ n ∈ after.head?, ¬n.kind.isPhrasing

-- A row of nodes with its phrasing nodes in new paragraphs, no two of which stand side by side.
structure Grouping (ns : List Node) (children : List Child) : Prop where
  ungroup : ungroup children = ns
  sound   : ∀ c ∈ children, c.Sound
  apart   : children.IsChain fun c d => c.isCreated → ¬d.isCreated

section

variable {before run after ms ns : List Node} {n : Node} {c d : Child} {cs ds : List Child}

theorem IsLongestRun.takeWhile_eq (h : IsLongestRun before run after) :
    (run ++ after).takeWhile (·.kind.isPhrasing) = run := by
  rw [List.takeWhile_append_of_pos h.phrasing]
  cases after
  case nil => simp
  case cons n after => simp [h.stops n rfl]

theorem paragraphOf_isAround (run : List Node) : (paragraphOf run).IsAround run := by
  refine ⟨rfl, rfl, rfl, fun first hf last hl => ?_⟩
  rw [Option.mem_def] at hf hl
  rw [paragraphOf, hf, hl]
  simp only [Option.bind_some]
  cases first.position <;> cases last.position <;> rfl

namespace Child

theorem sound_kept (h : ¬n.kind.isPhrasing) : (kept n).Sound where
  ne_nil := by simp
  phrasing := by simpa using h
  around := by simp

theorem sound_created (hr : run ≠ []) (h : ∀ n ∈ run, n.kind.isPhrasing) :
    (created (paragraphOf run)).Sound where
  ne_nil := hr
  phrasing := h
  around _ := paragraphOf_isAround run

-- No phrasing node is left outside of a paragraph.
theorem Sound.not_isPhrasing (h : c.Sound) : ¬c.node.kind.isPhrasing := by
  cases c
  case kept n => simpa using h.phrasing n (by simp)
  case created p =>
    have hk : p.kind = .paragraph := (h.around rfl).kind
    simp [hk, Kind.isPhrasing]

-- What a child stands for tells whether it is new, and tells two new ones apart.
theorem Sound.eq_of_members (hc : c.Sound) (hd : d.Sound) (hn : c.isCreated = d.isCreated)
    (h : c.members = d.members) : c = d := by
  cases c <;> cases d <;> simp only [isCreated, Bool.false_eq_true, Bool.true_eq_false] at hn
  case kept.kept => simpa using h
  case created.created p q =>
    have hq : q.IsAround (created p).members := h ▸ hd.around rfl
    exact congrArg created ((hc.around rfl).unique hq hc.ne_nil)

end Child

namespace Grouping

theorem nil : Grouping [] [] :=
  ⟨rfl, by simp, .nil⟩

theorem tail (h : Grouping ns (c :: cs)) : Grouping (Markdown.ungroup cs) cs :=
  ⟨rfl, (List.forall_mem_cons.mp h.sound).right, h.apart.tail⟩

-- A node that stays as it is divides a row.
theorem append_kept (hm : Grouping ms cs) (hn : ¬n.kind.isPhrasing) (hs : Grouping ns ds) :
    Grouping (ms ++ n :: ns) (cs ++ .kept n :: ds) where
  ungroup := by simp [hm.ungroup, hs.ungroup]
  sound := List.forall_mem_append.mpr
    ⟨hm.sound, List.forall_mem_cons.mpr ⟨Child.sound_kept hn, hs.sound⟩⟩
  apart := by
    refine List.isChain_append.mpr ⟨hm.apart, List.isChain_cons.mpr ⟨?_, hs.apart⟩, ?_⟩
    · simp
    · simp

-- A row without phrasing nodes is in groups already.
theorem map_kept (h : ∀ n ∈ ns, ¬n.kind.isPhrasing) : Grouping ns (ns.map .kept) := by
  induction ns
  case nil => exact .nil
  case cons n ns ih =>
    have ⟨hn, hns⟩ := List.forall_mem_cons.mp h
    exact append_kept .nil hn (ih hns)

-- The nodes next to a new paragraph stay as they are, so they are no phrasing nodes.
theorem isLongestRun (h : Grouping ns (cs ++ c :: ds)) (hc : c.isCreated) :
    IsLongestRun (Markdown.ungroup cs) c.members (Markdown.ungroup ds) where
  ne_nil := (h.sound c (by simp)).ne_nil
  phrasing n hn := ((h.sound c (by simp)).phrasing n hn).trans hc
  starts := by
    obtain rfl | ⟨cs, d, rfl⟩ := cs.eq_nil_or_concat'
    case inl => simp
    case inr =>
      have hd : d.Sound := h.sound d (by simp)
      have hdc : d.isCreated → ¬c.isCreated :=
        (List.isChain_append.mp h.apart).right.right d (by simp) c rfl
      intro n hn
      rw [ungroup_append, ungroup_cons, ungroup_nil, List.append_nil,
        List.getLast?_append_of_ne_nil _ hd.ne_nil] at hn
      rw [hd.phrasing n (List.mem_of_getLast? hn)]
      exact fun h => hdc h hc
  stops := by
    cases ds
    case nil => simp
    case cons d ds =>
      have hd : d.Sound := h.sound d (by simp)
      have hcd : c.isCreated → ¬d.isCreated :=
        (List.isChain_cons_cons.mp (List.isChain_append.mp h.apart).right.left).left
      intro n hn
      rw [ungroup_cons, List.head?_append_of_ne_nil _ hd.ne_nil] at hn
      rw [hd.phrasing n (List.mem_of_head? hn)]
      exact hcd hc

-- The first node of a row tells whether the first child is new and what it stands for.
theorem members_eq (h : Grouping ns (c :: cs)) : ∃ n ∈ ns.head?, c.isCreated = n.kind.isPhrasing ∧
    c.members = if n.kind.isPhrasing then ns.takeWhile (·.kind.isPhrasing) else [n] := by
  have hs : c.Sound := h.sound c (by simp)
  have hns : c.members ++ Markdown.ungroup cs = ns := by simpa using h.ungroup
  obtain ⟨n, rest, hm⟩ := List.exists_cons_of_ne_nil hs.ne_nil
  have hn : n.kind.isPhrasing = c.isCreated := hs.phrasing n (hm ▸ List.mem_cons_self)
  have hf : n ∈ ns.head? := by rw [← hns, hm, List.cons_append, List.head?_cons, Option.mem_def]
  refine ⟨n, hf, hn.symm, ?_⟩
  split
  case isTrue hp =>
    have hr : IsLongestRun (Markdown.ungroup []) c.members (Markdown.ungroup cs) :=
      isLongestRun h (hn ▸ hp)
    rw [← hns, hr.takeWhile_eq]
  case isFalse hp =>
    cases c
    case kept => simp_all
    case created => exact absurd hn hp

-- A row can be grouped in one way only.
theorem unique (hc : Grouping ns cs) (hd : Grouping ns ds) : cs = ds := by
  induction cs generalizing ns ds
  case nil =>
    cases ds
    case nil => rfl
    case cons d ds =>
      have ⟨n, hn, _⟩ := hd.members_eq
      simp [← hc.ungroup] at hn
  case cons c cs ih =>
    have ⟨n, hn, hcn, hcm⟩ := hc.members_eq
    cases ds
    case nil => simp [← hd.ungroup] at hn
    case cons d ds =>
      have ⟨m, hm, hdm, hdms⟩ := hd.members_eq
      obtain rfl : n = m := Option.mem_unique hn hm
      have hcd : c = d := (hc.sound c (by simp)).eq_of_members (hd.sound d (by simp))
        (hcn.trans hdm.symm) (hcm.trans hdms.symm)
      have hu : c.members ++ Markdown.ungroup cs = d.members ++ Markdown.ungroup ds := by
        simpa using hc.ungroup.trans hd.ungroup.symm
      have ht : Markdown.ungroup ds = Markdown.ungroup cs :=
        (List.append_cancel_left (hcd ▸ hu)).symm
      rw [hcd, ih hc.tail (ht ▸ hd.tail)]

end Grouping

theorem closeRun_grouping (h : ∀ n ∈ run, n.kind.isPhrasing) :
    ∃ children, Grouping run children ∧ children.map Child.node = closeRun run := by
  unfold closeRun
  split
  case isTrue hr => exact ⟨[], List.isEmpty_iff.mp hr ▸ .nil, rfl⟩
  case isFalse hr =>
    have hs := Child.sound_created (by simpa using hr) h
    refine ⟨[.created (paragraphOf run)], ⟨?_, by simpa using hs, .singleton _⟩, rfl⟩
    simp [paragraphOf, Node.children]

-- The run that the loop holds goes into a paragraph with the phrasing nodes that come next.
theorem wrapFrom_grouping (h : ∀ n ∈ run, n.kind.isPhrasing) :
    ∃ children, Grouping (run ++ ns) children ∧ children.map Child.node = wrapFrom run ns := by
  fun_induction wrapFrom run ns
  case case1 run => simpa using closeRun_grouping h
  case case2 run n ns hn ih =>
    have hr : ∀ m ∈ run ++ [n], m.kind.isPhrasing :=
      List.forall_mem_append.mpr ⟨h, by simpa using hn⟩
    simpa using ih hr
  case case3 run n ns hn ih =>
    have ⟨cs, hc, hcn⟩ := closeRun_grouping h
    have ⟨ds, hd, hdn⟩ := ih (by simp)
    exact ⟨cs ++ .kept n :: ds, hc.append_kept hn hd, by simp [hcn, hdn]⟩

theorem exists_grouping (ns : List Node) :
    ∃ children, Grouping ns children ∧ children.map Child.node = wrapPhrasing ns :=
  wrapFrom_grouping (List.forall_mem_nil _)

theorem not_isPhrasing_of_mem_wrapPhrasing (h : n ∈ wrapPhrasing ns) : ¬n.kind.isPhrasing := by
  have ⟨cs, hc, hn⟩ := exists_grouping ns
  rw [← hn] at h
  obtain ⟨c, hm, rfl⟩ := List.mem_map.mp h
  exact (hc.sound c hm).not_isPhrasing

-- There is nothing to do if there are no phrasing nodes.
theorem wrapPhrasing_eq_self (h : ∀ n ∈ ns, ¬n.kind.isPhrasing) : wrapPhrasing ns = ns := by
  have ⟨cs, hc, hn⟩ := exists_grouping ns
  rw [← hn, hc.unique (.map_kept h)]
  simp [Function.comp_def]

-- Nothing is lost and nothing is moved when phrasing nodes are put into paragraphs. Among the nodes
-- that come of it some are new, and the row that was there before is what they hold, in their place.
-- Each new one is around a longest run of phrasing nodes, and there is no other way to group the row
-- like that. No phrasing nodes are left, so doing it again changes nothing.
theorem wrapPhrasing_lossless (ns : List Node) :
    (∃ children, children.map Child.node = wrapPhrasing ns ∧ Grouping ns children ∧
      (∀ others, Grouping ns others → others = children) ∧
      ∀ before p after, children = before ++ .created p :: after →
        ns = ungroup before ++ p.children ++ ungroup after ∧
        IsLongestRun (ungroup before) p.children (ungroup after) ∧ p.IsAround p.children) ∧
      (∀ n ∈ wrapPhrasing ns, ¬n.kind.isPhrasing) ∧
      wrapPhrasing (wrapPhrasing ns) = wrapPhrasing ns := by
  have ⟨cs, hc, hn⟩ := exists_grouping ns
  have hp : ∀ n ∈ wrapPhrasing ns, ¬n.kind.isPhrasing :=
    fun _ => not_isPhrasing_of_mem_wrapPhrasing
  refine ⟨⟨cs, hn, hc, fun _ ho => ho.unique hc, ?runs⟩, hp, wrapPhrasing_eq_self hp⟩
  case runs =>
    rintro before p after rfl
    refine ⟨?_, hc.isLongestRun rfl, (hc.sound (.created p) (by simp)).around rfl⟩
    simpa using hc.ungroup.symm

-- A paragraph that was there before stays as it is, also next to a new one.
example (text paragraph : Node) (ht : text.kind = .text) (hp : paragraph.kind = .paragraph) :
    wrapPhrasing [text, paragraph, text, text] =
      [paragraphOf [text], paragraph, paragraphOf [text, text]] := by
  simp [wrapPhrasing, wrapFrom, closeRun, ht, hp, Kind.isPhrasing]

end
end Markdown
end ProposalLint
