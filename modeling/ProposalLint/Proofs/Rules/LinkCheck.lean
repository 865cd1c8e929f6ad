import Mathlib.Data.List.Basic
import ProposalLint.Proofs.Lookup
import ProposalLint.Rules.LinkCheck

namespace ProposalLint.Rules

open Url

-- The replies of the servers: what they answer to a request for the head or for everything.
abbrev Replies := WebMethod → (url : String) → Option Nat

-- What becomes of an address by the replies of its server.
def LinkStatus.of (web : Replies) (a : Address) : LinkStatus :=
  match web .head a.requestText with
  | none => .unreachable
  | some head =>
    if Checker.isSuccess head then .fine
    else
      match web .get a.requestText with
      | none => .unreachable
      | some status => if Checker.isSuccess status then .fineWithGet head else .failed status

-- The requests that it takes to find that out.
def methods (web : Replies) (a : Address) : List WebMethod :=
  .head :: if (web .head a.requestText).any (!Checker.isSuccess ·) then [.get] else []

def Check.isBusy (c : Check) : Bool :=
  match c.stage with
  | .asking | .retrying _ => true
  | _ => false

def Check.status? (c : Check) : Option LinkStatus :=
  match c.stage with
  | .finished s | .joined s => some s
  | _ => none

-- What the cell of an address can be next to the requests that were made for the address and the
-- checks that are busy with it.
inductive Cell.Sound (web : Replies) (text : String) :
    Option Cell → List (WebMethod × Address) → List Check → Prop
  | missing : Sound web text none [] []
  | empty : Sound web text (some .empty) [] []
  | asking : (c.stage = .asking) → Sound web text (some .filling) [] [c]
  | retrying : (c.stage = .retrying head) → (web .head c.address.requestText = some head) →
      (Checker.isSuccess head = false) → Sound web text (some .filling) [(.head, c.address)] [c]
  | filled : (a.text = text) →
      Sound web text (some (.filled (.of web a))) ((methods web a).map (·, a)) []

namespace Cell.Sound

variable {web : Replies} {cell : Option Cell} {a : Address}

theorem of_unfilled (h : Cell.Sound web text cell requests busy)
    (hc : cell = none ∨ cell = some .empty) : requests = [] ∧ busy = [] := by
  cases h <;> simp_all

-- Only one check can be busy with an address, and its stage tells the requests.
theorem of_busy (h : Cell.Sound web text cell requests (before ++ [c] ++ after)) :
    cell = some .filling ∧ (before = [] ∧ after = []) ∧ ((c.stage = .asking ∧ requests = []) ∨
      ∃ head, c.stage = .retrying head ∧ web .head c.address.requestText = some head ∧
        Checker.isSuccess head = false ∧ requests = [(.head, c.address)]) := by
  generalize hb : before ++ [c] ++ after = busy at h
  have hl := congrArg List.length hb
  simp only [List.length_append, List.length_singleton] at hl
  cases h
  case missing | empty | filled => simp at hl
  case asking | retrying =>
    have hn : before = [] ∧ after = [] := by
      simp only [List.length_singleton] at hl
      exact ⟨List.eq_nil_of_length_eq_zero (by omega), List.eq_nil_of_length_eq_zero (by omega)⟩
    simp_all

-- A cell that is filled says what its address is like, by the requests that it takes to find out.
theorem of_filled (h : Cell.Sound web a.text (some (.filled s)) requests busy) :
    s = .of web a ∧ requests.map (·.1) = methods web a := by
  cases h
  case filled ht => simp [LinkStatus.of, methods, Address.requestText, ht, Function.comp_def]

-- Where nobody is busy, what was asked has been answered.
theorem filled_of_asked (h : Cell.Sound web text cell requests []) (hr : requests ≠ []) :
    ∃ s, cell = some (.filled s) := by
  cases h
  case missing | empty => exact (hr rfl).elim
  case filled => exact ⟨_, rfl⟩

end Cell.Sound

namespace Checker

variable {world : World} {k : Checker} {c : Check} {before after cs : List Check} {text : String}

def cell? (k : Checker) (text : String) : Option Cell :=
  k.cells.lookup text

def requestsFor (k : Checker) (text : String) : List (WebMethod × Address) :=
  k.requests.filter (·.2.text = text)

def busyWith (cs : List Check) (text : String) : List Check :=
  cs.filter fun c => c.isBusy && c.address.text = text

structure Sound (world : World) (k : Checker) (cs : List Check) : Prop where
  cells   : ∀ text, Cell.Sound world.web text (k.cell? text) (k.requestsFor text) (busyWith cs text)
  settled : ∀ c ∈ cs, ∀ s ∈ c.status?, k.cell? c.address.text = some (.filled s)

theorem cell?_fill (k : Checker) (a : Address) (cell : Cell) (text : String) :
    (k.fill a cell).cell? text = if text = a.text then some cell else k.cell? text := by
  unfold cell? fill
  split
  case isTrue h => simp [h]
  case isFalse h => simpa [List.lookup_cons, beq_false_of_ne h] using lookup_filter_ne h

@[simp]
theorem requestsFor_fill (k : Checker) (a : Address) (cell : Cell) (text : String) :
    (k.fill a cell).requestsFor text = k.requestsFor text :=
  rfl

def asked (k : Checker) (m : WebMethod) (a : Address) : Checker :=
  { k with requests := k.requests ++ [(m, a)] }

@[simp]
theorem cell?_asked (k : Checker) (m : WebMethod) (a : Address) :
    (k.asked m a).cell? text = k.cell? text :=
  rfl

theorem requestsFor_asked (k : Checker) (m : WebMethod) (a : Address) (text : String) :
    (k.asked m a).requestsFor text =
      k.requestsFor text ++ if a.text = text then [(m, a)] else [] := by
  simp only [asked, requestsFor, List.filter_append]
  split <;> simp_all

-- What a check can do in a step: what it makes of the cells and the requests, and the stage that it
-- gets to.
inductive Step (world : World) (k : Checker) (c : Check) : Checker → Stage → Prop
  | created : (c.stage = .looking) → (k.cell? c.address.text = none) →
      Step world k c (k.fill c.address .empty) .holding
  | found : (c.stage = .looking) → (k.cell? c.address.text = some cell) → Step world k c k .holding
  | waiting : (c.stage = .holding) → (k.cell? c.address.text = some .filling) →
      Step world k c k .holding
  | copied : (c.stage = .holding) → (k.cell? c.address.text = some (.filled s)) →
      Step world k c k (.finished s)
  | started : (c.stage = .holding) →
      (k.cell? c.address.text = none ∨ k.cell? c.address.text = some .empty) →
      Step world k c (k.fill c.address .filling) .asking
  | refused : (c.stage = .asking) → (world.web .head c.address.requestText = some head) →
      (isSuccess head = false) → Step world k c (k.asked .head c.address) (.retrying head)
  | answered : (c.stage = .asking) → (methods world.web c.address = [.head]) →
      (s = .of world.web c.address) →
      Step world k c ((k.asked .head c.address).fill c.address (.filled s)) (.finished s)
  -- Why the check tries again is known only from its history.
  | retried : (c.stage = .retrying head) →
      (world.web .head c.address.requestText = some head → isSuccess head = false →
        s = .of world.web c.address) →
      Step world k c ((k.asked .get c.address).fill c.address (.filled s)) (.finished s)
  | joined : (c.stage = .finished s) → Step world k c k (.joined s)
  | idle : (c.stage = .joined s) → Step world k c k (.joined s)

theorem step_cases (world : World) (k : Checker) (c : Check) :
    ∃ k' stage, k.step world c = (k', { c with stage := stage }) ∧ Step world k c k' stage := by
  obtain ⟨a, stage⟩ := c
  cases stage
  case looking =>
    cases hc : k.cell? a.text
    case none => exact ⟨_, _, by rw [step, ← cell?, hc]; rfl, .created rfl hc⟩
    case some => exact ⟨_, _, by rw [step, ← cell?, hc]; rfl, .found rfl hc⟩
  case holding =>
    rcases hc : k.cell? a.text with _ | _ | _ | s
    · exact ⟨_, _, by rw [step, ← cell?, hc], .started rfl (.inl hc)⟩
    · exact ⟨_, _, by rw [step, ← cell?, hc], .started rfl (.inr hc)⟩
    · exact ⟨_, _, by rw [step, ← cell?, hc], .waiting rfl hc⟩
    · exact ⟨_, _, by rw [step, ← cell?, hc], .copied rfl hc⟩
  case asking =>
    cases hw : world.web .head a.requestText
    case none =>
      refine ⟨_, _, by simp only [step, ask, hw]; rfl, .answered rfl ?_ ?_⟩
      all_goals simp [methods, LinkStatus.of, hw]
    case some head =>
      cases hs : isSuccess head
      case true =>
        refine ⟨_, _, by simp only [step, ask, hw, hs, if_true]; rfl, .answered rfl ?_ ?_⟩
        all_goals simp [methods, LinkStatus.of, hw, hs]
      case false =>
        refine ⟨_, _, ?_, .refused rfl hw hs⟩
        simp [step, ask, hw, hs, asked]
  case retrying head =>
    cases hw : world.web .get a.requestText
    all_goals
      refine ⟨_, _, by simp only [step, ask, hw]; rfl, .retried rfl fun hh hs => ?_⟩
      simp [LinkStatus.of, hh, hs, hw]
  case finished s => exact ⟨_, _, rfl, .joined rfl⟩
  case joined s => exact ⟨_, _, rfl, .idle rfl⟩

-- A step of a check leaves other addresses alone.
theorem Step.frame (h : Step world k c k' stage) (ht : text ≠ c.address.text) :
    k'.cell? text = k.cell? text ∧ k'.requestsFor text = k.requestsFor text := by
  cases h <;> simp [cell?_fill, requestsFor_asked, ht, ht.symm]

theorem busyWith_middle (before after : List Check) (c : Check) (text : String) :
    busyWith (before ++ c :: after) text =
      busyWith before text ++ busyWith [c] text ++ busyWith after text := by
  simp [busyWith, List.filter_cons]
  split <;> simp

theorem busyWith_self (c : Check) :
    busyWith [c] c.address.text = if c.isBusy then [c] else [] := by
  simp [busyWith, List.filter_cons]

theorem busyWith_other (h : text ≠ c.address.text) : busyWith [c] text = [] := by
  simp [busyWith, h.symm]

-- A step of a check keeps what is known about its own address.
theorem Step.cell (h : Step world k c k' stage)
    (hs : Cell.Sound world.web c.address.text (k.cell? c.address.text)
      (k.requestsFor c.address.text) (bs ++ (if c.isBusy then [c] else []) ++ as)) :
    let c' : Check := { c with stage := stage }
    Cell.Sound world.web c.address.text (k'.cell? c.address.text) (k'.requestsFor c.address.text)
      (bs ++ (if c'.isBusy then [c'] else []) ++ as) := by
  have filled : Cell.Sound world.web c.address.text (some (.filled (.of world.web c.address)))
      ((methods world.web c.address).map (·, c.address)) [] := .filled rfl
  cases h
  case found ht _ | waiting ht _ | copied ht _ | joined ht | idle ht =>
    simpa [Check.isBusy, ht] using hs
  case created ht hc =>
    have ⟨hr, hb⟩ := hs.of_unfilled (.inl hc)
    have hb : bs = [] ∧ as = [] := by simpa [Check.isBusy, ht] using hb
    simpa [Check.isBusy, cell?_fill, hr, hb] using .empty
  case started ht hc =>
    have ⟨hr, hb⟩ := hs.of_unfilled hc
    have hb : bs = [] ∧ as = [] := by simpa [Check.isBusy, ht] using hb
    simpa [Check.isBusy, cell?_fill, hr, hb] using .asking rfl
  case refused head ht hw hf =>
    rw [if_pos (by simp [Check.isBusy, ht])] at hs
    have ⟨hc, hb, hr⟩ := hs.of_busy
    have hr : k.requestsFor c.address.text = [] := by simpa [ht] using hr
    simpa [Check.isBusy, requestsFor_asked, hc, hr, hb] using
      .retrying (c := { c with stage := .retrying head }) rfl hw hf
  case answered ht hm he =>
    rw [if_pos (by simp [Check.isBusy, ht])] at hs
    have ⟨_, hb, hr⟩ := hs.of_busy
    have hr : k.requestsFor c.address.text = [] := by simpa [ht] using hr
    simpa [Check.isBusy, cell?_fill, requestsFor_asked, hr, hb, he, hm] using filled
  case retried head s ht he =>
    rw [if_pos (by simp [Check.isBusy, ht])] at hs
    have ⟨_, hb, hr⟩ := hs.of_busy
    have ⟨hw, hf, hr⟩ : world.web .head c.address.requestText = some head ∧
        isSuccess head = false ∧ k.requestsFor c.address.text = [(.head, c.address)] := by
      simpa [ht] using hr
    have hm : methods world.web c.address = [.head, .get] := by simp [methods, hw, hf]
    simpa [Check.isBusy, cell?_fill, requestsFor_asked, hr, hb, he hw hf, hm] using filled

-- Once a cell is filled, it stays as it is.
theorem Step.filled (h : Step world k c k' stage)
    (hs : Cell.Sound world.web c.address.text (k.cell? c.address.text)
      (k.requestsFor c.address.text) (bs ++ (if c.isBusy then [c] else []) ++ as))
    (hf : k.cell? c.address.text = some (.filled status)) :
    k'.cell? c.address.text = some (.filled status) := by
  cases h
  case found | waiting | copied | joined | idle => exact hf
  case created hc => simp [hc] at hf
  case started hc => simp [hf] at hc
  case refused ht _ _ | answered ht _ _ | retried ht _ =>
    rw [if_pos (by simp [Check.isBusy, ht])] at hs
    simp [hs.of_busy.left] at hf

-- A check that has a status has it from its cell.
theorem Step.status (h : Step world k c k' stage)
    (hs : ∀ s ∈ c.status?, k.cell? c.address.text = some (.filled s)) :
    ∀ s ∈ Check.status? { c with stage := stage }, k'.cell? c.address.text = some (.filled s) := by
  cases h
  case copied hc => simpa [Check.status?] using hc
  case answered | retried => simp [Check.status?, cell?_fill]
  case joined ht | idle ht => simpa [Check.status?, ht] using hs
  all_goals simp [Check.status?]

namespace Sound

theorem step (h : Sound world k (before ++ c :: after)) :
    Sound world (k.step world c).1 (before ++ (k.step world c).2 :: after) := by
  have ⟨k', stage, he, hstep⟩ := step_cases world k c
  have hcell := h.cells c.address.text
  rw [busyWith_middle, busyWith_self] at hcell
  have keeps {text : String} {status : LinkStatus} (hf : k.cell? text = some (.filled status)) :
      k'.cell? text = some (.filled status) := by
    by_cases ht : text = c.address.text
    case pos => exact ht ▸ hstep.filled hcell (ht ▸ hf)
    case neg => exact (hstep.frame ht).left.trans hf
  have hsettled := h.settled
  simp only [List.forall_mem_append, List.forall_mem_cons] at hsettled
  have ⟨hsb, hsc, hsa⟩ := hsettled
  rw [he]
  constructor
  case cells =>
    intro text
    rw [busyWith_middle]
    by_cases ht : text = c.address.text
    case pos =>
      subst ht
      rw [busyWith_self { c with stage := stage }]
      exact hstep.cell hcell
    case neg =>
      have ⟨hk, hr⟩ := hstep.frame ht
      have := h.cells text
      rwa [busyWith_middle, busyWith_other ht, ← hk, ← hr,
        ← busyWith_other (c := { c with stage := stage }) ht] at this
  case settled =>
    simp only [List.forall_mem_append, List.forall_mem_cons]
    exact ⟨fun d hd s hs => keeps (hsb d hd s hs), hstep.status hsc,
      fun d hd s hs => keeps (hsa d hd s hs)⟩

theorem stepAt (h : Sound world k cs) (i : Nat) :
    Sound world (k.stepAt world cs i).1 (k.stepAt world cs i).2 := by
  unfold Checker.stepAt
  split
  case h_1 c hc =>
    have ⟨hi, hc⟩ := List.getElem?_eq_some_iff.mp hc
    rw [← List.take_append_drop i cs, List.drop_eq_getElem_cons hi, hc] at h
    dsimp only
    rw [List.set_eq_take_append_cons_drop, if_pos hi]
    exact h.step
  case h_2 => exact h

theorem follow (h : Sound world k cs) (turns : List Nat) :
    Sound world (k.follow world cs turns).1 (k.follow world cs turns).2 := by
  induction turns generalizing k cs
  case nil => exact h
  case cons i turns ih => exact ih (h.stepAt i)

end Sound

-- Steps that are left for a check that does not have to wait.
def rank : Stage → Nat
  | .looking => 5
  | .holding => 4
  | .asking => 3
  | .retrying _ => 2
  | .finished _ => 1
  | .joined _ => 0

-- The check waits for its cell.
def Stuck (k : Checker) (c : Check) : Prop :=
  c.stage = .holding ∧ k.cell? c.address.text = some .filling

theorem Step.progress (h : Step world k c k' stage) :
    k.Stuck c ∨ rank stage ≤ rank c.stage - 1 := by
  cases h
  case waiting ht hc => exact .inl ⟨ht, hc⟩
  all_goals
    right
    simp_all [rank]

theorem step_of_stuck (h : k.Stuck c) : k.step world c = (k, c) := by
  obtain ⟨a, stage⟩ := c
  obtain ⟨ht, hc⟩ := h
  dsimp only at ht hc
  rw [ht, step, ← cell?, hc]

theorem stepAt_eq (hc : cs[i]? = some c) :
    k.stepAt world cs i = ((k.step world c).1, cs.set i (k.step world c).2) := by
  simp [stepAt, hc]

theorem follow_append (k : Checker) (cs : List Check) (turns turns' : List Nat) :
    k.follow world cs (turns ++ turns') =
      (k.follow world cs turns).1.follow world (k.follow world cs turns).2 turns' :=
  List.foldl_append

theorem follow_of_stuck (hc : cs[i]? = some c) (h : k.Stuck c) (n : Nat) :
    k.follow world cs (List.replicate n i) = (k, cs) := by
  have ⟨_, he⟩ := List.getElem?_eq_some_iff.mp hc
  have hstep : k.stepAt world cs i = (k, cs) := by
    rw [stepAt_eq hc, step_of_stuck h]
    simp [← he]
  induction n
  case zero => rfl
  case succ n ih => simpa [follow, List.replicate_succ, hstep] using ih

-- A check that goes on by itself either comes to wait or gets nearer to its end with each step.
theorem follow_replicate (hc : cs[i]? = some c) (n : Nat) :
    ∃ k' c', k.follow world cs (List.replicate n i) = (k', cs.set i c') ∧
      (k'.Stuck c' ∨ rank c'.stage ≤ rank c.stage - n) := by
  have ⟨hi, he⟩ := List.getElem?_eq_some_iff.mp hc
  induction n generalizing k cs c
  case zero => exact ⟨k, c, by simp [follow, ← he], .inr (Nat.le_refl _)⟩
  case succ n ih =>
    have ⟨k₁, stage, hs, hstep⟩ := step_cases world k c
    cases hstep.progress
    case inl hw => exact ⟨k, c, by simp [follow_of_stuck hc hw, ← he], .inl hw⟩
    case inr hr =>
      have ⟨k', c', hf, hp⟩ := @ih k₁ { c with stage := stage } (cs.set i { c with stage := stage })
        (by simp [hi]) (by simpa using hi) (by simp)
      refine ⟨k', c', ?_, hp.imp_right fun (hp : rank c'.stage ≤ rank stage - n) => by omega⟩
      simpa [follow, List.replicate_succ, stepAt_eq hc, hs] using hf

-- After its five steps a check is done, unless another one is busy with its address.
theorem follow_turn (world : World) (k : Checker) (hc : cs[i]? = some c) :
    ∃ k' c', k.follow world cs (List.replicate 5 i) = (k', cs.set i c') ∧ c'.isBusy = false ∧
      ((statusOf c').isSome ∨ k'.cell? c'.address.text = some .filling) := by
  have ⟨k', c', hf, hp⟩ := @follow_replicate world k c cs i hc 5
  refine ⟨k', c', hf, ?_⟩
  cases hp
  case inl hw => exact ⟨by simp [Check.isBusy, hw.left], .inr hw.right⟩
  case inr hr =>
    have : rank c.stage ≤ 5 := by cases c.stage <;> simp [rank]
    have hz : rank c'.stage = 0 := by omega
    cases hs : c'.stage
    case joined => exact ⟨by simp [Check.isBusy, hs], .inl (by simp [statusOf, hs])⟩
    all_goals simp [rank, hs] at hz

-- What each turn of the checks, one after another, carries on holds when all have had theirs.
theorem follow_turnsEach (world : World) {I : Nat → Checker → List Check → Prop} {n : Nat}
    (h : I 0 k cs) (hs : ∀ i < n, ∀ k cs, I i k cs →
      let r := k.follow world cs (List.replicate 5 i)
      I (i + 1) r.1 r.2) :
    I n (k.follow world cs (turnsEach n)).1 (k.follow world cs (turnsEach n)).2 := by
  induction n
  case zero => exact h
  case succ n ih =>
    have he : turnsEach (n + 1) = turnsEach n ++ List.replicate 5 n := by
      simp [turnsEach, List.range_succ]
    rw [he, follow_append]
    exact hs n n.lt_succ_self _ _ (ih fun i hi => hs i (Nat.lt_succ_of_lt hi))

theorem busyWith_eq_nil (h : ∀ c ∈ cs, c.isBusy = false) (text : String) :
    busyWith cs text = [] := by
  simp only [busyWith, List.filter_eq_nil_iff]
  intro c hc
  simp [h c hc]

theorem Sound.no_filling (h : Sound world k cs) (hb : ∀ c ∈ cs, c.isBusy = false) (text : String) :
    k.cell? text ≠ some .filling := by
  intro hc
  have := h.cells text
  rw [hc, busyWith_eq_nil hb] at this
  generalize k.requestsFor text = requests at this
  cases this

theorem follow_addresses (world : World) (k : Checker) (cs : List Check) (turns : List Nat) :
    (k.follow world cs turns).2.map (·.address) = cs.map (·.address) := by
  induction turns generalizing k cs
  case nil => rfl
  case cons i turns ih =>
    have hstep : (k.stepAt world cs i).2.map (·.address) = cs.map (·.address) := by
      cases hc : cs[i]?
      case none => simp [stepAt, hc]
      case some c =>
        have ⟨_, _, he, _⟩ := step_cases world k c
        have ha : (cs.map (·.address))[i]? = some c.address := by simp [hc]
        have ⟨_, ha⟩ := List.getElem?_eq_some_iff.mp ha
        rw [stepAt_eq hc, he, List.map_set, ← ha, List.set_getElem_self]
    exact (ih _ _).trans hstep

theorem follow_length (world : World) (k : Checker) (cs : List Check) (turns : List Nat) :
    (k.follow world cs turns).2.length = cs.length := by
  simpa using congrArg List.length (follow_addresses world k cs turns)

theorem take_set_succ (h : i < cs.length) (c : Check) :
    (cs.set i c).take (i + 1) = cs.take i ++ [c] := by
  rw [List.set_eq_take_append_cons_drop, if_pos h]
  simp [List.take_append, List.take_take, Nat.le_of_lt h]

-- A round in which every check goes on as far as it can leaves none of them busy.
theorem follow_round (world : World) (k : Checker) (cs : List Check) :
    ∀ c ∈ (k.follow world cs (turnsEach cs.length)).2, c.isBusy = false := by
  have h := follow_turnsEach world (k := k) (n := cs.length)
    (I := fun i _ ds => ds.length = cs.length ∧ ∀ c ∈ ds.take i, c.isBusy = false)
    ⟨rfl, by simp⟩ <| by
      intro i hi k ds ⟨hl, h⟩
      have hi : i < ds.length := hl ▸ hi
      have ⟨k', c', he, hb, _⟩ := follow_turn world k (List.getElem?_eq_getElem hi)
      rw [he]
      dsimp only
      rw [take_set_succ hi, List.length_set]
      exact ⟨hl, List.forall_mem_append.mpr ⟨h, by simpa using hb⟩⟩
  rw [List.take_of_length_le (Nat.le_of_eq h.left)] at h
  exact h.right

-- A round of checks none of which is busy takes all of them to their end.
theorem Sound.follow_round (h : Sound world k cs) (hb : ∀ c ∈ cs, c.isBusy = false) :
    ∀ c ∈ (k.follow world cs (turnsEach cs.length)).2, (statusOf c).isSome := by
  have h := follow_turnsEach world (n := cs.length)
    (I := fun i k ds => Sound world k ds ∧ ds.length = cs.length ∧ (∀ c ∈ ds, c.isBusy = false) ∧
      ∀ c ∈ ds.take i, (statusOf c).isSome)
    ⟨h, rfl, hb, by simp⟩ <| by
      intro i hi k ds ⟨h, hl, hb, hj⟩
      have hi : i < ds.length := hl ▸ hi
      have ⟨k', c', he, hb', hs⟩ := follow_turn world k (List.getElem?_eq_getElem hi)
      have hsound := h.follow (List.replicate 5 i)
      rw [he] at hsound ⊢
      have hidle : ∀ c ∈ ds.set i c', c.isBusy = false := by
        intro c hm
        cases List.mem_or_eq_of_mem_set hm
        case inl hm => exact hb c hm
        case inr he => exact he ▸ hb'
      -- Nobody is busy, so that nobody can be waited for.
      have hs : (statusOf c').isSome := hs.resolve_right (hsound.no_filling hidle _)
      dsimp only
      rw [take_set_succ hi, List.length_set]
      exact ⟨hsound, hl, hidle, List.forall_mem_append.mpr ⟨hj, by simpa using hs⟩⟩
  rw [List.take_of_length_le (Nat.le_of_eq h.right.left)] at h
  exact h.right.right.right

-- Whatever the turns are, all checks come to their end.
theorem Sound.runAll (h : Sound world k cs) (turns : List Nat) :
    let r := k.runAll world cs turns
    Sound world r.1 r.2 ∧ (∀ c ∈ r.2, (statusOf c).isSome) ∧
      r.2.map (·.address) = cs.map (·.address) := by
  refine ⟨h.follow _, ?_, follow_addresses ..⟩
  have h₁ := h.follow turns
  have h₂ := h₁.follow (turnsEach cs.length)
  have hl₁ := follow_length world k cs turns
  have hl₂ := follow_length world (k.follow world cs turns).1 (k.follow world cs turns).2
    (turnsEach cs.length)
  have hb := Checker.follow_round world (k.follow world cs turns).1
    (k.follow world cs turns).2
  rw [hl₁] at hb hl₂
  have := h₂.follow_round hb
  rw [hl₂] at this
  simpa only [Checker.runAll, follow_append] using this

theorem Step.requests (h : Step world k c k' stage) :
    ∃ new, k'.requests = k.requests ++ new ∧ ∀ r ∈ new, r.2 = c.address := by
  cases h
  case refused | answered | retried => exact ⟨[(_, c.address)], rfl, by simp⟩
  all_goals exact ⟨[], by simp [fill], by simp⟩

theorem follow_requests (world : World) (k : Checker) (cs : List Check) (turns : List Nat) :
    ∃ new, (k.follow world cs turns).1.requests = k.requests ++ new ∧
      ∀ r ∈ new, r.2 ∈ cs.map (·.address) := by
  induction turns generalizing k cs
  case nil => exact ⟨[], by simp [follow], by simp⟩
  case cons i turns ih =>
    have ⟨new', he', hm'⟩ := ih (k.stepAt world cs i).1 (k.stepAt world cs i).2
    have ha : (k.stepAt world cs i).2.map (·.address) = _ := follow_addresses world k cs [i]
    rw [ha] at hm'
    cases hc : cs[i]?
    case none =>
      have hs : k.stepAt world cs i = (k, cs) := by simp [stepAt, hc]
      exact ⟨new', by simpa [follow, hs] using he', hm'⟩
    case some c =>
      have ⟨k', stage, hs, hstep⟩ := step_cases world k c
      have ⟨new, he, hm⟩ := hstep.requests
      have ha : c.address ∈ cs.map (·.address) :=
        List.mem_map_of_mem (List.mem_of_getElem? hc)
      refine ⟨new ++ new', ?_, List.forall_mem_append.mpr ⟨fun r hr => hm r hr ▸ ha, hm'⟩⟩
      rw [stepAt_eq hc, hs] at he'
      simpa [follow, stepAt_eq hc, hs, he] using he'

theorem runAll_requests (world : World) (k : Checker) (cs : List Check) (turns : List Nat) :
    ∃ new, (k.runAll world cs turns).1.requests = k.requests ++ new ∧
      ∀ r ∈ new, r.2 ∈ cs.map (·.address) :=
  follow_requests ..

namespace Sound

theorem start (h : Sound world k []) (addresses : List Address) :
    Sound world k (addresses.map fun a => { address := a }) where
  cells text := by
    rw [busyWith_eq_nil (by simp [Check.isBusy])]
    exact h.cells text
  settled := by simp [Check.status?]

theorem finish (h : Sound world k cs) (hs : ∀ c ∈ cs, (statusOf c).isSome) : Sound world k [] where
  cells text := by
    have hb : ∀ c ∈ cs, c.isBusy = false := by
      intro c hc
      have := hs c hc
      cases ht : c.stage <;> simp_all [statusOf, Check.isBusy]
    have := h.cells text
    rwa [busyWith_eq_nil hb] at this
  settled := by simp

-- A check that has come to its end has found out what its address is like.
theorem status (h : Sound world k cs) (hc : c ∈ cs) (hs : statusOf c = some s) :
    s = .of world.web c.address ∧
      (k.requestsFor c.address.text).map (·.1) = methods world.web c.address := by
  have hj : c.status? = some s := by
    cases ht : c.stage <;> simp_all [statusOf, Check.status?]
  have hcell := h.cells c.address.text
  rw [h.settled c hc s hj] at hcell
  exact hcell.of_filled

theorem requestsFor_eq (h : Sound world k []) (hr : k.requestsFor a.text ≠ []) :
    (k.requestsFor a.text).map (·.1) = methods world.web a := by
  have hcell := h.cells a.text
  have ⟨s, hc⟩ := hcell.filled_of_asked hr
  rw [hc] at hcell
  exact hcell.of_filled.right

end Sound

end Checker
end ProposalLint.Rules
