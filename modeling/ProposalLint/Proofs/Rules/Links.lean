import ProposalLint.Proofs.Rules.Catalogue
import ProposalLint.Proofs.Rules.LinkCheck
import ProposalLint.Proofs.Rules.Lone

namespace ProposalLint

namespace Rules

open Url Checker

-- What is said about an address that is not fine.
def LinkStatus.complaint? (url : String) : LinkStatus → Option String
  | fine | fineWithGet _ => none
  | failed status =>
    some ("Url \"" ++ url ++ "\" is invalid, the server responded with " ++ toString status)
  | unreachable =>
    some ("Url \"" ++ url ++
      "\" is invalid, the server doesn't exist or there's no internet access.")

-- The finding about a link, if it is one to another place and its server does not answer well.
def brokenLink? (world : World) (n : Node) : Option Finding := do
  if !isLink n then none
  let url ← n.url
  let text ← (LinkStatus.of world.web (← externalAddress? world.address? url)).complaint? url
  some ⟨n, text⟩

def brokenLinks (world : World) (root : Node) : List Finding :=
  root.preorder.filterMap (brokenLink? world)

-- What is recorded of telling a status.
def told (t : Target) (s : LinkStatus) : Effect :=
  ((tell t s).alone "" 0 {}).effect

theorem tell_alone (t : Target) (s : LinkStatus) (k : Checker) :
    (tell t s).alone rule count k = ⟨.ok (), k, told t s⟩ := by
  cases s <;> rfl

theorem told_findings (t : Target) (s : LinkStatus) :
    (told t s).findings = (s.complaint? t.url).toList.map (⟨t.node, ·⟩) := by
  cases s <;> rfl

theorem told_requests (t : Target) (s : LinkStatus) : (told t s).requests = [] := by
  cases s <;> rfl

-- The check that a node calls for.
def target? (address? : Parser) (n : Node) : Option Target := do
  if !isLink n then none
  let url ← n.url
  some ⟨url, ← externalAddress? address? url, n⟩

theorem targets_eq (address? : Parser) (v : Visit) :
    targets address? v = v.node.preorder.filterMap (target? address?) := by
  rw [← v.map_node_walk, List.filterMap_map]
  rfl

theorem brokenLink?_eq (world : World) (n : Node) : (brokenLink? world n).toList =
    (target? world.address? n).toList.flatMap fun t =>
      (told t (.of world.web t.address)).findings := by
  unfold brokenLink? target?
  split
  case isTrue => rfl
  case isFalse =>
    cases n.url
    case none => rfl
    case some url =>
      cases ha : externalAddress? world.address? url
      case none => simp [ha]
      case some a =>
        simp [ha, told_findings]
        cases (LinkStatus.of world.web a).complaint? url <;> rfl

theorem brokenLinks_eq (world : World) (v : Visit) : brokenLinks world v.node =
    (targets world.address? v).flatMap fun t => (told t (.of world.web t.address)).findings := by
  rw [brokenLinks, targets_eq, List.filterMap_eq_flatMap_toList, List.filterMap_eq_flatMap_toList,
    List.flatMap_assoc]
  simp only [brokenLink?_eq]

-- What calls on some nodes make of the cells and the requests: the cells are settled, and what had
-- not been asked before has been.
structure Checked (world : World) (k : Checker) (vs : List Visit) (k' : Checker)
    (new : List (WebMethod × Address)) : Prop where
  sound    : Sound world k' []
  requests : k'.requests = k.requests ++ new
  wanted   : ∀ r ∈ new, ∃ v ∈ vs, r.2 ∈ (targets world.address? v).map (·.address)
  asked    : ∀ v ∈ vs, ∀ t ∈ targets world.address? v, k'.requestsFor t.address.text ≠ []

namespace Checked

theorem refl (h : Sound world k []) : Checked world k [] k [] where
  sound := h
  requests := by simp
  wanted := by simp
  asked := by simp

theorem trans (h₁ : Checked world k₁ vs₁ k₂ new₁) (h₂ : Checked world k₂ vs₂ k₃ new₂) :
    Checked world k₁ (vs₁ ++ vs₂) k₃ (new₁ ++ new₂) where
  sound := h₂.sound
  requests := by simp [h₂.requests, h₁.requests]
  wanted r hr := by
    cases List.mem_append.mp hr
    case inl hr =>
      have ⟨v, hv, hm⟩ := h₁.wanted r hr
      exact ⟨v, List.mem_append_left _ hv, hm⟩
    case inr hr =>
      have ⟨v, hv, hm⟩ := h₂.wanted r hr
      exact ⟨v, List.mem_append_right _ hv, hm⟩
  asked v hv t ht := by
    cases List.mem_append.mp hv
    -- Requests are never forgotten.
    case inl hv =>
      rw [requestsFor, h₂.requests, List.filter_append]
      exact List.append_ne_nil_of_left_ne_nil (h₁.asked v hv t ht) _
    case inr hv => exact h₂.asked v hv t ht

end Checked

-- The checks of a call are over, and each of them has found out what the address of its link is
-- like.
structure Joined (web : Replies) (ts : List Target) (checks : List Check) : Prop where
  length : checks.length = ts.length
  status : ∀ p ∈ ts.zip checks, statusOf p.2 = some (.of web p.1.address)

theorem ask_alone (requests : List (WebMethod × Address)) (k : Checker) :
    (requests.forM fun (m, a) => Action.request (requestLine m a)).alone rule count k =
      ⟨.ok (), k, { requests := requests.map fun (m, a) => requestLine m a }⟩ := by
  rw [Action.alone_forM (fun (m, a) => { requests := [requestLine m a] }) (by simp)]
  congr 1
  induction requests
  case nil => rfl
  case cons r requests ih =>
    rw [List.map_cons, Effect.all_cons, ih]
    rfl

theorem tell_all_alone (h : Joined web ts checks) (k : Checker) :
    ((ts.zip checks).forM fun (t, check) => (statusOf check).forM (tell t)).alone rule count k =
      ⟨.ok (), k, Effect.all (ts.map fun t => told t (.of web t.address))⟩ := by
  have one : ∀ p ∈ ts.zip checks, ∀ count, ((statusOf p.2).forM (tell p.1)).alone rule count k =
      ⟨.ok (), k, told p.1 (.of web p.1.address)⟩ := by
    intro p hp count
    rw [h.status p hp]
    exact tell_alone ..
  rw [Action.alone_forM (fun (t, _) => told t (.of web t.address)) one]
  have hz : (ts.zip checks).map (·.1) = ts := List.map_fst_zip (Nat.le_of_eq h.length.symm)
  rw [← hz, List.map_map, hz]
  rfl

theorem runAll_checked (h : Sound world k []) (v : Visit) :
    let checks := (targets world.address? v).map fun t => { address := t.address }
    let r := k.runAll world checks (world.turns v.id)
    ∃ new, Checked world k [v] r.1 new ∧ Joined world.web (targets world.address? v) r.2 := by
  intro checks r
  have hstart := h.start ((targets world.address? v).map (·.address))
  rw [List.map_map] at hstart
  obtain ⟨hs, hj, ha⟩ := hstart.runAll (world.turns v.id)
  obtain ⟨new, hr, hm⟩ := runAll_requests world k checks (world.turns v.id)
  have ha : r.2.map (·.address) = (targets world.address? v).map (·.address) := by
    simpa [Function.comp_def] using ha
  have found {check : Check} (hc : check ∈ r.2) :
      statusOf check = some (.of world.web check.address) ∧
        (r.1.requestsFor check.address.text).map (·.1) = methods world.web check.address := by
    obtain ⟨s, he⟩ := Option.isSome_iff_exists.mp (hj check hc)
    obtain ⟨hof, hm⟩ := hs.status hc he
    exact ⟨hof ▸ he, hm⟩
  refine ⟨new, ⟨hs.finish hj, hr, ?wanted, ?asked⟩, ⟨?length, ?status⟩⟩
  case wanted => simpa [checks, Function.comp_def] using hm
  case asked =>
    simp only [List.forall_mem_singleton]
    intro t ht
    have ht : t.address ∈ r.2.map (·.address) := ha ▸ List.mem_map_of_mem ht
    obtain ⟨check, hc, he⟩ := List.mem_map.mp ht
    have := (found hc).right
    rw [← he]
    intro hn
    simp [hn, methods] at this
  case length => simpa using congrArg List.length ha
  case status =>
    intro p hp
    obtain ⟨i, hi⟩ := List.getElem?_of_mem hp
    obtain ⟨ht, hc⟩ := List.getElem?_zip_eq_some.mp hi
    have he : p.2.address = p.1.address := by simpa [ht, hc] using congrArg (·[i]?) ha
    exact he ▸ (found (List.mem_of_getElem? hc)).left

-- Whatever the turns are, a call reports the broken links under its node.
theorem checkLinks_alone (h : Sound world k []) (v : Visit) (rule : String) (count : Nat) :
    ∃ k' new effect, (checkLinks world v).alone rule count k = ⟨.ok (), k', effect⟩ ∧
      Checked world k [v] k' new ∧ effect.findings = brokenLinks world v.node ∧
      effect.requests = new.map fun (m, a) => requestLine m a := by
  have ⟨new, hc, hj⟩ := runAll_checked h v
  let asked : Effect := { requests := new.map fun (m, a) => requestLine m a }
  let told := Effect.all ((targets world.address? v).map fun t => told t (.of world.web t.address))
  refine ⟨_, new, asked ++ told, ?_, hc, ?findings, ?requests⟩
  · simp only [checkLinks, Action.alone_bind, Action.alone_update, Ending.bind, hc.requests,
      List.drop_left, ask_alone, tell_all_alone hj]
    simp [Ending.after, asked, told]
  case findings => simp [asked, told, Effect.all, List.flatMap_map, brokenLinks_eq]
  case requests => simp [asked, told, Effect.all, List.flatMap_map, told_requests]

-- The rule on links in the course of a run.
def linkRule (world : World) (k : Checker) : ActiveRule :=
  ⟨"bad-link", Checker, k, [⟨"root", checkLinks world⟩]⟩

def isRoot (v : Visit) : Bool :=
  v.node.kind.name == "root"

-- What the rule on links says about a node.
def linkFindings (world : World) (v : Visit) : List Finding :=
  if isRoot v then brokenLinks world v.node else []

theorem linkRule_contribute (h : Sound world k []) (v : Visit) :
    ∃ k' new c, (linkRule world k).contribute v = (linkRule world k', c) ∧
      Checked world k ([v].filter isRoot) k' new ∧
      c.bare = ⟨v, "bad-link", none, { findings := linkFindings world v }⟩ ∧
      c.effect.requests = new.map fun (m, a) => requestLine m a := by
  have hsel : (Validator.mk "root" (checkLinks world)).selects v.node = isRoot v := by
    simp [Validator.selects, Selector.ofText, Selector.selects, isRoot]
  cases hr : isRoot v
  case false =>
    have hn : ¬(Validator.mk "root" (checkLinks world)).selects v.node := by simp [hsel, hr]
    refine ⟨k, [], _, ActiveRule.contribute_of_not_selects hn, ?_, ?_, rfl⟩
    · simpa [hr] using .refl h
    · simp [Contribution.bare, linkFindings, hr]
  case true =>
    have ⟨k', new, effect, ha, hc, hf, hq⟩ := checkLinks_alone h v "bad-link" 0
    refine ⟨k', new, ⟨v, "bad-link", none, effect⟩, ?_, by simpa [hr] using hc, ?_, hq⟩
    · rw [linkRule, ActiveRule.contribute_of_selects (by simp [hsel, hr]), ha]
      rfl
    · simp [Contribution.bare, linkFindings, hr, hf]

-- Through any number of calls the rule says what there is to say about each node.
theorem linkRule_contributions (h : Sound world k []) (vs : List Visit) :
    ∃ k' new, Checked world k (vs.filter isRoot) k' new ∧
      (contributions vs [linkRule world k]).map (·.bare) =
        (vs.map fun v => ⟨v, "bad-link", none, { findings := linkFindings world v }⟩) ∧
      (contributions vs [linkRule world k]).flatMap (·.effect.requests) =
        new.map fun (m, a) => requestLine m a := by
  induction vs generalizing k
  case nil => exact ⟨k, [], .refl h, rfl, rfl⟩
  case cons v vs ih =>
    have ⟨k₁, new₁, c, he, hc₁, hb₁, hr₁⟩ := linkRule_contribute h v
    have ⟨k', new, hc, hb, hr⟩ := ih hc₁.sound
    have hv : (v :: vs).filter isRoot = [v].filter isRoot ++ vs.filter isRoot := by
      rw [← List.filter_append, List.singleton_append]
    refine ⟨k', new₁ ++ new, ?_, ?_, ?_⟩
    · exact hv ▸ hc₁.trans hc
    · simp [contributions, he, hb, hb₁]
    · simp [contributions, he, hr, hr₁]

-- The only thing that can go wrong before a run begins: there are more permits than can be given out.
theorem badLink_setup (world : World) (limits : LinkLimits) (c : Context) :
    (badLink world limits).setup c = if maxPermits < limits.permits then .error .panic else
      .ok ⟨{}, [⟨"root", checkLinks world⟩]⟩ := by
  by_cases hp : maxPermits < limits.permits
  case pos =>
    simp only [Rule.setup, badLink, if_pos hp]
    rfl
  case neg =>
    simp only [Rule.setup, badLink, if_neg hp]
    rfl

theorem activate?_badLink (world : World) (limits : LinkLimits) (c : Context) :
    (badLink world limits).activate? c =
      if maxPermits < limits.permits then none else some (linkRule world {}) := by
  rw [Rule.activate?, badLink_setup]
  by_cases hp : maxPermits < limits.permits
  case pos => simp only [if_pos hp]
  case neg =>
    simp only [if_neg hp]
    rfl

theorem sound_empty (world : World) : Sound world {} [] where
  cells _ := .missing
  settled := by simp

end Rules

open Rules Url

-- The requests of a run that calls the rule on links on some nodes. No address is asked that is not
-- that of a link under one of them. Each address that is, told by its normal form, is asked for its
-- head once and, if the answer is no success, for everything once.
structure AskedOnce (world : World) (roots : List Visit)
    (requests : List (WebMethod × Address)) : Prop where
  wanted : ∀ r ∈ requests, ∃ v ∈ roots, r.2 ∈ (targets world.address? v).map (·.address)
  once   : ∀ v ∈ roots, ∀ t ∈ targets world.address? v,
    (requests.filter (·.2.text = t.address.text)).map (·.1) = methods world.web t.address

theorem Rules.Checked.askedOnce (h : Checked world {} vs k' new) : AskedOnce world vs new where
  wanted := h.wanted
  once v hv t ht := by
    have := h.sound.requestsFor_eq (h.asked v hv t ht)
    simpa [Checker.requestsFor, h.requests] using this

section Run

variable {names : List RuleName} {config : Config} {world : World} {settings : RuleSettings}

theorem RuleName.id_eq_badLink_iff {name : RuleName} :
    (name.rule world settings).id = "bad-link" ↔ name = .badLink := by
  cases name <;> simp [rule_id, id]

-- The rule on links adds to a run of several rules what it adds by itself, if it has part in it.
theorem link_contributions (world : World) (settings : RuleSettings) (hn : names.Nodup)
    (config : Config) (root : Node) (path : Option String) :
    let e : Engine := ⟨names.map (RuleName.rule world settings), config⟩
    let own := (e.contributions root path).filter (·.rule = "bad-link")
    let all := contributions (Visit.mk 0 root).walk [linkRule world {}]
    own <+: all ∧ (RuleName.badLink ∈ names → config.isEnabled "bad-link" →
      (∀ r ∈ e.active, (r.activate? (Engine.contextOf root path)).isSome) → own = all) := by
  intro e own all
  by_cases hm : RuleName.badLink ∈ names
  case neg =>
    have hr : e.rules.filter (·.id = "bad-link") = [] := by
      simp only [e, List.filter_map, List.map_eq_nil_iff, List.filter_eq_nil_iff,
        Function.comp_def, RuleName.id_eq_badLink_iff, decide_eq_true_eq]
      exact fun name hname he => hm (he ▸ hname)
    have hown : own = [] := by
      simp [own, Engine.filter_contributions e root path (· = "bad-link"), hr, Engine.contributions,
        Engine.active, activeRules, contributions_nil]
    exact ⟨hown ▸ List.nil_prefix, fun h => (hm h).elim⟩
  case pos =>
    have hr : badLink world settings.links ∈ e.rules := List.mem_map.mpr ⟨.badLink, hm, rfl⟩
    have hown : own = (Engine.mk [badLink world settings.links] config).contributions root path :=
      Engine.own_contributions (r := badLink world settings.links)
        (RuleName.ids_nodup hn world settings) hr
    rw [Engine.contributions] at hown
    cases he : config.isEnabled "bad-link"
    case false =>
      have ha : (Engine.mk [badLink world settings.links] config).active = [] := by
        simpa [Engine.active, badLink] using he
      rw [ha] at hown
      exact ⟨by simp [hown, activeRules, contributions_nil], by simp⟩
    case true =>
      have ha : (Engine.mk [badLink world settings.links] config).active =
          [badLink world settings.links] := by
        simpa [Engine.active, badLink] using he
      have hact := activate?_badLink world settings.links (Engine.contextOf root path)
      rw [ha, activeRules, List.filterMap_cons, hact] at hown
      split at hact
      case isTrue hp =>
        refine ⟨by simp [hown, hp, contributions_nil], fun _ _ hs => ?_⟩
        have := hs _ (List.mem_filter.mpr ⟨hr, he⟩)
        simp [hact] at this
      case isFalse hp =>
        have hall : own = all := by simp [hown, hp, all]
        exact ⟨hall ▸ List.prefix_rfl, fun _ _ _ => hall⟩

-- No other rule asks servers.
theorem requests_of_other_rules
    (h : c ∈ (Engine.mk (names.map (RuleName.rule world settings)) config).contributions root path)
    (hr : c.rule ≠ "bad-link") : c.effect.requests = [] := by
  have ⟨a, ha, hc⟩ := mem_contributions_iff.mp h
  have ⟨r, hm, he⟩ := List.mem_filterMap.mp ha
  have ⟨name, _, hname⟩ := List.mem_map.mp (List.mem_of_mem_filter hm)
  subst hname
  have hoff : name ≠ .badLink := by
    rw [rule_of_mem_contributions hc, Rule.activate?_id he] at hr
    exact fun h => hr (RuleName.id_eq_badLink_iff.mpr h)
  have hl : (name.rule world settings).Lone False :=
    name.rule_lone world settings fun h => hoff h
  exact requests_of_mem_contributions (hl.activate he).left hc

theorem requests_filter {cs : List Contribution}
    (h : ∀ c ∈ cs, c.rule ≠ rule → c.effect.requests = []) :
    (cs.filter (·.rule = rule)).flatMap (·.effect.requests) = cs.flatMap (·.effect.requests) := by
  induction cs
  case nil => rfl
  case cons c cs ih =>
    have ⟨hc, hcs⟩ := List.forall_mem_cons.mp h
    by_cases hr : c.rule = rule
    case pos => simp [hr, ih hcs]
    case neg => simp [hr, hc hr, ih hcs]

end Run

namespace Engine

-- Whatever the turns of the checks are, a run asks each server once for each address, and each call
-- of the rule on links reports the broken links under its node.
theorem validateTree_links (world : World) (settings : RuleSettings) (names : List RuleName)
    (hn : names.Nodup) (config : Config) (root : Node) (path : Option String) (s : Scheduler) :
    ∃ e, build (names.map (RuleName.rule world settings)) config = .ok e ∧
      let o := e.validateTree root path s
      let calls := o.trace.dispatches.filter (·.rule = "bad-link")
      ∃ visits requests, visits <+: (Visit.mk 0 root).walk ∧
        (∀ ms, o.result = .ok ms → .badLink ∈ names → config.isEnabled "bad-link" →
          visits = (Visit.mk 0 root).walk) ∧
        calls.map (fun d => (d.visit, d.findings)) =
          visits.map (fun v => (v, linkFindings world v)) ∧
        o.trace.requests = requests.map (fun (m, a) => requestLine m a) ∧
        AskedOnce world (visits.filter isRoot) requests := by
  let e : Engine := ⟨names.map (RuleName.rule world settings), config⟩
  let all := ProposalLint.contributions (Visit.mk 0 root).walk [linkRule world {}]
  have hb : build e.rules config = .ok e :=
    build_eq_ok_iff.mpr ⟨RuleName.ids_nodup hn world settings, rfl⟩
  have hl : ∀ r ∈ e.active, r.Lone True := fun r hr =>
    RuleName.lone_of_mem_map (List.mem_of_mem_filter hr)
  have ⟨cs, hp, hx, hok⟩ := validateTree_adds_prefix hb hl root path s
  have ⟨hown, hall⟩ := link_contributions world settings hn config root path
  have hpre : cs.filter (·.rule = "bad-link") <+: all := (hp.filter _).trans hown
  let visits := (Visit.mk 0 root).walk.take (cs.filter (·.rule = "bad-link")).length
  have hcs : cs.filter (·.rule = "bad-link") =
      ProposalLint.contributions visits [linkRule world {}] := by
    rw [contributions_take]
    exact List.prefix_iff_eq_take.mp hpre
  have ⟨k', requests, hch, hbare, hreq⟩ := linkRule_contributions (sound_empty world) visits
  refine ⟨e, hb, visits, requests, List.take_prefix .., ?complete, ?findings, ?requests,
    hch.askedOnce⟩
  case complete =>
    intro ms ok hm he
    have ⟨hs, _⟩ := (validateTree_eq_ok_iff hb hl).mp ok
    have hlen : (cs.filter (·.rule = "bad-link")).length = (Visit.mk 0 root).walk.length := by
      rw [hok ms ok, hall hm he hs, length_contributions]
    simp only [visits, hlen, List.take_length]
  case findings =>
    rw [hx.findings_of_rule, hcs]
    have := congrArg (List.map fun c => (c.visit, c.effect.findings)) hbare
    simpa [Function.comp_def, Contribution.bare] using this
  case requests =>
    have hother := requests_filter fun c hc => requests_of_other_rules (hp.subset hc)
    rw [hx.requests, ← hreq, ← hcs, hother, List.nil_append]

-- Two calls, the second on a node under that of the first, with links that differ only in what they
-- are, only in their fragment, and not at all. The checks get in each other's way.
theorem validateTree_links_of_nested :
    let world : World := {
      today := ⟨2024, 1, 2⟩
      web := fun
        | .head, "http://[::2]/a" => some 405
        | .get, "http://[::2]/a" => some 404
        | _, _ => none
      turns := fun _ => [1, 1, 0, 0, 1, 0, 2, 1] }
    let link (kind : Kind) (url : String) : Node := .leaf kind none (.resource url none)
    let inner : Node := .branch .root none .none
      [link .link "http://[::2]/a#b", link .link "http://[::2]/c", link .link "../LICENSE"]
    let root : Node := .branch .root none .none
      [link .link "http://[::2]/a", link .image "http://[::2]/a", inner]
    let names : List RuleName := [.copyright, .badLink]
    names.Nodup ∧
      (brokenLinks world root).map (·.text) = [
        "Url \"http://[::2]/a\" is invalid, the server responded with 404",
        "Url \"http://[::2]/a\" is invalid, the server responded with 404",
        "Url \"http://[::2]/a#b\" is invalid, the server responded with 404",
        "Url \"http://[::2]/c\" is invalid, " ++
          "the server doesn't exist or there's no internet access."] ∧
      ∃ e, build (names.map (RuleName.rule world {})) {} = .ok e ∧
        let o := e.validateTree root none .rounds
        let calls := o.trace.dispatches.filter (·.rule = "bad-link")
        ∃ visits requests, visits <+: (Visit.mk 0 root).walk ∧
          (∀ ms, o.result = .ok ms → .badLink ∈ names → ({} : Config).isEnabled "bad-link" →
            visits = (Visit.mk 0 root).walk) ∧
          calls.map (fun d => (d.visit, d.findings)) =
            visits.map (fun v => (v, linkFindings world v)) ∧
          o.trace.requests = requests.map (fun (m, a) => requestLine m a) ∧
          AskedOnce world (visits.filter isRoot) requests := by
  intro world link inner root names
  have hn : names.Nodup := by decide
  refine ⟨hn, ?_, validateTree_links world {} names hn {} root none .rounds⟩
  subst root inner link world
  decide +kernel

end Engine
end ProposalLint
