import WidgetFlow.Proofs.Engine.Simple

/-!
# What is connected automatically

Connections are proposed by going through all pairs of points of the components, with each component
as often as it is listed. `Admits` says without an order which connections may be proposed: from a
point that emits to one that accepts, of two different components, where the names match and the
data gets across. Exactly these are proposed, once each, unless they exist.

An engine looks a point up in one way to list proposals and in another to make a connection. The two
agree (`Engine.pointOf?_eq_find?`), so that every proposal is accepted, and as connecting leaves the
points alone, nothing is left to propose afterwards.

## Main results

* `mem_candidates`: what the engine goes through is what may be proposed.
* `mem_ends_propose`: what is proposed is what may be proposed and does not exist.
* `Engine.pointOf?_eq_find?`: a point is found if it is listed.
* `Engine.foldl_connectProposed`: each proposal makes a connection of its own.
* `Engine.autoConnect_saturates`: **exactly the admissible connections are proposed; all of them are
  made, and nothing is proposed again.**
-/

namespace WidgetFlow

/-! ### What may be proposed -/

/-- How data of one type gets to a point of another: directly, or as a text if this is allowed. -/
inductive Bridges (numberToText : Bool) : DataType → DataType → Option String → Prop
  | directly {a b : DataType} (h : a.isCompatible b = true) : Bridges numberToText a b none
  | asText (h : numberToText = true) : Bridges numberToText .number .text (some "toString")

/-- A connection may be proposed between components of a list. -/
structure Admits (numberToText : Bool) (components : List String) (pointsOf : String → List Point)
    (p : Proposal) : Prop where
  source : p.source.component ∈ components
  target : p.target.component ∈ components
  apart : p.source.component ≠ p.target.component
  points : ∃ output ∈ pointsOf p.source.component, ∃ input ∈ pointsOf p.target.component,
    output.id = p.source.point ∧ input.id = p.target.point ∧
    output.direction.emits = true ∧ input.direction.accepts = true ∧
    namesMatch output input = true ∧
    Bridges numberToText output.dataType input.dataType p.transform?

variable {numberToText : Bool} {components : List String} {pointsOf : String → List Point}
  {g : Graph} {p : Proposal} {source target : Endpoint}

/-- Data gets from one type to another in one way at most. -/
theorem typeBridge_eq_some_iff {a b : DataType} {transform? : Option String} :
    typeBridge numberToText a b = some transform? ↔ Bridges numberToText a b transform? := by
  rw [typeBridge]
  split
  · next hcompatible =>
      refine ⟨fun h => Option.some.inj h ▸ .directly hcompatible, fun h => ?_⟩
      cases h with
      | directly => rfl
      | asText => exact absurd hcompatible (by decide)
  · next hcompatible =>
      constructor
      · intro h
        split at h
        · next hnumber =>
            simp only [Bool.and_eq_true, decide_eq_true_eq] at hnumber
            obtain ⟨⟨rfl, rfl⟩, hallowed⟩ := hnumber
            exact Option.some.inj h ▸ .asText hallowed
        · exact nomatch h
      · intro h
        cases h with
        | directly h => exact absurd h hcompatible
        | asText h => simp [h]

/-- The transform by which data gets to a point is in the library. -/
theorem Bridges.transform {a b : DataType} {transform? : Option String}
    (h : Bridges numberToText a b transform?) : transform?.bind Transform.ofSpec? =
      transform?.map fun _ => .library "toString" .toText := by
  cases h with
  | directly => rfl
  | asText => rfl

/-- A proposal for two points leads from the one to the other. -/
theorem proposal?_eq_some_iff {source target : String} {output input : Point} :
    proposal? numberToText source output target input = some p ↔
      (source ≠ target ∧ output.direction.emits = true ∧ input.direction.accepts = true ∧
        namesMatch output input = true) ∧
      p.source = ⟨source, output.id⟩ ∧ p.target = ⟨target, input.id⟩ ∧
      Bridges numberToText output.dataType input.dataType p.transform? := by
  rw [proposal?]
  split
  · next h =>
      have hmatch : source ≠ target ∧ output.direction.emits = true ∧
          input.direction.accepts = true ∧ namesMatch output input = true := by
        simpa [and_assoc] using h
      simp only [Option.map_eq_some_iff, typeBridge_eq_some_iff, hmatch, ne_eq, true_and,
        not_false_eq_true]
      constructor
      · rintro ⟨transform?, hbridges, rfl⟩
        exact ⟨rfl, rfl, hbridges⟩
      · rintro ⟨hsource, htarget, hbridges⟩
        exact ⟨_, hbridges, by rw [← hsource, ← htarget]⟩
  · next h =>
      refine iff_of_false nofun fun hmatch => h ?_
      simpa [and_assoc] using hmatch.1

/-- The proposals for all pairs of points of the components. -/
def candidates (numberToText : Bool) (components : List String) (pointsOf : String → List Point) :
    List Proposal :=
  components.flatMap fun source => (pointsOf source).flatMap fun output =>
    components.flatMap fun target => (pointsOf target).filterMap fun input =>
      proposal? numberToText source output target input

/-- What the engine proposes are candidates, added one after the other. -/
theorem propose_eq (g : Graph) : propose numberToText components pointsOf g =
    (candidates numberToText components pointsOf).foldl (addProposal g) [] := rfl

/-- **The candidates are what may be proposed.** -/
theorem mem_candidates : p ∈ candidates numberToText components pointsOf ↔
    Admits numberToText components pointsOf p := by
  simp only [candidates, List.mem_flatMap, List.mem_filterMap, proposal?_eq_some_iff]
  constructor
  · rintro ⟨source, hsource, output, houtput, target, htarget, input, hinput,
      ⟨hne, hemits, haccepts, hnames⟩, hs, ht, hbridges⟩
    obtain ⟨s, t, transform?⟩ := p
    subst hs ht
    exact ⟨hsource, htarget, hne, output, houtput, input, hinput, rfl, rfl, hemits, haccepts,
      hnames, hbridges⟩
  · rintro ⟨hsource, htarget, hne, output, houtput, input, hinput, hs, ht, hemits, haccepts, hnames,
      hbridges⟩
    exact ⟨_, hsource, output, houtput, _, htarget, input, hinput,
      ⟨hne, hemits, haccepts, hnames⟩, by rw [hs], by rw [ht], hbridges⟩

/-! ### What is proposed -/

/-- One more candidate is proposed unless it exists or is proposed already. -/
theorem mem_ends_addProposal {proposals : List Proposal} {ends : Endpoint × Endpoint} :
    ends ∈ (addProposal g proposals p).map Proposal.ends ↔
      ends ∈ proposals.map Proposal.ends ∨ ends = p.ends ∧ ends ∉ g.ends := by
  have hproposed : proposals.any (fun q => q.source = p.source && q.target = p.target) = true ↔
      p.ends ∈ proposals.map Proposal.ends := by
    simp [Proposal.ends]
  rw [addProposal]
  split
  · next hold =>
      rw [Bool.or_eq_true, Graph.exists?_iff, hproposed] at hold
      refine (or_iff_left_of_imp ?_).symm
      rintro ⟨rfl, hnew⟩
      exact hold.resolve_left hnew
  · next hnew =>
      rw [Bool.or_eq_true, not_or, Graph.exists?_iff] at hnew
      rw [List.map_append, List.mem_append, List.map_singleton, List.mem_singleton]
      exact or_congr_right (iff_self_and.mpr fun heq => heq ▸ hnew.1)

/-- Of several candidates those are proposed that do not exist. -/
theorem mem_ends_foldl_addProposal {candidates proposals : List Proposal}
    {ends : Endpoint × Endpoint} :
    ends ∈ (candidates.foldl (addProposal g) proposals).map Proposal.ends ↔
      ends ∈ proposals.map Proposal.ends ∨ ends ∈ candidates.map Proposal.ends ∧ ends ∉ g.ends := by
  induction candidates generalizing proposals with
  | nil => simp
  | cons p rest ih =>
      rw [List.foldl_cons, ih, mem_ends_addProposal, List.map_cons, List.mem_cons, or_assoc,
        or_and_right]

/-- What is proposed may be proposed. -/
theorem admits_of_mem_propose (h : p ∈ propose numberToText components pointsOf g) :
    Admits numberToText components pointsOf p := by
  have hmem : ∀ p ∈ propose numberToText components pointsOf g,
      p ∈ candidates numberToText components pointsOf := by
    refine List.foldlRecOn (motive := fun proposals : List Proposal => ∀ p ∈ proposals,
      p ∈ candidates numberToText components pointsOf) _ (addProposal g)
      (fun p hp => absurd hp List.not_mem_nil) fun proposals ih q hq p hp => ?_
    rw [addProposal] at hp
    split at hp
    · exact ih p hp
    · rcases List.mem_append.mp hp with hp | hp
      · exact ih p hp
      · exact List.mem_singleton.mp hp ▸ hq
  exact mem_candidates.mp (hmem p h)

/-- **What is proposed is what may be proposed and does not exist.** -/
theorem mem_ends_propose : (source, target) ∈
    (propose numberToText components pointsOf g).map Proposal.ends ↔
      (∃ transform?, Admits numberToText components pointsOf ⟨source, target, transform?⟩) ∧
        (source, target) ∉ g.ends := by
  rw [propose_eq, mem_ends_foldl_addProposal, List.map_nil, or_iff_right List.not_mem_nil]
  refine and_congr_left fun _ => ?_
  simp only [List.mem_map, mem_candidates]
  constructor
  · rintro ⟨⟨s, t, transform?⟩, hadmits, heq⟩
    obtain ⟨rfl, rfl⟩ := Prod.mk.inj heq
    exact ⟨transform?, hadmits⟩
  · rintro ⟨transform?, hadmits⟩
    exact ⟨_, hadmits, rfl⟩

/-! ### The points of an engine -/

namespace Engine

variable {e : Engine}

/-- **A point is found if it is listed**: it is the first one of its id, those of the definition
before those of the behaviors. -/
theorem pointOf?_eq_find? (e : Engine) (component point : String) :
    e.pointOf? component point = (e.pointsOf component).find? (·.id = point) := by
  rw [pointOf?, pointsOf]
  cases e.instances.get? component with
  | none => rfl
  | some i =>
      dsimp only
      rw [List.find?_append]
      cases e.types.get? i.kind with
      | none => rfl
      | some d =>
          dsimp only [Option.bind_some, Option.map_some, Option.getD_some, Definition.point?]
          cases d.points.find? (·.id = point) with
          | none => rfl
          | some p => rfl

/-- A point that is listed is found. -/
theorem pointOf?_ne_none_iff {component point : String} :
    e.pointOf? component point ≠ none ↔ ∃ p ∈ e.pointsOf component, p.id = point := by
  rw [pointOf?_eq_find?, ne_eq, List.find?_eq_none]
  simp

/-! ### Connecting what is proposed -/

/-- Connects what is proposed and adds the id of the new connection to those of others. -/
def connectProposed (r : List String × Engine) (p : Proposal) : List String × Engine :=
  match r.2.connectNamed p.source p.target p.transform? with
  | (.ok id, e) => (r.1 ++ [id], e)
  | (.error _, e) => (r.1, e)

/-- Connecting automatically is connecting what is proposed. -/
theorem autoConnect_eq (e : Engine) (components : List String) :
    e.autoConnect components = (e.proposals components).foldl connectProposed ([], e) := rfl

/-- A connection is made as it was proposed: a number goes to a text as its text. -/
structure Makes (c : Connection) (p : Proposal) : Prop where
  source : c.source = p.source
  target : c.target = p.target
  transform : c.transform? = p.transform?.map fun _ => .library "toString" .toText

/-- Between points that are there a connection is made, and nothing else changes but the log. -/
theorem connect_eq_ok (hsource : e.pointOf? source.component source.point ≠ none)
    (htarget : e.pointOf? target.component target.point ≠ none) (transform? : Option Transform) :
    ∃ events, e.connect source target transform? = (.ok (Graph.idOf e.graph.next),
      { e with graph := (e.graph.connect source target transform?).2, events }) := by
  rw [connect, checkPoint_eq_ok_iff.mpr hsource, checkPoint_eq_ok_iff.mpr htarget]
  exact ⟨_, rfl⟩

/-- What may be proposed is accepted, and makes the connection that was proposed. -/
theorem connectNamed_of_admits (h : Admits numberToText components e.pointsOf p) :
    ∃ c graph events, e.connectNamed p.source p.target p.transform? =
        (.ok c.id, { e with graph, events }) ∧
      graph.all = e.graph.all ++ [c] ∧ Makes c p := by
  obtain ⟨output, houtput, input, hinput, hs, ht, -, -, -, hbridges⟩ := h.points
  obtain ⟨events, hconnect⟩ := connect_eq_ok (pointOf?_ne_none_iff.mpr ⟨output, houtput, hs⟩)
    (pointOf?_ne_none_iff.mpr ⟨input, hinput, ht⟩) (p.transform?.bind Transform.ofSpec?)
  exact ⟨⟨Graph.idOf e.graph.next, p.source, p.target, p.transform?.bind Transform.ofSpec?⟩, _,
    events, hconnect, Graph.all_connect _ _ _, rfl, rfl, hbridges.transform⟩

/-- **Each proposal makes a connection of its own**, behind the others and in the order of the
proposals. -/
theorem foldl_connectProposed {proposals : List Proposal} (created : List String)
    (h : ∀ p ∈ proposals, Admits numberToText components e.pointsOf p) :
    ∃ made graph events, proposals.foldl connectProposed (created, e) =
        (created ++ made.map (·.id), { e with graph, events }) ∧
      graph.all = e.graph.all ++ made ∧ List.Forall₂ Makes made proposals := by
  induction proposals generalizing created e with
  | nil => exact ⟨[], e.graph, e.events, by simp, by simp, .nil⟩
  | cons p rest ih =>
      obtain ⟨hp, hrest⟩ := List.forall_mem_cons.mp h
      obtain ⟨c, graph, events, hconnect, hall, hmakes⟩ := connectNamed_of_admits hp
      have hfirst : connectProposed (created, e) p =
          (created ++ [c.id], { e with graph, events }) := by
        rw [connectProposed, hconnect]
      -- the points are looked up without the graph and the log, and so are as they were
      obtain ⟨made, graph', events', hfold, hall', hmakes'⟩ :=
        ih (e := { e with graph, events }) (created ++ [c.id]) hrest
      refine ⟨c :: made, graph', events', ?_, ?_, .cons hmakes hmakes'⟩
      · rw [List.foldl_cons, hfirst, hfold, List.map_cons, List.append_assoc]
        rfl
      · rw [hall', hall, List.append_assoc]
        rfl

/-- The connections that were made lead between the points that were proposed. -/
theorem map_ends_of_makes {made : List Connection} {proposals : List Proposal}
    (h : List.Forall₂ Makes made proposals) :
    made.map (fun c => (c.source, c.target)) = proposals.map Proposal.ends := by
  induction h with
  | nil => rfl
  | cons hfirst _ ih =>
      rw [List.map_cons, List.map_cons, ih, hfirst.source, hfirst.target]
      rfl

/-- When what is proposed has been connected, nothing is proposed. -/
theorem proposals_eq_nil {graph : Graph} {events : EventLog}
    (h : ∀ p ∈ e.proposals components, p.ends ∈ graph.ends) (hsub : e.graph.ends ⊆ graph.ends) :
    { e with graph, events }.proposals components = [] := by
  refine List.eq_nil_iff_forall_not_mem.mpr fun p hp => ?_
  have hends : p.ends ∈ ({ e with graph, events }.proposals components).map Proposal.ends :=
    List.mem_map_of_mem hp
  obtain ⟨hadmits, hnew⟩ := mem_ends_propose.mp hends
  refine hnew ?_
  by_cases hold : p.ends ∈ e.graph.ends
  · exact hsub hold
  · obtain ⟨q, hq, heq⟩ := List.mem_map.mp (mem_ends_propose.mpr ⟨hadmits, hold⟩)
    exact heq ▸ h q hq

/-- **Exactly the admissible connections are proposed, and all of them are made.** The proposals
among components are all different. Each leads, by the transform that it names, from a point of a
listed component that emits to a point of another one that accepts, whose names and types match; and
wherever two such points have no connection, there is a proposal. A point is found exactly if it is
listed, so that each proposal is accepted. To connect automatically makes one connection for each
proposal, behind those that were there and in the same order; after that nothing is proposed, and to
connect once more changes nothing. -/
theorem autoConnect_saturates (e : Engine) (components : List String) :
    let proposals := e.proposals components
    let numberToText := e.config.autoConnect.allowNumberToText
    let connected := e.autoConnect components
    (proposals.map Proposal.ends).Nodup ∧
    (∀ p ∈ proposals, Admits numberToText components e.pointsOf p) ∧
    (∀ source target, (source, target) ∈ proposals.map Proposal.ends ↔
      (∃ transform?, Admits numberToText components e.pointsOf ⟨source, target, transform?⟩) ∧
        (source, target) ∉ e.graph.ends) ∧
    (∀ component point, e.pointOf? component point ≠ none ↔
      ∃ p ∈ e.pointsOf component, p.id = point) ∧
    (∀ p ∈ proposals, ∃ id, (e.connectNamed p.source p.target p.transform?).1 = .ok id) ∧
    (∃ made, connected.1 = made.map (·.id) ∧ connected.2.graph.all = e.graph.all ++ made ∧
      List.Forall₂ Makes made proposals) ∧
    connected.2.proposals components = [] ∧
    connected.2.autoConnect components = ([], connected.2) := by
  intro proposals numberToText connected
  have hadmits : ∀ p ∈ proposals, Admits numberToText components e.pointsOf p := fun p hp =>
    admits_of_mem_propose hp
  obtain ⟨made, graph, events, hfold, hall, hmakes⟩ := foldl_connectProposed [] hadmits
  have hconnected : connected = (made.map (·.id), { e with graph, events }) := hfold
  have hends : graph.ends = e.graph.ends ++ proposals.map Proposal.ends := by
    rw [Graph.ends, hall, List.map_append, map_ends_of_makes hmakes]
    rfl
  have hnone : connected.2.proposals components = [] := by
    rw [hconnected]
    refine proposals_eq_nil (fun p hp => ?_) ?_
    · exact hends ▸ List.mem_append_right _ (List.mem_map_of_mem hp)
    · exact hends ▸ List.subset_append_left _ _
  refine ⟨(connectable_propose ..).nodup, hadmits, fun _ _ => mem_ends_propose,
    fun _ _ => pointOf?_ne_none_iff, fun p hp => ?_, ⟨made, ?_, ?_, hmakes⟩, hnone, ?_⟩
  · obtain ⟨c, graph, events, hconnect, -⟩ := connectNamed_of_admits (hadmits p hp)
    exact ⟨c.id, congrArg Prod.fst hconnect⟩
  · rw [hconnected]
  · rw [hconnected, hall]
  · rw [autoConnect_eq, hnone]
    rfl

end Engine

end WidgetFlow
