import WidgetFlow.Proofs.Engine.Account
import WidgetFlow.Proofs.Screen.Operation

/-!
# The two spellings of an event

An event has a plain spelling and one with `on` in front, such as `click` and `onClick`. Either may
be dispatched, and code may be declared under either. This module shows what depends on the
spelling: which code is found, and the name in the events that are recorded. What is found then runs
on the same payload and leads to the same state, and goes out at the same point.

## Conventions

A spelling is plain (`PlainEvent`) if its first letter has a capital that it comes back from, and if
it is not itself a capital behind `on`. Other names have one spelling only: there is nothing to tell
`onĸ` from a plain name, since `ĸ` has no capital.

What a dispatch comes to apart from the name is a `Course`. It fixes what the dispatch did, the
screen afterwards but for its log, and the events recorded by the handler and by what went out. The
name comes in only when the log is written (`Course.events`): it stands in the event that tells of
the dispatch, and in the one that tells of a failure.

## Main results

* `PlainEvent.eventPoint`, `PlainEvent.eventPoint_prefixed`: both spellings have the same point.
* `PlainEvent.handlerNames`, `PlainEvent.handlerNames_prefixed`: the code of a plain spelling is
  looked for under both spellings, and that of the other one only under itself.
* `Screen.exists_course`: **a dispatched event comes to the same under every name** that has the
  same point and for which the same code is found.
* `Screen.dispatch_spellings`: **a handler declared with `on` in front is found under both
  spellings of its event**, and one that is declared without it under its own spelling alone.
-/

namespace WidgetFlow

open Script

/-! ### Spellings -/

/-- The spelling of an event with `on` in front. -/
def prefixed (x : String) : String := "on" ++ Text.capitalize x

/-- A spelling of an event without `on`: it is small, its first letter has a capital that it comes
back from, and it is not itself a spelling with `on` in front. -/
structure PlainEvent (x : String) : Prop where
  capital : ∃ c rest, (Text.capitalize x).toList = c :: rest ∧ Text.isUppercase c = true
  back : Text.uncapitalize (Text.capitalize x) = x
  bare : ∀ c rest, x.toList = 'o' :: 'n' :: c :: rest → Text.isUppercase c = false

namespace PlainEvent

variable {x : String}

/-- A plain spelling is the name of its point. -/
theorem eventPoint (h : PlainEvent x) : eventPoint x = x := by
  rw [WidgetFlow.eventPoint]
  split
  · next c rest hx => exact if_neg (Bool.eq_false_iff.mp (h.bare c rest hx))
  · rfl

/-- A spelling with `on` in front goes out at the point of the plain one. -/
theorem eventPoint_prefixed (h : PlainEvent x) : WidgetFlow.eventPoint (prefixed x) = x := by
  obtain ⟨c, rest, hcapital, hupper⟩ := h.capital
  have hlist : (prefixed x).toList = 'o' :: 'n' :: c :: rest := by
    rw [prefixed, String.toList_append, hcapital]
    rfl
  rw [WidgetFlow.eventPoint, hlist]
  change (if Text.isUppercase c = true then _ else _) = x
  rw [if_pos hupper, ← hcapital, String.ofList_toList, h.back]

/-- A plain spelling is not empty. -/
theorem isEmpty (h : PlainEvent x) : x.isEmpty = false := by
  obtain ⟨c, rest, hcapital, -⟩ := h.capital
  refine Bool.eq_false_iff.mpr fun hempty => ?_
  rw [String.isEmpty_iff] at hempty
  subst hempty
  cases hcapital

/-- The handler of a plain spelling is looked for under both spellings. -/
theorem handlerNames (h : PlainEvent x) : handlerNames x = [x, prefixed x] := by
  rw [WidgetFlow.handlerNames, h.eventPoint]
  rw [if_neg (Bool.eq_false_iff.mp h.isEmpty), prefixed]

/-- The handler of a spelling with `on` in front is looked for under this spelling alone. -/
theorem handlerNames_prefixed (h : PlainEvent x) :
    WidgetFlow.handlerNames (prefixed x) = [prefixed x, prefixed x] := by
  rw [WidgetFlow.handlerNames, h.eventPoint_prefixed]
  rw [if_neg (Bool.eq_false_iff.mp h.isEmpty), prefixed]

end PlainEvent

/-! ### Points and emissions -/

/-- The points that applied behaviors add, read off their labels. -/
theorem BehaviorSystem.pointsFor_eq (b : BehaviorSystem) (component : String) :
    b.pointsFor component =
      ((b.applied.map Applied.label).filter (·.2.2 = component)).flatMap fun label =>
        ((b.get? label.2.1).map (·.points)).getD [] := by
  rw [pointsFor, attached, List.filter_map, List.flatMap_map]
  rfl

namespace Engine

variable {e e' : Engine}

/-- A flow leaves the points of components as they were. -/
theorem Flows.pointOf? (h : Flows e e') (component point : String) :
    e'.pointOf? component point = e.pointOf? component point := by
  have hadded : e'.behaviors.pointFor? component point = e.behaviors.pointFor? component point := by
    rw [BehaviorSystem.pointFor?, BehaviorSystem.pointFor?, BehaviorSystem.pointsFor_eq,
      BehaviorSystem.pointsFor_eq, h.labels]
    simp only [BehaviorSystem.get?, h.behaviors]
  have hinstance := h.writes.rel component
  rw [Engine.pointOf?, Engine.pointOf?, h.types, hadded]
  generalize e.instances.get? component = i?, e'.instances.get? component = j? at hinstance
  cases hinstance with
  | none => rfl
  | some hplace =>
      dsimp only
      rw [hplace.kind]

/-- What an emission gives does not depend on the log. -/
theorem fst_emit_relog (e : Engine) (log : EventLog) (source : Endpoint) (v : Value) :
    ((e.relog log).emit source v).1 = (e.emit source v).1 := by
  rw [emit, emit]
  change (emitWithin (e.config.runtime.maxEmitDepth - e.emitDepth) (e.relog log) source v).1 = _
  cases e.config.runtime.maxEmitDepth - e.emitDepth with
  | zero => rfl
  | succ room =>
      rw [emitWithin, emitWithin]
      change (if e.instances.contains source.component then _ else _ : _ × _).1 = _
      split <;> rfl

/-- Whether events go out at a point of a component: events do that, and the component has such a
point. -/
def emitsAt (e : Engine) (id point : String) : Bool :=
  e.config.interpreter.emitEventPoints &&
    ((e.pointOf? id point).map fun p => p.direction.emits).getD false

/-- A flow leaves the points at which events go out as they were. -/
theorem Flows.emitsAt (h : Flows e e') (id point : String) :
    e'.emitsAt id point = e.emitsAt id point := by
  rw [Engine.emitsAt, Engine.emitsAt, h.config, h.pointOf?]

/-- A value goes out at a point of a component, if events go out there. -/
def goOut (id point : String) (payload : Value) (e : Engine) : Engine :=
  if e.emitsAt id point then e.emitSilently ⟨id, point⟩ payload else e

/-- How many values are delivered when a value goes out. -/
def deliveriesOf (id point : String) (payload : Value) (e : Engine) : Nat :=
  if e.emitsAt id point then
    match (e.emit ⟨id, point⟩ payload).1 with
    | .ok deliveries => deliveries.length
    | .error _ => 0
  else 0

/-- Code runs on an event, if there is code and it is compiled. -/
def handle (code? : Option NodeCode) (id : String) (payload : Value) (e : Engine) : Engine :=
  match code?.bind (·.handler?) with
  | none => e
  | some handler => (handler.run ⟨payload, some id, e.config.script.maxSteps⟩ e).2

/-- How the run of code on an event ends, if there is one. -/
def answer? (code? : Option NodeCode) (id : String) (payload : Value) (e : Engine) :
    Option (Except RunError Outcome) :=
  (code?.bind (·.handler?)).map fun handler =>
    (handler.run ⟨payload, some id, e.config.script.maxSteps⟩ e).1

/-- A run of code records events, and how it ends does not depend on the log. -/
theorem exists_records_handle (code? : Option NodeCode) (id : String) (payload : Value)
    (e : Engine) : ∃ events, e.Records (handle code? id payload) events ∧
      ∀ log, (e.relog log).answer? code? id payload = e.answer? code? id payload := by
  simp only [Records, handle, answer?]
  cases code?.bind (·.handler?) with
  | none => exact ⟨[], fun _ => rfl, fun _ => rfl⟩
  | some handler =>
      obtain ⟨events, htrail, hanswer⟩ :=
        runHandler_trail handler ⟨payload, some id, e.config.script.maxSteps⟩ e
      exact ⟨events, htrail.records, fun log => congrArg some (hanswer log)⟩

/-- A value that goes out records events. -/
theorem exists_records_goOut (id point : String) (payload : Value) (e : Engine) :
    ∃ events, e.Records (goOut id point payload) events := by
  cases hemits : e.emitsAt id point with
  | true =>
      obtain ⟨events, htrail⟩ := e.emitSilently_trail ⟨id, point⟩ payload
      refine ⟨events, fun log => ?_⟩
      have hemits' : (e.relog log).emitsAt id point = true := hemits
      rw [goOut, goOut, if_pos hemits, if_pos hemits']
      exact htrail.records log
  | false =>
      refine ⟨[], fun log => ?_⟩
      have hemits' : (e.relog log).emitsAt id point = false := hemits
      rw [goOut, goOut, if_neg (Bool.eq_false_iff.mp hemits), if_neg (Bool.eq_false_iff.mp hemits')]
      rfl

/-- How many values are delivered does not depend on the log. -/
theorem deliveriesOf_relog (id point : String) (payload : Value) (e : Engine) (log : EventLog) :
    (e.relog log).deliveriesOf id point payload = e.deliveriesOf id point payload := by
  have hemits : (e.relog log).emitsAt id point = e.emitsAt id point := rfl
  rw [deliveriesOf, deliveriesOf, hemits, fst_emit_relog]

/-- Code that runs is a flow. -/
theorem handle_flows (code? : Option NodeCode) (id : String) (payload : Value) (e : Engine) :
    Flows e (handle code? id payload e) := by
  rw [handle]
  split
  · exact .refl e
  · exact runHandler_flows _ _ e

end Engine

namespace Screen

variable {s : Screen} {id point name : String} {payload : Value}

/-! ### Courses -/

/-- A screen whose engine has another log. -/
def relog (s : Screen) (log : EventLog) : Screen := { s with engine := s.engine.relog log }

/-- The event that is recorded of an event with a name. -/
def asked (id name : String) (payload : Value) : Event where
  kind := .userAction
  component := id
  payload := .obj [("event", .str name), ("payload", payload)]

/-- The event that is recorded of code that fails under a name. -/
def failed (id name : String) (e : RunError) : Event where
  kind := .handlerFailed
  component := id
  payload := .obj [("error", .str e.message), ("handler", .str name)]

/-- Whether code ran to its end, its result, and what it failed with. -/
def ending : Option (Except RunError Outcome) → Bool × Value × Option RunError
  | none => (false, .null, none)
  | some (.ok outcome) => (true, outcome.value, none)
  | some (.error e) => (false, .null, some e)

/-- What a dispatched event comes to, whatever its name is: what it did, the screen afterwards, the
events recorded by the handler, what the handler failed with, and the events recorded by what went
out. -/
structure Course where
  done : Dispatched
  after : Screen
  ran : List Event
  error? : Option RunError
  sent : List Event

namespace Course

/-- The events recorded in a course under a name. -/
def events (c : Course) (id name : String) (payload : Value) : List Event :=
  asked id name payload :: (c.ran ++ ((c.error?.map (failed id name)).toList ++ c.sent))

/-- A course on a screen, under a name. -/
def under (c : Course) (s : Screen) (id name : String) (payload : Value) :
    Except ScreenError Dispatched × Screen :=
  (.ok c.done, c.after.relog (s.engine.events.recordAll (c.events id name payload)))

/-- A course is that of code which runs on an event, if there is code, and of a value that goes out
at a point. -/
structure Of (c : Course) (s : Screen) (id point : String) (payload : Value)
    (code? : Option NodeCode) : Prop where
  ending : (c.done.handled, c.done.value, c.error?) =
    ending (s.engine.answer? code? id payload)
  emitted : c.done.emitted? = if s.engine.emitsAt id point then some point else none
  deliveries : c.done.deliveries =
    (s.engine.handle code? id payload).deliveriesOf id point payload
  engine : c.after.engine = (s.engine.handle code? id payload).goOut id point payload
  rest : c.after = { s with engine := c.after.engine, memo := s.memo.mark c.done.refreshed }
  ran : s.engine.Records (Engine.handle code? id payload) c.ran
  sent : (s.engine.handle code? id payload).Records (Engine.goOut id point payload) c.sent

end Course

/-! ### Dispatching -/

/-- The nodes that are refreshed after code has run: those that it is said to change and those that
it changed, as far as they are there. -/
def refreshedBy (s : Screen) (code? : Option NodeCode)
    (answer? : Option (Except RunError Outcome)) : List String :=
  let affected := ((code?.map (·.affected)).getD []).foldl (fun ids id => insertName id ids) []
  let ids := match answer? with
    | some (.ok outcome) => outcome.touched.foldl (fun ids id => insertName id ids) affected
    | _ => affected
  ids.filter s.arena.containsId

/-- What the code of an event does, if there is code. -/
def react (s : Screen) (id name : String) (payload : Value) : Option NodeCode → Dispatched × Screen
  | none => ({}, s)
  | some code =>
    let ((handled, value, refreshed), s) := s.runCode id name code payload
    ({ handled, value, refreshed }, s)

/-- The code of an event runs on the engine, and its name is only recorded if the code fails. -/
theorem react_eq (s : Screen) (id name : String) (payload : Value) (code? : Option NodeCode) :
    s.react id name payload code? =
      let answer? := s.engine.answer? code? id payload
      let e := s.engine.handle code? id payload
      let refreshed := s.refreshedBy code? answer?
      ({ handled := (ending answer?).1, value := (ending answer?).2.1, refreshed },
        { s with
          engine := e.relog (e.events.recordAll ((ending answer?).2.2.map (failed id name)).toList)
          memo := s.memo.mark refreshed }) := by
  cases code? with
  | none => rfl
  | some code =>
      rw [react, runCode]
      simp only [Engine.answer?, Engine.handle, Option.bind_some]
      cases code.handler? with
      | none => rfl
      | some handler =>
          dsimp only [Option.map_some]
          generalize handler.run ⟨payload, some id, s.engine.config.script.maxSteps⟩ s.engine = out
          obtain ⟨result, engine⟩ := out
          cases result <;> rfl

/-- An event goes out at its point. -/
theorem emitEvent_eq (s : Screen) (id name : String) (payload : Value) (done : Dispatched)
    (hdone : done.emitted? = none ∧ done.deliveries = 0) :
    s.emitEvent id name payload done =
      ({ done with
          emitted? := if s.engine.emitsAt id (eventPoint name) then some (eventPoint name) else none
          deliveries := s.engine.deliveriesOf id (eventPoint name) payload },
        { s with engine := s.engine.goOut id (eventPoint name) payload }) := by
  obtain ⟨handled, value, refreshed, emitted?, deliveries⟩ := done
  obtain ⟨rfl, rfl⟩ := hdone
  rw [emitEvent, Engine.deliveriesOf, Engine.goOut, Engine.emitsAt]
  dsimp only
  split <;> rfl

/-- A dispatched event is recorded, its code runs, and it goes out. -/
theorem dispatch_eq {node : Node} (hnode : s.readyNode id = .ok node) :
    s.dispatch id name payload =
      let (done, s) := (s.record (asked id name payload)).react id name payload
        ((handlerNames name).findSome? (Dict.get? node.events))
      let (done, s) := s.emitEvent id name payload done
      (.ok done, s) := by
  rw [dispatch, hnode]
  dsimp only
  cases (handlerNames name).findSome? (Dict.get? node.events) <;> rfl

/-- The course of an event, given what the handler and what goes out record. -/
def course (s : Screen) (id point : String) (payload : Value) (code? : Option NodeCode)
    (ran sent : List Event) : Course :=
  let answer? := s.engine.answer? code? id payload
  let e := s.engine.handle code? id payload
  let refreshed := s.refreshedBy code? answer?
  { done := {
      handled := (ending answer?).1
      value := (ending answer?).2.1
      refreshed
      emitted? := if s.engine.emitsAt id point then some point else none
      deliveries := e.deliveriesOf id point payload }
    after := { s with engine := e.goOut id point payload, memo := s.memo.mark refreshed }
    ran
    error? := (ending answer?).2.2
    sent }

/-- The code of an event that has been recorded runs as if it had not, and is recorded after it. -/
theorem react_record {code? : Option NodeCode} {ran : List Event}
    (hran : s.engine.Records (Engine.handle code? id payload) ran)
    (hanswer : ∀ log, (s.engine.relog log).answer? code? id payload =
      s.engine.answer? code? id payload) :
    let answer? := s.engine.answer? code? id payload
    let refreshed := s.refreshedBy code? answer?
    (s.record (asked id name payload)).react id name payload code? =
      ({ handled := (ending answer?).1, value := (ending answer?).2.1, refreshed },
        { s with
          engine := (s.engine.handle code? id payload).relog
            (s.engine.events.recordAll (asked id name payload :: (ran ++
              ((ending answer?).2.2.map (failed id name)).toList)))
          memo := s.memo.mark refreshed }) := by
  have hrecorded : (s.record (asked id name payload)).engine =
      s.engine.relog (s.engine.events.record (asked id name payload)) := rfl
  have hlog : ∀ events, s.engine.events.recordAll (asked id name payload :: (ran ++ events)) =
      ((s.engine.events.record (asked id name payload)).recordAll ran).recordAll events :=
    fun events => EventLog.recordAll_append _ ran events
  intro answer? refreshed
  rw [react_eq, hrecorded, hanswer, hran, hlog]
  rfl

/-- **A dispatched event comes to the same under every name** that has the same point and for which
the same code is found: only the events that are recorded of it have the name in them. -/
theorem exists_course {node : Node} (hnode : s.readyNode id = .ok node) (point : String)
    (payload : Value) (code? : Option NodeCode) :
    ∃ c : Course, c.Of s id point payload code? ∧ ∀ name, eventPoint name = point →
      (handlerNames name).findSome? (Dict.get? node.events) = code? →
        s.dispatch id name payload = c.under s id name payload := by
  obtain ⟨ran, hran, hanswer⟩ := Engine.exists_records_handle code? id payload s.engine
  obtain ⟨sent, hsent⟩ :=
    Engine.exists_records_goOut id point payload (s.engine.handle code? id payload)
  have hemits : ∀ log, ((s.engine.handle code? id payload).relog log).emitsAt id point =
      s.engine.emitsAt id point :=
    fun _ => (Engine.handle_flows code? id payload s.engine).emitsAt id point
  refine ⟨s.course id point payload code? ran sent, ⟨rfl, rfl, rfl, rfl, rfl, hran, hsent⟩,
    fun name hpoint hfound => ?_⟩
  rw [dispatch_eq hnode, hfound, react_record hran hanswer]
  dsimp only
  rw [emitEvent_eq _ _ _ _ _ ⟨rfl, rfl⟩, hpoint]
  dsimp only
  rw [hemits, Engine.deliveriesOf_relog, hsent, ← EventLog.recordAll_append, List.cons_append,
    List.append_assoc]
  rfl

/-! ### Both spellings -/

/-- **A handler declared with `on` in front is found under both spellings of its event**, and one
that is declared without it is found under its own spelling alone. In the first case an event
comes to the same under both spellings. In the second case the handler runs under the plain one, and
no handler runs under the other. The point that the event goes out at is the same in all cases. -/
theorem dispatch_spellings {node : Node} {x : String} (hnode : s.readyNode id = .ok node)
    (hx : PlainEvent x) (payload : Value) :
    (∀ code, Dict.get? node.events (prefixed x) = some code → Dict.get? node.events x = none →
      ∃ c : Course, c.Of s id x payload (some code) ∧
        s.dispatch id x payload = c.under s id x payload ∧
        s.dispatch id (prefixed x) payload = c.under s id (prefixed x) payload) ∧
    ∀ code, Dict.get? node.events x = some code → Dict.get? node.events (prefixed x) = none →
      (∃ c : Course, c.Of s id x payload (some code) ∧
        s.dispatch id x payload = c.under s id x payload) ∧
      ∃ c : Course, c.Of s id x payload none ∧
        s.dispatch id (prefixed x) payload = c.under s id (prefixed x) payload := by
  refine ⟨fun code hprefixed hplain => ?both, fun code hplain hprefixed => ?one⟩
  case both =>
    obtain ⟨c, hc, hcourse⟩ := exists_course hnode x payload (some code)
    refine ⟨c, hc, hcourse x hx.eventPoint ?_, hcourse _ hx.eventPoint_prefixed ?_⟩
    · rw [hx.handlerNames]
      simp [hplain, hprefixed]
    · rw [hx.handlerNames_prefixed]
      simp [hprefixed]
  case one =>
    obtain ⟨c, hc, hcourse⟩ := exists_course hnode x payload (some code)
    obtain ⟨c', hc', hcourse'⟩ := exists_course hnode x payload none
    refine ⟨⟨c, hc, hcourse x hx.eventPoint ?_⟩, c', hc', hcourse' _ hx.eventPoint_prefixed ?_⟩
    · rw [hx.handlerNames]
      simp [hplain]
    · rw [hx.handlerNames_prefixed]
      simp [hprefixed]

/-- Code that gives one. -/
def one : NodeCode := ⟨"return 1", some ⟨.block, [], [.ret (some (.literal (.ofNat 1)))]⟩, []⟩

/-- A button that is ready, with code for an event of this name. -/
def pressable (name : String) : Node where
  id := "b"
  tag := "button"
  kind := .button
  status := .ready Catalog.button
  events := [(name, one)]

/-- A screen with the button. -/
def pressing (name : String) : Screen where
  engine := { Engine.new {} with
    types := Registry.register {} Catalog.button
    instances := { instances := [("b", { id := "b", kind := .button, properties := [] })] } }
  arena := { slots := [some (pressable name)], byId := [("b", 0)], roots := [0] }

/-- A click has two spellings. -/
theorem plainEvent_click : PlainEvent "click" where
  capital := ⟨'C', ['l', 'i', 'c', 'k'], by decide +kernel, by decide +kernel⟩
  back := by decide +kernel
  bare := by
    intro c rest h
    cases h

/-- What a dispatch on a screen with the button did: whether a handler ran to its end, its result,
and the point that the event went out at. -/
def pressed (declared name : String) : Option (Bool × Value × Option String) :=
  ((pressing declared).dispatch "b" name .null).1.toOption.map fun d =>
    (d.handled, d.value, d.emitted?)

/-- Code for `onClick` runs on a click of either spelling. -/
theorem dispatch_spellings_click :
    pressed "onClick" "click" = some (true, .ofNat 1, some "click") ∧
      pressed "onClick" "onClick" = some (true, .ofNat 1, some "click") := by
  have hnode : (pressing "onClick").readyNode "b" = .ok (pressable "onClick") := rfl
  have hkey : prefixed "click" = "onClick" := by decide +kernel
  obtain ⟨c, hc, hplain, hprefixed⟩ := (dispatch_spellings hnode plainEvent_click .null).1 one
    (by rw [hkey]; rfl) rfl
  have hending : (c.done.handled, c.done.value, c.error?) = (true, .ofNat 1, none) :=
    hc.ending.trans rfl
  have hemitted : c.done.emitted? = some "click" := hc.emitted.trans rfl
  obtain ⟨hhandled, hrest⟩ := Prod.mk.inj hending
  have hdone : (c.done.handled, c.done.value, c.done.emitted?) =
      (true, .ofNat 1, some "click") := by
    rw [hhandled, (Prod.mk.inj hrest).1, hemitted]
  refine ⟨?plain, ?prefixed⟩
  case plain =>
    rw [pressed, hplain]
    exact congrArg some hdone
  case prefixed =>
    rw [hkey] at hprefixed
    rw [pressed, hprefixed]
    exact congrArg some hdone

/-- Code for `click` runs on a click that is spelled so, and on no click that is spelled `onClick`;
and a letter that has no capital does not lose an `on` that stands in front of it. -/
theorem dispatch_spelling_missed :
    pressed "click" "click" = some (true, .ofNat 1, some "click") ∧
      pressed "click" "onClick" = some (false, .null, some "click") ∧
      Text.uncapitalize (Text.capitalize "ĸ") = "ĸ" ∧
      eventPoint "ĸ" = "ĸ" ∧ eventPoint (prefixed "ĸ") = "onĸ" := by
  refine ⟨rfl, rfl, by decide +kernel, by decide +kernel, by decide +kernel⟩

end Screen

end WidgetFlow
