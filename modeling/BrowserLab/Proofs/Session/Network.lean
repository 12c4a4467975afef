import BrowserLab.Catalog.Builtin
import BrowserLab.Proofs.Playground.Network
import BrowserLab.Proofs.Session.Announce

/-!
# The trace and the network panel

The recorder and the playground hear the same events, and each fills in a method that was left
blank by a rule of its own.  The rules agree, and so do the requests in the trace and those of the
test in the network panel.

* `Step.Tells.line?`: a step shows the request that its event brings to the panel.
* `Recorder.lines_recordAll`: so does a whole trace.
* `Session.trace_agrees_with_network`: what is announced on a bus on which both listen.
-/

namespace BrowserLab

/-- Both rules for a method that was left blank are the same. -/
theorem Playground.methodOf_eq (x : Exchange) : Playground.methodOf x = x.effectiveMethod := by
  unfold Playground.methodOf Exchange.effectiveMethod
  cases x.method.isEmpty <;> cases x.payload.isSome <;> rfl

/-- The request of a step, as a line of the network panel. -/
def Step.line? (s : Step) : Option NetworkEntry :=
  if s.action = .apiCall then
    s.network.map fun x => ⟨x.method, x.url, x.payload, x.status, x.response⟩
  else none

theorem Step.Tells.line? {s : Step} {index elapsed : Nat} {e : Event}
    (h : s.Tells index elapsed e) : s.line? = e.requested? := by
  unfold Step.line? Event.requested?
  rw [h.action, h.network]
  by_cases he : e.kind = .apiCall
  · rw [if_pos he, if_pos he]
    cases e.network with
    | none => rfl
    | some x =>
      simp only [Option.map_some]
      rw [Playground.methodOf_eq]
  · rw [if_neg he, if_neg he]

namespace Recorder

theorem lines_record (r : Recorder) (now : Nat) (e : Event) :
    (r.record now e).2.steps.filterMap Step.line? =
      r.steps.filterMap Step.line? ++ e.requested?.toList := by
  have hlast : [(r.record now e).1].filterMap Step.line? = e.requested?.toList := by
    rw [filterMap_cons_toList, (r.tells_record now e).line?]
    exact List.append_nil _
  rw [record_steps, List.filterMap_append, hlast]

/-- The requests of a trace are those of the events that were written down. -/
theorem lines_recordAll (r : Recorder) (timeline : List (Nat × Event)) :
    (r.recordAll timeline).steps.filterMap Step.line? =
      r.steps.filterMap Step.line? ++ (timeline.map Prod.snd).filterMap Event.requested? := by
  induction timeline generalizing r with
  | nil => exact (List.append_nil _).symm
  | cons head rest ih =>
    obtain ⟨now, e⟩ := head
    have hrest : ((now, e) :: rest).map Prod.snd = e :: rest.map Prod.snd := rfl
    rw [recordAll_cons, ih, lines_record, hrest, filterMap_cons_toList, List.append_assoc]

end Recorder

namespace Session

/-- **The trace and the network panel agree.**  A page of any kind has just been opened, the
recorder has been reset, and both listen.  Whatever is then announced with the current token: the
requests in the trace, with their payloads and answers, are the lines that requests of the test have
brought to the network panel, in the same order.  They are all of its lines, unless the page makes
requests of its own, and then these are woven in. -/
theorem trace_agrees_with_network {s : Session} {number opened : Nat} {kind : Environment}
    {token : Token} (hheard : s.Heard number)
    (hpage : s.playgrounds[number]? = some (.new kind opened)) (hrecorder : s.recorder.steps = [])
    (htoken : s.bus.isCurrent token = true) (timeline : List (Nat × Event)) :
    let events := timeline.map Prod.snd
    let page := Playground.new kind opened
    let requests := (s.announce token timeline).trace.filterMap Step.line?
    ∃ later, (s.announce token timeline).playgrounds[number]? = some later ∧
      requests = page.gains (·.kind = .apiCall) events ∧
      (kind ≠ .apiMock → kind ≠ .profileRepair → requests = later.networkLog) ∧
      Interleaves requests (page.fetches events) later.networkLog := by
  intro events page requests
  have hannounce : s.announce token timeline = s.hearingBy number timeline :=
    announce_of_heard timeline hheard htoken
  have hlater : (s.announce token timeline).playgrounds[number]? = some (page.hearAll events) := by
    rw [hannounce, hearingBy, Array.getElem?_modify, if_pos rfl, hpage]
    rfl
  have hrequests : requests = page.gains (·.kind = .apiCall) events := by
    have htrace : (s.announce token timeline).trace = (s.recorder.recordAll timeline).steps := by
      rw [hannounce]
      rfl
    show (s.announce token timeline).trace.filterMap Step.line? = _
    rw [htrace, Recorder.lines_recordAll, hrecorder, Playground.gains_requests]
    rfl
  refine ⟨page.hearAll events, hlater, hrequests, fun hdata hprofile => ?_, ?_⟩
  · rw [hrequests]
    exact Playground.networkLog_of_kind hdata hprofile opened events
  · rw [hrequests]
    exact Playground.interleaves_networkLog kind opened events

/-- Between two requests that name no method the page is asked for its data. -/
theorem trace_agrees_with_network_woven :
    let s := { new .builtin (.standard "lab") .zeros .zeros with
      playgrounds := #[.new .apiMock 0] }
    let timeline : List (Nat × Event) :=
      [(1, { kind := .apiCall, network := some ⟨"", "/api/secure-data", none, 200, .null⟩ }),
        (2, { kind := .click, label := some "Fetch Data" }),
        (3, { kind := .apiCall,
              network := some ⟨"", "/api/secure-data", some .null, 201, .null⟩ })]
    let requests := (s.announce s.bus.current timeline).trace.filterMap Step.line?
    ∃ later, (s.announce s.bus.current timeline).playgrounds[0]? = some later ∧
      requests.map (·.method) = ["GET", "POST"] ∧
      later.networkLog.map (·.url) = ["/api/secure-data", "/api/data", "/api/secure-data"] ∧
      Interleaves requests ((Playground.new .apiMock 0).fetches (timeline.map Prod.snd))
        later.networkLog := by
  intro s timeline requests
  have hheard : s.Heard 0 := ⟨by decide, rfl, rfl⟩
  have hpage : s.playgrounds[0]? = some (.new .apiMock 0) := rfl
  have htoken : s.bus.isCurrent s.bus.current = true := rfl
  obtain ⟨later, hlater, -, -, hwoven⟩ :=
    trace_agrees_with_network hheard hpage rfl htoken timeline
  refine ⟨later, hlater, by decide +kernel, ?_, hwoven⟩
  have hurls : (s.announce s.bus.current timeline).playgrounds[0]?.map
      (·.networkLog.map (·.url)) = some ["/api/secure-data", "/api/data", "/api/secure-data"] := by
    decide +kernel
  rw [hlater] at hurls
  exact Option.some.inj hurls

end Session

end BrowserLab
