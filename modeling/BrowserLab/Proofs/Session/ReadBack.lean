import BrowserLab.Proofs.Event.ReadBack
import BrowserLab.Proofs.Script.Run
import BrowserLab.Proofs.Session.Pace

/-!
# What a run announces can be written and read back

No script can bring about a status code that does not fit into 16 bits: requests are answered by the
backend or by an interception, and the code of an interception is cut down when it is set up.  So
the events and the steps of a run are read back from their documents, up to a payload that is null.

* `Fitting` says this of the interceptions and the events of a browser, and `admits_fitting` that it
  outlasts whatever a script does.
* `documents_read_back`: the events of a run and the steps of its report.
-/

namespace BrowserLab

namespace Script

/-- All status codes that the browser has come by are such that 16 bits hold them. -/
structure Fitting (style : Style) (b b' : Browser) : Prop where
  eq : b' = b
  style : b.style = style
  interceptions : ∀ i ∈ b.interceptions, i.response.status < statusBound
  timeline : ∀ said ∈ b.timeline.toList, said.2.Fits

theorem Fitting.snoc {style : Style} {b b' : Browser} (h : Fitting style b b') {e : Event}
    (he : e.Fits) : ∀ said ∈ (b.timeline.push (b.clock, e)).toList, said.2.Fits := by
  intro said hsaid
  rw [Array.toList_push, List.mem_append, List.mem_singleton] at hsaid
  rcases hsaid with hsaid | rfl
  · exact h.timeline said hsaid
  · exact he

/-- A status code that the browser can serve fits, since those of its interceptions do. -/
theorem Fitting.fits_of_answers {style : Style} {b b' : Browser} (h : Fitting style b b')
    {e : Event} (he : b.Answers e) : e.Fits where
  network x hx := by
    rcases he.network x hx with hlt | ⟨i, hi, hstatus⟩
    · exact hlt
    · rw [← hstatus]
      exact h.interceptions i hi
  interception i hi := by
    rw [he.interception] at hi
    cases hi

theorem fits_event {i : Interception} (hi : i.response.status < statusBound) : i.event.Fits where
  network _ hx := by cases hx
  interception j hj := by
    obtain rfl := Option.some.inj hj
    exact hi

/-- Whatever a script does, all status codes fit. -/
theorem admits_fitting (style : Style) : Admits style (.endless (Fitting style)) where
  ofStyle h := h.style
  spentStyle h := h.elim
  same h := by
    obtain rfl := h.eq
    exact ⟨rfl, rfl, rfl, rfl, rfl⟩
  agree h := by
    obtain rfl := h.eq
    exact .refl _ _
  tell {b b'} h e _ he := { h with
    eq := by rw [h.eq]
    timeline := h.snoc (h.fits_of_answers he) }
  visit h url := { h with eq := by rw [h.eq] }
  register {b b'} h i hi := { h with
    eq := by rw [h.eq]
    interceptions := fun j hj => by
      rcases List.mem_append.mp hj with hj | hj
      · exact h.interceptions j hj
      · rw [List.mem_singleton.mp hj]
        exact hi
    timeline := h.snoc (fits_event hi) }
  define h name v := { h with eq := by rw [h.eq] }
  draw h n _ := { h with eq := by rw [h.eq] }
  call h c := { h with eq := by rw [h.eq] }
  wait _ {b b'} h frame n := { h with eq := by rw [h.eq] }

end Script

/-- A step fits if its event does, and if its numbers do. -/
theorem Step.Tells.fits {s : Step} {index elapsed : Nat} {e : Event} (h : s.Tells index elapsed e)
    (he : e.Fits) (hindex : s.index < wordBound) (helapsed : s.elapsed < wordBound)
    (hduration : s.duration < wordBound) : s.Fits where
  index := hindex
  elapsed := helapsed
  duration := hduration
  network x hx := by
    rw [h.network] at hx
    obtain ⟨y, hy, rfl⟩ := Option.map_eq_some_iff.mp hx
    exact he.network y hy
  interception i hi := by
    rw [h.interception] at hi
    exact he.interception i hi

namespace Session

open Script

variable {catalog : Catalog} {config : Config} {stepDraws draws : Draws} {runs : Nat} {s : Session}

theorem fitting_run (s : Session) (fuel : Nat) (program : Program) :
    ∀ said ∈ (program.run fuel s.begin.2.browser).2.browser.timeline.toList, said.2.Fits := by
  have hbegin : Fitting s.style s.begin.2.browser s.begin.2.browser :=
    ⟨rfl, rfl, fun _ h => by simp [browser] at h, fun _ h => by simp [browser] at h⟩
  obtain ⟨⟨m', halike⟩, -⟩ :=
    (admits_fitting s.style).upholds.run (Nat.le_refl fuel) program hbegin rfl id
  exact halike.browsers.timeline

/-- **Events and steps are read back, but for payloads that are null.**  Whatever a script does, in
either style: an event that it announces is read back from its document without a payload that is
null, and so is each step of the report whose numbers fit into 64 bits.  It is just what was written
unless there is such a payload. -/
theorem documents_read_back (h : Reached catalog config stepDraws draws runs s) (fuel : Nat)
    (code : String) :
    (∀ program, compile code = .ok program →
      ∀ said ∈ (program.run fuel s.begin.2.browser).2.browser.timeline.toList,
        Event.ofDocument? said.2.toJson = some said.2.settled ∧
          (said.2.settled = said.2 ↔
            ∀ x, said.2.network = some x → x.payload ≠ some .null)) ∧
      ∀ step ∈ (s.runWith fuel code).1.steps,
        step.index < wordBound → step.elapsed < wordBound → step.duration < wordBound →
          Step.ofDocument? step.toJson = some step.settled ∧
            (step.settled = step ↔ ∀ x, step.network = some x → x.payload ≠ some .null) := by
  have hvalid := valid_of_reached h
  refine ⟨fun program _ said hsaid => ?_, fun step hstep hindex helapsed hduration => ?_⟩
  · have hfits : said.2.Fits := s.fitting_run fuel program said hsaid
    exact ⟨Event.ofDocument?_toJson hfits, said.2.settled_eq_iff⟩
  · refine ⟨Step.ofDocument?_toJson ?_, step.settled_eq_iff⟩
    cases hcode : compile code with
    | error e =>
      rw [runWith_error hvalid hcode] at hstep
      cases hstep
    | ok program =>
      rw [runWith_ok hvalid hcode] at hstep
      obtain ⟨i, now, e, hsaid, htells⟩ := (s.told_after _).of_mem hstep
      exact htells.fits (s.fitting_run fuel program _ hsaid) hindex helapsed hduration

/-- A script sends an order, and the step is read back with it. -/
theorem documents_read_back_order :
    let s := ((new .builtin (.standard "lab") .zeros .zeros).select "pw-trace-viewer").2
    let code := "await request.post('/api/orders', \x7b data: \x7b item: 'tea' \x7d \x7d)"
    ∃ step, (s.runWith 100 code).1.steps = [step] ∧
      (step.network.bind (·.payload)).isSome = true ∧ Step.ofDocument? step.toJson = some step := by
  intro s code
  have h : Reached .builtin (.standard "lab") .zeros .zeros 0 s := .select .new _
  have hlength : (s.runWith 100 code).1.steps.length = 1 := by decide +kernel
  obtain ⟨step, hstep⟩ := List.length_eq_one_iff.mp hlength
  have hmem : step ∈ (s.runWith 100 code).1.steps := by
    rw [hstep]
    exact List.mem_singleton_self _
  have hnumbers : (s.runWith 100 code).1.steps.all (fun step =>
      step.index < wordBound && step.elapsed < wordBound && step.duration < wordBound) = true := by
    decide +kernel
  have hpayloads : (s.runWith 100 code).1.steps.all (fun step =>
      (step.network.bind (·.payload)).any fun j => !Document.isNull j) = true := by decide +kernel
  have hfit := List.all_eq_true.mp hnumbers step hmem
  simp only [Bool.and_eq_true, decide_eq_true_eq] at hfit
  have hpayload := List.all_eq_true.mp hpayloads step hmem
  obtain ⟨hread, hsame⟩ := (documents_read_back h 100 code).2 step hmem hfit.1.1 hfit.1.2 hfit.2
  have hsettled : step.settled = step := by
    refine hsame.mpr fun x hx hnull => ?_
    rw [hx, Option.bind_some, hnull] at hpayload
    cases hpayload
  refine ⟨step, hstep, ?_, by rw [hread, hsettled]⟩
  exact Option.isSome_of_any hpayload

/-- A script sends a function, which is recorded as a payload that is null and lost. -/
theorem payload_lost_function :
    let s := ((new .builtin (.standard "lab") .zeros .zeros).select "pw-trace-viewer").2
    let code := "await request.post('/api/orders', \x7b data: () => 1 \x7d)"
    ∃ step ∈ (s.runWith 100 code).1.steps, Step.ofDocument? step.toJson ≠ some step := by
  intro s code
  have hlost : (s.runWith 100 code).1.steps.any (fun step =>
      (step.network.bind (·.payload)).isSome &&
        (Step.ofDocument? step.toJson).all fun read => !(read.network.bind (·.payload)).isSome) =
          true := by decide +kernel
  obtain ⟨step, hstep, hpayload⟩ := List.any_eq_true.mp hlost
  rw [Bool.and_eq_true] at hpayload
  refine ⟨step, hstep, fun hread => ?_⟩
  rw [hread, Option.all_some, hpayload.1] at hpayload
  cases hpayload.2

end Session

end BrowserLab
