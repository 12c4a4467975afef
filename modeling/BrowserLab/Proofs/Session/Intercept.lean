import BrowserLab.Proofs.Playground.Intercept
import BrowserLab.Proofs.Script.Run
import BrowserLab.Proofs.Session.History
import BrowserLab.Proofs.Surface.Request

/-!
# The page and the test see the same interceptions

A run keeps a list of the interceptions that it has set up, and the page keeps another one of those
that it has heard of.

* `Recorded` says that a browser has announced just the interceptions that it keeps, and
  `admits_recorded` that this outlasts whatever a script does.
* `page_sees_interceptions`: so at any moment of a run the two lists are the same, and the page of
  the exercise on interceptions is answered as the script would be.
-/

namespace BrowserLab

namespace Script

/-- The events of a browser. -/
def Browser.events (b : Browser) : List Event := b.timeline.toList.map Prod.snd

theorem Browser.events_push (b : Browser) (e : Event) :
    (b.timeline.push (b.clock, e)).toList.map Prod.snd = b.events ++ [e] := by
  rw [Array.toList_push, List.map_append]
  rfl

/-- The browser keeps the interceptions that it has announced. -/
structure Recorded (style : Style) (b b' : Browser) : Prop where
  eq : b' = b
  style : b.style = style
  interceptions : b.interceptions = registered b.events

theorem Style.Announces.registered?_eq {style : Style} {e : Event} (h : style.Announces e) :
    e.registered? = none := by
  refine Event.registered?_of_ne fun hkind => ?_
  cases style with
  | playwright => exact h hkind
  | cypress =>
    have := h.2
    rw [hkind] at this
    simp at this

/-- Whatever a script does, the interceptions that are kept are those that were announced. -/
theorem admits_recorded (style : Style) : Admits style (.endless (Recorded style)) where
  ofStyle h := h.style
  spentStyle h := h.elim
  same h := by
    obtain rfl := h.eq
    exact ⟨rfl, rfl, rfl, rfl, rfl⟩
  agree h := by
    obtain rfl := h.eq
    exact .refl _ _
  tell {b b'} h e he _ := { h with
    eq := by rw [h.eq]
    interceptions := by
      show b.interceptions = registered ((b.timeline.push (b.clock, e)).toList.map Prod.snd)
      rw [Browser.events_push, registered_snoc, Style.Announces.registered?_eq he, h.interceptions]
      exact (List.append_nil _).symm }
  visit h url := { h with eq := by rw [h.eq] }
  register {b b'} h i _ := { h with
    eq := by rw [h.eq]
    interceptions := by
      show b.interceptions ++ [i] =
        registered ((b.timeline.push (b.clock, i.event)).toList.map Prod.snd)
      rw [Browser.events_push, registered_snoc, h.interceptions]
      rfl }
  define h name v := { h with eq := by rw [h.eq] }
  draw h n _ := { h with eq := by rw [h.eq] }
  call h c := { h with eq := by rw [h.eq] }
  wait _ {b b'} h frame n := { h with eq := by rw [h.eq] }

end Script

namespace Session

open Script

variable {catalog : Catalog} {config : Config} {stepDraws draws : Draws} {runs : Nat} {s : Session}

/-- A page and a run see the same interceptions.  When the page asks for its data, it is answered as
a request of the script would be if an interception covers that, and else with a record of its
own. -/
structure SeesAlike (page : Playground) (m : Machine) : Prop where
  interceptions : page.interceptions = m.browser.interceptions
  mock : page.mock = m.browser.interceptions.getLast?
  covered : ∀ {e : Event}, page.Fetches e →
    (Backend.covering? "GET" "/api/data" m.browser.interceptions).isSome = true →
      ∀ {out : Surface.Outgoing}, out.method = "GET" → out.url = "/api/data" →
        ∃ r, ((Surface.exchange out).runOn m).1 = .ok r ∧ (page.hear e).apiResponse = some r
  uncovered : ∀ {e : Event}, page.Fetches e →
    Backend.covering? "GET" "/api/data" m.browser.interceptions = none →
      (page.hear e).apiResponse = some ⟨200, .obj [("data", .str "Success! Loaded real data.")]⟩
  kept : ∀ {e : Event}, ¬ page.Fetches e → (page.hear e).apiResponse = page.apiResponse

theorem seesAlike_of_interceptions {page : Playground} {m : Machine} (hpage : page.Informed)
    (h : page.interceptions = m.browser.interceptions) : SeesAlike page m where
  interceptions := h
  mock := by rw [hpage, h]
  covered {e} he hcovered {out} hmethod hurl := by
    obtain ⟨i, hi⟩ := Option.isSome_iff_exists.mp hcovered
    have hanswer : m.browser.respond out = (i.answer, m.browser.draws) :=
      Browser.respond_of_covering (by rw [hmethod, hurl]; exact hi)
    refine ⟨i.answer, by rw [runOn_exchange, hanswer], ?_⟩
    rw [(page.hear_apiResponse e).1 he, Playground.dataAnswer, h, hi]
  uncovered {e} he hnone := by
    rw [(page.hear_apiResponse e).1 he, Playground.dataAnswer, h, hnone]
  kept {e} he := (page.hear_apiResponse e).2 he

/-- **The page and the test see the same interceptions.**  At any moment of a run, and at its end,
the page knows of the interceptions that the script has set up, in the same order, and shows the
last one; and when it asks for its data, it is answered as the script would be. -/
theorem page_sees_interceptions (h : Reached catalog config stepDraws draws runs s) (fuel : Nat)
    {code : String} {program : Program} (hcode : compile code = .ok program) :
    (∀ steps, SeesAlike (s.begin.2.after (program.runFor steps fuel s.begin.2.browser).2).playground
        (program.runFor steps fuel s.begin.2.browser).2) ∧
      (s.runWith fuel code).2 = s.begin.2.after (program.run fuel s.begin.2.browser).2 := by
  have hvalid := valid_of_reached h
  refine ⟨fun steps => ?_, by rw [runWith_ok hvalid hcode]⟩
  have hbegin : Recorded s.style s.begin.2.browser s.begin.2.browser := ⟨rfl, rfl, rfl⟩
  obtain ⟨⟨m', halike⟩, -⟩ :=
    (admits_recorded s.style).upholds.runFor (Nat.le_refl fuel) program steps hbegin rfl id
  rw [playground_after hvalid]
  refine seesAlike_of_interceptions
    (Playground.informed_hearAll (p := .new _ _) (Eq.refl none) _) ?_
  rw [Playground.hearAll_interceptions, halike.browsers.interceptions]
  rfl

/-- A script sets up two interceptions for the data of the page, which is then asked for it. -/
theorem page_sees_interceptions_twice :
    let s := ((new .builtin (.standard "lab") .zeros .zeros).select "adv-api-mocking").2
    let code := "cy.intercept('/api/data', \x7b\x7d);
      cy.intercept('/api/*', \x7bstatusCode: 418\x7d);
      cy.contains('Fetch Data').click()"
    ∃ program, compile code = .ok program ∧
      (program.run 100 s.begin.2.browser).2.browser.interceptions.length = 2 ∧
      SeesAlike (s.runWith 100 code).2.playground (program.run 100 s.begin.2.browser).2 ∧
      (s.runWith 100 code).2.playground.apiResponse.map (·.status) = some 418 := by
  intro s code
  have h : Reached .builtin (.standard "lab") .zeros .zeros 0 s := .select .new _
  obtain ⟨hok, hlength, hshown⟩ : (compile code).isOk = true ∧
      (s.runWith 100 code).2.playground.interceptions.length = 2 ∧
        (s.runWith 100 code).2.playground.apiResponse.map (·.status) = some 418 := by
    decide +kernel
  cases hcode : compile code with
  | error e => simp [hcode, Except.isOk, Except.toBool] at hok
  | ok program =>
    have hsees := page_sees_interceptions h 100 hcode
    have hend := hsees.1 none
    rw [show program.runFor none 100 s.begin.2.browser = program.run 100 s.begin.2.browser from rfl,
      ← hsees.2] at hend
    refine ⟨program, rfl, ?_, hend, hshown⟩
    rw [← hend.interceptions]
    exact hlength

end Session

end BrowserLab
