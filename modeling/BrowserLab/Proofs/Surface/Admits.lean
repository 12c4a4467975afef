import BrowserLab.Event.Document
import BrowserLab.Proofs.Draws
import BrowserLab.Proofs.Surface.Argument

/-!
# What a style can do to the browser

Every handle belongs to the style whose scripts can come by it; expectations belong to both.  What
the methods of such handles do to the browser are a few kinds of steps: an event is announced, and
the page takes its time if the style waits for it; a page is visited, an interception is set up and
announced, a command is added, numbers are drawn, a call is noted, and a page waits as long as it is
asked to.  Requests are answered by the backend or by an interception, so that their status codes
are small if those of the interceptions are.
`Admits style R` says that a relation between browsers outlasts these steps, and that browsers so
related look the same to a script, as long as they draw the same numbers.
-/

namespace BrowserLab

/-- How long the page takes to respond to an event of this kind. -/
def Latency.pauseAfter (l : Latency) : Event.Kind → Nat
  | .navigate => l.navigate
  | .click => l.interaction
  | .fill => l.interaction
  | .select => l.interaction
  | .drag => l.drag
  | .upload => l.upload
  | _ => 0

/-- The events that scripts of a style bring about, apart from those of interceptions. -/
def Style.Announces : Style → Event → Prop
  | .playwright, e => e.kind ≠ .routeIntercept
  | .cypress, e =>
    e.label = none ∧ e.kind ∈ [.navigate, .click, .fill, .select, .upload, .drag, .apiCall]

/-- The event is about neither a request nor an interception. -/
structure Event.Bare (e : Event) : Prop where
  network : e.network = none
  interception : e.interception = none

/-- The event of setting up an interception. -/
def Interception.event (i : Interception) : Event :=
  { kind := .routeIntercept, value := some i.glob, interception := some i }

namespace Script

/-- The handle belongs to the style. -/
def Handle.Of (style : Style) : Handle → Prop
  | .page _ => style = .playwright
  | .locator _ => style = .playwright
  | .route _ => style = .playwright
  | .request => style = .playwright
  | .response _ => style = .playwright
  | .accessibility => style = .playwright
  | .expectation _ => True
  | .cy => style = .cypress
  | .chain _ _ => style = .cypress
  | .element _ => style = .cypress
  | .alias => style = .cypress
  | .cypress => style = .cypress
  | .commands => style = .cypress

namespace Browser

/-- How long a browser waits after it has announced an event of this kind. -/
def pauseAfter (b : Browser) (kind : Event.Kind) : Nat :=
  match b.style with
  | .playwright => b.latency.pauseAfter kind
  | .cypress => 0

/-- The browser announces an event and waits for the page. -/
def tell (b : Browser) (e : Event) : Browser :=
  { b with timeline := b.timeline.push (b.clock, e), clock := b.clock + b.pauseAfter e.kind }

/-- The browser sets up an interception and announces it. -/
def register (b : Browser) (i : Interception) : Browser :=
  { b with
    interceptions := b.interceptions ++ [i]
    timeline := b.timeline.push (b.clock, i.event) }

/-- What the browser answers to a request, and the draws after it. -/
def respond (b : Browser) (out : Surface.Outgoing) : Response × Draws :=
  Backend.respond out.method out.url out.payload out.headers b.interceptions b.draws

/-- The browser makes a request, and announces it with its answer. -/
def exchange (b : Browser) (out : Surface.Outgoing) : Browser :=
  { b with
    draws := (b.respond out).2
    timeline := b.timeline.push (b.clock, out.event (b.respond out).1) }

theorem exists_respond_draws (b : Browser) (out : Surface.Outgoing) :
    ∃ n, (b.respond out).2 = b.draws.skip n := by
  obtain ⟨n, r, hr, -⟩ := Backend.stable_respond out.method out.url out.payload out.headers
    b.interceptions (fun _ => False) (fun _ _ => id) _ _ (.refl _ b.draws)
  exact ⟨n, by rw [respond, hr]⟩

/-- A request can be answered with the status code, by the backend or by an interception. -/
def Serves (b : Browser) (status : Nat) : Prop :=
  status < statusBound ∨ ∃ i ∈ b.interceptions, i.response.status = status

/-- The event sets up no interception, and if it tells of a request, that can have been answered
so. -/
structure Answers (b : Browser) (e : Event) : Prop where
  network : ∀ x, e.network = some x → b.Serves x.status
  interception : e.interception = none

theorem Answers.of_bare {b : Browser} {e : Event} (h : e.Bare) : b.Answers e where
  network x hx := by
    rw [h.network] at hx
    cases hx
  interception := h.interception

/-- The browsers are the same to a script, except for the numbers that it draws. -/
structure Same (b b' : Browser) : Prop where
  style : b'.style = b.style
  latency : b'.latency = b.latency
  url : b'.url = b.url
  interceptions : b'.interceptions = b.interceptions
  commands : b'.commands = b.commands

end Browser

/-- The relation outlasts what the methods of handles of a style do to browsers. -/
structure Tolerates (style : Style) (R : Link) : Prop where
  ofStyle : ∀ {b b'}, R b b' → b.style = style
  spentStyle : ∀ {b}, R.spent b → b.style = style
  same : ∀ {b b'}, R b b' → b.Same b'
  agree : ∀ {b b'}, R b b' → Draws.Agree (fun d => R.spent { b with draws := d }) b.draws b'.draws
  tell : ∀ {b b'}, R b b' → ∀ {e}, style.Announces e → b.Answers e → R (b.tell e) (b'.tell e)
  visit : ∀ {b b'}, R b b' → ∀ url, R { b with url := some url } { b' with url := some url }
  register : ∀ {b b'}, R b b' → ∀ {i}, i.response.status < statusBound →
    R (b.register i) (b'.register i)
  define : ∀ {b b'}, R b b' → ∀ name v,
    R { b with commands := b.commands.insert name v }
      { b' with commands := b'.commands.insert name v }
  draw : ∀ {b b'}, R b b' → ∀ n, ¬ R.spent { b with draws := b.draws.skip n } →
    R { b with draws := b.draws.skip n } { b' with draws := b'.draws.skip n }

/-- The relation outlasts what scripts of a style can do to browsers, of which all calls are
noted. -/
structure Admits (style : Style) (R : Link) : Prop extends Tolerates style R where
  call : ∀ {b b'}, R b b' → ∀ c, R { b with calls := c :: b.calls } { b' with calls := c :: b'.calls }
  wait : style = .playwright → ∀ {b b'}, R b b' → ∀ frame n,
    R { b with calls := (.page frame, "waitForTimeout") :: b.calls, clock := b.clock + n }
      { b' with calls := (.page frame, "waitForTimeout") :: b'.calls, clock := b'.clock + n }

variable {style : Style} {p : Handle → Prop} {R : Link}

/-! ### Steps on the browser -/

theorem Keeps.noteCall {c : Handle × String}
    (hnote : ∀ {b b'}, R b b' →
      R { b with calls := c :: b.calls } { b' with calls := c :: b'.calls }) :
    Keeps p R Anything (Eval.modifyBrowser fun b => { b with calls := c :: b.calls }) :=
  .modifyBrowser (fun _ _ h => hnote h) (fun _ => ⟨rfl, rfl⟩) fun _ h => h

namespace Tolerates

variable {α : Type} {Q : α → Prop} {e : Event}

theorem read (hR : Tolerates style R) {f : Browser → α} (hf : ∀ b b', Browser.Same b b' → f b' = f b)
    (hQ : ∀ b, Dict.Holds (Value.All p) b.commands → Q (f b)) :
    Keeps p R Q (Eval.browser f) :=
  .browser (fun _ _ h => hf _ _ (hR.same h)) hQ

/-- The browsers announce an event for which the page need not take its time. -/
theorem told (hR : Tolerates style R) (he : style.Announces e)
    (hpause : style = .playwright → ∀ l : Latency, l.pauseAfter e.kind = 0) {b b' : Browser}
    (h : R b b') (hanswers : b.Answers e) :
    R { b with timeline := b.timeline.push (b.clock, e) }
      { b' with timeline := b'.timeline.push (b'.clock, e) } := by
  have hnone : ∀ c : Browser, c.style = style →
      c.tell e = { c with timeline := c.timeline.push (c.clock, e) } := by
    intro c hc
    have : c.pauseAfter e.kind = 0 := by
      rw [Browser.pauseAfter, hc]
      cases style with
      | playwright => exact hpause rfl _
      | cypress => rfl
    rw [Browser.tell, this, Nat.add_zero]
  have := hR.tell h he hanswers
  rwa [hnone b (hR.ofStyle h), hnone b' ((hR.same h).style.trans (hR.ofStyle h))] at this

/-- An event for which the page need not take its time. -/
theorem emit (hR : Tolerates style R) (he : style.Announces e)
    (hpause : style = .playwright → ∀ l : Latency, l.pauseAfter e.kind = 0)
    (hbare : e.Bare) : Keeps p R Anything (Eval.emit e) :=
  .modifyBrowser (fun _ _ h => hR.told he hpause h (Browser.Answers.of_bare hbare))
    (fun _ => ⟨rfl, rfl⟩) fun _ h => h

/-- An event for which the page takes its time. -/
theorem act (hR : Tolerates .playwright R) (he : e.kind ≠ .routeIntercept) {delay : Latency → Nat}
    (hdelay : ∀ l : Latency, delay l = l.pauseAfter e.kind) (hbare : e.Bare) :
    Keeps p R (Reply.All p) (Surface.act e delay) := by
  refine .ofBrowser
    (f := fun b => (.value .undefined,
      { b with timeline := b.timeline.push (b.clock, e), clock := b.clock + delay b.latency }))
    (fun _ => rfl) (fun b b' h => .inr ⟨rfl, ?_⟩) (fun _ h => R.lasting (n := 0) h rfl rfl)
    fun _ h => ⟨trivial, h⟩
  have htell : ∀ c : Browser, c.style = .playwright → c.tell e =
      { c with timeline := c.timeline.push (c.clock, e), clock := c.clock + delay c.latency } := by
    intro c hc
    have : c.pauseAfter e.kind = delay c.latency := by rw [Browser.pauseAfter, hc, hdelay]
    rw [Browser.tell, this]
  have := hR.tell h he (Browser.Answers.of_bare hbare)
  rwa [htell b (hR.ofStyle h), htell b' ((hR.same h).style.trans (hR.ofStyle h))] at this

theorem setUrl (hR : Tolerates style R) (url : String) :
    Keeps p R Anything
      (Eval.modifyBrowser fun b => { b with url := some url }) :=
  .modifyBrowser (fun _ _ h => hR.visit h url) (fun _ => ⟨rfl, rfl⟩) fun _ h => h

theorem defineCommand (hR : Tolerates style R) (name : String) {v : Value}
    (hv : v.All p) :
    Keeps p R Anything
      (Eval.modifyBrowser fun b => { b with commands := b.commands.insert name v }) :=
  .modifyBrowser (fun _ _ h => hR.define h name v) (fun _ => ⟨rfl, rfl⟩) fun _ h => h.insert hv name

theorem announces_plain (h : e.label = none)
    (hkind : e.kind ∈ [.navigate, .click, .fill, .select, .upload, .drag, .apiCall]) :
    style.Announces e := by
  cases style with
  | playwright =>
    intro hroute
    rw [hroute] at hkind
    simp at hkind
  | cypress => exact ⟨h, hkind⟩

/-- An interception is set up and announced in one step. -/
theorem setUp (hR : Tolerates style R) {i : Interception} (hi : i.response.status < statusBound) :
    Keeps p R Anything (Surface.register i) :=
  .ofBrowser (f := fun b => ((), b.register i)) (fun _ => rfl)
    (fun _ _ h => .inr ⟨rfl, hR.register h hi⟩) (fun _ h => R.lasting (n := 0) h rfl rfl)
    fun _ h => ⟨trivial, h⟩

/-- What is drawn from the browser's source by a computation that is stable, and what is then done
with it that draws nothing more. -/
theorem drawnThen (hR : Tolerates style R) {x : Eval α} {f : Browser → Draws → α × Draws}
    {g : α → Browser → Browser}
    (hx : ∀ m, let r := f m.browser m.browser.draws
      x.runOn m = (.ok r.1, { m with browser := g r.1 { m.browser with draws := r.2 } }))
    (hf : ∀ b b', Browser.Same b b' → f b' = f b) (hstable : ∀ b, Draws.Stable (f b))
    (hg : ∀ {b b'}, R b b' → ∀ d, R (g (f b d).1 b) (g (f b d).1 b'))
    (hsame : ∀ a b, (g a b).style = b.style ∧ (g a b).draws = b.draws)
    (hholds : ∀ a b, Dict.Holds (Value.All p) b.commands →
      Dict.Holds (Value.All p) (g a b).commands) :
    Keeps p R Anything x := by
  have hlasting (b : Browser) : Draws.Lasting fun d => R.spent { b with draws := d } :=
    fun _ _ hd => R.lasting hd rfl rfl
  have hdone {a : α} {b : Browser} (h : R.spent b) : R.spent (g a b) :=
    R.lasting (n := 0) h (hsame a b).1 (hsame a b).2
  refine .ofBrowser
    (f := fun b => ((f b b.draws).1, g (f b b.draws).1 { b with draws := (f b b.draws).2 })) hx
    (fun b b' h => ?_) (fun b hs => ?_) fun _ h => ⟨trivial, hholds _ _ h⟩
  · obtain ⟨n, a, hn, hn'⟩ := hstable b _ (hlasting b) _ _ (hR.agree h)
    by_cases hs : R.spent { b with draws := b.draws.skip n }
    · rw [hn]
      exact .inl (hdone hs)
    · have hn' : f b' b'.draws = (a, b'.draws.skip n) := by rw [hf b b' (hR.same h), hn' hs]
      have hdraw := hg (hR.draw h n hs) b.draws
      have hkept : f { b with draws := b.draws.skip n } = f b := hf b _ ⟨rfl, rfl, rfl, rfl, rfl⟩
      rw [hkept, hn] at hdraw
      rw [hn, hn']
      exact .inr ⟨rfl, hdraw⟩
  · obtain ⟨n, a, hn, -⟩ := hstable b _ (hlasting b) _ _ (.refl _ b.draws)
    rw [hn]
    exact hdone (R.lasting hs rfl rfl)

/-- What is drawn from the browser's source by a computation that is stable. -/
theorem drawn (hR : Tolerates style R) {x : Eval α} {f : Browser → Draws → α × Draws}
    (hx : ∀ m, x.runOn m = (.ok (f m.browser m.browser.draws).1,
      { m with browser := { m.browser with draws := (f m.browser m.browser.draws).2 } }))
    (hf : ∀ b b', Browser.Same b b' → f b' = f b) (hstable : ∀ b, Draws.Stable (f b)) :
    Keeps p R Anything x :=
  hR.drawnThen (g := fun _ b => b) hx hf hstable (fun h _ => h) (fun _ _ => ⟨rfl, rfl⟩)
    fun _ _ h => h

/-- What the backend answers, by an interception or on its own. -/
theorem serves_respond (b : Browser) (out : Surface.Outgoing) (d : Draws) :
    b.Serves (Backend.respond out.method out.url out.payload out.headers b.interceptions d).1.status
    := by
  unfold Backend.respond
  split
  · next i hi =>
    have hmem : i ∈ b.interceptions := List.mem_reverse.mp (List.mem_of_find?_eq_some hi)
    exact .inr ⟨i, hmem, rfl⟩
  · refine .inl ?_
    unfold Backend.serve
    split
    · show 200 < statusBound
      decide
    split
    · split
      · show 200 < statusBound
        decide
      · show 401 < statusBound
        decide
    split
    · show 201 < statusBound
      decide
    · show 200 < statusBound
      decide

theorem answer (hR : Tolerates style R) (out : Surface.Outgoing) :
    Keeps p R Anything (Surface.answer out) := by
  refine hR.drawn
    (f := fun b => Backend.respond out.method out.url out.payload out.headers b.interceptions)
    (fun _ => rfl) (fun b b' h => ?_) fun _ => Backend.stable_respond _ _ _ _ _
  rw [h.interceptions]

/-- A request is answered and announced in one step. -/
theorem exchange (hR : Tolerates style R) (out : Surface.Outgoing) :
    Keeps p R Anything (Surface.exchange out) := by
  have hannounces (r : Response) : style.Announces (out.event r) :=
    announces_plain rfl (by simp [Surface.Outgoing.event])
  refine hR.drawnThen
    (f := fun b => Backend.respond out.method out.url out.payload out.headers b.interceptions)
    (g := fun r b => { b with timeline := b.timeline.push (b.clock, out.event r) })
    (fun _ => rfl) (fun b b' h => ?_) (fun _ => Backend.stable_respond _ _ _ _ _)
    (fun {b b'} h d => ?_) (fun _ _ => ⟨rfl, rfl⟩) fun _ _ h => h
  · rw [h.interceptions]
  · refine hR.told (hannounces _) (fun _ _ => rfl) h ⟨fun x hx => ?_, rfl⟩
    obtain rfl := Option.some.inj hx
    exact serves_respond b out d

theorem random (hR : Tolerates style R) :
    Keeps p R Anything (modifyGet fun m =>
      let (x, draws) := m.browser.draws.unit
      (x, { m with browser := { m.browser with draws := draws } }) : Eval Float) :=
  hR.drawn (f := fun _ => Draws.unit) (fun _ => rfl) (fun _ _ _ => rfl) fun _ => Draws.stable_unit

end Tolerates

end Script

end BrowserLab
