import BrowserLab.Proofs.Surface.Admits

/-!
# What the page can do

The methods of the page, of locators, routes, requests and answers, and of the accessibility tree.
Each announces at most one event and then lets pass exactly the time that the page takes for it;
only `waitForTimeout` lets pass another time.
-/

namespace BrowserLab.Script

variable {R : Link}

namespace Admits

variable (hR : Admits .playwright R)

/-- The replies that hold handles of the page only. -/
abbrev PageReply : Reply → Prop := Reply.All (Handle.Of .playwright)

/-- How long a page waits that is asked to. -/
def waited (milliseconds : Float) : Nat :=
  if milliseconds > 0.0 && !milliseconds.isInf then Number.toNat64 milliseconds else 0

theorem found (l : Locator) : Keeps (Handle.Of .playwright) R PageReply (Surface.found l) :=
  .pure rfl

theorem foundByText (args : List Value) (i : Nat) (l : String → Locator) :
    Keeps (Handle.Of .playwright) R PageReply
      (Surface.textArgument args i >>= fun text => Surface.found (l text)) :=
  (Keeps.textArgument args i).bind fun _ _ => found _

include hR

theorem upload (l : Locator) (files : Value) :
    Keeps (Handle.Of .playwright) R PageReply (Surface.upload l files) :=
  (Keeps.heap (Q := Anything) fun _ _ => trivial).bind fun _ _ =>
    hR.act (by nofun) (fun _ => rfl) ⟨rfl, rfl⟩

theorem dragTo (l : Locator) (goal : Value) :
    Keeps (Handle.Of .playwright) R PageReply
      (Surface.act (Surface.dragEvent l goal) Latency.drag) := by
  have hkind : (Surface.dragEvent l goal).kind = .drag := by
    unfold Surface.dragEvent
    split <;> rfl
  have hbare : (Surface.dragEvent l goal).Bare := by
    unfold Surface.dragEvent
    split <;> exact ⟨rfl, rfl⟩
  refine hR.act (by rw [hkind]; decide) (fun latency => ?_) hbare
  rw [hkind]
  rfl

theorem locatorMethod (l : Locator) (method : String) {args : List Value}
    (hargs : AllValues (Handle.Of .playwright) args) :
    Keeps (Handle.Of .playwright) R PageReply (Surface.locatorMethod l method args) := by
  unfold Surface.locatorMethod
  split
  · exact hR.act (by nofun) (fun _ => rfl) ⟨rfl, rfl⟩
  split
  · exact (Keeps.textArgument _ _).bind fun _ _ => hR.act (by nofun) (fun _ => rfl) ⟨rfl, rfl⟩
  split
  · exact .pure trivial
  split
  · exact (Keeps.heap (Q := Anything) fun _ _ => trivial).bind fun _ _ =>
      hR.act (by nofun) (fun _ => rfl) ⟨rfl, rfl⟩
  · exact hR.dragTo _ _
  · exact hR.upload _ _
  · exact (hR.emit (by nofun) (fun _ _ => rfl) ⟨rfl, rfl⟩).bind fun _ _ => .pure trivial
  · exact foundByText _ _ _
  · exact foundByText _ _ _
  · exact foundByText _ _ _
  · exact foundByText _ _ _
  · exact (Keeps.roleName _).bind fun _ _ => found _
  · exact foundByText _ _ _
  · exact foundByText _ _ _
  · refine (Keeps.textOption? _ _).bind fun text _ => ?_
    cases text <;> exact found _
  · exact found _
  · exact found _
  · exact (Keeps.display _).bind fun _ _ => found _
  · exact (Keeps.textArgument _ _).bind fun _ _ => .pure rfl
  · exact .pure trivial
  · exact .pure trivial
  · exact .pure trivial
  · exact .pure trivial
  · exact .pure trivial
  · exact .pure trivial
  · exact .pure trivial
  · exact Keeps.fallback (p := Handle.Of .playwright) (h := .locator l) rfl _ hargs

/-- A method of the page, unless it waits as long as it is asked to. -/
theorem pageMethod (frame : FramePath) {method : String} (hmethod : method ≠ "waitForTimeout")
    {args : List Value} (hargs : AllValues (Handle.Of .playwright) args) :
    Keeps (Handle.Of .playwright) R PageReply (Surface.pageMethod frame method args) := by
  unfold Surface.pageMethod
  split
  · exact .pure trivial
  split
  · exact (Keeps.textArgument _ _).bind fun _ _ => hR.locatorMethod _ _ (hargs.drop 1)
  split
  · refine (Keeps.textArgument _ _).bind fun url _ => (hR.setUrl url).bind fun _ _ => ?_
    exact hR.act (by nofun) (fun _ => rfl) ⟨rfl, rfl⟩
  · exact (Keeps.textArgument _ _).bind fun _ _ => .pure rfl
  · exact (Keeps.textArgument _ _).bind fun _ _ => .pure rfl
  · exact foundByText _ _ _
  · exact foundByText _ _ _
  · exact foundByText _ _ _
  · exact foundByText _ _ _
  · exact foundByText _ _ _
  · exact (Keeps.roleName _).bind fun _ _ => found _
  · exact foundByText _ _ _
  · exact foundByText _ _ _
  · refine (Keeps.textArgument _ _).bind fun glob _ => ?_
    dsimp only
    split
    · exact .pure ⟨hargs.argument 1, allValues_nil.cons rfl, fun _ _ => trivial⟩
    · exact Keeps.typeError _
  · exact (Keeps.textArgument _ _).bind fun _ _ => hR.upload _ _
  · exact absurd rfl hmethod
  · split
    · exact (hR.answer _).bind fun _ _ => .pure rfl
    · exact .pure trivial
  · exact (hR.read (Q := Anything) (fun _ _ h => h.url) fun _ _ => trivial).bind
      fun _ _ => .pure trivial
  · exact .pure trivial
  · exact .pure trivial
  · exact Keeps.fallback (p := Handle.Of .playwright) (h := .page frame) rfl _ hargs

theorem routeMethod (glob method : String) {args : List Value}
    (hargs : AllValues (Handle.Of .playwright) args) :
    Keeps (Handle.Of .playwright) R PageReply (Surface.routeMethod glob method args) := by
  unfold Surface.routeMethod
  split
  · refine (Keeps.statusOption _ _).bind fun _ hstatus => (Keeps.option? _ _).bind fun _ _ => ?_
    refine (Keeps.option? _ _).bind fun _ _ => (Keeps.bodyOf _).bind fun _ _ => ?_
    exact (hR.setUp hstatus).bind fun _ _ => .pure trivial
  · exact .pure trivial
  · exact .pure trivial
  · exact .pure trivial
  · exact (Keeps.newObject (Dict.holds_cons (Value.all_string _) Dict.holds_nil)).bind
      fun _ h => .pure h
  · exact Keeps.fallback (p := Handle.Of .playwright) (h := .route glob) rfl _ hargs

theorem accessibilityMethod (method : String) :
    Keeps (Handle.Of .playwright) R PageReply (Surface.accessibilityMethod method) := by
  unfold Surface.accessibilityMethod
  split
  · refine (hR.emit (by nofun) (fun _ _ => rfl) ⟨rfl, rfl⟩).bind fun _ _ => ?_
    exact (Keeps.ofJson _).bind fun _ h => .pure h
  · exact Keeps.fallback (p := Handle.Of .playwright) (h := .accessibility) rfl _ allValues_nil

theorem requestMethod (method : String) {args : List Value}
    (hargs : AllValues (Handle.Of .playwright) args) :
    Keeps (Handle.Of .playwright) R PageReply (Surface.requestMethod method args) := by
  have hsend : ∀ verb : String, Keeps (Handle.Of .playwright) R PageReply (do
      let url ← Surface.textArgument args 0
      let payload ← Surface.payloadOf (← Eval.option? (argument args 1) "data")
      let headers ← Surface.headersOf (← Eval.option? (argument args 1) "headers")
      let r ← Surface.exchange { method := Text.asciiUpper verb, url, payload, headers }
      return .value (.handle (.response r))) := by
    intro verb
    refine (Keeps.textArgument _ _).bind fun _ _ => (Keeps.option? _ _).bind fun _ _ => ?_
    refine (Keeps.payloadOf _).bind fun _ _ => (Keeps.option? _ _).bind fun _ _ => ?_
    exact (Keeps.headersOf _).bind fun _ _ => (hR.exchange _).bind fun _ _ => .pure rfl
  unfold Surface.requestMethod
  split
  · exact Keeps.fallback (p := Handle.Of .playwright) (h := .request) rfl _ hargs
  · dsimp only
    split
    · exact (Keeps.textOption? _ _).bind fun _ _ => hsend _
    · exact hsend _

omit hR in
theorem responseMethod (r : Response) (method : String) :
    Keeps (Handle.Of .playwright) R PageReply (Surface.responseMethod r method) := by
  unfold Surface.responseMethod
  split
  · exact .pure trivial
  · exact .pure trivial
  · exact .pure trivial
  · exact (Keeps.ofJson _).bind fun _ h => .pure h
  · exact .pure trivial
  · exact .pure trivial
  · exact Keeps.answerHeaders.bind fun _ h => .pure h
  · exact Keeps.fallback (p := Handle.Of .playwright) (h := .response r) rfl _ allValues_nil

omit hR in
theorem pageMethod_waitForTimeout (frame : FramePath) (args : List Value) :
    Surface.pageMethod frame "waitForTimeout" args =
      (Eval.number (argument args 0) >>= fun x => Surface.waitFor x) := by
  unfold Surface.pageMethod
  rw [if_neg (by decide), if_neg (by decide)]
  rfl

omit hR in
theorem runOn_waitFor (x : Float) (m : Machine) :
    (Surface.waitFor x).runOn m =
      (.ok (.value .undefined),
        { m with browser := { m.browser with clock := m.browser.clock + waited x } }) := by
  unfold Surface.waitFor waited
  split <;> rfl

/-- A page that is asked to wait does so, and the call is noted. -/
theorem waitForTimeout (frame : FramePath) (args : List Value) :
    Keeps (Handle.Of .playwright) R PageReply
      (Surface.invoke (.page frame) "waitForTimeout" args) := by
  let wait (n : Nat) (b : Browser) : Browser :=
    { b with calls := (.page frame, "waitForTimeout") :: b.calls, clock := b.clock + n }
  have hwait : ∀ n, Keeps (Handle.Of .playwright) R Anything (Eval.modifyBrowser (wait n)) :=
    fun n => .modifyBrowser (fun _ _ h => hR.wait rfl h frame n) (fun _ => ⟨rfl, rfl⟩) fun _ h => h
  -- the call is noted before the argument is read, which makes no difference to the argument
  refine .congr (y := do
      let x ← Eval.number (argument args 0)
      Eval.modifyBrowser (wait (waited x))
      return .value .undefined) ?_ fun m => ?_
  · exact (Keeps.number _).bind fun x _ => (hwait _).bind fun _ _ => .pure trivial
  · unfold Surface.invoke Surface.answerCall
    dsimp only
    rw [pageMethod_waitForTimeout]
    exact runOn_waitFor (m.heap.number (argument args 0))
      { m with browser := { m.browser with
          calls := (.page frame, "waitForTimeout") :: m.browser.calls } }

end Admits

end BrowserLab.Script
