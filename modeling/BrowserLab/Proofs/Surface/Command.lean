import BrowserLab.Proofs.Surface.Admits

/-!
# What commands can do

The commands at the beginning of a chain and behind another one, the methods of elements, and the
commands that a script adds.  They announce plain events and let no time pass.

`Supplies p` says that commands can do with handles as `p` tells: with chains that hand on the
element they have come to or no element at all, and with all other handles of commands.  Only calls
that `Refills` tells of make other chains.
-/

namespace BrowserLab.Script

/-- The call of a chain puts behind its target what a callback returns, or what is found in a
subject that is no element. -/
def Refills (subject : Value) (method : String) : Prop :=
  method = "then" ∨ method = "spread" ∨ method = "its" ∧ ∀ e, subject ≠ .handle (.element e)

/-- Commands can do with handles as `p` tells, unless a chain is refilled. -/
structure Supplies (p : Handle → Prop) : Prop where
  ofStyle : ∀ {h}, p h → h.Of .cypress
  expectation : ∀ v, p (.expectation v)
  cy : p .cy
  link : p .alias
  cypress : p .cypress
  commands : p .commands
  element : ∀ t, p (.element t)
  elementChain : ∀ t, p (.chain t (.handle (.element t)))
  chain : ∀ t {v}, (∀ e, v ≠ .handle (.element e)) → p (.chain t v)

theorem supplies_of : Supplies (Handle.Of .cypress) where
  ofStyle h := h
  expectation _ := trivial
  cy := rfl
  link := rfl
  cypress := rfl
  commands := rfl
  element _ := rfl
  elementChain _ := rfl
  chain _ _ _ := rfl

variable {p : Handle → Prop} {R : Link}

/-! ### What is found in subjects -/

theorem all_memberOf {h : Heap} (hh : h.All p) {v w : Value} {name : String}
    (hw : Surface.memberOf h v name = some w) : w.All p := by
  unfold Surface.memberOf at hw
  split at hw
  · exact hh.field? hw
  · split at hw
    · cases hw
      exact trivial
    · obtain ⟨i, -, hi⟩ := Option.bind_eq_some_iff.mp hw
      exact hh.item hi
  · split at hw <;> cases hw
    exact trivial
  · cases hw

theorem all_walkPath {h : Heap} (hh : h.All p) {v : Value} (hv : v.All p)
    (path : String) : (Surface.walkPath h v path).All p := by
  unfold Surface.walkPath
  dsimp only
  generalize (Text.split ['.'] path.toList).filter _ = names
  refine Value.all_getD fun w hw => ?_
  induction names generalizing v with
  | nil =>
    cases hw
    exact hv
  | cons name rest ih =>
    rw [List.foldlM_cons] at hw
    obtain ⟨u, hu, hw⟩ := Option.bind_eq_some_iff.mp hw
    exact ih (all_memberOf hh hu) hw

/-- A handle has no members, so nothing but itself is found in it. -/
theorem walkPath_handle (h : Heap) (hd : Handle) (path : String) :
    Surface.walkPath h (.handle hd) path = .handle hd ∨
      Surface.walkPath h (.handle hd) path = .undefined := by
  unfold Surface.walkPath
  dsimp only
  cases (Text.split ['.'] path.toList).filter fun name => !name.isEmpty with
  | nil => exact .inl rfl
  | cons name rest => exact .inr rfl

namespace Keeps

theorem containsTarget (base : Target) (args : List Value) :
    Keeps p R Anything (Surface.containsTarget base args) := by
  unfold Surface.containsTarget
  split
  · split
    · exact (textArgument _ _).bind fun _ _ => pure trivial
    · exact (textArgument _ _).bind fun _ _ => pure trivial
    · exact (textArgument _ _).bind fun _ _ => pure trivial
    · exact (display _).bind fun _ _ => (display _).bind fun _ _ => pure trivial
  · exact (textArgument _ _).bind fun _ _ => pure trivial

/-- A new object is no element. -/
theorem object {members : List (String × Value)} (hm : Dict.Holds (Value.All p) members) :
    Keeps p R (fun v => v.All p ∧ ∀ e, v ≠ .handle (.element e)) (Eval.newObject members) :=
  modifyGet (g := fun m => (Value.object m.heap.objects.size,
      { m with heap := (m.heap.newObject (Dict.ofPairs members)).2 })) (fun _ _ => rfl)
    fun _ h => ⟨⟨trivial, nofun⟩, { h with heap := h.heap.newObject hm.ofPairs }⟩

/-- The answer, if there is one, has a status code of 16 bits. -/
def Bounded (response : Option Response) : Prop := ∀ r, response = some r → r.status < statusBound

/-- An answer that a value describes has a status code of 16 bits. -/
theorem staticResponse? (v : Value) : Keeps p R Bounded (Surface.staticResponse? v) := by
  have hnone : Keeps p R Bounded (Pure.pure none) := pure fun _ h => by cases h
  have hsome {status : Nat} (hstatus : status < statusBound) (w : Option Value) :
      Keeps p R Bounded (do return some ⟨status, ← Surface.bodyOf w⟩) :=
    (bodyOf w).bind fun _ _ => pure fun r h => by
      obtain rfl := Option.some.inj h
      exact hstatus
  unfold Surface.staticResponse?
  split
  · exact hnone
  · exact hnone
  · refine (heap (Q := Anything) fun _ _ => trivial).bind fun members _ => ?_
    split
    · exact (statusOption _ _).bind fun _ hstatus => (option? _ _).bind fun _ _ => hsome hstatus _
    · exact hsome (by decide) _
  · split
    · exact hnone
    · exact hsome (by decide) _

theorem interceptShape (args : List Value) : Keeps p R Anything (Surface.interceptShape args) := by
  unfold Surface.interceptShape
  split
  · split <;> exact pure trivial
  · exact (textOption? _ _).bind fun _ _ => (textOption? _ _).bind fun _ _ => pure trivial
  · exact (display _).bind fun _ _ => pure trivial

end Keeps

namespace Supplies

variable (hp : Supplies p)

include hp

/-! ### Chains -/

theorem all_elementChain (t : Target) : (Surface.elementChain t).All p :=
  ⟨hp.elementChain t, hp.element t⟩

theorem all_chain (t : Target) {v : Value} (hv : v.All p)
    (hne : ∀ e, v ≠ .handle (.element e)) : (Value.handle (.chain t v)).All p :=
  ⟨hp.chain t hne, hv⟩

omit hp in
theorem all_nextChain {t : Target} {subject result : Value}
    (hsame : (Value.handle (.chain t subject)).All p) (hfree : ∀ v, p (.chain t v))
    (hresult : result.All p) : ((Settle.nextChain t subject).apply result).All p := by
  unfold Settle.apply
  dsimp only
  split
  · exact hresult
  · exact hsame
  · exact hsame
  · exact ⟨hfree _, hresult⟩

omit hp in
theorem callWithSubject {t : Target} {subject : Value}
    (hsame : (Value.handle (.chain t subject)).All p) {args : List Value}
    (hargs : AllValues p args) {settle : Settle}
    (hsettle : ∀ result, result.All p → (settle.apply result).All p) :
    Keeps p R (Reply.All p) (Surface.callWithSubject t subject args settle) := by
  unfold Surface.callWithSubject
  dsimp only
  split
  · exact .pure ⟨hargs.argument 0, allValues_nil.cons hsame.2, hsettle⟩
  · exact .pure hsame

/-- What is found in the subject of a chain takes its place. -/
theorem its {t : Target} {subject : Value} (hsame : (Value.handle (.chain t subject)).All p)
    (hfree : Refills subject "its" → ∀ v, p (.chain t v)) (path : String) :
    Keeps p R (Reply.All p) (do
      return .value (.handle (.chain t (← Eval.heap fun h => Surface.walkPath h subject path)))) := by
  by_cases he : ∃ e, subject = .handle (.element e)
  · -- in an element nothing is found but the element
    obtain ⟨e, rfl⟩ := he
    refine (Keeps.heap (Q := fun v => v = .handle (.element e) ∨ v = .undefined)
      fun h _ => walkPath_handle h (.element e) path).bind fun v hv => .pure ?_
    rcases hv with rfl | rfl
    · exact hsame
    · exact hp.all_chain t trivial nofun
  · have hfree := hfree (.inr (.inr ⟨rfl, fun e h => he ⟨e, h⟩⟩))
    exact (Keeps.heap fun _ hh => all_walkPath hh hsame.2 path).bind fun v hv =>
      .pure ⟨hfree v, hv⟩

/-! ### Methods -/

section Methods

variable (hR : Tolerates .cypress R)

include hR

omit hp in
theorem emitPlain {e : Event} (h : e.label = none)
    (hkind : e.kind ∈ [.navigate, .click, .fill, .select, .upload, .drag, .apiCall])
    (hbare : e.Bare) : Keeps p R Anything (Eval.emit e) :=
  hR.emit ⟨h, hkind⟩ (fun h => by cases h) hbare

theorem interceptCommand (args : List Value) :
    Keeps p R (Reply.All p) (Surface.intercept args) := by
  unfold Surface.intercept
  refine (Keeps.interceptShape _).bind fun ⟨method, glob, value⟩ _ => ?_
  refine (Keeps.staticResponse? _).bind fun response hresponse => ?_
  cases response with
  | none => exact .pure hp.link
  | some response => exact (hR.setUp (hresponse response rfl)).bind fun _ _ => .pure hp.link

theorem customCommand (method : String) {args : List Value} (hargs : AllValues p args) :
    Keeps p R (Reply.All p) (Surface.customCommand method args) := by
  unfold Surface.customCommand
  refine (hR.read (fun _ _ h => h.commands) fun _ h => h).bind fun commands hcommands => ?_
  split
  · next callee hcallee => exact .pure ⟨hcommands.get? hcallee, hargs, fun _ _ => hp.cy⟩
  · exact .fallback (h := .cy) hp.cy _ hargs

theorem requestCommand (args : List Value) :
    Keeps p R (Value.All p) (Surface.requestCommand args) := by
  unfold Surface.requestCommand
  refine (Keeps.commandRequest _).bind fun out _ => (hR.exchange out).bind fun r _ => ?_
  refine (Keeps.ofJson _).bind fun body hbody => Keeps.answerHeaders.bind fun headers hheaders => ?_
  refine (Keeps.object ?_).bind fun _ hsubject => .pure (hp.all_chain _ hsubject.1 hsubject.2)
  refine Dict.holds_cons (Value.all_number _) (Dict.holds_cons hbody ?_)
  exact Dict.holds_cons hheaders (Dict.holds_cons (Value.all_bool _) Dict.holds_nil)

omit hp in
theorem readUrl : Keeps p R Anything (Eval.browser (·.url)) :=
  hR.read (fun _ _ h => h.url) fun _ _ => trivial

theorem commandMethod (method : String) {args : List Value} (hargs : AllValues p args) :
    Keeps p R (Reply.All p) (Surface.commandMethod method args) := by
  unfold Surface.commandMethod
  split
  · refine (Keeps.textArgument _ _).bind fun url _ => (hR.setUrl url).bind fun _ _ => ?_
    exact (emitPlain hR rfl (by simp) ⟨rfl, rfl⟩).bind fun _ _ => .pure hp.cy
  · exact (hp.requestCommand hR _).bind fun _ h => .pure h
  · exact (Keeps.textArgument _ _).bind fun _ _ => .pure (hp.all_elementChain _)
  · exact (Keeps.containsTarget _ _).bind fun _ _ => .pure (hp.all_elementChain _)
  · exact hp.interceptCommand hR _
  · have hfirst := hargs.argument 0
    split
    · exact .pure (hp.all_elementChain _)
    · next t s h =>
      rw [h] at hfirst
      exact .pure hfirst
    · next hne _ => exact .pure (hp.all_chain _ hfirst hne)
  · exact (Keeps.object Dict.holds_nil).bind fun _ h => .pure (hp.all_chain _ h.1 h.2)
  · exact (Keeps.object Dict.holds_nil).bind fun _ h => .pure (hp.all_chain _ h.1 h.2)
  · exact (readUrl hR).bind fun _ _ => .pure (hp.all_chain _ trivial nofun)
  · exact (readUrl hR).bind fun _ _ => .pure (hp.all_chain _ trivial nofun)
  · split
    · exact .pure hp.cy
    · exact hp.customCommand hR _ hargs

theorem chainMethod {t : Target} {subject : Value} (hsame : (Value.handle (.chain t subject)).All p)
    {method : String} (hfree : Refills subject method → ∀ v, p (.chain t v)) {args : List Value}
    (hargs : AllValues p args) :
    Keeps p R (Reply.All p) (Surface.chainMethod t subject method args) := by
  unfold Surface.chainMethod
  dsimp only
  split
  · exact (emitPlain hR rfl (by simp [Surface.clickEvent, Surface.targetEvent]) ⟨rfl, rfl⟩).bind
      fun _ _ => .pure hsame
  split
  · exact .pure hsame
  split
  · refine (Keeps.textArgument _ _).bind fun _ _ => ?_
    exact (emitPlain hR rfl (by simp [Surface.targetEvent]) ⟨rfl, rfl⟩).bind fun _ _ => .pure hsame
  · refine (Keeps.textArgument _ _).bind fun _ _ => ?_
    exact (emitPlain hR rfl (by simp [Surface.targetEvent]) ⟨rfl, rfl⟩).bind fun _ _ => .pure hsame
  · refine (Keeps.heap (Q := Anything) fun _ _ => trivial).bind fun _ _ => ?_
    exact (emitPlain hR rfl (by simp [Surface.targetEvent]) ⟨rfl, rfl⟩).bind fun _ _ => .pure hsame
  · refine (Keeps.textArgument _ _).bind fun _ _ => ?_
    exact (emitPlain hR rfl (by simp [Surface.targetEvent]) ⟨rfl, rfl⟩).bind fun _ _ => .pure hsame
  · exact callWithSubject hsame hargs fun _ _ => hsame
  · exact callWithSubject hsame hargs fun _ _ => hsame
  · exact callWithSubject hsame hargs fun _ _ => hsame
  · exact callWithSubject hsame hargs fun _ h => all_nextChain hsame (hfree (.inl rfl)) h
  · exact callWithSubject hsame hargs fun _ h => all_nextChain hsame (hfree (.inr (.inl rfl))) h
  · refine (Keeps.textArgument _ _).bind fun path _ => ?_
    split
    · split
      · exact .pure (hp.all_elementChain _)
      · exact hp.its hsame hfree path
    · exact hp.its hsame hfree path
  · refine (Keeps.textArgument _ _).bind fun name _ => ?_
    split
    · split
      · exact .pure (hp.all_chain t trivial nofun)
      · exact .pure hsame
    · exact .pure hsame
  · exact (Keeps.textArgument _ _).bind fun _ _ => .pure (hp.all_elementChain _)
  · exact (Keeps.containsTarget _ _).bind fun _ _ => .pure (hp.all_elementChain _)
  · exact (Keeps.textArgument _ _).bind fun _ _ => .pure (hp.all_elementChain _)
  · exact .pure (hp.all_elementChain _)
  · exact .pure (hp.all_elementChain _)
  · exact .fallback (h := .chain t subject) hsame _ hargs

theorem elementMethod (t : Target) (method : String) {args : List Value}
    (hargs : AllValues p args) :
    Keeps p R (Reply.All p) (Surface.elementMethod t method args) := by
  unfold Surface.elementMethod
  split
  · exact .pure (hp.element _)
  · exact (Keeps.textArgument _ _).bind fun _ _ => .pure (hp.element _)
  · exact .pure trivial
  · exact .pure trivial
  · exact .pure trivial
  · exact .pure trivial
  · exact .pure trivial
  · exact (emitPlain hR rfl (by simp [Surface.clickEvent, Surface.targetEvent]) ⟨rfl, rfl⟩).bind
      fun _ _ => .pure (hp.element t)
  · exact .fallback (h := .element t) (hp.element t) _ hargs

omit hp in
theorem addCommand (method : String) {args : List Value} (hargs : AllValues p args) :
    Keeps p R (Reply.All p) (Surface.addCommand method args) := by
  unfold Surface.addCommand
  refine (Keeps.textArgument _ _).bind fun name _ => ?_
  split
  · next body hbody =>
    have hbody := hargs.drop 1 body (List.mem_of_find?_eq_some hbody)
    exact (hR.defineCommand name hbody).bind fun _ _ => .pure trivial
  · exact Keeps.typeError _

theorem commandsMethod (method : String) {args : List Value} (hargs : AllValues p args) :
    Keeps p R (Reply.All p) (Surface.commandsMethod method args) := by
  unfold Surface.commandsMethod
  split
  · exact addCommand hR _ hargs
  · exact .fallback (h := .commands) hp.commands _ hargs

end Methods

end Supplies

end BrowserLab.Script
