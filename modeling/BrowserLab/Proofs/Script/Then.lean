import BrowserLab.Proofs.Script.MethodCall

/-!
# Handles and `then`

What is left for all handles is `then`: it calls a function with the handle.  A chain has a `then`
of its own.  The other handles come to what is left for all once they know of no such method, but
three of them do not come there with the function: responses and the accessibility tree pass no
arguments on, and an expectation takes every name for one of its own.

* `then_calls_with_handle`: what `then` comes to, for all handles but chains.
* `then_refused_by_response`: a response to a request is asked.
-/

namespace BrowserLab.Script

open Eval

variable {m m' m₁ : Machine} {scope : Nat} {e : Expr} {h : Handle} {f : Value} {rest : List Value}
  {r : Except Value Value}

theorem runOn_fallback_then (h : Handle) (hf : f.isCallable = true) (rest : List Value)
    (m : Machine) :
    (Surface.fallback h "then" (f :: rest)).runOn m =
      (.ok (.callback f [.handle h] .result), m) := by
  unfold Surface.fallback
  dsimp only
  rw [hf]
  rfl

/-- Without a function, `then` is no method. -/
theorem runOn_fallback_nil (h : Handle) (m : Machine) :
    (Surface.fallback h "then" []).runOn m =
      (.error (.thrown (.object m.heap.objects.size)),
        m.withError "TypeError" (h.typeName ++ ".then is not a function")) := by
  have hmessage : h.typeName ++ "." ++ "then" ++ " is not a function" =
      h.typeName ++ ".then is not a function" := by
    rw [String.append_assoc, String.append_assoc]
    rfl
  rw [← hmessage]
  rfl

/-- An expectation takes `then` for one of its own methods, of which nothing is announced. -/
theorem runOn_expectMethod_then (subject : Value) (args : List Value) (m : Machine) :
    (Surface.expectMethod subject "then" args).runOn m =
      (.ok (.value (.handle (.expectation subject))), m) := by
  unfold Surface.expectMethod
  split
  · exact runOn_bind_ok (runOn_textArgument args 0 m)
  · rfl

/-- **Handles answer `then`.**  Suppose that a script comes to a call of `then`, with a function
that can be called, of a handle that is no chain, and that it has added no command of that name.
Then the function is called once, with the handle, and what becomes of this is all that becomes of
the call.  Three kinds of handles do not call it: responses and the accessibility tree know of no
such method, and an expectation takes it for one of its own. -/
theorem then_calls_with_handle (hcalls : e.Calls scope m h "then" (f :: rest) m₁)
    (hf : f.isCallable = true) (hcommand : m₁.browser.commands.get? "then" = none)
    (hchain : ∀ t subject, h ≠ .chain t subject) (r : Except Value Value) (m' : Machine) :
    let noted := m₁.noted h "then"
    ComesTo (eval · e scope) m r m' ↔
      match h with
      | .response _ | .accessibility =>
        r = .error (.object noted.heap.objects.size) ∧
          m' = noted.withError "TypeError" (h.typeName ++ ".then is not a function")
      | .expectation subject => r = .ok (.handle (.expectation subject)) ∧ m' = noted
      | h => ComesTo (call · f [.handle h]) noted r m' := by
  intro noted
  rw [comesTo_of_calls hcalls]
  have hcalled {h : Handle} (hreply : (Surface.answerCall h "then" (f :: rest)).runOn
      (m₁.noted h "then") = (.ok (.callback f [.handle h] .result), m₁.noted h "then")) :
      ComesTo (fun n => Surface.invoke h "then" (f :: rest) >>= settle n) m₁ r m' ↔
        ComesTo (call · f [.handle h]) (m₁.noted h "then") r m' := by
    rw [comesTo_invoke hreply, comesTo_settle_callback]
    constructor
    · rintro ⟨result, hresult, rfl⟩
      cases result <;> exact hresult
    · exact fun h => ⟨r, h, by cases r <;> rfl⟩
  have hrefused {h : Handle} {w : Value} {m₂ : Machine}
      (hreply : (Surface.answerCall h "then" (f :: rest)).runOn (m₁.noted h "then") =
        (.error (.thrown w), m₂)) :
      ComesTo (fun n => Surface.invoke h "then" (f :: rest) >>= settle n) m₁ r m' ↔
        r = .error w ∧ m' = m₂ :=
    comesTo_bind_of_thrown (y := Surface.invoke h "then" (f :: rest)) hreply
  have hleft (h : Handle) := runOn_fallback_then h hf rest (m₁.noted h "then")
  cases h with
  | page frame => exact hcalled (hleft (.page frame))
  | locator l => exact hcalled (hleft (.locator l))
  | route glob => exact hcalled (hleft (.route glob))
  | request => exact hcalled (hleft .request)
  | cy =>
    refine hcalled ?_
    show (Surface.commandMethod "then" (f :: rest)).runOn (m₁.noted .cy "then") = _
    rw [commandMethod_of_not_builtin (by decide), runOn_customCommand,
      show (m₁.noted .cy "then").browser.commands.get? "then" = none from hcommand]
    exact hleft .cy
  | element t => exact hcalled (hleft (.element t))
  | «alias» => exact hcalled (hleft .alias)
  | cypress => exact hcalled (hleft .cypress)
  | commands => exact hcalled (hleft .commands)
  | chain t subject => exact absurd rfl (hchain t subject)
  -- these two pass no arguments on, so that there is no function to call
  | response response => exact hrefused (runOn_fallback_nil (.response response) _)
  | accessibility => exact hrefused (runOn_fallback_nil .accessibility _)
  | expectation subject =>
    have hreply : (Surface.answerCall (.expectation subject) "then" (f :: rest)).runOn noted = _ :=
      runOn_expectMethod_then subject (f :: rest) noted
    rw [comesTo_invoke hreply, comesTo_settle_value]

/-- The page is handed to the function that makes expectations. -/
theorem then_calls_with_handle_page :
    let m := Machine.start (.unused .playwright)
    let e := (Expr.ident "page").methodCall "then" [.item (.ident "expect")]
    e.Calls globalScope m (.page .root) "then" [.builtin .expect] m ∧
      ComesTo (eval · e globalScope) m (.ok (.handle (.expectation (.handle (.page .root)))))
        (m.noted (.page .root) "then") := by
  intro m e
  have hpage : ComesTo (eval · (.ident "page") globalScope) m (.ok (.handle (.page .root))) m :=
    comesTo_eval_ident.mpr ⟨rfl, rfl⟩
  have hexpect : ComesTo (evalElements · [.item (.ident "expect")] globalScope) m
      (.ok [.builtin .expect]) m :=
    comesTo_evalElements_item (comesTo_eval_ident.mpr ⟨rfl, rfl⟩)
  have hcalls : e.Calls globalScope m (.page .root) "then" [.builtin .expect] m :=
    .intro (.succ (.succ (.zero m) rfl) rfl) hpage rfl hexpect rfl
  refine ⟨hcalls, ?_⟩
  exact (then_calls_with_handle hcalls rfl rfl nofun _ _).mpr (comesTo_call_builtin rfl rfl)

/-- The status of a response is asked for in a function that is never called. -/
theorem then_refused_by_response :
    runText? 100 ("const r = await request.get('/api/users'); " ++
        "console.log(await r.then(x => x.status()))") (.unused .playwright) =
      some (.failed "response.then is not a function", []) := by
  decide +kernel

end BrowserLab.Script
