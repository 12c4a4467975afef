import BrowserLab.Proofs.Script.MethodCall
import BrowserLab.Proofs.Surface.Frames

/-!
# Commands that scripts add

A script adds commands, by a name and a function, and may add one of the same name again.  Nothing
else changes the commands of the browser, so a name has the function with which it was added last.

* `Gives.answerCall`: calls of all other handles leave the commands alone.
* `Browser.Goes.command?`: which function a name has after calls; every run goes by calls
  (`exists_goes_runFor`).
* `registered_command_runs`: what a command comes to for which a function was added.
-/

namespace BrowserLab.Script

open Eval

/-! ### What leaves the commands alone -/

/-- The reply is a value, which asks for no call. -/
def Reply.IsValue (reply : Reply) : Prop := ∃ v, reply = .value v

namespace Gives

theorem register (i : Interception) : Gives Anything (Surface.register i) := by
  unfold Surface.register
  refine bind (modifyBrowser (fun _ => ?_)) fun _ _ => emit _
  rfl

theorem exchange (out : Surface.Outgoing) : Gives Anything (Surface.exchange out) :=
  (answer out).bind fun _ _ => (emit _).bind fun _ _ => .pure trivial

/-- Of what is made of frames and of what was passed, nothing is asked here. -/
theorem ofMade {x : Eval Reply} (hx : Gives (Reply.Made (fun _ => True) fun _ => True) x) :
    Gives Anything x :=
  hx.mono fun _ _ => trivial

theorem leftForAll (h : Handle) (method : String) (args : List Value) :
    Gives Anything (Surface.fallback h method args) :=
  ofMade (fallback (.passed trivial) method args)

theorem routeMethod (glob method : String) (args : List Value) :
    Gives Anything (Surface.routeMethod glob method args) := by
  unfold Surface.routeMethod
  split
  · refine after (Does.statusOption _ _) fun _ => after (Does.option? _ _) fun _ => ?_
    refine after (Does.option? _ _) fun _ => after (Does.bodyOf _) fun _ => ?_
    exact (register _).bind fun _ _ => .pure trivial
  · exact .pure trivial
  · exact .pure trivial
  · exact .pure trivial
  · exact after (Does.newObject _) fun _ => .pure trivial
  · exact leftForAll _ _ _

theorem requestMethod (method : String) (args : List Value) :
    Gives Anything (Surface.requestMethod method args) := by
  have hsend (verb : String) : Gives Anything (do
      let url ← Surface.textArgument args 0
      let payload ← Surface.payloadOf (← Eval.option? (argument args 1) "data")
      let headers ← Surface.headersOf (← Eval.option? (argument args 1) "headers")
      let r ← Surface.exchange { method := Text.asciiUpper verb, url, payload, headers }
      return Reply.value (.handle (.response r))) := by
    refine after (Does.textArgument _ _) fun _ => after (Does.option? _ _) fun _ => ?_
    refine after (Does.payloadOf _) fun _ => after (Does.option? _ _) fun _ => ?_
    exact after (Does.headersOf _) fun _ => (exchange _).bind fun _ _ => .pure trivial
  unfold Surface.requestMethod
  split
  · exact leftForAll _ _ _
  · dsimp only
    split
    · exact after (Does.textOption? _ _) fun _ => hsend _
    · exact hsend _

theorem responseMethod (r : Response) (method : String) :
    Gives Anything (Surface.responseMethod r method) := by
  unfold Surface.responseMethod
  split
  · exact .pure trivial
  · exact .pure trivial
  · exact .pure trivial
  · exact after (Does.allocate _) fun _ => .pure trivial
  · exact .pure trivial
  · exact .pure trivial
  · exact after (Does.newObject _) fun _ => .pure trivial
  · exact leftForAll _ _ _

theorem accessibilityMethod (method : String) :
    Gives Anything (Surface.accessibilityMethod method) := by
  unfold Surface.accessibilityMethod
  split
  · exact (emit _).bind fun _ _ => after (Does.ofJson _) fun _ => .pure trivial
  · exact leftForAll _ _ _

/-! ### Commands -/

theorem requestCommand (args : List Value) : Gives Anything (Surface.requestCommand args) := by
  unfold Surface.requestCommand
  refine after (Does.commandRequest _) fun _ => (exchange _).bind fun _ _ => ?_
  refine after (Does.ofJson _) fun _ => after (Does.newObject _) fun _ => ?_
  exact after (Does.newObject _) fun _ => .pure trivial

theorem intercept (args : List Value) : Gives Reply.IsValue (Surface.intercept args) := by
  unfold Surface.intercept
  refine after (Does.interceptShape _) fun ⟨_, _, value⟩ => ?_
  refine after (Does.staticResponse? _) fun response => ?_
  cases response with
  | none => exact .pure ⟨_, rfl⟩
  | some response => exact (register _).bind fun _ _ => .pure ⟨_, rfl⟩

/-- The commands that are there from the beginning ask for no call. -/
theorem builtinCommand {name : String} (hname : name ∈ builtinCommands) (args : List Value) :
    Gives Reply.IsValue (Surface.commandMethod name args) := by
  unfold Surface.commandMethod
  split
  · refine after (Does.textArgument _ _) fun url => (visit url).bind fun _ _ => ?_
    exact emitThen _ ⟨_, rfl⟩
  · exact (requestCommand _).bind fun _ _ => .pure ⟨_, rfl⟩
  · exact after (Does.textArgument _ _) fun _ => .pure ⟨_, rfl⟩
  · exact (containsTarget _ _).bind fun _ _ => .pure ⟨_, rfl⟩
  · exact intercept _
  · split <;> exact .pure ⟨_, rfl⟩
  · exact after (Does.newObject _) fun _ => .pure ⟨_, rfl⟩
  · exact after (Does.newObject _) fun _ => .pure ⟨_, rfl⟩
  · exact after (Does.browser _) fun _ => .pure ⟨_, rfl⟩
  · exact after (Does.browser _) fun _ => .pure ⟨_, rfl⟩
  · split
    · exact .pure ⟨_, rfl⟩
    · rename_i hidle
      simp_all [builtinCommands]

theorem customCommand (name : String) (args : List Value) :
    Gives Anything (Surface.customCommand name args) := by
  unfold Surface.customCommand
  refine after (Does.browser _) fun commands => ?_
  split
  · exact .pure trivial
  · exact leftForAll _ _ _

theorem commandMethod (name : String) (args : List Value) :
    Gives Anything (Surface.commandMethod name args) := by
  by_cases hname : name ∈ builtinCommands
  · exact (builtinCommand hname args).mono fun _ _ => trivial
  · rw [commandMethod_of_not_builtin hname]
    exact customCommand name args

/-! ### Handles -/

/-- **Calls leave the commands alone**, but for those of the list of commands. -/
theorem answerCall {h : Handle} (hh : h ≠ .commands) (method : String) (args : List Value) :
    Gives Anything (Surface.answerCall h method args) := by
  cases h with
  | page frame => exact ofMade (pageMethod trivial (fun _ _ => trivial) args)
  | locator l => exact ofMade (locatorMethod trivial (fun _ _ => trivial) args)
  | route glob => exact routeMethod glob method args
  | request => exact requestMethod method args
  | response r => exact responseMethod r method
  | accessibility => exact accessibilityMethod method
  | expectation subject => exact ofMade (expectMethod (.passed trivial) method args)
  | cy => exact commandMethod method args
  | chain t subject =>
    exact ofMade (chainMethod trivial trivial (fun _ _ _ => trivial) (fun _ _ => trivial) args)
  | element t => exact ofMade (elementMethod trivial (fun _ => trivial) args)
  | «alias» =>
    unfold Surface.answerCall
    dsimp only
    split
    · exact .pure trivial
    · exact leftForAll _ _ _
  | cypress =>
    unfold Surface.answerCall
    dsimp only
    split
    · exact .pure trivial
    · exact leftForAll _ _ _
  | commands => exact absurd rfl hh

end Gives

/-! ### Adding commands -/

/-- What `add` and `overwrite` do: the first function behind the name is added under it. -/
theorem runOn_addCommand (method : String) (args : List Value) (m : Machine) :
    (Surface.addCommand method args).runOn m =
      match (args.drop 1).find? Value.isCallable with
      | some body =>
        (.ok (.value .undefined), { m with browser := { m.browser with
          commands := m.browser.commands.insert (m.heap.argumentText args 0) body } })
      | none => (typeError ("Cypress.Commands." ++ method ++ "('" ++ m.heap.argumentText args 0 ++
          "') requires a function")).runOn m := by
  unfold Surface.addCommand
  refine (runOn_bind_ok (runOn_textArgument args 0 m)).trans ?_
  cases (args.drop 1).find? Value.isCallable <;> rfl

/-- Without a function, nothing is added. -/
theorem commands_addCommand (method : String) (args : List Value) (m : Machine) :
    ((Surface.addCommand method args).runOn m).2.browser.commands =
      match (args.drop 1).find? Value.isCallable with
      | some body => m.browser.commands.insert (m.heap.argumentText args 0) body
      | none => m.browser.commands := by
  rw [runOn_addCommand]
  cases (args.drop 1).find? Value.isCallable <;> rfl

namespace Call

/-- The function that the call adds under the name. -/
def adds? (c : Call) (name : String) : Option Value :=
  match c.handle with
  | .commands =>
    if c.method ∈ ["add", "overwrite"] ∧ c.before.heap.argumentText c.args 0 = name then
      (c.args.drop 1).find? Value.isCallable
    else none
  | _ => none

theorem adds?_eq_none {c : Call} (hc : c.handle ≠ .commands) (name : String) :
    c.adds? name = none := by
  unfold adds?
  split
  · next h => exact absurd h hc
  · rfl

/-- Adding is what the call does, or else it is left for all handles. -/
theorem commandsMethod_cases (method : String) (args : List Value) :
    method ∈ ["add", "overwrite"] ∧
        Surface.commandsMethod method args = Surface.addCommand method args ∨
      method ∉ ["add", "overwrite"] ∧
        Surface.commandsMethod method args = Surface.fallback .commands method args := by
  unfold Surface.commandsMethod
  by_cases hmethod : method ∈ ["add", "overwrite"]
  · exact .inl ⟨hmethod, if_pos (by simpa using hmethod)⟩
  · exact .inr ⟨hmethod, if_neg (by simpa using hmethod)⟩

/-- The functions of names after a call are those before it, but for the one that it adds. -/
theorem after_command? (c : Call) (name : String) :
    c.after.browser.commands.get? name =
      (c.adds? name).or (c.before.browser.commands.get? name) := by
  by_cases hc : c.handle = .commands
  · obtain ⟨handle, method, args, before⟩ := c
    obtain rfl : handle = .commands := hc
    show ((Surface.commandsMethod method args).runOn _).2.browser.commands.get? name = _
    unfold adds?
    dsimp only
    obtain ⟨hmethod, hadd⟩ | ⟨hmethod, hleft⟩ := commandsMethod_cases method args
    · rw [hadd, commands_addCommand]
      split
      · next body hbody =>
        refine (Dict.get?_insert before.browser.commands _ _ _).trans ?_
        rw [hbody]
        by_cases hname : before.heap.argumentText args 0 = name
        · refine (if_pos hname).trans ?_
          rw [if_pos ⟨hmethod, hname⟩, Option.some_or]
        · refine (if_neg hname).trans ?_
          rw [if_neg fun h => hname h.2, Option.none_or]
      · next hbody =>
        rw [hbody, ite_self, Option.none_or]
    · rw [if_neg fun h => hmethod h.1, Option.none_or, hleft]
      exact congrArg (·.get? name) (Gives.leftForAll .commands method args _).1
  · rw [adds?_eq_none hc, Option.none_or]
    exact congrArg (·.get? name) (Gives.answerCall hc c.method c.args _).1

end Call

/-- The function that was added last under the name. -/
def added? (name : String) (calls : List Call) : Option Value :=
  calls.reverse.findSome? (·.adds? name)

theorem added?_append_singleton (name : String) (calls : List Call) (c : Call) :
    added? name (calls ++ [c]) = (c.adds? name).or (added? name calls) := by
  rw [added?, List.reverse_append, List.reverse_singleton, List.singleton_append,
    List.findSome?_cons, added?]
  cases c.adds? name <;> rfl

/-- **After calls a name has the function that they have added last**, if they have added any. -/
theorem Browser.Goes.command? {b b' : Browser} {calls : List Call} (h : b.Goes calls b')
    (name : String) :
    b'.commands.get? name = (added? name calls).or (b.commands.get? name) := by
  induction h with
  | begins => rfl
  | draws n _ ih => exact ih
  | call c _ ih =>
    rw [added?_append_singleton, c.after_command?, ih]
    cases c.adds? name <;> rfl

/-! ### Running commands -/

variable {m m' : Machine} {scope : Nat} {e : Expr} {name : String} {args : List Value}

set_option maxRecDepth 2000 in
theorem lookup_cy :
    (Machine.start (.unused .cypress)).scopes.lookup globalScope "cy" = some (.handle .cy) :=
  rfl

/-- A command that is there from the beginning replies by itself. -/
theorem comesTo_invoke_builtin (hname : name ∈ builtinCommands) {r : Except Value Value} :
    ComesTo (fun n => Surface.invoke .cy name args >>= settle n) m r m' ↔
      ComesTo (fun _ => Surface.invoke .cy name args) m (r.map Reply.value) m' := by
  have hvalue {reply : Reply} {m₂ : Machine}
      (h : ComesTo (fun _ => Surface.invoke .cy name args) m (.ok reply) m₂) :
      reply.IsValue := by
    have hrun : (Surface.answerCall .cy name args).runOn (m.noted .cy name) = (.ok reply, m₂) :=
      comesTo_const_ok.mp h
    exact (Gives.builtinCommand hname args (m.noted .cy name)).2 reply
      (congrArg Prod.fst hrun)
  rw [comesTo_bind (.const _) fun reply => steady_settle reply]
  constructor
  · rintro (⟨w, rfl, hthrown⟩ | ⟨reply, m₂, hreply, hsettled⟩)
    · exact hthrown
    · obtain ⟨v, rfl⟩ := hvalue hreply
      obtain ⟨rfl, rfl⟩ := comesTo_settle_value.mp hsettled
      exact hreply
  · intro h
    cases r with
    | error w => exact .inl ⟨w, rfl, h⟩
    | ok v => exact .inr ⟨_, _, h, comesTo_settle_value.mpr ⟨rfl, rfl⟩⟩

/-- **The command that was added is the one that runs**, if there has been none of its name from the
beginning.  Suppose that calls lead to a call of a command, and that a function was added last under
its name.  Then the function is called once, with the same arguments; what it throws is thrown, and
whatever it returns, the call comes to the list of commands.  Nothing is announced for the call
itself, it is only noted.  A command that has been there from the beginning replies by itself, as if
nothing had been added. -/
theorem registered_command_runs {b : Browser} {calls : List Call} {m₁ : Machine} {f : Value}
    (hgoes : b.Goes calls m₁.browser) (hadded : added? name calls = some f)
    (hcalls : e.Calls scope m .cy name args m₁) (r : Except Value Value) (m' : Machine) :
    (name ∉ builtinCommands →
      (ComesTo (eval · e scope) m r m' ↔
        ∃ result, ComesTo (call · f args) (m₁.noted .cy name) result m' ∧
          r = result.map fun _ => .handle .cy)) ∧
      (name ∈ builtinCommands →
        (ComesTo (eval · e scope) m r m' ↔
          ComesTo (fun _ => Surface.invoke .cy name args) m₁ (r.map Reply.value) m')) := by
  rw [comesTo_of_calls hcalls]
  refine ⟨fun hname => ?_, fun hname => comesTo_invoke_builtin hname⟩
  have hcommand : (m₁.noted .cy name).browser.commands.get? name = some f := by
    refine (hgoes.command? name).trans ?_
    rw [hadded, Option.some_or]
  have hreply : (Surface.answerCall .cy name args).runOn (m₁.noted .cy name) =
      (.ok (.callback f args .cy), m₁.noted .cy name) := by
    show (Surface.commandMethod name args).runOn _ = _
    rw [commandMethod_of_not_builtin hname, runOn_customCommand, hcommand]
  rw [comesTo_invoke hreply, comesTo_settle_callback]
  rfl

/-- A command is added that writes what it is given. -/
theorem registered_command_runs_greet :
    let b := Browser.unused .cypress
    let c : Call :=
      { handle := .commands, method := "add"
        args := [.string "greet", .builtin (.console .log)], before := Machine.start b }
    let e := (Expr.ident "cy").methodCall "greet" [.item (.string "hi")]
    let m := { c.after.noted .cy "greet" with console := ["hi"] }
    b.Goes [c] c.after.browser ∧ added? "greet" [c] = some (.builtin (.console .log)) ∧
      e.Calls globalScope c.after .cy "greet" [.string "hi"] c.after ∧
      ComesTo (eval · e globalScope) c.after (.ok (.handle .cy)) m := by
  intro b c e m
  have hgoes : b.Goes [c] c.after.browser := .call c .begins
  have hadded : added? "greet" [c] = some (.builtin (.console .log)) := rfl
  have hscopes : c.after.scopes = (Machine.start b).scopes := rfl
  have hcy : ComesTo (eval · (.ident "cy") globalScope) c.after (.ok (.handle .cy)) c.after :=
    comesTo_eval_ident.mpr ⟨rfl, hscopes ▸ lookup_cy⟩
  have hitem : ComesTo (evalElements · [.item (.string "hi")] globalScope) c.after
      (.ok [.string "hi"]) c.after :=
    comesTo_evalElements_item ((comesTo_eval_literal rfl).mpr ⟨rfl, rfl⟩)
  have hcalls : e.Calls globalScope c.after .cy "greet" [.string "hi"] c.after :=
    .intro (.succ (.succ (.zero _) rfl) rfl) hcy rfl hitem rfl
  refine ⟨hgoes, hadded, hcalls, ?_⟩
  refine ((registered_command_runs hgoes hadded hcalls _ _).1 (by decide)).mpr
    ⟨.ok .undefined, comesTo_call_builtin rfl ?_, rfl⟩
  rfl

/-- A script overwrites the command that visits a page, and visits the page nevertheless. -/
theorem overwritten_visit_ignored :
    runText? 100 ("Cypress.Commands.overwrite('visit', (url) => console.log('visiting', url)); " ++
        "cy.visit('/login')") (.unused .cypress) =
      some (.completed, []) := by
  decide +kernel

end BrowserLab.Script
