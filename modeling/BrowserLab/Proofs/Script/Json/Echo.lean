import BrowserLab.Proofs.Script.Grammar.Read
import BrowserLab.Proofs.Script.Json.Built
import BrowserLab.Proofs.Script.Tests

/-!
# JSON text means itself in scripts

A script that writes the JSON text of a literal to the console writes the text of that literal, as
it stands in the script (`json_text_means_itself`).  The text is cut into the tokens of the literal
and compiled to it, and its evaluation makes a value that has the JSON form it was written for.
-/

namespace BrowserLab.Script

open Eval Json

/-- The script that writes the JSON text of an expression. -/
def echoSource (text : String) : String := "console.log(JSON.stringify(" ++ text ++ "))"

/-- What that script is for the literal of a value. -/
def echoExpr (j : Json) : Expr :=
  .call (.member (.ident "console") "log" false)
    [.item (.call (.member (.ident "JSON") "stringify" false) [.item (literal j)] false)] false

/-! ### The text -/

theorem isName_console : IsName "console" := ⟨by decide, by decide⟩

theorem isName_JSON : IsName "JSON" := ⟨by decide, by decide⟩

theorem spellable_echoExpr (j : Json) : (echoExpr j).Spellable := by
  refine .call false (.member "log" false (.ident isName_console)) fun arg harg => ?_
  rw [List.mem_singleton.mp harg]
  refine .call false (.member "stringify" false (.ident isName_JSON)) fun arg harg => ?_
  rw [List.mem_singleton.mp harg]
  exact spellable_literal j

/-- The tokens of a call of a method up to its arguments. -/
def callTokens (object name : String) : List Token.Kind :=
  [.word object, .punct ".", .word name, .punct "("]

theorem spell_echoExpr (j : Json) : (echoExpr j).spell (fun _ => false) false =
    callTokens "console" "log" ++ (callTokens "JSON" "stringify" ++
      (literalTokens j ++ [.punct ")", .punct ")"])) := by
  simp [echoExpr, callTokens, literalTokens, Expr.spell, Expr.rank, Element.spellAll, separated,
    fenced, linkRank, calleeRank]

/-- The text of a call of a method up to its arguments. -/
def callText (object name : String) : List Char := object.toList ++ '.' :: (name.toList ++ ['('])

theorem toList_echoSource (text : String) : (echoSource text).toList =
    callText "console" "log" ++ (callText "JSON" "stringify" ++ (text.toList ++ [')', ')'])) := by
  have hcalls : "console.log(JSON.stringify(".toList =
      callText "console" "log" ++ callText "JSON" "stringify" := by decide
  have hend : "))".toList = [')', ')'] := by decide
  have hparts : (echoSource text).toList =
      "console.log(JSON.stringify(".toList ++ text.toList ++ "))".toList :=
    String.toList_append.trans (congrArg (· ++ "))".toList) String.toList_append)
  rw [hparts, hcalls, hend, List.append_assoc, List.append_assoc]

theorem cuts_callText {object name : String} (hobject : isWordText object.toList = true)
    (hname : isWordText name.toList = true) (rest : List Char) :
    Cuts (callText object name) (callTokens object name) rest := by
  have hopen : Cuts ['('] [.punct "("] rest := Cuts.mark (by decide)
  have hlast : Cuts (name.toList ++ ['(']) [.word name, .punct "("] rest := by
    have hword : Cuts name.toList [.word name] (['('] ++ rest) := by
      refine Cuts.word hname ?_
      rintro c ⟨⟩
      decide
    exact hword.append hopen
  have hpoint : Cuts ['.'] [.punct "."] (name.toList ++ ['('] ++ rest) := by
    generalize name.toList = cs at hname ⊢
    cases cs with
    | nil => cases hname
    | cons d cs => exact Cuts.point (Bool.and_eq_true_iff.mp hname).1
  have hfirst : Cuts object.toList [.word object] ('.' :: (name.toList ++ ['(']) ++ rest) := by
    refine Cuts.word hobject ?_
    rintro c ⟨⟩
    decide
  exact hfirst.append (hpoint.append hlast)

theorem cuts_echoSource {j : Json} (hj : Whole j) :
    Cuts (echoSource (compact j)).toList ((echoExpr j).spell (fun _ => false) false) [] := by
  have hmark (rest : List Char) : Cuts [')'] [.punct ")"] rest := Cuts.mark (by decide)
  have hmarks : Cuts [')', ')'] [.punct ")", .punct ")"] [] := (hmark [')']).append (hmark [])
  have htext := cuts_compact hj [')', ')'] (endsNumber_separator (by decide))
  rw [toList_echoSource, spell_echoExpr]
  refine (cuts_callText (by decide) (by decide) _).append ?_
  exact (cuts_callText (by decide) (by decide) _).append (htext.append hmarks)

theorem compile_echoSource {j : Json} (hj : Whole j) :
    compile (echoSource (compact j)) = .ok ⟨[.expr (echoExpr j)]⟩ := by
  have hline : '\n' ∉ (echoSource (compact j)).toList := by
    have hcompact := newline_not_mem_compact hj
    rw [toList_echoSource]
    simp [callText, hcompact]
  have himport : import? (echoSource (compact j)).toList = none := by
    rw [toList_echoSource]
    rfl
  exact compile_expression (fun _ => false) (spellable_echoExpr j) (spell_echoExpr j)
    isName_console (by decide) (cuts_echoSource hj) hline himport

/-! ### The run -/

variable {m m' : Machine} {fuel scope : Nat} {v : Value} {j : Json}

/-- A method of an object that a name stands for. -/
theorem runOn_eval_method {name key : String} {ref : Nat} (hm : m.stepsLeft = none)
    (hname : m.scopes.lookup scope name = some (.object ref))
    (hkey : (m.heap.object ref).get? key = some v) :
    (eval (fuel + 2) (.member (.ident name) key false) scope).runOn m = (.ok v, m) := by
  have hobject : (eval (fuel + 1) (.ident name) scope).runOn m = (.ok (.object ref), m) := by
    have hlookup : (lookup? scope name).runOn m = (.ok (some (.object ref)), m) := by
      rw [← hname]
      rfl
    rw [eval, runOn_bind_ok (runOn_step hm), runOn_bind_ok hlookup]
    rfl
  rw [eval, runOn_bind_ok (runOn_step hm), runOn_bind_ok hobject]
  show (Except.ok (objectProperty m.heap ref key), m) = _
  rw [objectProperty, hkey]

/-- A call of a function that is there from the beginning with one argument. -/
theorem runOn_eval_call {f arg : Expr} {b : Builtin} {result : Value} {m'' : Machine}
    (hm : m.stepsLeft = none) (hm' : m'.stepsLeft = none)
    (hf : (eval (fuel + 3) f scope).runOn m = (.ok (.builtin b), m))
    (harg : (eval (fuel + 2) arg scope).runOn m = (.ok v, m'))
    (hb : (callBuiltin b [v]).runOn m' = (.ok (.value result), m'')) :
    (eval (fuel + 4) (.call f [.item arg] false) scope).runOn m = (.ok result, m'') := by
  have hargs : (evalElements (fuel + 3) [.item arg] scope).runOn m = (.ok [v], m') := by
    have hnone : (evalElements (fuel + 2) [] scope).runOn m' = (.ok [], m') := by
      rw [evalElements]
      · rfl
      · exact Nat.succ_ne_zero _
    rw [evalElements, runOn_bind_ok harg, runOn_bind_ok hnone]
    rfl
  have hsettle : (settle (fuel + 2) (.value result)).runOn m'' = (.ok result, m'') := by
    rw [settle]
    · rfl
    · exact Nat.succ_ne_zero _
  rw [eval, runOn_bind_ok (runOn_step hm), runOn_bind_ok hf]
  show (evalElements (fuel + 3) [.item arg] scope >>= _).runOn m = _
  rw [runOn_bind_ok hargs, call, runOn_bind_ok (runOn_step hm')]
  show (callBuiltin b [v] >>= _).runOn m' = _
  rw [runOn_bind_ok hb, hsettle]

theorem runOn_stringify (hv : IsData v) (m : Machine) :
    (callBuiltin .jsonStringify [v]).runOn m =
      (.ok (.value (.string (m.heap.json v).compact)), m) := by
  -- There is no third argument, so no number by which the text is indented.
  have htext (v : Value) : (do
      let j ← json v
      let indent ← number (argument [v] 2)
      return Value.string (if indent > 0.0 then j.pretty else j.compact)).runOn m =
        (.ok (.string (m.heap.json v).compact), m) := by
    show (Except.ok (Value.string (if Number.nan > 0.0 then _ else _)), m) = _
    rw [if_neg (by decide)]
  have hstringify : (stringify [v]).runOn m = (.ok (.string (m.heap.json v).compact), m) := by
    obtain ⟨hdefined, hcallable⟩ := hv
    cases v with
    | undefined => cases hdefined
    | closure ref => cases hcallable
    | builtin b => cases hcallable
    | method this name => cases hcallable
    | _ => exact htext _
  show (stringify [v] >>= _).runOn m = _
  rw [runOn_bind_ok hstringify]
  rfl

theorem runOn_log (text : String) (m : Machine) :
    (callBuiltin (.console .log) [.string text]).runOn m =
      (.ok (.value .undefined), { m with console := text :: m.console }) := by
  have hline : LogLevel.log.mark ++
      " ".intercalate ([Value.string text].map fun v => m.heap.inspect id v) = text := by
    simp [LogLevel.mark, Heap.inspect]
  exact congrArg (fun line => (Except.ok (Reply.value .undefined),
    { m with console := line :: m.console })) hline

/-- The names that the script uses mean what they should. -/
structure HasConsole (m : Machine) (scope : Nat) : Prop where
  log : ∃ ref, m.scopes.lookup scope "console" = some (.object ref) ∧
    (m.heap.object ref).get? "log" = some (.builtin (.console .log))
  stringify : ∃ ref, m.scopes.lookup scope "JSON" = some (.object ref) ∧
    (m.heap.object ref).get? "stringify" = some (.builtin .jsonStringify)

theorem runOn_echoExpr (hj : Whole j) (hm : m.stepsLeft = none) (hnames : HasConsole m scope)
    (hfuel : (literalTokens j).length < fuel + 2) :
    ∃ h, (eval (fuel + 6) (echoExpr j) scope).runOn m =
      (.ok .undefined, { m with heap := h, console := compact (sorted j) :: m.console }) := by
  obtain ⟨⟨console, hconsole, hlog⟩, json, hJSON, hstringify⟩ := hnames
  obtain ⟨v, h, hliteral, hv⟩ := builds hj (fuel + 2) m scope hfuel hm
  have hcall := runOn_stringify hv.data { m with heap := h }
  rw [hv.json] at hcall
  have hjson : (eval (fuel + 3) (.member (.ident "JSON") "stringify" false) scope).runOn m =
      (.ok (.builtin .jsonStringify), m) := runOn_eval_method hm hJSON hstringify
  have hm' : ({ m with heap := h } : Machine).stepsLeft = none := hm
  have htext := runOn_eval_call hm hm' hjson hliteral hcall
  have hlog : (eval (fuel + 5) (.member (.ident "console") "log" false) scope).runOn m =
      (.ok (.builtin (.console .log)), m) := runOn_eval_method hm hconsole hlog
  have hline := runOn_log (compact (sorted j)) { m with heap := h }
  exact ⟨h, runOn_eval_call hm hm' hlog htext hline⟩

/-- The machine on which a program begins: nothing has been run, and a scope is open. -/
def Machine.begun (browser : Browser) : Machine :=
  { Machine.start browser with
    scopes := ((Machine.start browser).scopes.child globalScope).2
    stepsLeft := none }

theorem runOn_openScope_start (browser : Browser) :
    (openScope globalScope).runOn { Machine.start browser with stepsLeft := none } =
      (.ok 1, .begun browser) := by
  have hsize : (Machine.start browser).scopes.frames.size = 1 := size_declareAll _ _ _
  rw [← hsize]
  rfl

theorem hasConsole_begun (browser : Browser) : HasConsole (.begun browser) 1 := by
  obtain ⟨style, _, _, _, _, _, _, _, _⟩ := browser
  cases style with
  | playwright => exact ⟨⟨0, rfl, rfl⟩, 1, rfl, rfl⟩
  | cypress => exact ⟨⟨0, rfl, rfl⟩, 1, rfl, rfl⟩

/-- A block of one expression. -/
theorem runOn_execBlock_expression {e : Expr} (hm : m.stepsLeft = none)
    (he : (eval fuel e scope).runOn m = (.ok v, m')) :
    (execBlock (fuel + 3) [.expr e] scope).runOn m = (.ok .normal, m') := by
  have hexec : (exec (fuel + 1) (.expr e) scope).runOn m = (.ok .normal, m') := by
    rw [exec, runOn_bind_ok (runOn_step hm), runOn_bind_ok he]
    rfl
  have hdone : (execAll (fuel + 1) [] scope).runOn m' = (.ok .normal, m') := by
    rw [execAll]
    · rfl
    · exact Nat.succ_ne_zero _
  rw [execBlock]
  show (execAll (fuel + 2) [.expr e] scope).runOn m = _
  rw [execAll, runOn_bind_ok hexec]
  exact hdone

/-- A script of one expression, before its tests are run. -/
theorem runOn_topLevel_expression {e : Expr} {browser : Browser} {fuel : Nat}
    (he : (eval fuel e 1).runOn (.begun browser) = (.ok v, m')) :
    (topLevel (fuel + 3) ⟨[.expr e]⟩).runOn { Machine.start browser with stepsLeft := none } =
      (.ok .normal, m') := by
  rw [topLevel, runOn_bind_ok (runOn_openScope_start browser)]
  exact runOn_execBlock_expression rfl he

/-- A script of one expression that registers no tests ends behind that expression. -/
theorem run_expression {e : Expr} {browser : Browser} {fuel : Nat}
    (he : (eval fuel e 1).runOn (.begun browser) = (.ok v, m')) (hm' : m'.tests = []) :
    (Program.mk [.expr e]).run (fuel + 3) browser = (.completed, m') := by
  rw [Program.run, runFor_eq_ofResult, runOn_runProgram (runOn_topLevel_expression he), hm']
  obtain ⟨heap, scopes, tests, hooks, console, browser', stepsLeft⟩ := m'
  obtain rfl : tests = [] := hm'
  rfl

theorem length_echoSource (text : String) : (echoSource text).length = text.length + 29 := by
  have hlength : (echoSource text).length =
      "console.log(JSON.stringify(".length + text.length + "))".length :=
    (String.length_append _ _).trans (congrArg (· + "))".length) (String.length_append _ _))
  rw [hlength, Nat.add_right_comm, Nat.add_comm]
  rfl

/-- JSON text means itself in scripts: a script that reads the compact text of a value as an
expression, and writes the JSON text of what that is, writes the same text and nothing else. -/
theorem json_text_means_itself {j : Json} (hj : Whole j) :
    let text := (sorted j).compact
    let source := "console.log(JSON.stringify(" ++ text ++ "))"
    ∃ p, compile source = .ok p ∧ ∀ fuel browser, source.length ≤ fuel →
      (p.run fuel browser).1 = .completed ∧ (p.run fuel browser).2.console = [text] := by
  intro text source
  refine ⟨_, compile_echoSource hj.sorted, fun fuel browser hfuel => ?_⟩
  have hshort := (cuts_compact hj.sorted [] nofun).short
  rw [String.length_toList] at hshort
  have hlength : source.length = (compact (sorted j)).length + 29 := length_echoSource text
  obtain ⟨fuel, rfl⟩ : ∃ n, fuel = n + 9 := ⟨fuel - 9, by omega⟩
  have hfuel' : (literalTokens (sorted j)).length < fuel + 2 := by omega
  obtain ⟨h, hrun⟩ := runOn_echoExpr hj.sorted rfl (hasConsole_begun browser) hfuel'
  rw [run_expression hrun rfl, sorted_sorted]
  exact ⟨rfl, rfl⟩

/-- An object that is not sorted, with an array, a negative number and a character that is
escaped. -/
theorem json_text_means_itself_nested :
    let j : Json := .obj [("b", .arr [.int (-5), .null, .str (String.singleton '\x01')]),
      ("a", .obj [])]
    let text := "\x7b\"a\":\x7b\x7d,\"b\":[-5,null,\"\\u0001\"]\x7d"
    let source := "console.log(JSON.stringify(" ++ text ++ "))"
    Whole j ∧ (sorted j).compact = text ∧ ∃ p, compile source = .ok p ∧
      ∀ fuel browser, source.length ≤ fuel →
        (p.run fuel browser).1 = .completed ∧ (p.run fuel browser).2.console = [text] := by
  intro j text source
  have hj : Whole j := by
    refine .obj ?_
    simp only [List.mem_cons, List.not_mem_nil, or_false]
    rintro entry (rfl | rfl)
    · refine .arr ?_
      simp only [List.mem_cons, List.not_mem_nil, or_false]
      rintro item (rfl | rfl | rfl)
      · exact .int (by decide)
      · exact .null
      · exact .str _
    · exact .obj nofun
  have htext : (sorted j).compact = text := by decide
  refine ⟨hj, htext, ?_⟩
  have h := json_text_means_itself hj
  rw [htext] at h
  exact h

end BrowserLab.Script
