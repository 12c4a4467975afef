import BrowserLab.Proofs.Surface.Argument
import BrowserLab.Script.Property

/-!
# Globals and properties

A script comes by handles only at the beginning and from other handles, and only through them and by
drawing numbers it has to do with the browser.  `Suits p R` says that `p` and `R` outlast properties
and draws.  Then the functions that are there from the beginning, and reading and writing properties,
keep them up as well: the only new handle that these make is an expectation.  `Upholds style p R`
says that `p` and `R` outlast all that scripts of the style do.
-/

namespace BrowserLab.Script

/-- Handles as `p` tells have no others as properties and may be expected, and drawing a number keeps
up `R`. -/
structure Suits (p : Handle → Prop) (R : Link) : Prop where
  expectation : ∀ {v}, v.All p → p (.expectation v)
  property : ∀ {h : Handle}, h.All p → ∀ {key : String} {v : Value},
    Surface.property? h key = some v → v.All p
  random : Keeps p R Anything (modifyGet fun m =>
    let (x, draws) := m.browser.draws.unit
    (x, { m with browser := { m.browser with draws := draws } }) : Eval Float)

/-- Scripts of the style begin with handles as `p` tells, and come by no others through these; and
whatever they ask of handles, or draw, upholds `R`. -/
structure Upholds (style : Style) (p : Handle → Prop) (R : Link) : Prop extends Suits p R where
  ofStyle : ∀ {b b'}, R b b' → b.style = style
  sameStyle : ∀ {b b'}, R b b' → b'.style = b.style
  spentStyle : ∀ {b}, R.spent b → b.style = style
  globals : Dict.Holds (Value.All p) (styleValues style)
  invoke : ∀ {h : Handle}, h.All p → ∀ (method : String) {args : List Value}, AllValues p args →
    Keeps p R (Reply.All p) (Surface.invoke h method args)

variable {p : Handle → Prop} {R : Link}

theorem all_lastCallable {p : Handle → Prop} {vs : List Value} (hvs : AllValues p vs) {v : Value}
    (h : lastCallable? vs = some v) : v.All p :=
  hvs v (List.mem_reverse.mp (List.mem_of_find?_eq_some h))

namespace Keeps

/-! ### Functions that do without the browser -/

theorem registerTest {args : List Value} (hargs : AllValues p args) :
    Keeps p R (Reply.All p) (registerTest args) := by
  unfold Script.registerTest
  split
  · next callback h =>
    have hcallback := all_lastCallable (hargs.drop 1) h
    refine bind (Q := Anything) (modifyGet
      (g := fun m => ((), { m with tests := callback :: m.tests })) (fun _ _ => rfl)
      fun _ hm => ⟨trivial, { hm with tests := hm.tests.cons hcallback }⟩) fun _ _ => pure trivial
  · exact (display _).bind fun _ _ => typeError _

theorem openGroup {args : List Value} (hargs : AllValues p args) :
    Keeps p R (Reply.All p) (openGroup args) := by
  unfold Script.openGroup
  split
  · next body h => exact pure ⟨all_lastCallable hargs h, allValues_nil, fun _ _ => trivial⟩
  · exact (display _).bind fun _ _ => typeError _

theorem registerHook {args : List Value} (hargs : AllValues p args) :
    Keeps p R (Reply.All p) (registerHook args) := by
  unfold Script.registerHook
  split
  · next hook h =>
    have hhook := allValues_nil.cons (all_lastCallable hargs h)
    refine bind (Q := Anything) (modifyGet
      (g := fun m => ((), { m with hooks := m.hooks ++ [hook] })) (fun _ _ => rfl)
      fun _ hm => ⟨trivial, { hm with hooks := hm.hooks.append hhook }⟩) fun _ _ => pure trivial
  · exact typeError _

theorem writeLine (level : LogLevel) (args : List Value) :
    Keeps p R (Value.All p) (writeLine level args) :=
  (heap (Q := Anything) fun _ _ => trivial).bind fun h _ =>
    bind (Q := Anything) (modifyGet
      (g := fun m => ((), { m with console := (level.mark ++
        " ".intercalate (args.map fun v => h.inspect id v)) :: m.console })) (fun _ _ => rfl)
      fun _ hm => ⟨trivial, { hm with }⟩) fun _ _ => pure trivial

theorem stringify (args : List Value) : Keeps p R (Value.All p) (stringify args) := by
  unfold Script.stringify
  dsimp only
  split
  · exact pure trivial
  · split
    · exact pure trivial
    · exact (json _).bind fun _ _ => (number _).bind fun _ _ => pure trivial

theorem parseJson (args : List Value) : Keeps p R (Value.All p) (parseJson args) := by
  unfold Script.parseJson
  refine (display _).bind fun text _ => ?_
  cases Json.read text with
  | ok j => exact ofJson j
  | error fault => exact syntaxError _

theorem holds_entries {h : Heap} (hh : h.All p) (v : Value) :
    Dict.Holds (Value.All p) (entries h v) := by
  unfold entries
  split
  · exact hh.object _
  · next ref =>
    intro entry hentry
    obtain ⟨⟨w, i⟩, hw, rfl⟩ := List.mem_map.mp hentry
    exact hh.array ref w (List.fst_mem_of_mem_zipIdx hw)
  · exact Dict.holds_nil

theorem allValues_snd {es : List (String × Value)} (h : Dict.Holds (Value.All p) es) :
    AllValues p (es.map Prod.snd) := by
  intro v hv
  obtain ⟨entry, hentry, rfl⟩ := List.mem_map.mp hv
  exact h entry hentry

theorem entryPairs {es : List (String × Value)} :
    Dict.Holds (Value.All p) es → Keeps p R (AllValues p) (entryPairs es) := by
  induction es with
  | nil => exact fun _ => pure allValues_nil
  | cons entry rest ih =>
    intro h
    have hentry : AllValues p [.string entry.1, entry.2] :=
      (allValues_nil.cons (h entry List.mem_cons_self)).cons trivial
    refine (newArray hentry).bind fun pair hpair => ?_
    exact (ih h.tail).bind fun pairs hpairs => pure (hpairs.cons hpair)

/-! ### Properties -/

theorem all_arrayProperty {h : Heap} (hh : h.All p) (ref : Nat) (key : String) :
    (arrayProperty h ref key).All p := by
  unfold arrayProperty
  split
  · exact trivial
  · split
    · rw [Array.getD_eq_getD_getElem?]
      exact Value.all_getD fun v hv => hh.item hv
    · split <;> exact trivial

theorem all_stringProperty (s key : String) : (stringProperty s key).All p := by
  unfold stringProperty
  split
  · exact trivial
  · split
    · exact all_charAt _
    · split <;> exact trivial

theorem all_objectProperty {h : Heap} (hh : h.All p) (ref : Nat) (key : String) :
    (objectProperty h ref key).All p := by
  unfold objectProperty
  split
  · next v hv => exact (hh.object ref).get? hv
  · split <;> exact trivial

theorem all_setItem {items : Array Value} (hitems : AllValues p items.toList) (i : Nat) {v : Value}
    (hv : v.All p) : AllValues p (setItem items i v).toList := by
  unfold setItem
  split
  · intro w hw
    rw [Array.toList_setIfInBounds] at hw
    rcases List.mem_or_eq_of_mem_set hw with hw | rfl
    · exact hitems w hw
    · exact hv
  · rw [Array.toList_push, Array.toList_append, Array.toList_replicate]
    refine (hitems.append fun w hw => ?_).append (allValues_nil.cons hv)
    rw [List.eq_of_mem_replicate hw]
    exact trivial

theorem setProperty {v new : Value} (key : String) (hnew : new.All p) :
    Keeps p R Anything (setProperty v key new) := by
  unfold Script.setProperty
  split
  · exact typeError _
  · exact typeError _
  · exact modifyHeap fun _ hh => hh.modifyObject ((hh.object _).insert hnew key)
  · split
    · exact modifyArray fun _ hi => all_setItem hi _ hnew
    · exact pure trivial
  · exact pure trivial

end Keeps

/-! ### What depends on handles -/

namespace Suits

variable (hp : Suits p R)

include hp

theorem getProperty {v : Value} (hv : v.All p) (key : String) :
    Keeps p R (Value.All p) (getProperty v key) := by
  unfold Script.getProperty
  refine (Keeps.heap (Q := Heap.All p) fun _ hh => hh).bind fun h hh => ?_
  split
  · exact Keeps.typeError _
  · exact Keeps.typeError _
  · exact .pure (Keeps.all_arrayProperty hh _ _)
  · exact .pure (Keeps.all_stringProperty _ _)
  · exact .pure (Keeps.all_objectProperty hh _ _)
  · next hd =>
    cases hproperty : Surface.property? hd key with
    | none => exact .pure hv
    | some w => exact .pure (hp.property hv hproperty)
  · next b => cases declarationProperty? b key <;> exact .pure trivial
  · split <;> exact .pure trivial
  · exact .pure trivial

theorem mathFunction (f : MathFunction) (args : List Value) :
    Keeps p R (Value.All p) (mathFunction f args) := by
  unfold Script.mathFunction
  refine (Keeps.number _).bind fun x _ => ?_
  cases f with
  | max => exact (Keeps.heap (Q := Anything) fun _ _ => trivial).bind fun _ _ => .pure trivial
  | min => exact (Keeps.heap (Q := Anything) fun _ _ => trivial).bind fun _ _ => .pure trivial
  | random => exact hp.random.bind fun _ _ => .pure trivial
  | _ => exact .pure trivial

theorem callBuiltin (b : Builtin) {args : List Value} (hargs : AllValues p args) :
    Keeps p R (Reply.All p) (callBuiltin b args) := by
  have hfirst := hargs.argument 0
  have hentries : Keeps p R (Dict.Holds (Value.All p))
      (Eval.heap fun h => entries h (argument args 0)) :=
    .heap fun _ hh => Keeps.holds_entries hh _
  have herror (name message : String) : Keeps p R (Reply.All p) (do
      let e ← Eval.newObject [("name", .string name), ("message", .string message)]
      return .value e) :=
    (Keeps.newObject (Dict.holds_cons (Value.all_string _)
      (Dict.holds_cons (Value.all_string _) Dict.holds_nil))).bind fun _ h => .pure h
  unfold Script.callBuiltin
  cases b with
  | test => exact .registerTest hargs
  | describe => exact .openGroup hargs
  | beforeEach => exact .registerHook hargs
  | skip => exact .pure trivial
  | defineConfig => exact .pure hfirst
  | expect => exact .pure ⟨hp.expectation hfirst, hfirst⟩
  | console level => exact (Keeps.writeLine _ _).bind fun _ h => .pure h
  | jsonStringify => exact (Keeps.stringify _).bind fun _ h => .pure h
  | jsonParse => exact (Keeps.parseJson _).bind fun _ h => .pure h
  | bufferFrom => exact (Keeps.display _).bind fun _ _ => .pure trivial
  | math f => exact (hp.mathFunction _ _).bind fun _ h => .pure h
  | errorMaker name =>
    dsimp only
    split
    · exact herror _ _
    · exact (Keeps.display _).bind fun _ _ => herror _ _
  | objectKeys =>
    refine hentries.bind fun es _ => ?_
    have := Keeps.newTexts (p := p) (R := R) (es.map Prod.fst)
    rw [List.map_map] at this
    exact this.bind fun _ h => .pure h
  | objectValues =>
    refine hentries.bind fun es hes => ?_
    exact (Keeps.newArray (Keeps.allValues_snd hes)).bind fun _ h => .pure h
  | objectEntries =>
    refine hentries.bind fun es hes => (Keeps.entryPairs hes).bind fun pairs hpairs => ?_
    exact (Keeps.newArray hpairs).bind fun _ h => .pure h
  | isArray =>
    dsimp only
    split <;> exact .pure trivial
  | stringOf =>
    dsimp only
    split
    · exact .pure trivial
    · exact (Keeps.display _).bind fun _ _ => .pure trivial
  | numberOf =>
    dsimp only
    split
    · exact .pure trivial
    · exact (Keeps.number _).bind fun _ _ => .pure trivial
  | booleanOf => exact .pure trivial
  | promiseAll =>
    dsimp only
    split
    · refine (Keeps.heap (Q := fun items => AllValues _ items.toList)
        fun _ hh => hh.array _).bind fun items hitems => ?_
      exact (Keeps.newArray hitems).bind fun _ h => .pure h
    · exact Keeps.typeError _
  | promiseResolve => exact .pure hfirst

end Suits

end BrowserLab.Script
