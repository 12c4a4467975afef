import BrowserLab.Proofs.Script.Grammar.Levels
import BrowserLab.Proofs.Script.Token.Cut
import BrowserLab.Script.Program

/-!
# What is spelt is read back

* `Expr.reads`: an expression is read at every place from the tokens that it has there.
* `Expr.assignment_spell`: a stream of the tokens of an expression is read as that expression, up to
  the last of them.
* `compile_expression`: a text on one line that is cut into the tokens of an expression, the first of
  them a name, compiles to the script that is this one expression.
-/

namespace BrowserLab.Script

open Parse

variable {bare : String → Bool} {ks ks' ks'' : List Token.Kind} {e object key f : Expr}
  {ts rest : List Token} {fuel : Nat}

/-! ### Items -/

theorem not_closes_of_opens {k : Token.Kind} (h : opens k = true) : closes k = false := by
  cases k with
  | punct p =>
    simp only [opens, List.contains_eq_mem, decide_eq_true_eq, List.mem_cons, List.not_mem_nil,
      or_false] at h
    obtain rfl | rfl | rfl | rfl | rfl | rfl | rfl | rfl := h <;> decide
  | eof => cases h
  | _ => rfl

theorem Element.read {item : Element} (hs : item.expr.Spellable) (h : item.expr.Reads bare)
    (hts : Spelt (item.spell bare) ts rest) (hrest : closes (kindAt rest 0) = true)
    (hfuel : 16 * (item.spell bare).length < fuel) :
    closes (kindAt ts 0) = false ∧ element fuel ts = .ok (item, rest) := by
  obtain ⟨fuel, rfl⟩ : ∃ n, fuel = n + 1 := ⟨fuel - 1, by omega⟩
  cases item with
  | item e =>
    have hopens := ((Expr.head_spell bare hs false).kindAt hts).1
    have hlength : 16 * (e.spell bare false).length ≤ fuel := by
      simpa [Element.spell, Element.expr] using Nat.le_of_lt_succ hfuel
    exact ⟨not_closes_of_opens hopens,
      element_item (h.whole fuel ts rest hts hrest hlength) (Token.Kind.isPunct_of_test hopens rfl)⟩
  | spread e =>
    obtain ⟨place, mid, rfl, hmid, hts⟩ := hts
    simp only [Element.spell, List.length_cons] at hfuel
    exact ⟨rfl, element_spread (h.whole fuel mid rest hts hrest (by
      simp only [Element.expr]; omega)) hmid⟩

theorem Property.read {property : Property} (hs : ∀ e ∈ property.exprs, e.Reads bare)
    (hts : Spelt (property.spell bare) ts rest) (hrest : closes (kindAt rest 0) = true)
    (hfuel : 16 * (property.spell bare).length ≤ fuel) :
    closes (kindAt ts 0) = false ∧ Parse.property fuel ts = .ok (property, rest) := by
  cases property with
  | named key e =>
    obtain ⟨place, mid, rfl, -, place', mid', rfl, hmid', hts⟩ := hts
    simp only [Property.spell, List.length_cons] at hfuel
    obtain ⟨fuel, rfl⟩ : ∃ n, fuel = n + 2 := ⟨fuel - 2, by omega⟩
    have he := (hs e (by simp [Property.exprs])).whole fuel mid' rest hts hrest (by omega)
    refine ⟨?_, property_named he hmid'⟩
    rw [kindAt_cons_zero, keyToken]
    cases bare key <;> rfl
  | computed key e =>
    obtain ⟨place, mid, rfl, hmid, hts⟩ := hts
    obtain ⟨mid', hkey, place', mid'', rfl, -, place'', mid''', rfl, hmid''', hts⟩ :=
      spelt_append.mp hts
    simp only [Property.spell, List.length_cons, List.length_append] at hfuel
    obtain ⟨fuel, rfl⟩ : ∃ n, fuel = n + 2 := ⟨fuel - 2, by omega⟩
    have hkey := (hs key (by simp [Property.exprs])).whole fuel mid _ hkey rfl (by omega)
    have he := (hs e (by simp [Property.exprs])).whole (fuel + 1) mid''' rest hts hrest (by omega)
    exact ⟨rfl, property_computed hkey he hmid hmid'''⟩
  | spread e =>
    obtain ⟨place, mid, rfl, hmid, hts⟩ := hts
    simp only [Property.spell, List.length_cons] at hfuel
    obtain ⟨fuel, rfl⟩ : ∃ n, fuel = n + 1 := ⟨fuel - 1, by omega⟩
    have he := (hs e (by simp [Property.exprs])).whole fuel mid rest hts hrest (by omega)
    exact ⟨rfl, property_spread he hmid⟩

section Lists

variable {items args : List Element} {properties : List Property}

theorem readsPrimary_array (hs : ∀ item ∈ items, item.expr.Spellable)
    (h : ∀ item ∈ items, item.expr.Reads bare) :
    ReadsPrimary (.punct "[" :: (separated (Element.spellAll bare items) ++ [.punct "]"]))
      (.array items) := by
  rintro fuel ts rest ⟨place, mid, rfl, hmid, hts⟩ - hfuel
  rw [Element.spellAll_eq] at hts hfuel
  have hcount := length_le_separated (items.map (Element.spell bare))
  simp only [List.length_cons, List.length_append, List.length_nil, List.length_map] at hfuel hcount
  obtain ⟨fuel, rfl⟩ : ∃ n, fuel = n + 1 := ⟨fuel - 1, by omega⟩
  have hloop : ReadsItems "]" (element fuel)
      (itemsWithHoles "]" (.item .undefined) (element fuel)) :=
    readsItems_itemsWithHoles _ _ rfl (by decide)
  refine ⟨rfl, primary_array hmid (hloop.read rfl ?_ (by omega) hts)⟩
  intro item hitem ts rest hts hrest
  have hlength := length_le_of_mem_separated (List.mem_map_of_mem (f := Element.spell bare) hitem)
  exact Element.read (hs item hitem) (h item hitem) hts hrest (by omega)

theorem readsPrimary_object (h : ∀ property ∈ properties, ∀ e ∈ property.exprs, e.Reads bare) :
    ReadsPrimary
      (.punct "\x7b" :: (separated (Property.spellAll bare properties) ++ [.punct "\x7d"]))
      (.object properties) := by
  rintro fuel ts rest ⟨place, mid, rfl, hmid, hts⟩ - hfuel
  rw [Property.spellAll_eq] at hts hfuel
  have hcount := length_le_separated (properties.map (Property.spell bare))
  simp only [List.length_cons, List.length_append, List.length_nil, List.length_map] at hfuel hcount
  obtain ⟨fuel, rfl⟩ : ∃ n, fuel = n + 1 := ⟨fuel - 1, by omega⟩
  have hloop : ReadsItems "\x7d" (Parse.property fuel) _ := readsItems_items _ rfl (by decide)
  refine ⟨rfl, primary_object hmid (hloop.read rfl ?_ (by omega) hts)⟩
  intro property hproperty ts rest hts hrest
  have hlength := length_le_of_mem_separated
    (List.mem_map_of_mem (f := Property.spell bare) hproperty)
  exact Property.read (h property hproperty) hts hrest (by omega)

theorem read_arguments (hs : ∀ arg ∈ args, arg.expr.Spellable)
    (h : ∀ arg ∈ args, arg.expr.Reads bare)
    (hts : Spelt (fenced (separated (Element.spellAll bare args))) ts rest)
    (hfuel : 16 * (separated (Element.spellAll bare args)).length + 2 < fuel) :
    arguments fuel ts = .ok (args, rest) := by
  obtain ⟨place, mid, rfl, hmid, hts⟩ := hts
  rw [Element.spellAll_eq] at hts hfuel
  have hcount := length_le_separated (args.map (Element.spell bare))
  rw [List.length_map] at hcount
  obtain ⟨fuel, rfl⟩ : ∃ n, fuel = n + 1 := ⟨fuel - 1, by omega⟩
  have hloop : ReadsItems ")" (element fuel) _ := readsItems_items _ rfl (by decide)
  refine arguments_eq (hloop.read rfl ?_ (by omega) hts) hmid
  intro arg harg ts rest hts hrest
  have hlength := length_le_of_mem_separated (List.mem_map_of_mem (f := Element.spell bare) harg)
  exact Element.read (hs arg harg) (h arg harg) hts hrest (by omega)

end Lists

/-! ### Chains -/

/-- A loop goes on with a link that it reads. -/
theorem ReadsInto.link {start : Nat → Parse Expr} {loop : Nat → Expr → Parse Expr}
    {k : Token.Kind} (h : ReadsInto ks object start loop) (hk : grip k < 15)
    (hlink : ∀ fuel mid rest, Spelt (k :: ks') mid rest → 16 * ks'.length ≤ fuel →
      loop (fuel + 1) object mid = loop fuel e rest) :
    ReadsInto (ks ++ k :: ks') e start loop := by
  intro fuel ts rest hts _ hfuel
  obtain ⟨mid, hks, hks'⟩ := spelt_append.mp hts
  rw [List.length_append, List.length_cons] at hfuel ⊢
  have hgrip : grip (kindAt mid 0) < 15 := by
    rw [hks'.kindAt_zero]
    exact hk
  obtain ⟨fuel', hfuel', hstart⟩ := h fuel ts mid hks hgrip (by omega)
  obtain ⟨fuel', rfl⟩ : ∃ n, fuel' = n + 1 := ⟨fuel' - 1, by omega⟩
  exact ⟨fuel', by omega, hstart.trans (hlink fuel' mid rest hks' (by omega))⟩

theorem read_inBrackets (hkey : ReadsWhole ks key)
    (hts : Spelt (.punct "[" :: (ks ++ [.punct "]"])) ts rest) (hfuel : 16 * ks.length < fuel) :
    keyInBrackets fuel ts = .ok (key, rest) := by
  obtain ⟨place, mid, rfl, hmid, hts⟩ := hts
  obtain ⟨mid', hks, place', rest', rfl, hrest', rfl⟩ := spelt_append.mp hts
  obtain ⟨fuel, rfl⟩ : ∃ n, fuel = n + 1 := ⟨fuel - 1, by omega⟩
  exact keyInBrackets_eq (hkey fuel mid _ hks rfl (by omega)) hmid hrest'

theorem ReadsLink.member (h : ReadsLink ks object) (name : String) (optional : Bool) :
    ReadsLink (ks ++ [.punct (if optional then "?." else "."), .word name])
      (.member object name optional) := by
  refine ReadsInto.link h (by cases optional <;> decide) ?_
  rintro fuel mid rest ⟨place, mid', rfl, -, place', mid'', rfl, hmid, rfl⟩ -
  cases optional with
  | true => exact chain_optional_member hmid
  | false => exact chain_member hmid

theorem ReadsLink.index (h : ReadsLink ks object) (hkey : ReadsWhole ks' key) (optional : Bool) :
    ReadsLink
      (ks ++ (if optional then [.punct "?."] else []) ++ .punct "[" :: (ks' ++ [.punct "]"]))
      (.index object key optional) := by
  have hlength : (ks' ++ [Token.Kind.punct "]"]).length = ks'.length + 1 := by simp
  cases optional with
  | true =>
    rw [List.append_assoc]
    show ReadsLink (ks ++ .punct "?." :: .punct "[" :: (ks' ++ [.punct "]"])) _
    refine ReadsInto.link h (by decide) ?_
    rintro fuel mid rest ⟨place, mid', rfl, -, hbrackets⟩ hfuel
    rw [List.length_cons, hlength] at hfuel
    obtain ⟨place', mid'', rfl, -, -⟩ := id hbrackets
    exact chain_optional_index (read_inBrackets hkey hbrackets (by omega))
  | false =>
    rw [List.append_assoc]
    refine ReadsInto.link h (by decide) ?_
    intro fuel mid rest hbrackets hfuel
    rw [hlength] at hfuel
    obtain ⟨place', mid'', rfl, -, -⟩ := id hbrackets
    exact chain_index (read_inBrackets hkey hbrackets (by omega))

theorem ReadsLink.call {args : List Element} (h : ReadsLink ks f)
    (hs : ∀ arg ∈ args, arg.expr.Spellable) (ha : ∀ arg ∈ args, arg.expr.Reads bare)
    (optional : Bool) :
    ReadsLink (ks ++ (if optional then [.punct "?."] else []) ++
      fenced (separated (Element.spellAll bare args))) (.call f args optional) := by
  cases optional with
  | true =>
    rw [List.append_assoc]
    show ReadsLink (ks ++ .punct "?." :: fenced (separated (Element.spellAll bare args))) _
    refine ReadsInto.link h (by decide) ?_
    rintro fuel mid rest ⟨place, mid', rfl, -, hargs⟩ hfuel
    simp only [fenced, List.length_cons, List.length_append] at hfuel
    obtain ⟨place', mid'', rfl, -, -⟩ := id hargs
    exact chain_optional_call (read_arguments hs ha hargs (by omega))
  | false =>
    rw [List.append_assoc]
    refine ReadsInto.link h (by decide) ?_
    intro fuel mid rest hargs hfuel
    simp only [List.length_cons, List.length_append, List.length_nil] at hfuel
    obtain ⟨place', mid'', rfl, -, -⟩ := id hargs
    exact chain_call (read_arguments hs ha hargs (by omega))

theorem ReadsCallee.member (h : ReadsCallee ks object) (name : String) :
    ReadsCallee (ks ++ [.punct ".", .word name]) (.member object name false) := by
  refine ReadsInto.link h (by decide) ?_
  rintro fuel mid rest ⟨place, mid', rfl, -, place', mid'', rfl, hmid, rfl⟩ -
  exact constructor_member hmid

theorem ReadsCallee.index (h : ReadsCallee ks object) (hkey : ReadsWhole ks' key) :
    ReadsCallee (ks ++ .punct "[" :: (ks' ++ [.punct "]"])) (.index object key false) := by
  refine ReadsInto.link h (by decide) ?_
  intro fuel mid rest hbrackets hfuel
  rw [List.length_append, List.length_singleton] at hfuel
  obtain ⟨place', mid'', rfl, -, -⟩ := id hbrackets
  exact constructor_index (read_inBrackets hkey hbrackets (by omega))

theorem ReadsCallee.construct {args : List Element} (h : ReadsCallee ks f)
    (hs : ∀ arg ∈ args, arg.expr.Spellable) (ha : ∀ arg ∈ args, arg.expr.Reads bare) :
    ReadsLink (.word "new" :: (ks ++ fenced (separated (Element.spellAll bare args))))
      (.construct f args) := by
  rintro fuel ts rest ⟨place, mid, rfl, hmid, hts⟩ - hfuel
  obtain ⟨mid', hks, hargs⟩ := spelt_append.mp hts
  simp only [fenced, List.length_cons, List.length_append, List.length_nil] at hfuel ⊢
  obtain ⟨fuel, rfl⟩ : ∃ n, fuel = n + 2 := ⟨fuel - 2, by omega⟩
  obtain ⟨place', mid'', rfl, -, -⟩ := id hargs
  have hgrip : grip (.punct "(") < 15 := by decide
  obtain ⟨fuel', hfuel', hcallee⟩ := h fuel mid _ hks hgrip (by omega)
  obtain ⟨fuel', rfl⟩ : ∃ n, fuel' = n + 1 := ⟨fuel' - 1, by omega⟩
  have hconstruct : Parse.construct (fuel + 1) (⟨.word "new", place, false⟩ :: mid) =
      .ok (.construct f args, rest) :=
    construct_eq hmid (hcallee.trans constructor_stop) (read_arguments hs ha hargs (by omega))
  exact ⟨fuel + 1, by omega, callMember_construct hconstruct⟩

/-! ### Operators -/

theorem ReadsOperand.unary (op : UnaryOp) (h : ReadsOperand ks e) :
    ReadsOperand (op.token :: ks) (.unary op e) := by
  rintro fuel ts rest ⟨place, mid, rfl, hmid, hts⟩ hrest hfuel
  rw [List.length_cons] at hfuel
  obtain ⟨fuel, rfl⟩ : ∃ n, fuel = n + 1 := ⟨fuel - 1, by omega⟩
  exact unary_operator (by cases op <;> rfl) (h fuel mid rest hts hrest (by omega)) hmid

theorem ReadsOperand.await (h : ReadsOperand ks e) :
    ReadsOperand (.word "await" :: ks) (.await e) := by
  rintro fuel ts rest ⟨place, mid, rfl, hmid, hts⟩ hrest hfuel
  rw [List.length_cons] at hfuel
  obtain ⟨fuel, rfl⟩ : ∃ n, fuel = n + 1 := ⟨fuel - 1, by omega⟩
  exact unary_await (h fuel mid rest hts hrest (by omega)) hmid

theorem ReadsOperand.update (increment : Bool) (h : ReadsOperand ks e) :
    ReadsOperand (stepToken increment :: ks) (.update increment true e) := by
  rintro fuel ts rest ⟨place, mid, rfl, hmid, hts⟩ hrest hfuel
  rw [List.length_cons] at hfuel
  obtain ⟨fuel, rfl⟩ : ∃ n, fuel = n + 1 := ⟨fuel - 1, by omega⟩
  exact unary_update_before increment (h fuel mid rest hts hrest (by omega)) hmid

theorem ReadsLink.update (increment : Bool) (h : ReadsLink ks e) (hhead : Headed linkRank ks) :
    ReadsOperand (ks ++ [stepToken increment]) (.update increment false e) := by
  intro fuel ts rest hts _ hfuel
  obtain ⟨mid, hks, place, rest', rfl, hrest, rfl⟩ := spelt_append.mp hts
  rw [List.length_append, List.length_singleton] at hfuel
  have hgrip : grip (stepToken increment) = 12 := by cases increment <;> rfl
  obtain ⟨fuel, rfl⟩ : ∃ n, fuel = n + 1 := ⟨fuel - 1, by omega⟩
  obtain ⟨fuel', hfuel', hlink⟩ := h fuel ts _ hks
    (show grip (stepToken increment) < 15 by omega) (by omega)
  obtain ⟨fuel', rfl⟩ : ∃ n, fuel' = n + 1 := ⟨fuel' - 1, by omega⟩
  have hstop : chain (fuel' + 1) e (⟨stepToken increment, place, false⟩ :: rest') =
      .ok (e, ⟨stepToken increment, place, false⟩ :: rest') :=
    chain_stop (show grip (stepToken increment) < 13 by omega)
  exact unary_update_behind increment ((hhead.kindAt hks).2 (Nat.le_refl _)) (hlink.trans hstop)
    hrest

/-- Operators go on from their left operand, and from their right one if they group that way. -/
theorem ReadsInfix.apply {k : Token.Kind} {tightness tightness' : Nat} {op : Infix}
    {left right : Expr}
    (hk : infix? k = some (tightness, op)) (h : ReadsInfix ks left tightness')
    (h' : ReadsInfix ks' right (op.rightLevel tightness)) (hks' : ks' ≠ [])
    (htight : tightness ≤ tightness') (hleft : tightness ≤ room tightness')
    (hright : room tightness < op.rightLevel tightness)
    (hroom : room tightness ≤ room (op.rightLevel tightness)) :
    ReadsInfix (ks ++ k :: ks') (op.apply left right) tightness := by
  intro fuel level ts rest hts hlevel hrest hfuel
  obtain ⟨mid, hks, place, mid', rfl, hmid', hts⟩ := spelt_append.mp hts
  rw [List.length_append, List.length_cons] at hfuel ⊢
  have hgrip : grip k = tightness := by
    unfold grip
    rw [hk]
  obtain ⟨fuel', hfuel', hoperators⟩ := h fuel level ts _ hks (by omega)
    (show grip k ≤ room tightness' by omega) (by omega)
  obtain ⟨fuel', rfl⟩ : ∃ n, fuel' = n + 1 := ⟨fuel' - 1, by omega⟩
  have hoperand : binary fuel' (op.rightLevel tightness) mid' = .ok (right, rest) :=
    h'.read hts hks' (Nat.le_refl _) (by omega) (by omega) (by omega)
  exact ⟨fuel', by omega, hoperators.trans (binaryRest_operator hk hlevel hoperand hmid')⟩

theorem readsInfix_binary (op : BinaryOp) {left right : Expr}
    (h : ReadsInfix ks left op.leftRank) (h' : ReadsInfix ks' right op.rightRank)
    (hks' : ks' ≠ []) :
    ReadsInfix (ks ++ op.token :: ks') (.binary op left right) op.tightness := by
  have hk : infix? op.token = some (op.tightness, .binary op) := by cases op <;> rfl
  have hright : (Infix.binary op).rightLevel op.tightness = op.rightRank := by cases op <;> rfl
  rw [← hright] at h'
  exact h.apply hk h' hks' (by cases op <;> decide) (by cases op <;> decide)
    (by cases op <;> decide) (by cases op <;> decide)

theorem readsInfix_logical (op : LogicalOp) {left right : Expr}
    (h : ReadsInfix ks left op.tightness) (h' : ReadsInfix ks' right (op.tightness + 1))
    (hks' : ks' ≠ []) :
    ReadsInfix (ks ++ op.token :: ks') (.logical op left right) op.tightness := by
  have hk : infix? op.token = some (op.tightness, .logical op) := by cases op <;> rfl
  exact h.apply hk h' hks' (Nat.le_refl _) (by cases op <;> decide) (by cases op <;> decide)
    (by cases op <;> decide)

/-! ### Whole expressions -/

theorem ReadsInfix.choice {test yes no : Expr} (h : ReadsInfix ks test 1) (hks : ks ≠ [])
    (hy : ReadsWhole ks' yes) (hn : ReadsWhole ks'' no)
    (harrow : Arrowless (ks ++ .punct "?" :: (ks' ++ .punct ":" :: ks''))) :
    ReadsWhole (ks ++ .punct "?" :: (ks' ++ .punct ":" :: ks'')) (.conditional test yes no) := by
  intro fuel ts rest hts hrest hfuel
  have hnoArrow := harrow ts rest hts (calm_of_closes hrest)
  obtain ⟨_, htest, place, mid, rfl, hmid, hts⟩ := spelt_append.mp hts
  obtain ⟨_, hyes, place', mid', rfl, hmid', hno⟩ := spelt_append.mp hts
  simp only [List.length_append, List.length_cons] at hfuel
  obtain ⟨fuel, rfl⟩ : ∃ n, fuel = n + 2 := ⟨fuel - 2, by omega⟩
  have htest : binary fuel 1 ts = .ok (test, ⟨.punct "?", place, false⟩ :: mid) :=
    h.test (Nat.le_refl _) htest hks rfl (by omega)
  have hyes := hy fuel mid _ hyes rfl (by omega)
  have hno := hn fuel mid' rest hno hrest (by omega)
  exact assignment_plain hnoArrow (conditional_choice htest hyes hno hmid hmid')
    (assignOp?_of_closes hrest)

theorem ReadsInfix.assign {target value : Expr} (op : AssignOp) (htarget : isTarget target = true)
    (h : ReadsInfix ks target operandRank) (hks : ks ≠ []) (hv : ReadsWhole ks' value)
    (harrow : Arrowless (ks ++ op.token :: ks')) :
    ReadsWhole (ks ++ op.token :: ks') (.assign op target value) := by
  intro fuel ts rest hts hrest hfuel
  have hnoArrow := harrow ts rest hts (calm_of_closes hrest)
  obtain ⟨_, htokens, place, mid, rfl, hmid, hvalue⟩ := spelt_append.mp hts
  rw [List.length_append, List.length_cons] at hfuel
  obtain ⟨fuel, rfl⟩ : ∃ n, fuel = n + 2 := ⟨fuel - 2, by omega⟩
  have hbinary : binary fuel 1 ts = .ok (target, ⟨op.token, place, false⟩ :: mid) :=
    h.test (by decide) htokens hks (by cases op <;> rfl) (by omega)
  have hconditional : conditional (fuel + 1) ts = .ok (target, ⟨op.token, place, false⟩ :: mid) :=
    conditional_plain hbinary (by cases op <;> rfl)
  exact assignment_assign hnoArrow (by cases op <;> rfl) htarget hconditional
    (hv (fuel + 1) mid rest hvalue hrest (by omega)) hmid

/-! ### Arrow functions -/

/-- Parameters are a name, or they are in parentheses. -/
theorem spellParams_cases {params : List Param} (h : ∀ param ∈ params, param.IsName) :
    (∃ name, IsName name ∧ params = [.mk (.ident name) none false] ∧
      spellParams params = [.word name]) ∨
    spellParams params = fenced (separated (params.map fun param => [param.token])) := by
  obtain _ | ⟨param, _ | ⟨param', params⟩⟩ := params
  · exact .inr rfl
  · have hparam := h param List.mem_cons_self
    obtain ⟨⟨name⟩ | _ | _, _ | _, _ | _⟩ := param <;> first
      | exact absurd hparam id
      | exact .inl ⟨name, hparam, rfl, rfl⟩
  · exact .inr rfl

theorem Param.read {param : Param} (h : param.IsName) (hts : Spelt [param.token] ts rest)
    (hrest : closes (kindAt rest 0) = true) (hfuel : 2 ≤ fuel) :
    closes (kindAt ts 0) = false ∧ Parse.param fuel ts = .ok (param, rest) := by
  obtain ⟨fuel, rfl⟩ : ∃ n, fuel = n + 2 := ⟨fuel - 2, by omega⟩
  obtain ⟨⟨name⟩ | _ | _, _ | _, _ | _⟩ := param <;> try exact absurd h id
  obtain ⟨place, mid, rfl, hmid, rfl⟩ := hts
  exact ⟨rfl, param_ident h hmid (Token.Kind.isPunct_of_test hrest rfl)⟩

theorem read_params {params : List Param} (h : ∀ param ∈ params, param.IsName)
    (hts : Spelt (fenced (separated (params.map fun param => [param.token]))) ts rest)
    (hfuel : params.length + 2 < fuel) : Parse.params fuel ts = .ok (params, rest) := by
  obtain ⟨place, mid, rfl, hmid, hts⟩ := hts
  obtain ⟨fuel, rfl⟩ : ∃ n, fuel = n + 1 := ⟨fuel - 1, by omega⟩
  have hloop : ReadsItems ")" (Parse.param fuel) _ := readsItems_items _ rfl (by decide)
  refine params_eq hmid (hloop.read rfl ?_ (by omega) hts)
  intro param hparam ts rest hts hrest
  exact Param.read (h param hparam) hts hrest (by omega)

/-- The parameters of an arrow function and the arrow behind them are seen. -/
theorem arrowBegins_params {params : List Param} (h : ∀ param ∈ params, param.IsName)
    (hts : Spelt (spellParams params ++ .punct "=>" :: ks) ts rest) :
    arrowBegins ts = true ∧ asyncArrowBegins ts = false := by
  obtain ⟨name, hname, -, hspell⟩ | hspell := spellParams_cases h
  · rw [hspell] at hts
    obtain ⟨place, mid, rfl, -, place', mid', rfl, -, -⟩ := hts
    constructor
    · simp [arrowBegins, hname.free, Token.Kind.isPunct]
    · simp [asyncArrowBegins, Token.Kind.isPunct]
  · rw [hspell] at hts
    have hbalanced : Balanced (separated (params.map fun param => [param.token])) := by
      refine Balanced.separated fun ks hks => ?_
      obtain ⟨param, hparam, rfl⟩ := List.mem_map.mp hks
      exact Balanced.param (h param hparam)
    obtain ⟨mid, hparams, place, mid', rfl, -, -⟩ := spelt_append.mp hts
    have hbehind := behindParentheses?_fenced hbalanced hparams
    obtain ⟨place', mid'', rfl, -, -⟩ := hparams
    exact ⟨by simp [arrowBegins, hbehind, Token.Kind.isPunct], rfl⟩

/-- ... and so are they behind the word that makes it asynchronous. -/
theorem asyncArrowBegins_params {params : List Param} (h : ∀ param ∈ params, param.IsName)
    (hts : Spelt (.word "async" :: (spellParams params ++ .punct "=>" :: ks)) ts rest) :
    asyncArrowBegins ts = true := by
  obtain ⟨place, mid, rfl, -, hts⟩ := hts
  have hbegins := (arrowBegins_params h hts).1
  have hhead : ∃ k place' mid', mid = ⟨k, place', false⟩ :: mid' ∧ k.isPunct "=>" = false := by
    obtain ⟨name, -, -, hspell⟩ | hspell := spellParams_cases h
    · rw [hspell] at hts
      obtain ⟨place', mid', rfl, -, -⟩ := hts
      exact ⟨_, place', mid', rfl, rfl⟩
    · rw [hspell] at hts
      obtain ⟨place', mid', rfl, -, -⟩ := hts
      exact ⟨_, place', mid', rfl, rfl⟩
  obtain ⟨k, place', mid', rfl, hk⟩ := hhead
  simp [asyncArrowBegins, Token.Kind.isWord, hk, hbegins]

/-- The body of an arrow function does not begin like a block. -/
theorem read_body {body : Expr} (hs : body.Spellable) (hb : body.Reads bare)
    (hts : Spelt (Body.spell bare (.expr body)) ts rest) (hrest : closes (kindAt rest 0) = true)
    (hfuel : 16 * (Body.spell bare (.expr body)).length ≤ fuel) :
    (kindAt ts 0).isPunct "\x7b" = false ∧ assignment fuel ts = .ok (body, rest) := by
  rw [Body.spell] at hts hfuel
  cases hblock : beginsBlock (body.spell bare false) with
  | true =>
    rw [hblock, if_pos rfl] at hts hfuel
    have hwhole := hb.whole.whole_fenced (Expr.balanced_spell bare hs false)
    refine ⟨?_, hwhole fuel ts rest hts hrest hfuel⟩
    rw [hts.kindAt_zero]
    rfl
  | false =>
    rw [hblock, if_neg Bool.false_ne_true] at hts hfuel
    refine ⟨?_, hb.whole fuel ts rest hts hrest hfuel⟩
    have hne : body.spell bare false ≠ [] := Expr.Reads.spell_ne hs false
    generalize body.spell bare false = ks at hts hblock hne
    cases ks with
    | nil => exact absurd rfl hne
    | cons k ks =>
      rw [hts.kindAt_zero]
      exact hblock

theorem read_arrow {params : List Param} {body : Expr} (hp : ∀ param ∈ params, param.IsName)
    (hs : body.Spellable) (hb : body.Reads bare)
    (hts : Spelt (spellParams params ++ .punct "=>" :: Body.spell bare (.expr body)) ts rest)
    (hrest : closes (kindAt rest 0) = true)
    (hfuel : 16 * (spellParams params ++ .punct "=>" :: Body.spell bare (.expr body)).length ≤
      fuel + 1) (async : Bool) (place : Place) :
    arrow fuel async (behindAsync async place ts) =
      .ok (.function (.mk none params (.expr body) true async), rest) := by
  rw [List.length_append, List.length_cons] at hfuel
  obtain ⟨fuel, rfl⟩ : ∃ n, fuel = n + 1 := ⟨fuel - 1, by omega⟩
  obtain ⟨mid, hparams, place', mid', rfl, hmid', hbody⟩ := spelt_append.mp hts
  obtain ⟨hblock, hbody⟩ : (kindAt mid' 0).isPunct "\x7b" = false ∧
      assignment fuel mid' = .ok (body, rest) := read_body hs hb hbody hrest (by omega)
  obtain ⟨name, hname, rfl, hspell⟩ | hspell := spellParams_cases hp
  · rw [hspell] at hparams
    obtain ⟨place'', mid'', rfl, -, rfl⟩ := hparams
    exact arrow_ident hname hbody hmid' hblock place
  · have hcount := length_le_separated (params.map fun param => [param.token])
    rw [hspell] at hparams hfuel
    simp only [fenced, List.length_cons, List.length_append, List.length_map] at hfuel hcount
    have hread : Parse.params fuel _ = .ok (params, _) := read_params hp hparams (by omega)
    obtain ⟨place'', mid'', rfl, -, -⟩ := hparams
    exact arrow_params hread hbody hmid' hblock place

theorem readsWhole_arrow {params : List Param} {body : Expr} {async : Bool}
    (hp : ∀ param ∈ params, param.IsName) (hs : body.Spellable) (hb : body.Reads bare) :
    ReadsWhole (Function.spell bare (.mk none params (.expr body) true async))
      (.function (.mk none params (.expr body) true async)) := by
  intro fuel ts rest hts hrest hfuel
  have hspell : Function.spell bare (.mk none params (.expr body) true async) =
      (if async then [.word "async"] else []) ++
        (spellParams params ++ .punct "=>" :: Body.spell bare (.expr body)) :=
    List.append_assoc _ _ _
  rw [hspell] at hts hfuel
  cases async with
  | true =>
    have hbegins := asyncArrowBegins_params hp hts
    obtain ⟨place, mid, rfl, -, hts⟩ := hts
    rw [if_pos rfl, List.length_append, List.length_singleton] at hfuel
    obtain ⟨fuel, rfl⟩ : ∃ n, fuel = n + 1 := ⟨fuel - 1, by omega⟩
    rw [assignment_asyncArrow hbegins]
    exact read_arrow hp hs hb hts hrest (by omega) true place
  | false =>
    obtain ⟨hbegins, hasync⟩ := arrowBegins_params hp hts
    rw [if_neg Bool.false_ne_true, List.nil_append] at hts hfuel
    have hlength : 0 < (spellParams params ++ .punct "=>" :: Body.spell bare (.expr body)).length :=
      List.length_pos_iff.mpr (by simp)
    obtain ⟨fuel, rfl⟩ : ∃ n, fuel = n + 1 := ⟨fuel - 1, by omega⟩
    rw [assignment_arrow hasync hbegins]
    exact read_arrow hp hs hb hts hrest (by omega) false .start

/-! ### Every expression -/

theorem readsPrimary_single {k : Token.Kind} (hnew : k.isWord "new" = false)
    (h : ∀ fuel place ts, ts ≠ [] → grip (kindAt ts 0) < 15 →
      primary (fuel + 1) (⟨k, place, false⟩ :: ts) = .ok (e, ts)) : ReadsPrimary [k] e := by
  rintro fuel ts rest ⟨place, mid, rfl, hmid, rfl⟩ hrest hfuel
  rw [List.length_singleton] at hfuel
  obtain ⟨fuel, rfl⟩ : ∃ n, fuel = n + 1 := ⟨fuel - 1, by omega⟩
  exact ⟨hnew, h fuel place mid hmid hrest⟩

namespace Expr

/-- An expression is read at every place from the tokens that it has there. -/
theorem reads (h : e.Spellable) : e.Reads bare := by
  induction h with
  | number x =>
    refine .of_primary (.number x) rfl rfl (readsPrimary_single rfl ?_)
    exact fun fuel place ts hts _ => primary_number x hts
  | string s =>
    refine .of_primary (.string s) rfl rfl (readsPrimary_single rfl ?_)
    exact fun fuel place ts hts _ => primary_string s hts
  | bool b =>
    refine .of_primary (.bool b) rfl rfl (readsPrimary_single (by cases b <;> rfl) ?_)
    exact fun fuel place ts hts _ => primary_bool b hts
  | null =>
    refine .of_primary .null rfl rfl (readsPrimary_single rfl ?_)
    exact fun fuel place ts hts _ => primary_null hts
  | undefined =>
    refine .of_primary .undefined rfl rfl (readsPrimary_single rfl ?_)
    exact fun fuel place ts hts _ => primary_undefined hts
  | @ident name hname =>
    have hnew : name ≠ "new" := hname.ne (by decide)
    refine .of_primary (.ident hname) rfl rfl (readsPrimary_single ?_ ?_)
    · exact Token.Kind.isWord_eq_false fun h => hnew (Token.Kind.word.inj h)
    · intro fuel place ts hts hgrip
      refine primary_ident hname hts (Token.Kind.isWord_eq_false fun h => ?_)
      rw [h] at hgrip
      exact absurd hgrip (by decide)
  | array hs ih => exact .of_primary (.array hs) rfl rfl (readsPrimary_array hs ih)
  | object hs ih => exact .of_primary (.object hs) rfl rfl (readsPrimary_object ih)
  | arrow hp hs ih => exact .of_loose rfl (readsWhole_arrow hp hs ih)
  | member name optional ho ih =>
    have hlink := ReadsLink.member ih.link name optional
    cases optional with
    | true =>
      refine .of_link (.member name true ho) rfl ?_
      rw [spell_member]
      exact hlink
    | false =>
      refine .of_callee (.member name false ho) rfl ?_ ?_
      · rw [spell_member]
        exact hlink
      · rw [spell_member]
        exact ReadsCallee.member ih.callee name
  | index optional ho hk ih ihkey =>
    have hlink := ReadsLink.index ih.link ihkey.whole optional
    cases optional with
    | true =>
      refine .of_link (.index true ho hk) rfl ?_
      rw [spell_index]
      exact hlink
    | false =>
      refine .of_callee (.index false ho hk) rfl ?_ ?_
      · rw [spell_index]
        exact hlink
      · rw [spell_index, if_neg Bool.false_ne_true, List.append_nil]
        exact ReadsCallee.index ih.callee ihkey.whole
  | call optional hf ha ih ihargs =>
    refine .of_link (.call optional hf ha) rfl ?_
    rw [spell_call]
    exact ReadsLink.call ih.link ha ihargs optional
  | construct hf ha ih ihargs =>
    refine .of_link (.construct hf ha) rfl ?_
    rw [spell_construct]
    exact ReadsCallee.construct ih.callee ha ihargs
  | unary op h ih => exact .of_operand (.unary op h) rfl (ih.operand.unary op)
  | await h ih => exact .of_operand (.await h) rfl ih.operand.await
  | update increment before h ih =>
    refine .of_operand (.update increment before h) rfl ?_
    cases before with
    | true => exact ih.operand.update increment
    | false => exact ReadsLink.update increment ih.link (.within bare (head_spell bare h) _)
  | @binary op left right hl hr ihl ihr =>
    refine .of_operators (.binary op hl hr) rfl op.tightness_pos op.tightness_lt ?_
    rw [spell_binary]
    exact readsInfix_binary op (ihl.operators (by cases op <;> decide) (by cases op <;> decide))
      (ihr.operators (by cases op <;> decide) (by cases op <;> decide)) (Reads.within_ne hr _)
  | @logical op left right hl hr ihl ihr =>
    refine .of_operators (.logical op hl hr) rfl op.tightness_pos op.tightness_lt ?_
    rw [spell_logical]
    exact readsInfix_logical op (ihl.operators (by cases op <;> decide) (by cases op <;> decide))
      (ihr.operators (by cases op <;> decide) (by cases op <;> decide)) (Reads.within_ne hr _)
  | conditional ht hy hn iht ihy ihn =>
    have hs := Spellable.conditional ht hy hn
    have harrow := noArrow_spell bare hs (by rintro f ⟨⟩) false
    refine .of_loose rfl ?_
    rw [spell_conditional] at harrow ⊢
    exact (iht.operators (Nat.le_refl _) (by decide)).choice (Reads.within_ne ht _) ihy.whole
      ihn.whole harrow
  | assign op htarget ht hv iht ihv =>
    have hs := Spellable.assign op htarget ht hv
    have harrow := noArrow_spell bare hs (by rintro f ⟨⟩) false
    refine .of_loose rfl ?_
    rw [spell_assign] at harrow ⊢
    have hoperand := ReadsLink.operand iht.link (.within bare (head_spell bare ht) _)
    exact (hoperand.operators (Reads.within_ne ht _)).assign op htarget (Reads.within_ne ht _)
      ihv.whole harrow

end Expr

/-- Tokens on one line are spelt, whatever is behind them. -/
theorem spelt_of_line {line : List Token} (h : ∀ t ∈ line, t.newlineBefore = false)
    (hrest : rest ≠ []) : Spelt (line.map (·.kind)) (line ++ rest) rest := by
  induction line with
  | nil => rfl
  | cons t line ih =>
    obtain ⟨k, place, newline⟩ := t
    have hnewline : newline = false := h _ List.mem_cons_self
    subst hnewline
    refine ⟨place, line ++ rest, rfl, ?_, ih fun t ht => h t (List.mem_cons_of_mem _ ht)⟩
    exact List.append_ne_nil_of_right_ne_nil line hrest

namespace Expr

/-- What is spelt is read back: the tokens of an expression on one line are read as that expression,
up to the last of them. -/
theorem assignment_spell (bare : String → Bool) (h : e.Spellable) {line : List Token} {eof : Token}
    (hkinds : line.map (·.kind) = e.spell bare false)
    (hline : ∀ t ∈ line, t.newlineBefore = false) (heof : eof.kind = .eof)
    (hfuel : 16 * line.length ≤ fuel) : assignment fuel (line ++ [eof]) = .ok (e, [eof]) := by
  have hspelt := spelt_of_line hline (List.cons_ne_nil eof [])
  have hcloses : closes (kindAt [eof] 0) = true := by
    rw [kindAt_cons_zero, heof]
    rfl
  have hlength : line.length = (e.spell bare false).length := by rw [← hkinds, List.length_map]
  rw [hkinds] at hspelt
  exact (reads h).whole fuel _ _ hspelt hcloses (by omega)

/-- The expression `x = (a, b) => ({ "k": a ** -b })` is read back. -/
theorem assignment_spell_arrow :
    let a := Expr.ident "a"
    let b := Expr.ident "b"
    let params := ["a", "b"].map fun name => Param.mk (.ident name) none false
    let body := Expr.object [.named "k" (.binary .pow a (.unary .neg b))]
    let line : List Token := [.word "x", .punct "=", .punct "(", .word "a", .punct ",", .word "b",
      .punct ")", .punct "=>", .punct "(", .punct "\x7b", .string "k", .punct ":", .word "a",
      .punct "**", .punct "-", .word "b", .punct "\x7d", .punct ")"].map fun k => ⟨k, .start, false⟩
    assignment 288 (line ++ [⟨.eof, .start, false⟩]) =
      .ok (.assign .assign (.ident "x") (.function (.mk none params (.expr body) true false)),
        [⟨.eof, .start, false⟩]) := by
  have hname {name : String} (h : isReserved name = false)
      (h' : name ∉ ["true", "false", "null", "undefined", "await"]) : IsName name := ⟨h, h'⟩
  have ha : IsName "a" := hname (by decide) (by decide)
  have hb : IsName "b" := hname (by decide) (by decide)
  have hx : IsName "x" := hname (by decide) (by decide)
  refine assignment_spell (fun _ => false) ?_ rfl ?_ rfl (by decide)
  · refine .assign .assign rfl (.ident hx) (.arrow ?_ (.object ?_))
    · simp only [List.map_cons, List.map_nil, List.mem_cons, List.not_mem_nil, or_false]
      rintro param (rfl | rfl)
      · exact ha
      · exact hb
    · simp only [List.mem_cons, List.not_mem_nil, or_false]
      rintro property rfl e he
      rw [List.mem_singleton.mp he]
      exact .binary .pow (.ident ha) (.unary .neg (.ident hb))
  · simp

end Expr

end BrowserLab.Script

namespace BrowserLab.Script

/-! ### Scripts of one expression -/

/-- Behind the beginning of a line there are no imports up to its end. -/
theorem stripFrom_line {cs : List Char} {fuel : Nat} (done : List Char) (hline : '\n' ∉ cs)
    (hfuel : cs.length < fuel) : stripFrom fuel false done cs = done.reverse ++ cs := by
  induction cs generalizing fuel done with
  | nil =>
    obtain _ | fuel := fuel
    · cases hfuel
    · simp [stripFrom]
  | cons c cs ih =>
    obtain _ | fuel := fuel
    · cases hfuel
    · rw [List.mem_cons, not_or] at hline
      have hc : decide (c = '\n') = false := decide_eq_false (Ne.symm hline.1)
      rw [stripFrom, if_neg Bool.false_ne_true, hc]
      rw [ih (c :: done) hline.2 (Nat.lt_of_succ_lt_succ hfuel), List.reverse_cons,
        List.append_assoc]
      rfl

/-- A text on one line that does not begin with the word `import` has no imports. -/
theorem stripImports_line {source : String} (hline : '\n' ∉ source.toList)
    (himport : import? source.toList = none) : stripImports source = source := by
  have hcs : stripFrom (source.toList.length + 1) true [] source.toList = source.toList := by
    generalize source.toList = cs at hline himport
    cases cs with
    | nil => rfl
    | cons c cs =>
      rw [List.mem_cons, not_or] at hline
      have hc : decide (c = '\n') = false := decide_eq_false (Ne.symm hline.1)
      rw [stripFrom, if_pos rfl, himport, hc]
      exact stripFrom_line [c] hline.2 (Nat.lt_succ_self _)
  rw [stripImports, hcs, String.ofList_toList]

namespace Parse

variable {e : Expr} {fuel : Nat} {w : String}

theorem wordStatement_name (hw : IsName w) :
    wordStatement (fuel + 1) w = expressionStatement fuel := by
  unfold wordStatement
  split <;> first | rfl | exact absurd hw.free (by decide)

theorem run_semicolon_eof {eof : Token} (heof : eof.kind = .eof) :
    semicolon [eof] = .ok ((), [eof]) := by
  rw [semicolon, run_bind (run_peek_cons eof [])]
  have hends : endsStatement eof = true := by
    rw [endsStatement, heof]
    rfl
  rw [heof, hends]
  rfl

theorem statement_expression {ts : List Token} {eof : Token} (hw : IsName w) (hasync : w ≠ "async")
    (hts : kindAt ts 0 = .word w) (heof : eof.kind = .eof)
    (he : assignment fuel ts = .ok (e, [eof])) :
    statement (fuel + 3) ts = .ok (.expr e, [eof]) := by
  have hfunction : asyncFunctionBegins ts = false := by
    rw [asyncFunctionBegins, hts, Token.Kind.isWord_eq_false (by simpa using hasync),
      Bool.false_and]
  have hexpression : expressionStatement (fuel + 1) ts = .ok (.expr e, [eof]) := by
    rw [expressionStatement, run_bind he, run_bind (run_semicolon_eof heof)]
    rfl
  rw [statement, run_bind (run_get ts)]
  simp only [hts, hfunction]
  rw [← hexpression, ← wordStatement_name hw]
  rfl

theorem program_expression {ts : List Token} {eof : Token} {rounds : Nat}
    (hts : (kindAt ts 0).isEof = false) (heof : eof.kind = .eof)
    (hs : statement fuel ts = .ok (.expr e, [eof])) :
    program fuel (rounds + 2) [] ts = .ok ([.expr e], [eof]) := by
  rw [program, run_bind (run_kind ts), hts]
  rw [if_neg Bool.false_ne_true, run_bind hs, program, run_bind (run_kind _), kindAt_cons_zero,
    heof]
  rfl

end Parse

open Parse

/-- A text on one line that is cut into the tokens of an expression is that expression. -/
theorem compile_expression (bare : String → Bool) {e : Expr} {source w : String}
    {ks : List Token.Kind} (he : e.Spellable) (hks : e.spell bare false = .word w :: ks)
    (hw : IsName w) (hasync : w ≠ "async") (hcuts : Cuts source.toList (e.spell bare false) [])
    (hline : '\n' ∉ source.toList) (himport : import? source.toList = none) :
    compile source = .ok ⟨[.expr e]⟩ := by
  obtain ⟨line, eof, htokens, hkinds, hsameline, heof⟩ := hcuts.tokenize
  have hlength : line.length ≤ source.length := by
    rw [← List.length_map (·.kind), hkinds, ← String.length_toList]
    exact hcuts.short
  have hfirst : kindAt (line ++ [eof]) 0 = .word w := by
    cases line with
    | nil =>
      rw [hks] at hkinds
      cases hkinds
    | cons t line =>
      rw [hks] at hkinds
      exact (List.cons.inj hkinds).1
  have hread : assignment (16 * source.length + 61) (line ++ [eof]) = .ok (e, [eof]) :=
    Expr.assignment_spell bare he hkinds hsameline heof (by omega)
  have hstatement := statement_expression hw hasync hfirst heof hread
  have hprogram : program (16 * source.length + 64) (16 * source.length + 62 + 2) []
      (line ++ [eof]) = .ok ([.expr e], [eof]) :=
    program_expression (by rw [hfirst]; rfl) heof hstatement
  have hfuel : depthBound source.length = 16 * source.length + 64 := by
    rw [depthBound, Nat.mul_add]
  simp only [compile, stripImports_line hline himport, parse, htokens, hfuel]
  rw [hprogram]
  rfl

end BrowserLab.Script
