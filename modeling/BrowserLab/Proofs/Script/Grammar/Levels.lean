import BrowserLab.Proofs.Script.Grammar.Lookahead

/-!
# Reading at the levels of the grammar

What it is for the tokens of an expression to be read by the rule of a level, and how reading at one
level follows from reading at the one below.  The rules for links and for infix operators go on with
what they have read, so that what is known of them is where they go on.

Each rule hands one unit of fuel less to the next, a loop one less in each round: of sixteen units
for each token there are always enough left.
-/

namespace BrowserLab.Script

open Parse

/-- The tightest operator that may stand behind an expression of the given tightness without taking
hold of its right end. -/
def room (tightness : Nat) : Nat := if tightness < operandRank then min tightness 10 else 11

section Reads

variable (ks : List Token.Kind) (e : Expr)

/-- The tokens are read as an expression if a token that ends it is behind. -/
def ReadsWhole : Prop :=
  ∀ fuel ts rest, Spelt ks ts rest → closes (kindAt rest 0) = true → 16 * ks.length ≤ fuel →
    assignment fuel ts = .ok (e, rest)

/-- The tokens are read on the way to the infix operators behind them. -/
def ReadsInfix (tightness : Nat) : Prop :=
  ∀ fuel level ts rest, Spelt ks ts rest → level ≤ tightness →
    grip (kindAt rest 0) ≤ room tightness → 16 * ks.length ≤ fuel + 2 →
    ∃ fuel', fuel ≤ fuel' + ks.length ∧ binary fuel level ts = binaryRest fuel' level e rest

/-- The tokens are read as an operand. -/
def ReadsOperand : Prop :=
  ∀ fuel ts rest, Spelt ks ts rest → grip (kindAt rest 0) < 12 → 16 * ks.length ≤ fuel + 3 →
    unary fuel ts = .ok (e, rest)

/-- The tokens are read on the way to the links behind them, which a loop reads. -/
def ReadsInto (start : Nat → Parse Expr) (loop : Nat → Expr → Parse Expr) : Prop :=
  ∀ fuel ts rest, Spelt ks ts rest → grip (kindAt rest 0) < 15 → 16 * ks.length ≤ fuel + 4 →
    ∃ fuel', fuel ≤ fuel' + ks.length ∧ start fuel ts = loop fuel' e rest

/-- The tokens are read on the way to the links of a chain. -/
abbrev ReadsLink : Prop := ReadsInto ks e callMember chain

/-- The tokens are read as what is constructed, on the way to the members behind them. -/
abbrev ReadsCallee : Prop :=
  ReadsInto ks e (fun fuel => primary fuel >>= Parse.constructor fuel) Parse.constructor

/-- The tokens are read as an expression that no operator takes apart. -/
def ReadsPrimary : Prop :=
  ∀ fuel ts rest, Spelt ks ts rest → grip (kindAt rest 0) < 15 → 16 * ks.length ≤ fuel + 5 →
    (kindAt ts 0).isWord "new" = false ∧ primary fuel ts = .ok (e, rest)

end Reads

variable {ks : List Token.Kind} {e : Expr} {ts rest : List Token}

/-! ### From level to level -/

theorem Headed.length_pos {rank : Nat} (h : Headed rank ks) : 0 < ks.length := by
  obtain ⟨k, hk, -⟩ := h
  cases ks with
  | nil => cases hk
  | cons k ks => exact Nat.succ_pos _

theorem Headed.ne {rank : Nat} (h : Headed rank ks) : ks ≠ [] :=
  List.ne_nil_of_length_pos h.length_pos

/-- The first token of a stream that begins with these. -/
theorem Headed.kindAt {rank : Nat} (h : Headed rank ks) (hts : Spelt ks ts rest) :
    opens (kindAt ts 0) = true ∧ (linkRank ≤ rank → BeginsOperand (kindAt ts 0)) := by
  obtain ⟨k, hk, hopens, hoperand⟩ := h
  cases ks with
  | nil => cases hk
  | cons k' ks =>
    cases hk
    rw [hts.kindAt_zero]
    exact ⟨hopens, hoperand⟩

theorem grip_of_closes {k : Token.Kind} (h : closes k = true) : grip k = 0 := by
  cases k with
  | punct p =>
    simp only [closes, List.contains_eq_mem, decide_eq_true_eq, List.mem_cons, List.not_mem_nil,
      or_false] at h
    obtain rfl | rfl | rfl | rfl | rfl | rfl := h <;> decide
  | eof => rfl
  | _ => cases h

theorem assignOp?_of_closes {k : Token.Kind} (h : closes k = true) : assignOp? k = none := by
  cases k with
  | punct p =>
    simp only [closes, List.contains_eq_mem, decide_eq_true_eq, List.mem_cons, List.not_mem_nil,
      or_false] at h
    obtain rfl | rfl | rfl | rfl | rfl | rfl := h <;> rfl
  | eof => rfl
  | _ => cases h

theorem ReadsPrimary.callee (h : ReadsPrimary ks e) : ReadsCallee ks e := by
  intro fuel ts rest hts hrest hfuel
  obtain ⟨-, hprimary⟩ := h fuel ts rest hts hrest (by omega)
  exact ⟨fuel, by omega, run_bind hprimary⟩

theorem ReadsPrimary.link (h : ReadsPrimary ks e) (hks : ks ≠ []) : ReadsLink ks e := by
  intro fuel ts rest hts hrest hfuel
  have hlength := List.length_pos_iff.mpr hks
  obtain ⟨fuel, rfl⟩ : ∃ f, fuel = f + 1 := ⟨fuel - 1, by omega⟩
  obtain ⟨hnew, hprimary⟩ := h fuel ts rest hts hrest (by omega)
  exact ⟨fuel, by omega, callMember_primary hnew hprimary⟩

theorem ReadsLink.operand (h : ReadsLink ks e) (hhead : Headed linkRank ks) :
    ReadsOperand ks e := by
  intro fuel ts rest hts hrest hfuel
  have hlength := hhead.length_pos
  obtain ⟨fuel, rfl⟩ : ∃ f, fuel = f + 1 := ⟨fuel - 1, by omega⟩
  obtain ⟨fuel', hfuel', hlink⟩ := h fuel ts rest hts (by omega) (by omega)
  obtain ⟨fuel', rfl⟩ : ∃ f, fuel' = f + 1 := ⟨fuel' - 1, by omega⟩
  have hstop : chain (fuel' + 1) e rest = .ok (e, rest) := chain_stop (by omega)
  exact unary_operand ((hhead.kindAt hts).2 (Nat.le_refl _)) (hlink.trans hstop) hrest

theorem ReadsOperand.operators (h : ReadsOperand ks e) (hks : ks ≠ []) :
    ReadsInfix ks e operandRank := by
  intro fuel level ts rest hts _ hrest hfuel
  have hlength := List.length_pos_iff.mpr hks
  have hroom : room operandRank = 11 := rfl
  obtain ⟨fuel, rfl⟩ : ∃ f, fuel = f + 1 := ⟨fuel - 1, by omega⟩
  exact ⟨fuel, by omega, binary_eq (h fuel ts rest hts (by omega) (by omega))⟩

theorem room_mono {tightness tightness' : Nat} (h : tightness' ≤ tightness) :
    room tightness' ≤ room tightness := by
  unfold room
  split <;> split <;> omega

theorem ReadsInfix.mono {tightness tightness' : Nat} (h : ReadsInfix ks e tightness)
    (ht : tightness' ≤ tightness) : ReadsInfix ks e tightness' := by
  intro fuel level ts rest hts hlevel hrest hfuel
  exact h fuel level ts rest hts (Nat.le_trans hlevel ht) (Nat.le_trans hrest (room_mono ht)) hfuel

/-- Where no infix operator goes on, what has been read is the result. -/
theorem ReadsInfix.read {tightness level : Nat} (h : ReadsInfix ks e tightness)
    (hts : Spelt ks ts rest) (hks : ks ≠ []) (hlevel : level ≤ tightness)
    (hrest : grip (kindAt rest 0) ≤ room tightness) (hstop : grip (kindAt rest 0) < level)
    {fuel : Nat} (hfuel : 16 * ks.length ≤ fuel + 2) :
    binary fuel level ts = .ok (e, rest) := by
  have hlength := List.length_pos_iff.mpr hks
  obtain ⟨fuel', hfuel', hoperators⟩ := h fuel level ts rest hts hlevel hrest hfuel
  obtain ⟨fuel', rfl⟩ : ∃ f, fuel' = f + 1 := ⟨fuel' - 1, by omega⟩
  rw [hoperators]
  exact binaryRest_stop hstop

/-- What is read in front of infix operators is read as the test of a choice, or as all there is. -/
theorem ReadsInfix.test {tightness : Nat} (h : ReadsInfix ks e tightness)
    (ht : 1 ≤ tightness) (hts : Spelt ks ts rest) (hks : ks ≠ []) (hrest : grip (kindAt rest 0) = 0)
    {fuel : Nat} (hfuel : 16 * ks.length ≤ fuel + 2) : binary fuel 1 ts = .ok (e, rest) :=
  h.read hts hks ht (by omega) (by omega) hfuel

theorem ReadsInfix.whole {tightness : Nat} (h : ReadsInfix ks e tightness) (ht : 1 ≤ tightness)
    (hks : ks ≠ []) (harrow : Arrowless ks) : ReadsWhole ks e := by
  intro fuel ts rest hts hrest hfuel
  have hlength := List.length_pos_iff.mpr hks
  obtain ⟨fuel, rfl⟩ : ∃ f, fuel = f + 2 := ⟨fuel - 2, by omega⟩
  have hbinary : binary fuel 1 ts = .ok (e, rest) :=
    h.test ht hts hks (grip_of_closes hrest) (by omega)
  exact assignment_plain (harrow ts rest hts (calm_of_closes hrest))
    (conditional_plain hbinary (Token.Kind.isPunct_of_test hrest rfl)) (assignOp?_of_closes hrest)

/-- In parentheses a whole expression is read wherever an operand is. -/
theorem ReadsWhole.primary_fenced (h : ReadsWhole ks e) : ReadsPrimary (fenced ks) e := by
  rintro fuel ts rest ⟨place, mid, rfl, hmid, hts⟩ - hfuel
  obtain ⟨mid', hinner, place', rest', rfl, hrest', rfl⟩ := spelt_append.mp hts
  have hlength : (fenced ks).length = ks.length + 2 := by simp [fenced]
  obtain ⟨fuel, rfl⟩ : ∃ f, fuel = f + 1 := ⟨fuel - 1, by omega⟩
  exact ⟨rfl, primary_parenthesis (h fuel mid _ hinner rfl (by omega)) hmid hrest'⟩

theorem fenced_ne (ks : List Token.Kind) : fenced ks ≠ [] := List.cons_ne_nil _ _

theorem ReadsWhole.link_fenced (h : ReadsWhole ks e) : ReadsLink (fenced ks) e :=
  h.primary_fenced.link (fenced_ne ks)

theorem ReadsWhole.operand_fenced (h : ReadsWhole ks e) : ReadsOperand (fenced ks) e :=
  h.link_fenced.operand (.fenced _ _)

theorem ReadsWhole.operators_fenced (h : ReadsWhole ks e) :
    ReadsInfix (fenced ks) e operandRank :=
  h.operand_fenced.operators (fenced_ne ks)

theorem ReadsWhole.whole_fenced (h : ReadsWhole ks e) (hb : Balanced ks) :
    ReadsWhole (fenced ks) e :=
  h.operators_fenced.whole (by decide) (fenced_ne ks) (.fenced hb)

/-! ### At every place -/

/-- The expression is read at every place from the tokens that it has there. -/
structure Expr.Reads (bare : String → Bool) (e : Expr) : Prop where
  whole : ReadsWhole (e.spell bare false) e
  operators {level : Nat} (h : 1 ≤ level) (h' : level ≤ operandRank) :
    ReadsInfix (e.within bare level) e level
  operand : ReadsOperand (e.within bare operandRank) e
  link : ReadsLink (e.within bare linkRank) e
  callee : ReadsCallee (e.within bare calleeRank) e

namespace Expr.Reads

variable {bare : String → Bool}

theorem spell_ne (h : e.Spellable) (callee : Bool) : e.spell bare callee ≠ [] :=
  (head_spell bare h callee).ne

theorem within_ne (h : e.Spellable) (level : Nat) : e.within bare level ≠ [] :=
  (Headed.within bare (head_spell bare h) level).ne

/-- An expression that is read as a whole is read at every place, if it is at those places where it
needs no parentheses. -/
theorem of_whole (h : ReadsWhole (e.spell bare false) e)
    (hoperators : ∀ level ≤ e.rank, 1 ≤ level → level ≤ operandRank →
      ReadsInfix (e.spell bare false) e level)
    (hoperand : operandRank ≤ e.rank → ReadsOperand (e.spell bare false) e)
    (hlink : linkRank ≤ e.rank → ReadsLink (e.spell bare false) e)
    (hcallee : calleeRank ≤ e.rank → ReadsCallee (e.spell bare true) e) : e.Reads bare where
  whole := h
  operators {level} hone hoperand := by
    by_cases hlt : e.rank < level
    · rw [within_of_lt bare hlt]
      exact h.operators_fenced.mono hoperand
    · have hle := Nat.le_of_not_lt hlt
      rw [within_eq bare (Nat.lt_of_le_of_lt hoperand (by decide)), if_neg hlt]
      exact hoperators level hle hone hoperand
  operand := by
    by_cases hlt : e.rank < operandRank
    · rw [within_of_lt bare hlt]
      exact h.operand_fenced
    · rw [within_eq bare (by decide), if_neg hlt]
      exact hoperand (Nat.le_of_not_lt hlt)
  link := by
    by_cases hlt : e.rank < linkRank
    · rw [within_of_lt bare hlt]
      exact h.link_fenced
    · rw [within_eq bare (by decide), if_neg hlt]
      exact hlink (Nat.le_of_not_lt hlt)
  callee := by
    by_cases hlt : e.rank < calleeRank
    · rw [within_of_lt bare hlt]
      exact h.primary_fenced.callee
    · have hle := Nat.le_of_not_lt hlt
      rw [within_of_le bare hle]
      exact hcallee hle

/-- An expression that needs parentheses wherever some rank is demanded. -/
theorem of_loose (hrank : e.rank = 0) (h : ReadsWhole (e.spell bare false) e) :
    e.Reads bare :=
  of_whole h (fun _ _ _ _ => by omega) (fun h => by simp [hrank] at h)
    (fun h => by simp [hrank] at h) fun h => by simp [hrank] at h

/-- An expression of infix operators. -/
theorem of_operators {tightness : Nat} (hs : e.Spellable) (hrank : e.rank = tightness)
    (hone : 1 ≤ tightness) (hlt : tightness < operandRank)
    (h : ReadsInfix (e.spell bare false) e tightness) : e.Reads bare := by
  subst hrank
  have harrow : Arrowless (e.spell bare false) := by
    refine noArrow_spell bare hs ?_ false
    rintro f rfl
    exact absurd hone (by simp [rank])
  refine of_whole (h.whole hone (spell_ne hs false) harrow) ?_
    (fun h => absurd h (Nat.not_le.mpr hlt))
    (fun h => absurd (Nat.le_of_succ_le h) (Nat.not_le.mpr hlt))
    fun h => absurd (Nat.le_of_succ_le (Nat.le_of_succ_le h)) (Nat.not_le.mpr hlt)
  intro level hlevel _ _
  exact h.mono hlevel

/-- An expression that no infix operator takes apart. -/
theorem of_tight (hs : e.Spellable) (hrank : operandRank ≤ e.rank)
    (h : ReadsOperand (e.spell bare false) e)
    (hlink : linkRank ≤ e.rank → ReadsLink (e.spell bare false) e)
    (hcallee : calleeRank ≤ e.rank → ReadsCallee (e.spell bare true) e) : e.Reads bare := by
  have harrow : Arrowless (e.spell bare false) := by
    refine noArrow_spell bare hs ?_ false
    rintro f rfl
    exact absurd hrank (by simp [rank])
  have hoperators := h.operators (spell_ne hs false)
  refine of_whole (hoperators.whole (by decide) (spell_ne hs false) harrow) ?_ (fun _ => h) hlink
    hcallee
  intro level _ _ hlevel
  exact hoperators.mono hlevel

theorem of_operand (hs : e.Spellable) (hrank : e.rank = operandRank)
    (h : ReadsOperand (e.spell bare false) e) : e.Reads bare :=
  of_tight hs (Nat.le_of_eq hrank.symm) h (fun h => absurd (hrank ▸ h) (by decide))
    fun h => absurd (hrank ▸ h) (by decide)

/-- An expression that only members and calls take apart. -/
theorem of_chain (hs : e.Spellable) (hrank : linkRank ≤ e.rank)
    (h : ReadsLink (e.spell bare false) e)
    (hcallee : calleeRank ≤ e.rank → ReadsCallee (e.spell bare true) e) : e.Reads bare :=
  of_tight hs (Nat.le_of_succ_le hrank)
    (ReadsLink.operand h ((head_spell bare hs false).of_rank fun _ => hrank)) (fun _ => h) hcallee

theorem of_link (hs : e.Spellable) (hrank : e.rank = linkRank)
    (h : ReadsLink (e.spell bare false) e) : e.Reads bare :=
  of_chain hs (Nat.le_of_eq hrank.symm) h fun h => absurd (hrank ▸ h) (by decide)

theorem of_callee (hs : e.Spellable) (hrank : e.rank = calleeRank)
    (h : ReadsLink (e.spell bare false) e) (hcallee : ReadsCallee (e.spell bare true) e) :
    e.Reads bare :=
  of_chain hs (Nat.le_of_succ_le (Nat.le_of_eq hrank.symm)) h fun _ => hcallee

/-- An expression that nothing takes apart is spelt in one way. -/
theorem of_primary (hs : e.Spellable) (hrank : e.rank = 15)
    (hcallee : e.spell bare true = e.spell bare false) (h : ReadsPrimary (e.spell bare false) e) :
    e.Reads bare :=
  of_chain hs (hrank ▸ by decide) (h.link (spell_ne hs false)) fun _ => by
    rw [hcallee]
    exact h.callee

end Expr.Reads

/-! ### Lists -/

/-- The loop reads items with commas between them up to a closing mark. -/
structure ReadsItems {α : Type} (close : String) (item : Parse α)
    (loop : Nat → List α → Parse (List α)) : Prop where
  stop {n : Nat} {done : List α} {place : Place} {rest : List Token} (hrest : rest ≠ []) :
    loop (n + 1) done (⟨.punct close, place, false⟩ :: rest) = .ok (done.reverse, rest)
  last {n : Nat} {done : List α} {a : α} {place : Place} {ts rest : List Token}
    (hts : closes (kindAt ts 0) = false)
    (h : item ts = .ok (a, ⟨.punct close, place, false⟩ :: rest)) (hrest : rest ≠ []) :
    loop (n + 1) done ts = .ok ((a :: done).reverse, rest)
  more {n : Nat} {done : List α} {a : α} {place : Place} {ts mid : List Token}
    (hts : closes (kindAt ts 0) = false)
    (h : item ts = .ok (a, ⟨.punct ",", place, false⟩ :: mid)) (hmid : mid ≠ []) :
    loop (n + 1) done ts = loop n (a :: done) mid

variable {α : Type}

theorem readsItems_items {close : String} (item : Parse α) (hclose : closes (.punct close) = true)
    (hcomma : close ≠ ",") : ReadsItems close item (items close item) where
  stop hrest := by
    rw [items, run_bind (run_eatPunct hrest)]
    rfl
  last hts h hrest := by
    rw [items, run_bind (run_eatPunct_not (Token.Kind.isPunct_of_test hts hclose))]
    simp only [Bool.false_eq_true, if_false]
    rw [run_bind h,
      run_bind (run_eatPunct_not (Token.Kind.isPunct_eq_false (by simpa using hcomma)))]
    simp only [Bool.false_eq_true, if_false]
    rw [run_bind (run_expectPunct hrest), run_pure]
  more hts h hmid := by
    rw [items, run_bind (run_eatPunct_not (Token.Kind.isPunct_of_test hts hclose))]
    simp only [Bool.false_eq_true, if_false]
    rw [run_bind h, run_bind (run_eatPunct hmid)]
    rfl

theorem readsItems_itemsWithHoles {close : String} (hole : α) (item : Parse α)
    (hclose : closes (.punct close) = true) (hcomma : close ≠ ",") :
    ReadsItems close item (itemsWithHoles close hole item) where
  stop hrest := by
    rw [itemsWithHoles, run_bind (run_eatPunct hrest)]
    rfl
  last hts h hrest := by
    rw [itemsWithHoles, run_bind (run_eatPunct_not (Token.Kind.isPunct_of_test hts hclose))]
    simp only [Bool.false_eq_true, if_false]
    rw [run_bind (run_eatPunct_not (Token.Kind.isPunct_of_test hts rfl))]
    simp only [Bool.false_eq_true, if_false]
    rw [run_bind h,
      run_bind (run_eatPunct_not (Token.Kind.isPunct_eq_false (by simpa using hcomma)))]
    simp only [Bool.false_eq_true, if_false]
    rw [run_bind (run_expectPunct hrest), run_pure]
  more hts h hmid := by
    rw [itemsWithHoles, run_bind (run_eatPunct_not (Token.Kind.isPunct_of_test hts hclose))]
    simp only [Bool.false_eq_true, if_false]
    rw [run_bind (run_eatPunct_not (Token.Kind.isPunct_of_test hts rfl))]
    simp only [Bool.false_eq_true, if_false]
    rw [run_bind h, run_bind (run_eatPunct hmid)]
    rfl

/-- A list is read back if each item is that may stand in it. -/
theorem ReadsItems.read {close : String} {item : Parse α} {loop : Nat → List α → Parse (List α)}
    {spell : α → List Token.Kind} (hloop : ReadsItems close item loop)
    (hclose : closes (.punct close) = true) {as done : List α}
    (h : ∀ a ∈ as, ∀ ts rest, Spelt (spell a) ts rest → closes (kindAt rest 0) = true →
      closes (kindAt ts 0) = false ∧ item ts = .ok (a, rest)) {rounds : Nat}
    (hrounds : as.length < rounds)
    (hts : Spelt (separated (as.map spell) ++ [.punct close]) ts rest) :
    loop rounds done ts = .ok (done.reverse ++ as, rest) := by
  induction as generalizing rounds done ts with
  | nil =>
    obtain ⟨n, rfl⟩ : ∃ n, rounds = n + 1 := ⟨rounds - 1, by simp at hrounds; omega⟩
    obtain ⟨place, mid, rfl, hmid, rfl⟩ := hts
    rw [hloop.stop hmid, List.append_nil]
  | cons a as ih =>
    obtain ⟨n, rfl⟩ : ∃ n, rounds = n + 1 := ⟨rounds - 1, by omega⟩
    have hn : as.length < n := Nat.lt_of_succ_lt_succ hrounds
    have ha := h a List.mem_cons_self
    cases as with
    | nil =>
      obtain ⟨mid, hfirst, place, rest', rfl, hrest, rfl⟩ := spelt_append.mp hts
      obtain ⟨hhead, hitem⟩ := ha ts _ hfirst hclose
      rw [hloop.last hhead hitem hrest, List.reverse_cons]
    | cons a' as =>
      have hts' : Spelt
          (spell a ++ .punct "," :: (separated ((a' :: as).map spell) ++ [.punct close]))
          ts rest := by
        simpa [separated] using hts
      obtain ⟨mid, hfirst, place, mid', rfl, hmid', hrest⟩ := spelt_append.mp hts'
      obtain ⟨hhead, hitem⟩ := ha ts _ hfirst rfl
      rw [hloop.more hhead hitem hmid',
        ih (fun a ha => h a (List.mem_cons_of_mem _ ha)) hn hrest, List.reverse_cons,
        List.append_assoc]
      rfl

/-- There are no more items than tokens and one. -/
theorem length_le_separated (kss : List (List Token.Kind)) :
    kss.length ≤ (separated kss).length + 1 := by
  induction kss with
  | nil => exact Nat.zero_le _
  | cons ks rest ih =>
    cases rest with
    | nil => simp
    | cons ks' rest =>
      simp only [separated, List.length_cons, List.length_append] at ih ⊢
      omega

/-- Next to the tokens of one item there is room for the commas. -/
theorem length_add_le_separated {kss : List (List Token.Kind)} (h : ks ∈ kss) :
    ks.length + kss.length ≤ (separated kss).length + 1 := by
  induction kss with
  | nil => cases h
  | cons ks' rest ih =>
    cases rest with
    | nil =>
      rw [List.mem_singleton.mp h]
      exact Nat.le_refl _
    | cons ks'' rest =>
      have hcount := length_le_separated (ks'' :: rest)
      simp only [separated, List.length_cons, List.length_append] at hcount ih ⊢
      obtain rfl | h := List.mem_cons.mp h
      · omega
      · have := ih h
        omega

/-- No item has more tokens than the list. -/
theorem length_le_of_mem_separated {kss : List (List Token.Kind)} (h : ks ∈ kss) :
    ks.length ≤ (separated kss).length := by
  have hsum := length_add_le_separated h
  have hcount := List.length_pos_of_mem h
  omega

end BrowserLab.Script
