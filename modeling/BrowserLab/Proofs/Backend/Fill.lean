import BrowserLab.Proofs.Backend
import BrowserLab.Proofs.Draws

/-!
# What is random in an answer

Two answers to one request are compared, for which the backend has drawn from two sources.

* `exists_respond`: most requests are answered without a draw.
* `echo_of_hasId`: a posted identifier is echoed, whatever was drawn.
* `draws_only_fill_in`: random numbers fill in a token or an identifier, and decide nothing else.
-/

namespace BrowserLab

/-- The same object but for the values of one member. -/
def Json.AlikeBut (key : String) (a b : Json) : Prop :=
  ∃ members members', a = .obj members ∧ b = .obj members' ∧ Dict.AlikeBut key members members'

namespace Backend

variable {method url : String} {body : Option Json} {headers : Dict Json}
  {interceptions : List Interception}

/-! ### Which answers are filled in -/

/-- The request is for a token, and no interception covers it. -/
def Issues (method url : String) (interceptions : List Interception) : Prop :=
  covering? method url interceptions = none ∧ Text.contains url "/api/auth/token" = true

/-- The request is for what is posted, and no interception covers it. -/
def Echoes (method url : String) (interceptions : List Interception) : Prop :=
  covering? method url interceptions = none ∧ Text.contains url "/api/auth/token" = false ∧
    Text.contains url "/api/secure-data" = false ∧ Text.eqIgnoreCase method "POST" = true

/-- What holds a token. -/
def issued (text : String) : Json :=
  .obj [("access_token", .str text), ("expires_in", .int 3600),
    ("refresh_token", .str "mock_refresh_token"), ("token_type", .str "Bearer")]

theorem respond_of_issues (h : Issues method url interceptions) (body : Option Json)
    (headers : Dict Json) (draws : Draws) :
    respond method url body headers interceptions draws =
      (⟨200, issued (token draws).1⟩, (token draws).2) := by
  rw [respond, h.1]
  dsimp only
  rw [serve, if_pos h.2]
  rfl

theorem respond_of_echoes (h : Echoes method url interceptions) (body : Option Json)
    (headers : Dict Json) (draws : Draws) :
    respond method url body headers interceptions draws =
      (⟨201, echo body (draws.below 1000).1⟩, (draws.below 1000).2) := by
  obtain ⟨hnone, htoken, hsecret, hpost⟩ := h
  rw [respond, hnone]
  dsimp only
  rw [serve, if_neg (ne_true_of_eq_false htoken), if_neg (ne_true_of_eq_false hsecret), if_pos hpost]

/-- All other answers are the same whatever is drawn, and draw nothing. -/
theorem exists_respond (hissues : ¬ Issues method url interceptions)
    (hechoes : ¬ Echoes method url interceptions) (body : Option Json) (headers : Dict Json) :
    ∃ answer, ∀ draws,
      respond method url body headers interceptions draws = (answer, draws) := by
  unfold respond
  cases hcovering : covering? method url interceptions with
  | some i => exact ⟨i.answer, fun _ => rfl⟩
  | none =>
    have htoken : ¬ Text.contains url "/api/auth/token" = true := fun h => hissues ⟨hcovering, h⟩
    simp only [serve, if_neg htoken]
    by_cases hsecret : Text.contains url "/api/secure-data" = true
    · simp only [if_pos hsecret]
      split <;> exact ⟨_, fun _ => rfl⟩
    · have hpost : ¬ Text.eqIgnoreCase method "POST" = true := fun h =>
        hechoes ⟨hcovering, eq_false_of_ne_true htoken, eq_false_of_ne_true hsecret, h⟩
      simp only [if_neg hsecret, if_neg hpost]
      exact ⟨_, fun _ => rfl⟩

theorem not_issues_of_covering {i : Interception}
    (h : covering? method url interceptions = some i) : ¬ Issues method url interceptions :=
  fun hissues => Option.some_ne_none i (h.symm.trans hissues.1)

theorem not_echoes_of_covering {i : Interception}
    (h : covering? method url interceptions = some i) : ¬ Echoes method url interceptions :=
  fun hechoes => Option.some_ne_none i (h.symm.trans hechoes.1)

/-! ### What they are filled with -/

/-- It starts as all tokens do and goes on with six characters, each of them a digit or a small
letter. -/
def IsToken (text : String) : Prop :=
  ∃ fill : List Char, text = "mock_jwt_access_token_" ++ String.ofList fill ∧ fill.length = 6 ∧
    ∀ c ∈ fill, c.isDigit = true ∨ c.isLower = true

theorem isToken_token (draws : Draws) : IsToken (token draws).1 := by
  refine ⟨(draws.manyBelow 36 6).1.map fun n => tokenAlphabet.getD n '0', rfl, ?_, ?_⟩
  · rw [List.length_map, Draws.length_manyBelow]
  have halphabet : ∀ n < 36, (tokenAlphabet.getD n '0').isDigit = true ∨
      (tokenAlphabet.getD n '0').isLower = true := by decide
  intro c hc
  obtain ⟨n, hn, rfl⟩ := List.mem_map.mp hc
  exact halphabet n (Draws.lt_of_mem_manyBelow (by decide) draws 6 n hn)

/-- The body stands for an object that has the identifier. -/
def HasId (body : Option Json) (id : Json) : Prop :=
  ∃ members, body.map Json.decoded = some (.obj members) ∧ ("id", id) ∈ members

theorem alikeBut_id (n k : Nat) :
    Dict.AlikeBut "id" [("id", Json.ofNat n)] [("id", Json.ofNat k)] :=
  .cons ⟨rfl, .inl rfl⟩ .nil

theorem echo_alike (body : Option Json) (n k : Nat) :
    (echo body n).AlikeBut "id" (echo body k) := by
  unfold echo
  split
  · exact ⟨_, _, rfl, rfl, (alikeBut_id n k).insertAll _⟩
  · exact ⟨_, _, rfl, rfl, alikeBut_id n k⟩

/-- An identifier of its own leaves no room for another one. -/
theorem echo_of_hasId {id : Json} (h : HasId body id) :
    ∃ own answer, HasId body own ∧ answer.get? "id" = some own ∧ ∀ n, echo body n = answer := by
  obtain ⟨members, hbody, hid⟩ := h
  have hmem : ∃ entry ∈ members, entry.1 = "id" := ⟨_, hid, rfl⟩
  obtain ⟨own, hown, hget⟩ := Dict.exists_get?_insertAll hmem [("id", Json.ofNat 0)]
  refine ⟨own, echo body 0, ⟨members, hbody, hown⟩, ?_, fun n => ?_⟩
  · simp only [echo, hbody]
    exact hget
  · simp only [echo, hbody]
    rw [(alikeBut_id n 0).insertAll_self (List.pairwise_singleton _ _) hmem]

theorem get?_echo_of_not_hasId (h : ∀ id, ¬ HasId body id) (n : Nat) :
    (echo body n).get? "id" = some (.ofNat n) := by
  unfold echo
  split
  · next members hbody =>
    refine Dict.get?_insertAll_of_not_mem (fun entry hentry hkey => ?_) _
    exact h entry.2 ⟨members, hbody, hkey ▸ hentry⟩
  · rfl

/-! ### The theorem -/

/-- **Random numbers decide nothing about an answer.**  Whatever is drawn, the status is the same.
The bodies are the same and nothing is drawn, except in two cases, in which no interception covers
the request.  What holds a token is the same but for the token.  What echoes a posted body is the
same but for its identifier, which is below 1000, unless the body has an identifier of its own: then
it is this one, and the bodies are the same. -/
theorem draws_only_fill_in (method url : String) (body : Option Json) (headers : Dict Json)
    (interceptions : List Interception) (draws draws' : Draws) :
    let first := respond method url body headers interceptions draws
    let second := respond method url body headers interceptions draws'
    first.1.status = second.1.status ∧
      (Issues method url interceptions →
        first.1.body.AlikeBut "access_token" second.1.body ∧
          ∀ answer ∈ [first.1, second.1],
            ∃ text, answer.body.get? "access_token" = some (.str text) ∧ IsToken text) ∧
      (Echoes method url interceptions →
        first.1.body.AlikeBut "id" second.1.body ∧
          ((∀ id, ¬ HasId body id) → ∀ answer ∈ [first.1, second.1],
            ∃ n < 1000, answer.body.get? "id" = some (.ofNat n)) ∧
          ((∃ id, HasId body id) → first.1.body = second.1.body ∧
            ∃ id, HasId body id ∧ first.1.body.get? "id" = some id)) ∧
      (¬ Issues method url interceptions → ¬ Echoes method url interceptions →
        first.1.body = second.1.body ∧ first.2 = draws ∧ second.2 = draws') ∧
      ∀ i, covering? method url interceptions = some i →
        first.1.body = second.1.body ∧ first.2 = draws ∧ second.2 = draws' := by
  intro first second
  have hfixed (hissues : ¬ Issues method url interceptions)
      (hechoes : ¬ Echoes method url interceptions) :
      first.1 = second.1 ∧ first.2 = draws ∧ second.2 = draws' := by
    obtain ⟨answer, hanswer⟩ := exists_respond hissues hechoes body headers
    simp only [first, second, hanswer, and_self]
  have hstatus : first.1.status = second.1.status := by
    by_cases hissues : Issues method url interceptions
    · simp only [first, second, respond_of_issues hissues]
    · by_cases hechoes : Echoes method url interceptions
      · simp only [first, second, respond_of_echoes hechoes]
      · rw [(hfixed hissues hechoes).1]
  refine ⟨hstatus, fun hissues => ?_, fun hechoes => ?_, fun hissues hechoes => ?_, fun i hi => ?_⟩
  · have hfirst : first.1.body = issued (token draws).1 := by
      simp only [first, respond_of_issues hissues]
    have hsecond : second.1.body = issued (token draws').1 := by
      simp only [second, respond_of_issues hissues]
    rw [List.forall_mem_cons, List.forall_mem_singleton, hfirst, hsecond]
    exact ⟨⟨_, _, rfl, rfl, .cons ⟨rfl, .inl rfl⟩ (Dict.AlikeBut.refl _ _)⟩,
      ⟨_, rfl, isToken_token draws⟩, ⟨_, rfl, isToken_token draws'⟩⟩
  · have hfirst : first.1.body = echo body (draws.below 1000).1 := by
      simp only [first, respond_of_echoes hechoes]
    have hsecond : second.1.body = echo body (draws'.below 1000).1 := by
      simp only [second, respond_of_echoes hechoes]
    have hbelow (draws : Draws) : (draws.below 1000).1 < 1000 := Nat.mod_lt _ (by decide)
    rw [List.forall_mem_cons, List.forall_mem_singleton, hfirst, hsecond]
    refine ⟨echo_alike _ _ _, fun hid => ?_, fun ⟨id, hid⟩ => ?_⟩
    · exact ⟨⟨_, hbelow draws, get?_echo_of_not_hasId hid _⟩,
        ⟨_, hbelow draws', get?_echo_of_not_hasId hid _⟩⟩
    · obtain ⟨own, answer, hown, hget, hanswer⟩ := echo_of_hasId hid
      rw [hanswer, hanswer]
      exact ⟨rfl, own, hown, hget⟩
  · obtain ⟨hsame, hdraws⟩ := hfixed hissues hechoes
    exact ⟨by rw [hsame], hdraws⟩
  · obtain ⟨hsame, hdraws⟩ := hfixed (not_issues_of_covering hi) (not_echoes_of_covering hi)
    exact ⟨by rw [hsame], hdraws⟩

/-- What holds a token differs in the token, and in nothing else. -/
theorem draws_only_fill_in_token :
    let first := respond "GET" "/api/auth/token" none [] [] .zeros
    let second := respond "GET" "/api/auth/token" none [] [] (.ofSource id)
    first.1.body ≠ second.1.body ∧ first.1.body.AlikeBut "access_token" second.1.body := by
  intro first second
  have hissues : Issues "GET" "/api/auth/token" [] := ⟨rfl, by decide +kernel⟩
  refine ⟨fun hsame => ?_, ((draws_only_fill_in _ _ _ _ _ _ _).2.1 hissues).1⟩
  have htoken : (token .zeros).1 = (token (.ofSource id)).1 := by
    simp only [first, second, respond_of_issues hissues] at hsame
    simpa [issued] using hsame
  exact absurd htoken (by decide +kernel)

/-- An identifier that is posted is echoed, and need not be a number. -/
theorem posted_id_echoed :
    ¬ ∀ (method url : String) (body : Option Json) (headers : Dict Json)
        (interceptions : List Interception) (draws : Draws),
      Echoes method url interceptions →
        ∃ n < 1000, (respond method url body headers interceptions draws).1.body.get? "id" =
          some (.ofNat n) := by
  intro h
  have hechoes : Echoes "POST" "/api/items" [] :=
    ⟨rfl, by decide +kernel, by decide +kernel, Text.eqIgnoreCase_iff.mpr rfl⟩
  obtain ⟨n, -, hid⟩ := h _ _ (some (.obj [("id", .str "abc")])) [] [] .zeros hechoes
  rw [respond_of_echoes hechoes] at hid
  cases hid

end Backend

end BrowserLab
