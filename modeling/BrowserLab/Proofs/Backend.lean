import BrowserLab.Backend
import BrowserLab.Proofs.Dict
import BrowserLab.Proofs.Glob

/-!
# What requests are answered

A request is answered by the last interception that covers it, and by the backend if there is none.

* `covering?_of_later`: an interception that covers the request answers it unless a later one does.
* `literal_route_answers`: when an interception whose glob is an address answers requests to it.
* `header?_eq_some_iff`: of several spellings of a header's name the first one counts.
* `secret_guarded`: who is told the secret.
-/

namespace BrowserLab

theorem Text.eqIgnoreCase_iff {a b : String} :
    eqIgnoreCase a b = true ↔ a.toList.map Char.toLower = b.toList.map Char.toLower := by
  rw [eqIgnoreCase, asciiLower, asciiLower, beq_iff_eq, ← String.toList_inj, String.toList_map,
    String.toList_map]

/-- The interception is for requests with the method: it names none, or this one in letters of any
case. -/
def Interception.Allows (i : Interception) (method : String) : Prop :=
  i.method = none ∨ ∃ m, i.method = some m ∧ Text.eqIgnoreCase m method = true

theorem Interception.covers_iff {i : Interception} {method url : String} :
    i.covers method url = true ↔ i.Allows method ∧ Glob.fits i.glob url = true := by
  rw [covers, Bool.and_eq_true, Allows]
  cases i.method <;> simp

namespace Backend

variable {method url : String} {body : Option Json} {headers : Dict Json}
  {interceptions : List Interception} {i : Interception}

/-! ### Interceptions -/

/-- Of the interceptions that cover a request the last one counts. -/
theorem covering?_of_later (before : List Interception) {later : List Interception}
    (hi : i.covers method url = true) (hlater : ∀ j ∈ later, j.covers method url = false) :
    covering? method url (before ++ i :: later) = some i := by
  have hnone : later.reverse.find? (fun j => j.covers method url) = none := by
    simpa using hlater
  rw [covering?, List.reverse_append, List.reverse_cons, List.append_assoc, List.find?_append,
    hnone, Option.none_or, List.singleton_append]
  exact List.find?_cons_of_pos hi

theorem respond_of_covering (h : covering? method url interceptions = some i)
    (body : Option Json) (headers : Dict Json) (draws : Draws) :
    respond method url body headers interceptions draws = (i.answer, draws) := by
  rw [respond, h]

/-- **An interception whose glob is an address covers this address if and only if all of it is
path.**  Stars aside, which are no part of addresses, a query, a fragment and slashes at the end are
dropped from the address but not from the glob.  If there are none, such an interception answers
requests to the address that have its method, unless a later one covers them. -/
theorem literal_route_answers {url : String} (hstar : '*' ∉ url.toList) :
    (Glob.fits url url = true ↔ Glob.AllPath url.toList) ∧
      ∀ {i : Interception} {method : String}, i.glob = url → i.Allows method →
        (i.covers method url = true ↔ Glob.AllPath url.toList) ∧
          (Glob.AllPath url.toList → ∀ (before later : List Interception),
            (∀ j ∈ later, j.covers method url = false) → ∀ body headers draws,
              respond method url body headers (before ++ i :: later) draws =
                (i.answer, draws)) := by
  refine ⟨Glob.fits_self_iff hstar, fun {i method} hglob hmethod => ?_⟩
  have hcovers : i.covers method url = true ↔ Glob.AllPath url.toList := by
    rw [Interception.covers_iff, hglob, Glob.fits_self_iff hstar, and_iff_right hmethod]
  refine ⟨hcovers, fun hpath before later hlater body headers draws => ?_⟩
  exact respond_of_covering (covering?_of_later before (hcovers.mpr hpath) hlater) _ _ _

/-- Another interception comes later, but it does not cover the address. -/
theorem literal_route_answers_users :
    let i : Interception := ⟨"/api/users", some "get", ⟨503, .bool false⟩⟩
    let other : Interception := ⟨"/api/*/1", none, ⟨201, .null⟩⟩
    '*' ∉ i.glob.toList ∧ i.Allows "GET" ∧ Glob.fits i.glob i.glob = true ∧
      (∀ j ∈ [other], j.covers "GET" i.glob = false) ∧
      respond "GET" i.glob none [] ([other] ++ i :: [other]) .zeros =
        (⟨503, .bool false⟩, .zeros) := by
  intro i other
  have hstar : '*' ∉ i.glob.toList := by decide +kernel
  have hmethod : i.Allows "GET" :=
    .inr ⟨"get", rfl, Text.eqIgnoreCase_iff.mpr (by decide +kernel)⟩
  have hfits : Glob.fits i.glob i.glob = true := by decide +kernel
  have hlater : ∀ j ∈ [other], j.covers "GET" i.glob = false :=
    List.forall_mem_singleton.mpr (by decide +kernel)
  obtain ⟨hself, hroute⟩ := literal_route_answers hstar
  exact ⟨hstar, hmethod, hfits, hlater,
    (hroute (Eq.refl i.glob) hmethod).2 (hself.mp hfits) [other] [other] hlater none [] .zeros⟩

/-- The query is dropped from the address, and then missed by the glob. -/
theorem literal_route_missed :
    ¬ ∀ url : String, url ≠ "" → '*' ∉ url.toList → Glob.fits url url = true := by
  intro h
  have hfits := h "/api/data?page=2" (by decide) (by decide +kernel)
  revert hfits
  decide +kernel

/-! ### The key to the secret -/

/-- The header has the name, in letters of any case. -/
def Named (name : String) (header : String × Json) : Prop :=
  Text.eqIgnoreCase header.1 name = true

/-- Of the headers with the name, the first one is looked up. -/
theorem header?_eq_some_iff (hheaders : Dict.Ascending headers) {name text : String} :
    header? headers name = some text ↔
      ∃ header ∈ headers, Named name header ∧ header.2 = .str text ∧
        ∀ other ∈ headers, Named name other → header.1 ≤ other.1 := by
  have hfirst (header : String × Json) :=
    Dict.find?_eq_some_iff_least hheaders (fun k => Text.eqIgnoreCase k name) header
  have hlookup : header? headers name = some text ↔
      ∃ header, headers.find? (fun e => Text.eqIgnoreCase e.1 name) = some header ∧
        header.2 = .str text := by
    unfold header?
    cases headers.find? (fun e => Text.eqIgnoreCase e.1 name) with
    | none => simp
    | some header =>
      obtain ⟨k, j⟩ := header
      cases j <;> simp [Json.text?]
  rw [hlookup]
  constructor
  · rintro ⟨header, hfound, htext⟩
    obtain ⟨hmem, hname, hleast⟩ := (hfirst header).mp hfound
    exact ⟨header, hmem, hname, htext, hleast⟩
  · rintro ⟨header, hmem, hname, htext, hleast⟩
    exact ⟨header, (hfirst header).mpr ⟨hmem, hname, hleast⟩, htext⟩

/-- A header with the name of the key's holds the key. -/
def HoldsKey (headers : Dict Json) : Prop :=
  ∃ header ∈ headers, Named keyHeader header ∧ header.2 = .str key

/-- The first header with the name of the key's holds the key. -/
def LeadsWithKey (headers : Dict Json) : Prop :=
  ∃ header ∈ headers, Named keyHeader header ∧ header.2 = .str key ∧
    ∀ other ∈ headers, Named keyHeader other → header.1 ≤ other.1

/-- What those are told who have the key. -/
def granted : Response := ⟨200, .obj [("secret", .str "The password is \"blue-falcon\"")]⟩

/-- What all others are told. -/
def denied : Response := ⟨401, .obj [("error", .str "Unauthorized: Invalid API Key")]⟩

theorem respond_secret (hnone : covering? method url interceptions = none)
    (htoken : Text.contains url "/api/auth/token" = false)
    (hsecret : Text.contains url "/api/secure-data" = true) (body : Option Json)
    (headers : Dict Json) (draws : Draws) :
    respond method url body headers interceptions draws =
      (if header? headers keyHeader = some key then granted else denied, draws) := by
  rw [respond, hnone]
  dsimp only
  rw [serve, if_neg (by rw [htoken]; exact Bool.false_ne_true), if_pos hsecret]
  split <;> rfl

/-- **Who is told the secret.**  A request for it that no interception covers is answered with the
secret if the first of the headers with the name of the key's, in letters of any case, holds the
key, and with an error in every other case.  So the key is not seen behind another spelling of the
name; if the name is spelled in one way only, it is enough that a header holds the key. -/
theorem secret_guarded (hheaders : Dict.Ascending headers)
    (hnone : covering? method url interceptions = none)
    (htoken : Text.contains url "/api/auth/token" = false)
    (hsecret : Text.contains url "/api/secure-data" = true) (body : Option Json) (draws : Draws) :
    let answer := respond method url body headers interceptions draws
    (LeadsWithKey headers → answer = (granted, draws)) ∧
      (¬ LeadsWithKey headers → answer = (denied, draws)) ∧
      (LeadsWithKey headers → HoldsKey headers) ∧
      ((∀ header ∈ headers, ∀ other ∈ headers,
          Named keyHeader header → Named keyHeader other → header.1 = other.1) →
        HoldsKey headers → LeadsWithKey headers) := by
  intro answer
  have hanswer :
      answer = (if header? headers keyHeader = some key then granted else denied, draws) :=
    respond_secret hnone htoken hsecret body headers draws
  rw [hanswer]
  have hlookup : header? headers keyHeader = some key ↔ LeadsWithKey headers :=
    header?_eq_some_iff hheaders
  refine ⟨fun h => ?_, fun h => ?_, ?_, ?_⟩
  · rw [if_pos (hlookup.mpr h)]
  · rw [if_neg (hlookup.not.mpr h)]
  · rintro ⟨header, hmem, hname, hkey, -⟩
    exact ⟨header, hmem, hname, hkey⟩
  · rintro hone ⟨header, hmem, hname, hkey⟩
    refine ⟨header, hmem, hname, hkey, fun other hother hname' => ?_⟩
    have hsame := hone header hmem other hother hname hname'
    exact hsame ▸ String.le_refl header.1

/-- Two spellings of the name, of which the first one in order holds the key. -/
theorem secret_guarded_first :
    let headers : Dict Json :=
      [("Accept", .null), ("X-Api-Key", .str key), ("x-api-key", .str "old")]
    Dict.Ascending headers ∧ covering? "GET" "/api/secure-data?v=2" [] = none ∧
      LeadsWithKey headers ∧
      respond "GET" "/api/secure-data?v=2" none headers [] .zeros = (granted, .zeros) := by
  intro headers
  have hheaders : Dict.Ascending headers := by
    show List.Pairwise _ _
    decide +kernel
  have hleads : LeadsWithKey headers := by
    refine ⟨("X-Api-Key", .str key), .tail _ (.head _), ?_, rfl, ?_⟩
    · exact Text.eqIgnoreCase_iff.mpr (by decide +kernel)
    · have hleast : ∀ name ∈ headers.map Prod.fst,
          name.toList.map Char.toLower = keyHeader.toList.map Char.toLower →
            "X-Api-Key" ≤ name := by decide +kernel
      exact fun other hother hname =>
        hleast other.1 (List.mem_map_of_mem hother) (Text.eqIgnoreCase_iff.mp hname)
  exact ⟨hheaders, rfl, hleads,
    (secret_guarded hheaders rfl (by decide +kernel) (by decide +kernel) none .zeros).1 hleads⟩

/-- A header holds the key, but another spelling of its name comes first. -/
theorem key_behind_other_spelling :
    let headers : Dict Json := [("X-API-KEY", .str "old"), ("x-api-key", .str key)]
    Dict.Ascending headers ∧ HoldsKey headers ∧
      respond "GET" "/api/secure-data" none headers [] .zeros = (denied, .zeros) := by
  intro headers
  have hheaders : Dict.Ascending headers := by
    show List.Pairwise _ _
    decide +kernel
  have hspelled (name : String)
      (h : name.toList.map Char.toLower = keyHeader.toList.map Char.toLower) (j : Json) :
      Named keyHeader (name, j) := Text.eqIgnoreCase_iff.mpr h
  refine ⟨hheaders, ⟨("x-api-key", .str key), .tail _ (.head _), hspelled _ rfl _, rfl⟩, ?_⟩
  have hlookup : ¬ header? headers keyHeader = some key := by
    rw [header?_eq_some_iff hheaders]
    rintro ⟨header, hmem, -, hkey, hleast⟩
    have hfirst := hleast _ (.head _) (hspelled "X-API-KEY" (by decide +kernel) _)
    obtain rfl | hmem := List.mem_cons.mp hmem
    · exact absurd (Json.str.inj hkey) (by decide)
    · obtain rfl := List.mem_singleton.mp hmem
      revert hfirst
      decide +kernel
  rw [respond_secret rfl (by decide +kernel) (by decide +kernel), if_neg hlookup]

end Backend

end BrowserLab
