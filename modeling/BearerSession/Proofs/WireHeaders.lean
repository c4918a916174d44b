import BearerSession.Http.Agent
import BearerSession.Proofs.RequestHeaders

/-!
# The headers a request goes out with

Before a request is sent its headers are put on a map (`headerMap`): the map starts with
`content-type` and `accept` both `application/json`, and each header of the request, in order,
is checked and set under its name in lower case (`wireName`), replacing the value that name had.
The first header at fault refuses the request (`FirstFault`).

Setting a name on a map whose names are distinct gives that name the one entry set and leaves
the entries of every other name (`filter_setEntry`). Two headers of a request land on the same
entry exactly when their names are equal without regard to ASCII case (`wireName_eq_iff`), and
no two headers of a built request are (`Request.built_distinctNames`). So no header of a built
request overwrites another: each lands on an entry of its own, with its own value
(`filter_setAll_of_mem`); a default stays exactly when no header of the request has its name,
and is otherwise replaced by the request's value (`get?_setAll`). The main statement is
`Request.built_headerMap`.
-/

namespace BearerSession.Http

/-! ## Names on the wire -/

theorem headerLookup_eq (hs : List (String × String)) (name : String) :
    headerLookup hs name = (hs.find? (fun h => sameName h.1 name)).map (·.2) := rfl

/-- Two names go out as one exactly when they are equal without regard to ASCII case. -/
theorem wireName_eq_iff {a b : String} : wireName a = wireName b ↔ sameName a b = true :=
  sameName_iff.symm

theorem wireName_contentType : wireName "Content-Type" = "content-type" := by decide +kernel

theorem wireName_accept : wireName "Accept" = "accept" := by decide +kernel

/-- Headers whose names are equal without regard to case are never two of one list. -/
theorem DistinctNames.wireName_ne {h : String × String} {hs : List (String × String)}
    (hd : DistinctNames (h :: hs)) {x : String × String} (hx : x ∈ hs) :
    wireName x.1 ≠ wireName h.1 := by
  intro heq
  have hsame : sameName h.1 x.1 = false := (List.pairwise_cons.1 hd).1 x hx
  rw [sameName_comm, ← Bool.not_eq_true, ← wireName_eq_iff] at hsame
  exact hsame heq

/-! ## Setting one entry -/

section Entries

variable {entries : List (String × String)} {k k' v : String}

/-- With distinct names, the entries of the name of an entry are that entry alone. -/
theorem filter_name_of_nodup (hnd : (entries.map Prod.fst).Nodup) {e : String × String}
    (he : e ∈ entries) : entries.filter (·.1 == e.1) = [e] := by
  induction entries with
  | nil => cases he
  | cons a rest ih =>
    rw [List.map_cons, List.nodup_cons] at hnd
    rcases List.mem_cons.1 he with rfl | hrest
    · -- no later entry has the name of the first
      have hnone : rest.filter (·.1 == e.1) = [] := by
        rw [List.filter_eq_nil_iff]
        intro x hx hxe
        exact hnd.1 (List.mem_map.2 ⟨x, hx, by simpa using hxe⟩)
      simp [hnone]
    · have hne : a.1 ≠ e.1 := by
        intro heq
        exact hnd.1 (heq ▸ List.mem_map.2 ⟨e, hrest, rfl⟩)
      simp [hne, ih hnd.2 hrest]

/-- Setting `k` gives `k` the one entry `(k, v)` and keeps the entries of every other name. -/
theorem filter_setEntry (hnd : (entries.map Prod.fst).Nodup) :
    (setEntry entries k v).filter (·.1 == k') =
      if k = k' then [(k, v)] else entries.filter (·.1 == k') := by
  unfold setEntry
  split
  · next hk =>
    -- the entry of `k` is replaced in place; every other entry keeps its name
    obtain ⟨e, he, hek⟩ := List.any_eq_true.1 hk
    have hek : e.1 = k := by simpa using hek
    rw [List.filter_map]
    have hcomp : ((· == k') ∘ Prod.fst ∘ fun e : String × String =>
        if e.1 == k then (k, v) else e) = (·.1 == k') := by
      funext x
      by_cases hx : x.1 = k <;> simp [hx]
    by_cases hkk : k = k'
    · subst hkk
      have hfun : (fun x : String × String => (x.1 == k)) = (·.1 == e.1) := by rw [hek]
      rw [if_pos rfl]
      show List.map _ (List.filter ((· == k) ∘ Prod.fst ∘ _) entries) = _
      rw [hcomp, hfun, filter_name_of_nodup hnd he]
      simp [hek]
    · rw [if_neg hkk]
      show List.map _ (List.filter ((· == k') ∘ Prod.fst ∘ _) entries) = _
      rw [hcomp]
      -- the entries kept by the filter are not of `k`, so the replacement leaves them
      have hid : ∀ x ∈ entries.filter (·.1 == k'),
          (if x.1 == k then (k, v) else x) = id x := by
        intro x hx
        have hx' : x.1 = k' := by simpa using (List.mem_filter.1 hx).2
        have hxk : x.1 ≠ k := fun h => hkk (h ▸ hx')
        simp [hxk]
      rw [List.map_congr_left hid, List.map_id]
  · next hk =>
    have hnone : entries.filter (·.1 == k) = [] := by
      rw [List.filter_eq_nil_iff]
      intro x hx hxk
      exact hk (List.any_eq_true.2 ⟨x, hx, hxk⟩)
    by_cases hkk : k = k'
    · subst hkk
      simp [List.filter_append, hnone]
    · simp [List.filter_append, hkk]

/-- An entry after setting `k` was there before, or is the one set. -/
theorem mem_setEntry {e : String × String} (h : e ∈ setEntry entries k v) :
    e ∈ entries ∨ e = (k, v) := by
  unfold setEntry at h
  split at h
  · obtain ⟨x, hx, rfl⟩ := List.mem_map.1 h
    by_cases hxk : x.1 = k
    · right
      simp [hxk]
    · left
      simpa [hxk] using hx
  · rcases List.mem_append.1 h with h | h
    · exact .inl h
    · exact .inr (List.mem_singleton.1 h)

end Entries

namespace HeaderMap

/-- The value of a name is that of its entries, which are at most one. -/
theorem get?_eq (m : HeaderMap) (k : String) :
    m.get? k = ((m.entries.filter (·.1 == k)).head?).map (·.2) := by
  rw [HeaderMap.get?, List.head?_filter]

/-- The map after setting each header of `hs` in order under its name on the wire. -/
def setAll (m : HeaderMap) (hs : List (String × String)) : HeaderMap :=
  hs.foldl (fun m h => m.insert (wireName h.1) h.2) m

section SetAll

variable (m : HeaderMap)

/-- Headers none of which goes out under `k` keep the entries of `k`. -/
theorem filter_setAll_of_not {hs : List (String × String)} {k : String}
    (h : ∀ x ∈ hs, wireName x.1 ≠ k) :
    (m.setAll hs).entries.filter (·.1 == k) = m.entries.filter (·.1 == k) := by
  induction hs generalizing m with
  | nil => rfl
  | cons x rest ih =>
    have hx : wireName x.1 ≠ k := h x List.mem_cons_self
    rw [setAll, List.foldl_cons, ← setAll, ih _ fun y hy => h y (List.mem_cons_of_mem x hy)]
    show (setEntry m.entries _ _).filter _ = _
    rw [filter_setEntry m.names_nodup, if_neg hx]

/-- With names distinct without regard to case, each header ends as the one entry of its name,
with its own value: no header overwrites another. -/
theorem filter_setAll_of_mem {hs : List (String × String)} (hd : DistinctNames hs)
    {x : String × String} (hx : x ∈ hs) :
    (m.setAll hs).entries.filter (·.1 == wireName x.1) = [(wireName x.1, x.2)] := by
  induction hs generalizing m with
  | nil => cases hx
  | cons y rest ih =>
    rw [setAll, List.foldl_cons, ← setAll]
    rcases List.mem_cons.1 hx with rfl | hrest
    · -- the header set first is the last to touch its name
      rw [filter_setAll_of_not _ fun z hz => hd.wireName_ne hz]
      show (setEntry m.entries _ _).filter _ = _
      rw [filter_setEntry m.names_nodup, if_pos rfl]
    · exact ih _ (List.pairwise_cons.1 hd).2 hrest

/-- Every entry after setting `hs` was in the map before or is a header of `hs`. -/
theorem mem_setAll {hs : List (String × String)} {e : String × String}
    (h : e ∈ (m.setAll hs).entries) : e ∈ m.entries ∨ ∃ x ∈ hs, e = (wireName x.1, x.2) := by
  induction hs generalizing m with
  | nil => exact .inl h
  | cons y rest ih =>
    rw [setAll, List.foldl_cons, ← setAll] at h
    rcases ih _ h with hm | ⟨x, hx, rfl⟩
    · rcases mem_setEntry hm with hm | rfl
      · exact .inl hm
      · exact .inr ⟨y, List.mem_cons_self, rfl⟩
    · exact .inr ⟨x, List.mem_cons_of_mem y hx, rfl⟩

/-- With names distinct without regard to case, a name takes the value of the request's
header of that name, if there is one, and keeps its value otherwise. -/
theorem get?_setAll {hs : List (String × String)} (hd : DistinctNames hs) (name : String) :
    (m.setAll hs).get? (wireName name) =
      match headerLookup hs name with
      | some v => some v
      | none => m.get? (wireName name) := by
  rw [headerLookup_eq]
  rcases hfind : hs.find? (fun h => sameName h.1 name) with _ | x
  · -- no header has the name, so none goes out under it
    have hnot : ∀ y ∈ hs, wireName y.1 ≠ wireName name := by
      intro y hy heq
      have hsame := wireName_eq_iff.1 heq
      exact List.find?_eq_none.1 hfind y hy hsame
    rw [get?_eq, get?_eq, filter_setAll_of_not m hnot]
    simp only [hfind, Option.map_none]
  · have hx := List.mem_of_find?_eq_some hfind
    have hsame : sameName x.1 name = true := by simpa using List.find?_some hfind
    have hname : wireName x.1 = wireName name := wireName_eq_iff.2 hsame
    rw [get?_eq, ← hname, filter_setAll_of_mem m hd hx]
    simp only [hfind, Option.map_some, List.head?_cons]

end SetAll

end HeaderMap

/-! ## Checking the headers -/

/-- The first header at fault in a list of headers, and the failure that names it. -/
inductive FirstFault : List (String × String) → Failure → Prop
  /-- The first header is at fault. -/
  | here {name value reason : String} {rest : List (String × String)} :
      headerFault name value = some reason →
      FirstFault ((name, value) :: rest) (.invalidInput (.header name reason))
  /-- The first header passes; the fault is further on. -/
  | later {h : (String × String)} {rest : List (String × String)} {f : Failure} :
      headerFault h.1 h.2 = none → FirstFault rest f → FirstFault (h :: rest) f

section Check

variable (m : HeaderMap) (h : String × String) (rest : List (String × String))

theorem add_of_fault {reason : String} (hf : headerFault h.1 h.2 = some reason) :
    m.add h = .error (.invalidInput (.header h.1 reason)) := by
  simp [HeaderMap.add, hf]

theorem add_of_pass (hf : headerFault h.1 h.2 = none) :
    m.add h = .ok (m.insert (wireName h.1) h.2) := by
  simp [HeaderMap.add, hf]

theorem foldlM_add_cons_of_pass (hf : headerFault h.1 h.2 = none) :
    (h :: rest).foldlM HeaderMap.add m =
      rest.foldlM HeaderMap.add (m.insert (wireName h.1) h.2) := by
  rw [List.foldlM_cons, add_of_pass m h hf]
  rfl

end Check

/-- Checking the headers fails exactly with the failure of the first header at fault. -/
theorem foldlM_add_error_iff (hs : List (String × String)) (m : HeaderMap) (f : Failure) :
    hs.foldlM HeaderMap.add m = .error f ↔ FirstFault hs f := by
  induction hs generalizing m with
  | nil =>
    have hnil : ([] : List (String × String)).foldlM HeaderMap.add m = .ok m := rfl
    rw [hnil]
    constructor
    · intro h
      cases h
    · intro h
      cases h
  | cons x rest ih =>
    rcases hf : headerFault x.1 x.2 with _ | reason
    · rw [foldlM_add_cons_of_pass m x rest hf, ih]
      constructor
      · exact FirstFault.later hf
      · intro h
        cases h with
        | here hfault => rw [hf] at hfault; cases hfault
        | later _ hrest => exact hrest
    · rw [List.foldlM_cons, add_of_fault m x hf]
      constructor
      · intro h
        cases h
        exact FirstFault.here hf
      · intro h
        cases h with
        | here hfault =>
          rw [hf] at hfault
          cases hfault
          rfl
        | later hpass _ => rw [hf] at hpass; cases hpass

/-- Checking the headers succeeds exactly when no header is at fault, with every header set in
order. -/
theorem foldlM_add_ok_iff (hs : List (String × String)) (m m' : HeaderMap) :
    hs.foldlM HeaderMap.add m = .ok m' ↔
      (∀ x ∈ hs, headerFault x.1 x.2 = none) ∧ m' = m.setAll hs := by
  induction hs generalizing m with
  | nil =>
    have hnil : ([] : List (String × String)).foldlM HeaderMap.add m = .ok m := rfl
    rw [hnil]
    constructor
    · intro h
      refine ⟨fun x hx => absurd hx List.not_mem_nil, ?_⟩
      cases h
      rfl
    · rintro ⟨-, rfl⟩
      rfl
  | cons x rest ih =>
    rcases hf : headerFault x.1 x.2 with _ | reason
    · rw [foldlM_add_cons_of_pass m x rest hf, ih]
      simp only [List.forall_mem_cons, hf, true_and]
      rfl
    · rw [List.foldlM_cons, add_of_fault m x hf]
      constructor
      · intro h
        cases h
      · rintro ⟨hall, -⟩
        rw [hall x List.mem_cons_self] at hf
        cases hf

/-! ## Headers of a built request -/

/-- The entries the map starts with under one name: none, or the default of that name. -/
theorem get?_defaults_contentType : HeaderMap.defaults.get? "content-type" = some jsonType := rfl

theorem get?_defaults_accept : HeaderMap.defaults.get? "accept" = some jsonType := rfl

namespace Request

/-- **The headers a built request goes out with.** Take a request built by any chain of calls.
Putting its headers on the map fails exactly when one of them is at fault, with the failure
that names the first such header. When it succeeds, every header of the request is the one
entry of its name on the wire, with its own value, so no header overwrote another; the map
holds `content-type` and `accept` with the request's value when it has a header of that name in
any casing, and `application/json` otherwise; and nothing else is on the map. -/
theorem built_headerMap (method : Method) (target : String) (bs : List Build) :
    let d := built method target bs
    (∀ f, headerMap d.headers = .error f ↔ FirstFault d.headers f) ∧
    ∀ m, headerMap d.headers = .ok m →
      (∀ n v, (n, v) ∈ d.headers → m.entries.filter (·.1 == wireName n) = [(wireName n, v)]) ∧
      m.get? "content-type" = some ((d.headerValue? "Content-Type").getD jsonType) ∧
      m.get? "accept" = some ((d.headerValue? "Accept").getD jsonType) ∧
      ∀ e ∈ m.entries, (∃ n, (n, e.2) ∈ d.headers ∧ e.1 = wireName n) ∨
        (e.1 ∈ ["content-type", "accept"] ∧ e.2 = jsonType) := by
  intro d
  have hd : DistinctNames d.headers := built_distinctNames method target bs
  refine ⟨fun f => foldlM_add_error_iff d.headers _ f, ?_⟩
  intro m hm
  obtain ⟨-, rfl⟩ := (foldlM_add_ok_iff d.headers _ m).1 hm
  -- a default keeps its value unless a header of its name replaced it
  have hdefault : ∀ name, (HeaderMap.defaults.setAll d.headers).get? (wireName name) =
      match headerValue? d name with
      | some v => some v
      | none => HeaderMap.defaults.get? (wireName name) :=
    fun name => HeaderMap.get?_setAll _ hd name
  refine ⟨?_, ?_, ?_, ?_⟩
  · intro n v hnv
    exact HeaderMap.filter_setAll_of_mem _ hd hnv
  · have h := hdefault "Content-Type"
    rw [wireName_contentType, get?_defaults_contentType] at h
    rw [h]
    cases headerValue? d "Content-Type" <;> rfl
  · have h := hdefault "Accept"
    rw [wireName_accept, get?_defaults_accept] at h
    rw [h]
    cases headerValue? d "Accept" <;> rfl
  · intro e he
    rcases HeaderMap.mem_setAll _ he with hdef | ⟨x, hx, rfl⟩
    · right
      simp only [HeaderMap.defaults, List.mem_cons, List.not_mem_nil, or_false] at hdef
      rcases hdef with rfl | rfl <;> simp
    · exact .inl ⟨x.1, hx, rfl⟩

end Request

end BearerSession.Http
