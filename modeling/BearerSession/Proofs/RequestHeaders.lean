import BearerSession.Http.Request

/-!
# The headers of a request as it is built

A request is made by `Request.new` (no headers, no body, a first attempt) and then built by
calls one after the other (`Build`): setting a header, setting the body, marking the request as
the replay after a renewal, or presenting a bearer token. `Request.built` is the request such a
chain gives.

Header names compare without regard to ASCII case (`sameName`), an equivalence. Setting a
header drops every header of an equal name and appends the new one, so:

* no two headers of a built request have equal names (`built_distinctNames`);
* the header just set is the last one, and it is the value of its name in every casing
  (`headerValue?_header_of_sameName`);
* every other header keeps its value and its place among the others (`filter_header`).

A request that presents a token carries exactly one authorization header, `Bearer` and the
token, whatever authorization headers were set before and in whatever casing
(`withBearer_authorization`). No call changes the method or the target, the body is the one
set last, and a request is the replay exactly when some call marked it so. The main statement
is `Request.built_laws`.
-/

namespace BearerSession.Http

/-! ## Names without regard to case -/

theorem sameName_iff {a b : String} :
    sameName a b = true ↔ a.map Char.toLower = b.map Char.toLower := by
  simp [sameName]

@[simp] theorem sameName_self (a : String) : sameName a a = true := sameName_iff.2 rfl

theorem sameName_comm (a b : String) : sameName a b = sameName b a := by
  rw [Bool.eq_iff_iff, sameName_iff, sameName_iff, eq_comm]

theorem sameName_trans {a b c : String} (hab : sameName a b = true) (hbc : sameName b c = true) :
    sameName a c = true :=
  sameName_iff.2 ((sameName_iff.1 hab).trans (sameName_iff.1 hbc))

/-- No two headers have names equal without regard to ASCII case. -/
def DistinctNames (headers : List (String × String)) : Prop :=
  headers.Pairwise fun a b => sameName a.1 b.1 = false

namespace Request

/-! ## Setting a header -/

section Header

variable (r : Request) (n v : String)

theorem header_headers :
    (r.header n v).headers = r.headers.filter (fun h => !sameName h.1 n) ++ [(n, v)] := rfl

/-- The header just set is the last one. -/
theorem getLast?_header : (r.header n v).headers.getLast? = some (n, v) := by
  simp [header_headers]

/-- Every header of another name keeps its value and its place among the others. -/
theorem filter_header :
    (r.header n v).headers.filter (fun h => !sameName h.1 n) =
      r.headers.filter (fun h => !sameName h.1 n) := by
  simp [header_headers, List.filter_append, List.filter_filter]

/-- A header kept by setting `n` has a name other than `n` in every casing. -/
theorem not_sameName_of_mem_filter {m : String} (hm : sameName m n = true) {h : String × String}
    (hh : h ∈ r.headers.filter fun h => !sameName h.1 n) : sameName h.1 m = false := by
  have hn : sameName h.1 n = false := by simpa using (List.mem_filter.1 hh).2
  cases hhm : sameName h.1 m
  · rfl
  · rw [sameName_trans hhm hm] at hn
    cases hn

/-- The header just set is the value of its name, in every casing. -/
theorem headerValue?_header_of_sameName {m : String} (hm : sameName m n = true) :
    (r.header n v).headerValue? m = some v := by
  have hnone : (r.headers.filter fun h => !sameName h.1 n).find? (fun h => sameName h.1 m) =
      none :=
    List.find?_eq_none.2 fun h hh => by simp [r.not_sameName_of_mem_filter n hm hh]
  simp [headerValue?, headerLookup, header_headers, List.find?_append, hnone, sameName_comm n m,
    hm]

/-- Setting `n` leaves the value of every other name as it was. -/
theorem headerValue?_header_of_not_sameName {m : String} (hm : sameName m n = false) :
    (r.header n v).headerValue? m = r.headerValue? m := by
  -- a header named `m` is never named `n`, so the filter keeps every header the lookup finds
  have hkeep : ∀ h : String × String, sameName h.1 m = true → sameName h.1 n = false := by
    intro h hhm
    cases hhn : sameName h.1 n
    · rfl
    · rw [sameName_trans (by rwa [sameName_comm]) hhn] at hm
      cases hm
  have hfind : (r.headers.filter fun h => !sameName h.1 n).find? (fun h => sameName h.1 m) =
      r.headers.find? (fun h => sameName h.1 m) := by
    rw [List.find?_filter]
    congr 1
    funext h
    cases hhm : sameName h.1 m <;> simp [hhm, hkeep h]
  have hlast : sameName n m = false := by rwa [sameName_comm]
  cases hr : r.headers.find? (fun h => sameName h.1 m) <;>
    simp [headerValue?, headerLookup, header_headers, List.find?_append, hfind, hr, hlast]

/-- A request that presents a token has exactly one authorization header, in any casing:
`Bearer` and the token. -/
theorem withBearer_authorization (t : AccessToken) :
    (r.withBearer t).headers.filter (fun h => sameName h.1 "Authorization") =
      [("Authorization", "Bearer " ++ t.value)] := by
  simp [withBearer, AccessToken.bearer, header_headers, List.filter_append, List.filter_filter]

end Header

end Request

/-- Setting a header keeps the names apart. -/
theorem DistinctNames.header {r : Request} (h : DistinctNames r.headers) (n v : String) :
    DistinctNames (r.header n v).headers := by
  unfold DistinctNames
  rw [Request.header_headers, List.pairwise_append]
  refine ⟨List.Pairwise.filter _ h, List.pairwise_singleton _ _, ?_⟩
  intro a ha b hb
  rw [List.mem_singleton] at hb
  subst hb
  simpa using (List.mem_filter.1 ha).2

namespace Request

/-! ## Chains of calls -/

/-- A call that builds a request further. -/
inductive Build where
  /-- Sets a header. -/
  | header (name value : String)
  /-- Sets the body; serializing a value as the JSON body sets its JSON value. -/
  | body (value : Json.Value)
  /-- Marks the request as the replay after a renewal. -/
  | retried
  /-- Presents a bearer token. -/
  | bearer (token : AccessToken)

namespace Build

/-- The request after the call. -/
def apply (r : Request) : Build → Request
  | header n v => r.header n v
  | body b => r.withBody b
  | retried => r.retried
  | bearer t => r.withBearer t

/-- The body a call sets, if it sets one. -/
def body? : Build → Option Json.Value
  | body b => some b
  | _ => none

variable (r : Request) (b : Build)

@[simp] theorem apply_method : (apply r b).method = r.method := by
  cases b <;> rfl

@[simp] theorem apply_target : (apply r b).target = r.target := by
  cases b <;> rfl

theorem apply_body : (apply r b).body = (b.body?.map some).getD r.body := by
  cases b <;> rfl

@[simp] theorem apply_retried_attempt : (apply r retried).attempt = .retried := rfl

theorem apply_attempt_of_ne (hb : b ≠ retried) : (apply r b).attempt = r.attempt := by
  cases b
  case retried => exact absurd rfl hb
  all_goals rfl

theorem apply_distinctNames (h : DistinctNames r.headers) : DistinctNames (apply r b).headers := by
  cases b with
  | header n v => exact h.header n v
  | body _ => exact h
  | retried => exact h
  | bearer t => exact h.header _ _

end Build

/-- The request `new method target` after the calls `bs`, in order. -/
def built (method : Method) (target : String) (bs : List Build) : Request :=
  bs.foldl Build.apply (new method target)

section Runs

variable (bs : List Build)

theorem foldl_method (r : Request) : (bs.foldl Build.apply r).method = r.method := by
  induction bs generalizing r with
  | nil => rfl
  | cons b bs ih => rw [List.foldl_cons, ih, Build.apply_method]

theorem foldl_target (r : Request) : (bs.foldl Build.apply r).target = r.target := by
  induction bs generalizing r with
  | nil => rfl
  | cons b bs ih => rw [List.foldl_cons, ih, Build.apply_target]

/-- The body is the one the last call that sets one sets, or the body there was. -/
theorem foldl_body (r : Request) :
    (bs.foldl Build.apply r).body = ((bs.filterMap Build.body?).getLast?.map some).getD r.body := by
  induction bs generalizing r with
  | nil => rfl
  | cons b bs ih =>
    rw [List.foldl_cons, ih, Build.apply_body]
    cases b <;> cases hlast : (bs.filterMap Build.body?).getLast? <;>
      simp only [Build.body?, List.filterMap_cons, List.getLast?_cons, hlast, Option.map,
        Option.getD]

/-- The request is the replay exactly when it was one or some call marked it so. -/
theorem foldl_attempt (r : Request) :
    (bs.foldl Build.apply r).attempt = .retried ↔ r.attempt = .retried ∨ Build.retried ∈ bs := by
  induction bs generalizing r with
  | nil => simp
  | cons b bs ih =>
    rw [List.foldl_cons, ih]
    by_cases hb : b = .retried
    · subst hb
      simp
    · simp [Build.apply_attempt_of_ne r b hb, Ne.symm hb]

theorem foldl_distinctNames (r : Request) (h : DistinctNames r.headers) :
    DistinctNames (bs.foldl Build.apply r).headers := by
  induction bs generalizing r with
  | nil => exact h
  | cons b bs ih => exact ih _ (Build.apply_distinctNames r b h)

end Runs

/-- No two headers of a built request have names equal without regard to ASCII case. -/
theorem built_distinctNames (method : Method) (target : String) (bs : List Build) :
    DistinctNames (built method target bs).headers :=
  foldl_distinctNames bs _ List.Pairwise.nil

/-- **Building a request.** Whatever chain of calls builds a request from `new method target`:
no two of its headers have names equal without regard to ASCII case; its method and target are
the ones it was made with, its body is the one set last, and it is the replay exactly when some
call marked it so. Setting a header `n` on it leaves that header last and the value of `n` in
every casing, and every other header in place with its value; presenting a token leaves exactly
one authorization header, in any casing, `Bearer` and the token. -/
theorem built_laws (method : Method) (target : String) (bs : List Build) :
    let r := built method target bs
    DistinctNames r.headers ∧ r.method = method ∧ r.target = target ∧
      r.body = (bs.filterMap Build.body?).getLast? ∧
      (r.attempt = .retried ↔ Build.retried ∈ bs) ∧
      (∀ n v, (r.header n v).headers.getLast? = some (n, v) ∧
        (∀ m, sameName m n = true → (r.header n v).headerValue? m = some v) ∧
        (r.header n v).headers.filter (fun h => !sameName h.1 n) =
          r.headers.filter (fun h => !sameName h.1 n)) ∧
      ∀ t : AccessToken, (r.withBearer t).headers.filter (fun h => sameName h.1 "Authorization") =
        [("Authorization", "Bearer " ++ t.value)] := by
  dsimp only
  refine ⟨built_distinctNames method target bs, foldl_method bs _, foldl_target bs _, ?_, ?_,
    fun n v => ⟨getLast?_header _ n v, fun m hm => headerValue?_header_of_sameName _ n v hm,
      filter_header _ n v⟩, withBearer_authorization _⟩
  · rw [built, foldl_body]
    cases (bs.filterMap Build.body?).getLast? <;> rfl
  · rw [built, foldl_attempt]
    simp [new]

end Request

end BearerSession.Http
