import Mathlib
import BearerSession.Proofs.BaseUrlReading

/-!
# Joining a request target onto a base URL

`BaseUrl.endpoint` is the URL every request of a client goes to. This file states what it is
without its helpers: a target that starts with `http://` or `https://` (`IsAbsolute`, a prefix
of characters, so `HTTP://` and `/http://` are not absolute) stands as it is; any other target
is joined to the base at exactly one slash. The base loses every final slash and the target
every leading one, so a query or a path of the base stays where it is.

Two consequences follow: slashes put in front of a relative target change nothing, and two
bases whose texts differ only in their final slashes send every target to the same URL.

The main statement is `BaseUrl.endpoint_joins_at_one_slash`.
-/

namespace BearerSession

namespace BaseUrl

/-- A run of `k` slashes. -/
def slashes (k : Nat) : String := String.ofList (List.replicate k '/')

/-- A target that names a URL of its own: it starts with `http://` or `https://`. -/
def IsAbsolute (t : String) : Prop :=
  "http://".toList <+: t.toList ∨ "https://".toList <+: t.toList

instance : DecidablePred IsAbsolute := fun t =>
  inferInstanceAs (Decidable ("http://".toList <+: t.toList ∨ "https://".toList <+: t.toList))

example : IsAbsolute "https://other.example.com/x" ∧ ¬ IsAbsolute "HTTPS://other.example.com/x" ∧
    ¬ IsAbsolute "/https://other.example.com/x" := by decide

@[simp] theorem toList_slashes (k : Nat) : (slashes k).toList = List.replicate k '/' := by
  simp [slashes]

/-! ## Removing slashes at either end -/

/-- Slashes after a text go with the final slashes of the text. -/
theorem dropTrailing_append_slashes (s : String) (k : Nat) :
    dropTrailing '/' (s ++ slashes k) = dropTrailing '/' s := by
  simp [dropTrailing]

/-- A text that does not end in a slash loses nothing. -/
theorem dropTrailing_of_getLast? {s : String} (h : s.toList.getLast? ≠ some '/') :
    dropTrailing '/' s = s := by
  have hhead : s.toList.reverse.head? ≠ some '/' := by rwa [List.head?_reverse]
  have hkeep : s.toList.reverse.dropWhile (· == '/') = s.toList.reverse := by
    cases hr : s.toList.reverse with
    | nil => rfl
    | cons c rest =>
      rw [hr] at hhead
      exact List.dropWhile_cons_of_neg (by simpa using hhead)
  simp [dropTrailing, hkeep]

/-- Slashes in front of a list of characters go with its leading slashes. -/
theorem dropWhile_slashes_append (k : Nat) (l : List Char) :
    (List.replicate k '/' ++ l).dropWhile (· == '/') = l.dropWhile (· == '/') := by
  simp

/-- A list that does not start with a slash loses nothing. -/
theorem dropWhile_slash_of_head? {l : List Char} (h : l.head? ≠ some '/') :
    l.dropWhile (· == '/') = l := by
  cases l with
  | nil => rfl
  | cons c rest => exact List.dropWhile_cons_of_neg (by simpa using h)

/-! ## The two kinds of target -/

/-- The test `endpoint` makes is the prefix test `IsAbsolute`. -/
theorem startsWith_scheme_iff (t : String) :
    (t.startsWith "http://" || t.startsWith "https://") = true ↔ IsAbsolute t := by
  simp [IsAbsolute]

/-- A target behind a slash is never absolute. -/
theorem not_isAbsolute_slash_append {k : Nat} (hk : 0 < k) (t : String) :
    ¬ IsAbsolute (slashes k ++ t) := by
  obtain ⟨k, rfl⟩ := Nat.exists_eq_add_of_lt hk
  simp [IsAbsolute, List.replicate_succ]

theorem endpoint_of_isAbsolute (b : BaseUrl) {t : String} (h : IsAbsolute t) :
    b.endpoint t = t := by
  rw [endpoint, if_pos ((startsWith_scheme_iff t).2 h)]

theorem endpoint_of_not_isAbsolute (b : BaseUrl) {t : String} (h : ¬ IsAbsolute t) :
    b.endpoint t =
      dropTrailing '/' b.text ++ "/" ++ String.ofList (t.toList.dropWhile (· == '/')) := by
  rw [endpoint, if_neg (mt (startsWith_scheme_iff t).1 h)]

/-! ## The join -/

/-- Slashes in front of a relative target change nothing. -/
theorem endpoint_slashes_append (b : BaseUrl) {t : String} (h : ¬ IsAbsolute t) (k : Nat) :
    b.endpoint (slashes k ++ t) = b.endpoint t := by
  rcases Nat.eq_zero_or_pos k with rfl | hk
  · simp [slashes]
  · rw [endpoint_of_not_isAbsolute b (not_isAbsolute_slash_append hk t),
      endpoint_of_not_isAbsolute b h, String.toList_append, toList_slashes,
      dropWhile_slashes_append]

/-- The endpoint of a relative target depends on the base only through its text without the
final slashes. -/
theorem endpoint_eq_of_dropTrailing_eq {b b' : BaseUrl}
    (h : dropTrailing '/' b.text = dropTrailing '/' b'.text) (t : String) :
    b.endpoint t = b'.endpoint t := by
  by_cases ht : IsAbsolute t
  · rw [endpoint_of_isAbsolute b ht, endpoint_of_isAbsolute b' ht]
  · rw [endpoint_of_not_isAbsolute b ht, endpoint_of_not_isAbsolute b' ht, h]

/-- **Joining at one slash.** An absolute target stands as it is. A relative one is the base
without its final slashes, one slash, and the target without its leading slashes, however many
there are on either side; so slashes in front of a relative target change nothing, and bases
whose texts differ only in final slashes resolve every target alike. -/
theorem endpoint_joins_at_one_slash (b : BaseUrl) (t : String) :
    (IsAbsolute t → b.endpoint t = t) ∧
    (¬ IsAbsolute t → ∀ (stem rest : String) (i j : Nat),
      b.text = stem ++ slashes i → stem.toList.getLast? ≠ some '/' →
      t = slashes j ++ rest → rest.toList.head? ≠ some '/' →
      b.endpoint t = stem ++ "/" ++ rest) ∧
    (¬ IsAbsolute t → ∀ k, b.endpoint (slashes k ++ t) = b.endpoint t) ∧
    (∀ (b' : BaseUrl) (stem : String) (i i' : Nat),
      b.text = stem ++ slashes i → b'.text = stem ++ slashes i' →
      b.endpoint t = b'.endpoint t) := by
  refine ⟨endpoint_of_isAbsolute b, ?_, endpoint_slashes_append b, ?_⟩
  · intro ht stem rest i j hb hstem htarget hrest
    have hbase : dropTrailing '/' b.text = stem := by
      rw [hb, dropTrailing_append_slashes, dropTrailing_of_getLast? hstem]
    have htrim : t.toList.dropWhile (· == '/') = rest.toList := by
      rw [htarget, String.toList_append, toList_slashes, dropWhile_slashes_append,
        dropWhile_slash_of_head? hrest]
    rw [endpoint_of_not_isAbsolute b ht, hbase, htrim, String.ofList_toList]
  · intro b' stem i i' hb hb'
    apply endpoint_eq_of_dropTrailing_eq
    rw [hb, hb', dropTrailing_append_slashes, dropTrailing_append_slashes]

/-- The base `https://api.example.com/` and the target `//api/auth/refresh/` meet at a single
slash. -/
theorem apiBase_joins_once :
    ∃ b, parse "https://api.example.com/" = .ok b ∧ ¬ IsAbsolute "//api/auth/refresh/" ∧
      b.endpoint "//api/auth/refresh/" = "https://api.example.com/api/auth/refresh/" := by
  let b : BaseUrl :=
    ⟨{ scheme := "https", host := some (.domain "api.example.com"), path := .segments [""] }⟩
  have hb : parse "https://api.example.com/" = .ok b :=
    eq_ok_of_toOption_eq_some (by decide +kernel)
  have ht : ¬ IsAbsolute "//api/auth/refresh/" := by decide
  refine ⟨b, hb, ht, (endpoint_joins_at_one_slash b _).2.1 ht "https://api.example.com"
    "api/auth/refresh/" 1 2 (by decide +kernel) (by decide) (by decide) (by decide)⟩

end BaseUrl

end BearerSession
