import BearerSession.BaseUrl

/-!
# Reading a base URL

A base URL is read from a string by `BaseUrl.parse`, and from a JSON value by `BaseUrl.ofJson`,
which reads a string the same way. This module says which strings are accepted and that a
base URL reads back from its text.

* The checks of `BaseUrl.parse` accept exactly the URLs that are `Acceptable`: they can be a
  base, and use HTTPS, or HTTP to a host that reads as `localhost`, `127.0.0.1` or `[::1]`.
  The check that a host is present never refuses anything: a URL of a special scheme always
  has a host (`Url.hostText?_of_special`), because its authority is read by `Host.parse`,
  which never gives the empty domain.
* Reading from a JSON string accepts the same strings, gives the same base URL, and fails
  with the text of the same refusal.
* A base URL whose text reads back as its URL reads back as itself, from its text and from
  its JSON form.

The main statement is `BaseUrl.readings_agree_and_round_trip`.
-/

namespace BearerSession

/-- A step of `Except` succeeds only when the first action does and the rest succeeds on its
value. -/
theorem exists_of_bind_eq_ok {ε α β : Type} {x : Except ε α} {f : α → Except ε β} {b : β}
    (h : x >>= f = .ok b) : ∃ a, x = .ok a ∧ f a = .ok b := by
  cases x with
  | error e => cases h
  | ok a => exact ⟨a, rfl, h⟩

/-- A reading whose optional value is known is that value. -/
theorem eq_ok_of_toOption_eq_some {ε α : Type} {x : Except ε α} {a : α}
    (h : x.toOption = some a) : x = .ok a := by
  cases x with
  | error e => cases h
  | ok a' =>
    cases h
    rfl

namespace Url

/-! ## Hosts of special URLs -/

/-- The host of a special scheme is never the empty domain: a bracketed host is an IPv6
address, and an empty domain is refused before it could be kept. -/
theorem Host.parse_ne_empty {t : String} {h : Host} (hp : Host.parse t = .ok h) :
    h ≠ .domain "" := by
  unfold Host.parse at hp
  dsimp only at hp
  split at hp
  · split at hp
    · obtain ⟨_, hthrow, -⟩ := exists_of_bind_eq_ok hp
      cases hthrow
    · obtain ⟨p, -, hp⟩ := exists_of_bind_eq_ok hp
      cases hp
      intro heq
      cases heq
  · split at hp
    · obtain ⟨domain, -, hp⟩ := exists_of_bind_eq_ok hp
      split at hp
      · obtain ⟨_, hthrow, -⟩ := exists_of_bind_eq_ok hp
        cases hthrow
      · -- the domain is not empty: it is read as an IPv4 address or kept as it is
        rename_i hne
        split at hp
        · obtain ⟨a, -, hp⟩ := exists_of_bind_eq_ok hp
          cases hp
          intro heq
          cases heq
        · cases hp
          intro heq
          cases heq
          exact hne rfl
    · cases hp

/-- A URL read with an authority keeps the scheme it was given, and has the host it read,
read by `Host.parse` when the scheme is special. -/
theorem authority_ok {scheme : String} {special : Bool} {cs : List Char} {u : Url}
    (hp : authority scheme special cs = .ok u) :
    u.scheme = scheme ∧ ∃ h, u.host = some h ∧ (special = true → ∃ t, Host.parse t = .ok h) := by
  unfold authority at hp
  -- the credentials, the check for an empty host, the host, two checks, the port, one check
  obtain ⟨⟨user, pass, rest⟩, -, hp⟩ := exists_of_bind_eq_ok hp
  obtain ⟨-, -, hp⟩ := exists_of_bind_eq_ok hp
  obtain ⟨host, hhost, hp⟩ := exists_of_bind_eq_ok hp
  obtain ⟨-, -, hp⟩ := exists_of_bind_eq_ok hp
  obtain ⟨⟨port, rest⟩, -, hp⟩ := exists_of_bind_eq_ok hp
  obtain ⟨-, -, hp⟩ := exists_of_bind_eq_ok hp
  split at hp
  cases hp
  refine ⟨rfl, host, rfl, fun hs => ?_⟩
  rw [if_pos hs] at hhost
  exact ⟨_, hhost⟩

/-- Every URL read after `file:` has the scheme `file`. -/
theorem fileUrl_scheme {cs : List Char} {u : Url} (hp : fileUrl cs = .ok u) :
    u.scheme = "file" := by
  unfold fileUrl at hp
  split at hp
  · dsimp only at hp
    split at hp
    · obtain ⟨_, -, hp⟩ := exists_of_bind_eq_ok hp
      cases hp
      rfl
    · unfold fileUrl.fileLocal at hp
      cases hp
      rfl
  · unfold fileUrl.fileLocal at hp
    cases hp
    rfl

/-- A URL of a special scheme has a host, one that `Host.parse` gives. The other kinds of
scheme keep the scheme they read, so only the branch of special schemes can give one. -/
theorem parse_special_host {s : String} {u : Url} (hp : parse s = .ok u)
    (hs : schemeKind u.scheme = .special) : ∃ h, u.host = some h ∧ ∃ t, Host.parse t = .ok h := by
  unfold parse at hp
  dsimp only at hp
  split at hp
  · rename_i scheme rest _
    split at hp
    · obtain ⟨-, h, hh, hparse⟩ := authority_ok hp
      exact ⟨h, hh, hparse rfl⟩
    · rw [fileUrl_scheme hp] at hs
      cases hs
    · rename_i hother
      split at hp
      · rw [(authority_ok hp).1, hother] at hs
        cases hs
      · cases hp
        rw [hother] at hs
        cases hs
      · cases hp
        rw [hother] at hs
        cases hs
  · cases hp

/-- A host other than the empty domain is written out. -/
theorem hostText?_of_host {u : Url} {h : Host} (hh : u.host = some h)
    (hne : h ≠ .domain "") : u.hostText? = some h.text := by
  unfold Url.hostText?
  rw [hh]
  split
  · rename_i heq
    cases heq
    exact absurd rfl hne
  · rename_i heq
    cases heq
    rfl
  · cases ‹some h = none›

/-- **A URL of a special scheme always has a host.** -/
theorem hostText?_of_special {s : String} {u : Url} (hp : parse s = .ok u)
    (hs : schemeKind u.scheme = .special) : ∃ t, u.hostText? = some t := by
  obtain ⟨h, hh, t, ht⟩ := parse_special_host hp hs
  exact ⟨h.text, hostText?_of_host hh (Host.parse_ne_empty ht)⟩

end Url

namespace BaseUrl

/-! ## Which URLs are accepted -/

/-- The URLs that may be a base: they can be a base, and they use HTTPS, or HTTP to a host
that reads as `localhost`, `127.0.0.1` or `[::1]`. -/
def Acceptable (u : Url) : Prop :=
  u.cannotBeABase = false ∧
    (u.scheme = "https" ∨
      u.scheme = "http" ∧
        (u.hostText? = some "localhost" ∨ u.hostText? = some "127.0.0.1" ∨
          u.hostText? = some "[::1]"))

/-- The local hosts, as the test of a base URL names them. -/
theorem isLocal_iff (u : Url) :
    isLocal u = true ↔
      (u.hostText? = some "localhost" ∨ u.hostText? = some "127.0.0.1" ∨
        u.hostText? = some "[::1]") := by
  unfold isLocal
  cases u.hostText? with
  | none => simp
  | some h => simp [or_assoc]

/-- The test of the scheme passes HTTPS, and HTTP to a local host. -/
theorem schemeCheck_eq_false_iff (scheme : String) (l : Bool) :
    (scheme != "https" && !(scheme == "http" && l)) = false ↔
      scheme = "https" ∨ scheme = "http" ∧ l = true := by
  by_cases hs : scheme = "https"
  · simp [hs]
  · cases l <;> simp [hs]

/-- An acceptable URL uses a special scheme. -/
theorem Acceptable.special {u : Url} (h : Acceptable u) :
    Url.schemeKind u.scheme = .special := by
  rcases h.2 with hs | ⟨hs, -⟩
  · rw [hs]
    rfl
  · rw [hs]
    rfl

/-- The checks pass an acceptable URL, whatever text it was read from. -/
theorem parse_of_acceptable {s : String} {u : Url} (hu : Url.parse s = .ok u)
    (ha : Acceptable u) : parse s = .ok ⟨u⟩ := by
  have hscheme : (u.scheme != "https" && !(u.scheme == "http" && isLocal u)) = false := by
    rw [schemeCheck_eq_false_iff, isLocal_iff]
    exact ha.2
  -- the host is there: the scheme is special
  have hhost : u.hostText?.isNone = false := by
    obtain ⟨t, ht⟩ := Url.hostText?_of_special hu ha.special
    rw [ht]
    rfl
  unfold parse
  simp only [hu, ha.1, hscheme, hhost, Bool.false_eq_true, if_false]

/-- What the checks pass is a URL read from the text, and acceptable. -/
theorem acceptable_of_parse {s : String} {b : BaseUrl} (hb : parse s = .ok b) :
    Url.parse s = .ok b.url ∧ Acceptable b.url := by
  unfold parse at hb
  split at hb
  · cases hb
  · rename_i url hu
    -- each check either refuses or lets the URL through
    by_cases hbase : url.cannotBeABase = true
    · rw [if_pos hbase] at hb
      cases hb
    rw [if_neg hbase] at hb
    by_cases hscheme : (url.scheme != "https" && !(url.scheme == "http" && isLocal url)) = true
    · rw [if_pos hscheme] at hb
      cases hb
    rw [if_neg hscheme] at hb
    by_cases hhost : url.hostText?.isNone = true
    · rw [if_pos hhost] at hb
      cases hb
    rw [if_neg hhost] at hb
    cases hb
    have hpass : (url.scheme != "https" && !(url.scheme == "http" && isLocal url)) = false := by
      simpa using hscheme
    rw [schemeCheck_eq_false_iff, isLocal_iff] at hpass
    exact ⟨hu, by simpa using hbase, hpass⟩

/-- **The base URLs a text reads as.** A text is accepted exactly when it reads as an
acceptable URL, and it is accepted as that URL. -/
theorem parse_eq_ok_iff {s : String} {b : BaseUrl} :
    parse s = .ok b ↔ Url.parse s = .ok b.url ∧ Acceptable b.url := by
  constructor
  · exact acceptable_of_parse
  · intro ⟨hu, ha⟩
    exact parse_of_acceptable hu ha

/-! ## Reading from JSON, and reading back -/

/-- A JSON string is accepted exactly as its text is. -/
theorem ofJson_string_eq_ok_iff {s : String} {b : BaseUrl} :
    ofJson (.string s) = .ok b ↔ parse s = .ok b := by
  simp only [ofJson]
  split
  · rename_i b' hb'
    simp [hb']
  · rename_i f hf
    simp [hf]

/-- A JSON string is refused with the text of the refusal of its text. -/
theorem ofJson_string_of_error {s : String} {f : Failure} (h : parse s = .error f) :
    ofJson (.string s) = .error { code := .custom f.message } := by
  simp only [ofJson, h]

/-- A base URL whose text reads back as its URL reads back as itself: acceptance depends on
the URL only, not on the text it was read from. -/
theorem parse_text {b : BaseUrl} (ha : Acceptable b.url) (hu : Url.parse b.text = .ok b.url) :
    parse b.text = .ok b :=
  parse_of_acceptable hu ha

/-- The JSON form of a base URL reads back as it, when its text does. -/
theorem ofJson_toJson {b : BaseUrl} (h : parse b.text = .ok b) : ofJson b.toJson = .ok b :=
  ofJson_string_eq_ok_iff.2 h

/-- **The three readings of a base URL agree, and a base URL reads back.** Reading a text
and reading it as a JSON string accept the same texts with the same base URL, and a refusal
of the one is an error with its text in the other. A text is accepted exactly when it reads
as an acceptable URL. A base URL read from any text, whose own text reads back as its URL,
reads back as itself, from its text and from its JSON form. -/
theorem readings_agree_and_round_trip (s : String) (b : BaseUrl) :
    (ofJson (.string s) = .ok b ↔ parse s = .ok b) ∧
    (∀ f, parse s = .error f → ofJson (.string s) = .error { code := .custom f.message }) ∧
    (parse s = .ok b ↔ Url.parse s = .ok b.url ∧ Acceptable b.url) ∧
    (parse s = .ok b → Url.parse b.text = .ok b.url →
      parse b.text = .ok b ∧ ofJson b.toJson = .ok b) := by
  refine ⟨ofJson_string_eq_ok_iff, fun f => ofJson_string_of_error, parse_eq_ok_iff, ?_⟩
  intro hb hu
  have hback : parse b.text = .ok b := parse_text (acceptable_of_parse hb).2 hu
  exact ⟨hback, ofJson_toJson hback⟩

/-- The base URL of a backend on the local host, over HTTP, reads back as itself. -/
theorem localBase_reads_back :
    ∃ b, parse "http://127.0.0.1:8000" = .ok b ∧ Url.parse b.text = .ok b.url ∧
      parse b.text = .ok b ∧ ofJson b.toJson = .ok b := by
  let b : BaseUrl :=
    ⟨{ scheme := "http", host := some (.ipv4 0x7F000001), port := some 8000,
       path := .segments [""] }⟩
  have hb : parse "http://127.0.0.1:8000" = .ok b := eq_ok_of_toOption_eq_some (by decide +kernel)
  have hu : Url.parse b.text = .ok b.url := eq_ok_of_toOption_eq_some (by decide +kernel)
  exact ⟨b, hb, hu, (readings_agree_and_round_trip _ b).2.2.2 hb hu⟩

end BaseUrl

end BearerSession
