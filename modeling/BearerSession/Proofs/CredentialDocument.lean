import BearerSession.Proofs.StringReading
import BearerSession.Json.Record
import BearerSession.Store.File
import Mathlib

/-!
# Reading back the credential document

The document `Saved.document` writes reads back as the pair it was written from
(`Saved.parse_document`), stamped with the instant its time text reads as; when that text does
not read as RFC 3339, the reading fails. So `FileStore.get` on a file that holds a credential
document answers that document's pair, or fails (`FileStore.get_document`): it never answers
another pair.

The reading is followed over the octets of the document (`Saved.document_octets`).
`Gives r b i v rest` says that the reader `r`, run from index `i`, gives `v` and stops where
the octets `rest` begin; `Stops` says that it fails. The two compose along `>>=`
(`Gives.bind`, `Gives.bind_stops`), so each piece of the reader (a key, the colon, a string
field, a member of an object, the closing brace) is one lemma, and the document is read by
putting the pieces together in the order of its octets.
-/

namespace BearerSession.Json.Reader

variable {α β : Type}

/-- Run from index `i`, a reader gives `v` and stops where the octets `rest` begin. -/
def Gives (r : Reader α) (b : ByteArray) (i : Nat) (v : α) (rest : List UInt8) : Prop :=
  ∃ j, runAt r b i = (.ok v, j) ∧ Ahead b j rest

/-- Run from index `i`, a reader fails. -/
def Stops (r : Reader α) (b : ByteArray) (i : Nat) : Prop :=
  ∃ e j, runAt r b i = (.error e, j)

section Logic

variable {b : ByteArray} {i : Nat} {r : Reader α} {f : α → Reader β} {a : α} {v : β}
  {mid rest : List UInt8}

theorem Gives.bind (h : Gives r b i a mid) (hf : ∀ j, Ahead b j mid → Gives (f a) b j v rest) :
    Gives (r >>= f) b i v rest := by
  obtain ⟨j, hr, hj⟩ := h
  rw [Gives, runAt_bind_ok hr]
  exact hf j hj

theorem Gives.bind_stops (h : Gives r b i a mid) (hf : ∀ j, Ahead b j mid → Stops (f a) b j) :
    Stops (r >>= f) b i := by
  obtain ⟨j, hr, hj⟩ := h
  rw [Stops, runAt_bind_ok hr]
  exact hf j hj

theorem Stops.bind (h : Stops r b i) : Stops (r >>= f) b i := by
  obtain ⟨e, j, hr⟩ := h
  exact ⟨e, j, runAt_bind_error hr⟩

theorem gives_pure (h : Ahead b i rest) : Gives (pure a : Reader α) b i a rest := ⟨i, rfl, h⟩

theorem Gives.map (h : Gives r b i a rest) (g : α → β) : Gives (g <$> r) b i (g a) rest := by
  obtain ⟨j, hr, hj⟩ := h
  exact ⟨j, by rw [runAt_map, hr]; rfl, hj⟩

theorem Stops.map (h : Stops r b i) (g : α → β) : Stops (g <$> r) b i := by
  obtain ⟨e, j, hr⟩ := h
  exact ⟨e, j, by rw [runAt_map, hr]; rfl⟩

theorem Gives.of_runAt_eq {r' : Reader α} {i' : Nat}
    (h : runAt r b i = runAt r' b i') (h' : Gives r' b i' a rest) : Gives r b i a rest := by
  rwa [Gives, h]

theorem Stops.of_runAt_eq {r' : Reader α} {i' : Nat}
    (h : runAt r b i = runAt r' b i') (h' : Stops r' b i') : Stops r b i := by
  rwa [Stops, h]

theorem Gives.fixPosition (h : Gives r b i a rest) : Gives (fixPosition r) b i a rest := by
  obtain ⟨j, hr, hj⟩ := h
  exact ⟨j, runAt_fixPosition_ok hr, hj⟩

theorem Stops.fixPosition (h : Stops r b i) : Stops (fixPosition r) b i := by
  obtain ⟨e, j, hr⟩ := h
  exact runAt_fixPosition_error hr

/-- A whole document is read by the reader and then `finish`, from index zero. -/
theorem runDocument_eq (r : Reader α) (bytes : ByteArray) :
    runDocument r bytes = (runAt (r >>= fun a => finish >>= fun _ => pure a) bytes 0).1 := rfl

end Logic

/-! ## Pieces of a member -/

section Pieces

variable {b : ByteArray} {i : Nat} {x : UInt8} {blanks rest : List UInt8}

theorem gives_eat (h : Ahead b i (x :: rest)) : Gives eat b i () rest :=
  ⟨i + 1, runAt_eat, h.tail⟩

theorem gives_whitespace (hb : ∀ x ∈ blanks, isBlank x = true)
    (hr : ∀ x ∈ rest.head?, isBlank x = false) (h : Ahead b i (blanks ++ rest)) :
    Gives whitespace b i rest.head? rest :=
  ⟨_, runAt_whitespace hb hr h, h.append⟩

theorem no_blanks : ∀ x ∈ ([] : List UInt8), isBlank x = true := by
  simp

/-! The blanks of the credential document's layout. -/

theorem blanks_space : ∀ x ∈ ([32] : List UInt8), isBlank x = true := by
  simp [isBlank]

theorem blanks_lineFeed : ∀ x ∈ ([10] : List UInt8), isBlank x = true := by
  simp [isBlank]

theorem blanks_indent : ∀ x ∈ ([10, 32, 32] : List UInt8), isBlank x = true := by
  simp [isBlank]

theorem head_not_blank {y : UInt8} (hy : isBlank y = false) :
    ∀ x ∈ (y :: rest).head?, isBlank x = false := by
  simpa using hy

/-- Looking at the next octet, with no blanks before it. -/
theorem gives_whitespace_here (hx : isBlank x = false) (h : Ahead b i (x :: rest)) :
    Gives whitespace b i (some x) (x :: rest) :=
  gives_whitespace no_blanks (head_not_blank hx) h

theorem gives_string {s : String} (h : Ahead b i (escapedOctets s.toList ++ 34 :: rest)) :
    Gives string b i s rest :=
  ⟨_, runAt_string s h, h.append.tail⟩

/-- A string literal followed by `rest`, its quotes apart. -/
theorem quote_append (s : String) (rest : List UInt8) :
    Text.Utf8.encode (quote s) ++ rest = 34 :: (escapedOctets s.toList ++ 34 :: rest) := by
  simp [encode_quote]

theorem gives_colon (h : Ahead b i (58 :: rest)) : Gives colon b i () rest := by
  unfold colon
  exact (gives_whitespace_here (by decide) h).bind fun j hj => gives_eat hj

/-- The first key of an object, after the blanks that lead to it. -/
theorem gives_nextKey_first {key : String} (hb : ∀ x ∈ blanks, isBlank x = true)
    (h : Ahead b i (blanks ++ Text.Utf8.encode (quote key) ++ rest)) :
    Gives (nextKey true) b i (some key) rest := by
  rw [List.append_assoc, quote_append] at h
  unfold nextKey
  refine (gives_whitespace hb (head_not_blank (by decide)) h).bind fun j hj => ?_
  simp only [List.head?_cons, show ((34 : UInt8) == byte '}') = false from rfl,
    show ((34 : UInt8) == byte '"') = true from rfl, Bool.false_eq_true,
    if_false, if_true, pure_bind]
  exact (gives_eat hj).bind fun j hj => (gives_string hj).bind fun j hj => gives_pure hj

/-- A later key of an object: the comma, the blanks after it, the key. -/
theorem gives_nextKey_comma {key : String} (hb : ∀ x ∈ blanks, isBlank x = true)
    (h : Ahead b i (44 :: blanks ++ Text.Utf8.encode (quote key) ++ rest)) :
    Gives (nextKey false) b i (some key) rest := by
  rw [List.append_assoc, quote_append] at h
  unfold nextKey
  refine (gives_whitespace_here (by decide) h).bind
    fun j hj => ?_
  simp only [show ((44 : UInt8) == byte '}') = false from rfl,
    show ((44 : UInt8) == byte ',') = true from rfl, Bool.not_false, Bool.and_self,
    Bool.false_eq_true, if_false, if_true]
  refine (gives_eat hj).bind fun j hj => ?_
  refine (gives_whitespace hb (head_not_blank (by decide)) hj).bind
    fun j hj => ?_
  simp only [List.head?_cons, show ((34 : UInt8) == byte '"') = true from rfl, if_true]
  exact (gives_eat hj).bind fun j hj => (gives_string hj).bind fun j hj => gives_pure hj

/-- The end of an object: blanks, then its closing brace, which is not taken. -/
theorem gives_nextKey_close {first : Bool} (hb : ∀ x ∈ blanks, isBlank x = true)
    (h : Ahead b i (blanks ++ 125 :: rest)) : Gives (nextKey first) b i none (125 :: rest) := by
  unfold nextKey
  refine (gives_whitespace hb (head_not_blank (by decide)) h).bind fun j hj => ?_
  simp only [List.head?_cons, show ((125 : UInt8) == byte '}') = true from rfl, if_true]
  exact gives_pure hj

theorem gives_stringField {s : String} (hb : ∀ x ∈ blanks, isBlank x = true)
    (h : Ahead b i (blanks ++ Text.Utf8.encode (quote s) ++ rest)) :
    Gives stringField b i s rest := by
  rw [List.append_assoc, quote_append] at h
  unfold stringField
  refine Gives.fixPosition ((gives_whitespace hb (head_not_blank (by decide)) h).bind
    fun j hj => ?_)
  simp only [List.head?_cons, show ((34 : UInt8) == byte '"') = true from rfl, if_true]
  exact (gives_eat hj).bind fun j hj => gives_string hj

theorem gives_closeObject (hb : ∀ x ∈ blanks, isBlank x = true)
    (h : Ahead b i (blanks ++ 125 :: rest)) : Gives closeObject b i () rest := by
  unfold closeObject
  refine (gives_whitespace hb (head_not_blank (by decide)) h).bind fun j hj => ?_
  simp only [List.head?_cons, show ((125 : UInt8) == byte '}') = true from rfl, if_true]
  exact gives_eat hj

theorem gives_finish (hb : ∀ x ∈ blanks, isBlank x = true) (h : Ahead b i blanks) :
    Gives finish b i () [] := by
  unfold finish
  refine (gives_whitespace hb
    (by simp : ∀ x ∈ ([] : List UInt8).head?, isBlank x = false) (by simpa using h)).bind
    fun j hj => ?_
  exact gives_pure hj

theorem gives_budget (h : Ahead b i rest) : Gives budget b i (b.size + 2) rest :=
  ⟨i, runAt_budget, h⟩

theorem gives_openContainer {depth : Nat} (hd : 1 < depth) (h : Ahead b i (x :: rest)) :
    Gives (openContainer depth) b i () rest := by
  have hdepth : ¬depth ≤ 1 := by omega
  unfold openContainer
  simp only [hdepth, if_false]
  exact gives_eat h

theorem stops_failData {code : ErrorCode} : Stops (failData code : Reader α) b i :=
  ⟨_, _, rfl⟩

end Pieces

/-! ## Objects -/

section Objects

variable {b : ByteArray} {i : Nat} {names : List String} {field : Nat → Reader α} {fuel : Nat}
  {first : Bool} {slots : Array (Option α)} {key : String} {k : Nat} {v : α}
  {mid rest : List UInt8}

/-- A member whose field is still empty: its key, the colon, then what its field reads; the
members after it are read with the field filled. -/
theorem objectFields_member (names : List String) (field : Nat → Reader α) (fuel : Nat)
    (slots : Array (Option α)) (hkey : Gives (nextKey first) b i (some key) (58 :: mid))
    (hk : fieldIndex names key = some k) (hfree : slots[k]?.bind id = none)
    (hfield : ∀ j, Ahead b j mid → Gives (field k) b j v rest) :
    ∃ j, Ahead b j rest ∧ runAt (objectFields names field (fuel + 1) first slots) b i =
      runAt (objectFields names field fuel false (slots.set! k (some v))) b j := by
  obtain ⟨j₁, hr₁, hj₁⟩ := hkey
  obtain ⟨j₂, hr₂, hj₂⟩ := gives_colon hj₁
  obtain ⟨j₃, hr₃, hj₃⟩ := hfield j₂ hj₂
  refine ⟨j₃, hj₃, ?_⟩
  rw [objectFields, runAt_bind_ok hr₁]
  simp only [hk, hfree, Option.isSome_none, Bool.false_eq_true, if_false]
  rw [runAt_bind_ok hr₂, runAt_bind_ok hr₃]

/-- A member whose field fails to read. -/
theorem Gives.objectFields_member_stops
    (hkey : Gives (nextKey first) b i (some key) (58 :: mid))
    (hk : fieldIndex names key = some k) (hfree : slots[k]?.bind id = none)
    (hfield : ∀ j, Ahead b j mid → Stops (field k) b j) :
    Stops (objectFields names field (fuel + 1) first slots) b i := by
  rw [objectFields]
  refine hkey.bind_stops fun j hj => ?_
  simp only [hk, hfree, Option.isSome_none, Bool.false_eq_true, if_false]
  exact (gives_colon hj).bind_stops fun j hj => (hfield j hj).bind

/-- The end of the members. -/
theorem Gives.objectFields_close (hkey : Gives (nextKey first) b i none rest) :
    Gives (objectFields names field (fuel + 1) first slots) b i slots rest := by
  rw [objectFields]
  exact hkey.bind fun j hj => gives_pure hj

theorem Gives.thenClose {body : Reader β} {close : Reader Unit} {a : β}
    (h : Gives body b i a mid) (hc : ∀ j, Ahead b j mid → Gives close b j () rest) :
    Gives (thenClose body close) b i a rest := by
  obtain ⟨j, hr, hj⟩ := h
  obtain ⟨k, hcr, hk⟩ := hc j hj
  refine ⟨k, ?_, hk⟩
  rw [Reader.thenClose, runAt_bind, runAt_tryCatch, runAt_map, hr]
  dsimp only [Except.map]
  rw [runAt_bind_ok hcr, runAt_pure]

theorem Stops.thenClose {body : Reader β} {close : Reader Unit} (h : Stops body b i) :
    Stops (thenClose body close) b i := by
  obtain ⟨e, j, hr⟩ := h
  -- the closing step runs and its outcome is dropped; the failure of the body is raised
  rw [Stops, Reader.thenClose, runAt_bind, runAt_tryCatch, runAt_map, hr]
  dsimp only [Except.map]
  rw [runAt_pure]
  dsimp only
  rw [runAt_bind, runAt_tryCatch, runAt_map]
  rcases runAt close b j with ⟨_ | _, k⟩ <;> exact ⟨e, _, rfl⟩

/-- The octet 123 opens an object, not an array. -/
theorem brace_beq_bracket : ((123 : UInt8) == byte '[') = false := rfl

theorem brace_beq_brace : ((123 : UInt8) == byte '{') = true := rfl

/-- An object read as a record: the opening brace, the members, the fields in order, the
closing brace. -/
theorem Gives.record_object {name : String} {depth : Nat} {out : Array (Option α)}
    {vs : List α} {mid' : List UInt8} (h : Ahead b i (123 :: mid)) (hd : 1 < depth)
    (hfields : ∀ j, Ahead b j mid → Gives (objectFields names field (b.size + 2) true
      (Array.replicate names.length none)) b j out mid')
    (hall : ∀ j, Ahead b j mid' → Gives (requireAll names out) b j vs mid')
    (hclose : ∀ j, Ahead b j mid' → Gives closeObject b j () rest) :
    Gives (record name names field depth) b i vs rest := by
  unfold record
  refine Gives.fixPosition ((gives_whitespace_here (by decide) h).bind fun j hj => ?_)
  simp only [brace_beq_bracket, brace_beq_brace, Bool.false_eq_true, if_false, if_true]
  refine (gives_openContainer hd hj).bind fun j hj => Gives.thenClose ?_ hclose
  exact (gives_budget hj).bind fun j hj => (hfields j hj).bind hall

theorem Stops.record_object {name : String} {depth : Nat} (h : Ahead b i (123 :: mid))
    (hd : 1 < depth)
    (hfields : ∀ j, Ahead b j mid → Stops (objectFields names field (b.size + 2) true
      (Array.replicate names.length none)) b j) :
    Stops (record name names field depth) b i := by
  unfold record
  refine Stops.fixPosition ((gives_whitespace_here (by decide) h).bind_stops fun j hj => ?_)
  simp only [brace_beq_bracket, brace_beq_brace, Bool.false_eq_true, if_false, if_true]
  refine (gives_openContainer hd hj).bind_stops fun j hj => Stops.thenClose ?_
  exact (gives_budget hj).bind_stops fun j hj => (hfields j hj).bind

end Objects

/-! ## Whole documents -/

section Documents

variable {b : ByteArray} {v : α}

/-- A reader that takes the document up to its last octet gives its value as the reading. -/
theorem Gives.runDocument_ok {r : Reader α} (h : Gives r b 0 v []) :
    runDocument r b = .ok v := by
  have hdoc : Gives (r >>= fun a => finish >>= fun _ => pure a) b 0 v [] :=
    h.bind fun j hj => (gives_finish no_blanks hj).bind fun j hj => gives_pure hj
  obtain ⟨j, hr, -⟩ := hdoc
  rw [runDocument_eq, hr]

/-- A reader that stops makes the reading of the whole document fail. -/
theorem Stops.runDocument_fails {r : Reader α} (h : Stops r b 0) :
    ∃ e, runDocument r b = .error e := by
  have hdoc : Stops (r >>= fun a => finish >>= fun _ => pure a) b 0 := h.bind
  obtain ⟨e, j, hr⟩ := hdoc
  exact ⟨e, by rw [runDocument_eq, hr]⟩

end Documents

end BearerSession.Json.Reader

namespace BearerSession

namespace Saved

open Json Json.Reader

/-- The text of the credential document: a brace, the three members on lines of their own
indented by two blanks, a brace. -/
theorem document_eq (sv : Saved) :
    document sv = "\x7b\n  " ++ quote "access_token" ++ ": " ++ quote sv.pair.access.value ++
      ",\n  " ++ quote "refresh_token" ++ ": " ++ quote sv.pair.refresh.value ++ ",\n  " ++
      quote "saved_at" ++ ": " ++ quote sv.savedAt.text ++ "\n\x7d" := by
  have h1 : indentText 1 = "  " := by cbv
  have h0 : indentText 0 = "" := by cbv
  simp only [document, toJson, Value.pretty, Value.prettyAt, Value.prettyFields, Value.compact, h1,
    h0, String.append_assoc, String.append_empty]
  rfl

/-- The octets of one member: the separator `sep`, the key, a colon and a blank, the value. -/
abbrev memberOctets (sep : List UInt8) (key value : String) (rest : List UInt8) : List UInt8 :=
  sep ++ Text.Utf8.encode (quote key) ++ 58 :: ([32] ++ Text.Utf8.encode (quote value) ++ rest)

/-- The octets of the credential document after its opening brace. -/
abbrev memberOctetsOf (sv : Saved) : List UInt8 :=
  memberOctets [10, 32, 32] "access_token" sv.pair.access.value <|
    memberOctets [44, 10, 32, 32] "refresh_token" sv.pair.refresh.value <|
      memberOctets [44, 10, 32, 32] "saved_at" sv.savedAt.text [10, 125]

/-- The octets of the credential document: a brace, three members, a line feed and a brace. -/
theorem document_octets (sv : Saved) :
    Text.Utf8.encode (document sv) = 123 :: memberOctetsOf sv := by
  have hopen : Text.Utf8.encode "\x7b\n  " = [123, 10, 32, 32] := by cbv
  have hcolon : Text.Utf8.encode ": " = [58, 32] := by cbv
  have hcomma : Text.Utf8.encode ",\n  " = [44, 10, 32, 32] := by cbv
  have hclose : Text.Utf8.encode "\n\x7d" = [10, 125] := by cbv
  rw [document_eq]
  simp only [Text.Utf8.encode_append, hopen, hcolon, hcomma, hclose]
  simp

/-- The written document, read from its first octet. -/
theorem ahead_document (sv : Saved) : Ahead (document sv).toUTF8 0 (123 :: memberOctetsOf sv) := by
  rw [← document_octets, Text.Utf8.encode, Text.Utf8.toList_eq_data_toList]
  exact ahead_zero _

/-- How `reader` reads field `k` of the document: the two tokens as strings, then the
instant. -/
abbrev fieldReader : Nat → Reader SavedField :=
  fun i => if i < 2 then SavedField.token <$> stringField else SavedField.instant <$> instantField

/-- The names of the fields, in the order `reader` asks for them. -/
abbrev fieldNames : List String := ["access_token", "refresh_token", "saved_at"]

section Reading

variable {b : ByteArray} {i : Nat} {s : String} {rest : List UInt8}

theorem gives_token {k : Nat} (hk : k < 2)
    (h : Ahead b i ([32] ++ Text.Utf8.encode (quote s) ++ rest)) :
    Gives (fieldReader k) b i (.token s) rest := by
  simp only [fieldReader, hk, if_true]
  exact (gives_stringField blanks_space h).map _

/-- The instant after its blank, when its text reads as RFC 3339. -/
theorem gives_instantField {t : Clock.Instant} (ht : Clock.Rfc3339.read s = .ok t)
    (h : Ahead b i ([32] ++ Text.Utf8.encode (quote s) ++ rest)) :
    Gives instantField b i t rest := by
  rw [List.append_assoc, quote_append] at h
  unfold instantField
  refine Gives.fixPosition ((gives_whitespace blanks_space (head_not_blank (by decide)) h).bind
    fun j hj => ?_)
  simp only [List.head?_cons, show ((34 : UInt8) == byte '"') = true from rfl, if_true]
  refine (gives_eat hj).bind fun j hj => (gives_string hj).bind fun j hj => ?_
  simp only [ht]
  exact gives_pure hj

/-- The instant after its blank, when its text does not read as RFC 3339. -/
theorem stops_instantField {e : Clock.ReadError} (ht : Clock.Rfc3339.read s = .error e)
    (h : Ahead b i ([32] ++ Text.Utf8.encode (quote s) ++ rest)) :
    Stops instantField b i := by
  rw [List.append_assoc, quote_append] at h
  unfold instantField
  refine Stops.fixPosition ((gives_whitespace blanks_space (head_not_blank (by decide))
    h).bind_stops
    fun j hj => ?_)
  simp only [List.head?_cons, show ((34 : UInt8) == byte '"') = true from rfl, if_true]
  refine (gives_eat hj).bind_stops fun j hj => (gives_string hj).bind_stops fun j hj => ?_
  simp only [ht]
  exact stops_failData

theorem gives_instant {t : Clock.Instant} (ht : Clock.Rfc3339.read s = .ok t)
    (h : Ahead b i ([32] ++ Text.Utf8.encode (quote s) ++ rest)) :
    Gives (fieldReader 2) b i (.instant t) rest := by
  simp only [fieldReader, show ¬(2 < 2) by decide, if_false]
  exact (gives_instantField ht h).map _

theorem stops_instant {e : Clock.ReadError} (ht : Clock.Rfc3339.read s = .error e)
    (h : Ahead b i ([32] ++ Text.Utf8.encode (quote s) ++ rest)) :
    Stops (fieldReader 2) b i := by
  simp only [fieldReader, show ¬(2 < 2) by decide, if_false]
  exact (stops_instantField ht h).map _

/-- The fields once the two tokens are read. -/
abbrev tokenSlots (sv : Saved) : Array (Option SavedField) :=
  ((Array.replicate 3 none).set! 0 (some (.token sv.pair.access.value))).set! 1
    (some (.token sv.pair.refresh.value))

/-- The first two members of the document, the tokens, fill the first two fields. -/
theorem objectFields_tokens (sv : Saved) (fuel : Nat)
    (h : Ahead b i (memberOctets [10, 32, 32] "access_token" sv.pair.access.value <|
      memberOctets [44, 10, 32, 32] "refresh_token" sv.pair.refresh.value rest)) :
    ∃ j, Ahead b j rest ∧
      runAt (objectFields fieldNames fieldReader (fuel + 2) true (Array.replicate 3 none)) b i =
        runAt (objectFields fieldNames fieldReader fuel false (tokenSlots sv)) b j := by
  obtain ⟨j, hj, hrun⟩ := objectFields_member fieldNames fieldReader (fuel + 1)
    (Array.replicate 3 none) (gives_nextKey_first blanks_indent h) rfl rfl
    fun j hj => gives_token (by decide) hj
  obtain ⟨j', hj', hrun'⟩ := objectFields_member fieldNames fieldReader fuel
    ((Array.replicate 3 none).set! 0 (some (.token sv.pair.access.value)))
    (gives_nextKey_comma blanks_indent hj) rfl rfl fun j hj => gives_token (by decide) hj
  exact ⟨j', hj', hrun.trans hrun'⟩

/-- The three members fill the three fields, when the time text reads. -/
theorem objectFields_document (sv : Saved) {t : Clock.Instant}
    (ht : Clock.Rfc3339.read sv.savedAt.text = .ok t) (fuel : Nat)
    (h : Ahead b i (memberOctetsOf sv)) :
    Gives (objectFields fieldNames fieldReader (fuel + 1 + 1 + 2) true (Array.replicate 3 none))
      b i ((tokenSlots sv).set! 2 (some (.instant t))) [125] := by
  obtain ⟨j, hj, hrun⟩ := objectFields_tokens sv (fuel + 1 + 1) h
  obtain ⟨j', hj', hrun'⟩ := objectFields_member fieldNames fieldReader (fuel + 1)
    (tokenSlots sv)
    (gives_nextKey_comma blanks_indent hj) (rfl : fieldIndex fieldNames "saved_at" = some 2) rfl
    fun j hj => gives_instant ht hj
  exact Gives.of_runAt_eq (hrun.trans hrun') (Gives.objectFields_close
    (gives_nextKey_close blanks_lineFeed hj'))

/-- The third member fails when the time text does not read. -/
theorem objectFields_document_stops (sv : Saved) {e : Clock.ReadError}
    (ht : Clock.Rfc3339.read sv.savedAt.text = .error e) (fuel : Nat)
    (h : Ahead b i (memberOctetsOf sv)) :
    Stops (objectFields fieldNames fieldReader (fuel + 1 + 1 + 2) true (Array.replicate 3 none))
      b i := by
  obtain ⟨j, hj, hrun⟩ := objectFields_tokens sv (fuel + 1 + 1) h
  exact Stops.of_runAt_eq hrun (Gives.objectFields_member_stops
    (gives_nextKey_comma blanks_indent hj) rfl rfl fun j hj => stops_instant ht hj)

/-- The credential document reads back as the pair it was written from, with the instant its
time text reads as; a time text that does not read makes the whole reading fail. -/
theorem parse_document (sv : Saved) :
    (parse (document sv).toUTF8).toOption =
      (Clock.Rfc3339.read sv.savedAt.text).toOption.map fun t => ⟨sv.pair, t⟩ := by
  have h₀ := ahead_document sv
  have hsize := h₀.length_le
  obtain ⟨fuel, hfuel⟩ : ∃ fuel, (document sv).toUTF8.size + 2 = fuel + 1 + 1 + 2 :=
    ⟨(document sv).toUTF8.size - 2, by
      simp only [List.length_cons, List.length_append] at hsize
      omega⟩
  rw [parse]
  cases ht : Clock.Rfc3339.read sv.savedAt.text with
  | error e =>
    have hrec : Stops (record "StoredCredentials" fieldNames fieldReader maxDepth)
        (document sv).toUTF8 0 :=
      Stops.record_object h₀ (by decide) fun j hj => by
        rw [hfuel]
        exact objectFields_document_stops sv ht fuel hj
    have hread : Stops reader (document sv).toUTF8 0 := by
      unfold reader
      exact hrec.bind
    obtain ⟨e', he'⟩ := hread.runDocument_fails
    rw [he']
    rfl
  | ok t =>
    have hrec : Gives (record "StoredCredentials" fieldNames fieldReader maxDepth)
        (document sv).toUTF8 0
        [.token sv.pair.access.value, .token sv.pair.refresh.value, .instant t] [] :=
      Gives.record_object h₀ (by decide) (fun j hj => by
          rw [hfuel]
          exact objectFields_document sv ht fuel hj)
        (fun j hj => ⟨j, rfl, hj⟩) fun j hj => gives_closeObject no_blanks hj
    have hread : Gives reader (document sv).toUTF8 0 ⟨sv.pair, t⟩ [] := by
      unfold reader
      exact hrec.bind fun j hj => gives_pure hj
    rw [hread.runDocument_ok]
    rfl

end Reading

end Saved

namespace FileStore

variable {σ : Type} {fs : Disk.FileSystem σ} {s : FileStore} {st : σ}

/-- A file that holds a credential document answers `get` with its pair, or with a failure
when its time text does not read. -/
theorem get_document {sv : Saved} (h : fs.read s.path st = .ok (Saved.document sv).toUTF8) :
    (s.get fs st).toOption =
      (Clock.Rfc3339.read sv.savedAt.text).toOption.map fun _ => some sv.pair := by
  -- the pair is read off the reading of the document
  have hpair : (Clock.Rfc3339.read sv.savedAt.text).toOption.map (fun _ => some sv.pair) =
      ((Clock.Rfc3339.read sv.savedAt.text).toOption.map fun t => (⟨sv.pair, t⟩ : Saved)).map
        fun saved => some saved.pair := by
    rw [Option.map_map]
    rfl
  rw [hpair, ← Saved.parse_document sv]
  unfold get load
  rw [h]
  dsimp only
  rw [Text.Utf8.decode?_toUTF8]
  dsimp only
  cases Saved.parse (Saved.document sv).toUTF8 <;> rfl

end FileStore

end BearerSession
