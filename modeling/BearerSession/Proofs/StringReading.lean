import BearerSession.Json.Cursor
import BearerSession.Json.Print
import BearerSession.Proofs.Utf8RoundTrip
import Mathlib

/-!
# Reading back a written string

A reader is run from an index of the input (`runAt`), and what the input holds from an index
on is stated as a list (`Ahead`), so that a reading is described by the octets it takes. Every
lemma about a piece of the reader has that shape: from octets of a known form, the piece gives
a value and stops at a known index.

The main result is `runAt_string`: a string written by `quote` reads back as its text. The
writer gives each character one of three forms (`escapeChar_octets`): a one-letter escape,
a `\u` escape with four hexadecimal digits for the other control characters, or the
character's own UTF-8 octets, none of which is a control character, quote or backslash. The
reader turns each form back into the character's octets, one step of its loop for an escape
and one per octet otherwise (`runAt_stringOctets_char`), so its budget of one step per input
octet is enough; the octets gathered are the text's UTF-8, which the strict decoder accepts.
-/

namespace BearerSession.Json.Reader

variable {α β : Type}

/-- What a reader gives from index `i` of `bytes`: its value or error, and the index reached. -/
def runAt (r : Reader α) (bytes : ByteArray) (i : Nat) : Except DecodeError α × Nat :=
  ((r.run bytes).run).run i

section Run

variable {b : ByteArray} {i j : Nat}

theorem runAt_pure (a : α) : runAt (pure a) b i = (.ok a, i) := rfl

theorem runAt_bind (r : Reader α) (f : α → Reader β) :
    runAt (r >>= f) b i =
      match runAt r b i with
      | (.ok a, j) => runAt (f a) b j
      | (.error e, j) => (.error e, j) := by
  unfold runAt
  rcases h : r b i with ⟨_ | a, j⟩ <;>
    simp [bind, ReaderT.bind, ExceptT.bind, StateT.bind, ExceptT.bindCont, ExceptT.run,
      ReaderT.run, StateT.run, ExceptT.mk, h, pure, StateT.pure]

theorem runAt_bind_ok {r : Reader α} {f : α → Reader β} {a : α} (h : runAt r b i = (.ok a, j)) :
    runAt (r >>= f) b i = runAt (f a) b j := by
  rw [runAt_bind, h]

theorem runAt_bind_error {r : Reader α} {f : α → Reader β} {e : DecodeError}
    (h : runAt r b i = (.error e, j)) : runAt (r >>= f) b i = (.error e, j) := by
  rw [runAt_bind, h]

theorem runAt_map (f : α → β) (r : Reader α) :
    runAt (f <$> r) b i = ((runAt r b i).1.map f, (runAt r b i).2) := by
  unfold runAt
  rcases h : r b i with ⟨_ | a, j⟩ <;>
    simp [Functor.map, ExceptT.map, ExceptT.run, ReaderT.run, StateT.run, ExceptT.mk, h, Except.map,
      StateT.bind, bind, pure, StateT.pure]

theorem runAt_tryCatch (r : Reader α) (handle : DecodeError → Reader α) :
    runAt (tryCatch r handle) b i =
      match runAt r b i with
      | (.ok a, j) => (.ok a, j)
      | (.error e, j) => runAt (handle e) b j := by
  unfold runAt
  rcases h : r b i with ⟨_ | a, j⟩ <;>
    simp [tryCatch, tryCatchThe, MonadExceptOf.tryCatch, ExceptT.tryCatch, ExceptT.run, ReaderT.run,
      StateT.run, ExceptT.mk, h, StateT.bind, bind, pure, StateT.pure]

theorem runAt_throw (e : DecodeError) : runAt (throw e : Reader α) b i = (.error e, i) := rfl

theorem runAt_read : runAt (read : Reader ByteArray) b i = (.ok b, i) := rfl

theorem runAt_get : runAt (get : Reader Nat) b i = (.ok i, i) := rfl

theorem runAt_set (k : Nat) : runAt (set k : Reader PUnit) b i = (.ok ⟨⟩, k) := rfl

theorem runAt_peek : runAt peek b i = (.ok b[i]?, i) := rfl

theorem runAt_eat : runAt eat b i = (.ok (), i + 1) := rfl

theorem runAt_fixPosition_ok {r : Reader α} {a : α} (h : runAt r b i = (.ok a, j)) :
    runAt (fixPosition r) b i = (.ok a, j) := by
  rw [fixPosition, runAt_tryCatch, h]

theorem runAt_fixPosition_error {r : Reader α} {e : DecodeError} (h : runAt r b i = (.error e, j)) :
    ∃ e' k, runAt (fixPosition r) b i = (.error e', k) := by
  rw [fixPosition, runAt_tryCatch, h]
  dsimp only
  cases e.position with
  | some _ => exact ⟨e, j, runAt_throw e⟩
  | none => exact ⟨_, _, rfl⟩

end Run

/-! ## The octets ahead -/

/-- From index `i` on, `bytes` holds the octets `rest`. -/
def Ahead (bytes : ByteArray) (i : Nat) (rest : List UInt8) : Prop :=
  bytes.data.toList.drop i = rest

section Ahead

variable {b : ByteArray} {i : Nat} {x : UInt8} {l rest : List UInt8}

theorem ahead_zero (b : ByteArray) : Ahead b 0 b.data.toList := rfl

theorem getElem?_data (b : ByteArray) (i : Nat) : b[i]? = b.data[i]? := by
  by_cases h : i < b.size
  · rw [getElem?_pos b i h, getElem?_pos b.data i h]
    rfl
  · rw [getElem?_neg b i h, getElem?_neg b.data i h]

theorem Ahead.getElem?_add (h : Ahead b i rest) (k : Nat) : b[i + k]? = rest[k]? := by
  unfold Ahead at h
  rw [← h, List.getElem?_drop, getElem?_data, Array.getElem?_toList]

theorem Ahead.getElem? (h : Ahead b i rest) : b[i]? = rest.head? := by
  rw [List.head?_eq_getElem?, ← h.getElem?_add 0, Nat.add_zero]

theorem Ahead.tail (h : Ahead b i (x :: rest)) : Ahead b (i + 1) rest := by
  unfold Ahead at *
  rw [← List.drop_drop, h, List.drop_one, List.tail_cons]

theorem Ahead.append (h : Ahead b i (l ++ rest)) : Ahead b (i + l.length) rest := by
  unfold Ahead at *
  rw [← List.drop_drop, h, List.drop_left]

theorem Ahead.length_le (h : Ahead b i rest) : rest.length ≤ b.size := by
  unfold Ahead at h
  rw [← h, List.length_drop]
  simp

theorem Ahead.runAt_peek (h : Ahead b i rest) : runAt peek b i = (.ok rest.head?, i) := by
  rw [Reader.runAt_peek, h.getElem?]

theorem Ahead.runAt_next (h : Ahead b i (x :: rest)) : runAt next b i = (.ok (some x), i + 1) := by
  rw [next, runAt_bind_ok h.runAt_peek, List.head?_cons]
  simp only [Option.isSome_some, if_true]
  rw [runAt_bind_ok runAt_eat, runAt_pure]

theorem runAt_budget : runAt budget b i = (.ok (b.size + 2), i) := rfl

end Ahead

/-! ## Blanks -/

/-- The octets that `skipBlanks` passes over: space, line feed, tab and carriage return. -/
def isBlank (x : UInt8) : Bool := x == 32 || x == 10 || x == 9 || x == 13

section Blanks

variable {b : ByteArray} {i : Nat} {blanks rest : List UInt8}

/-- Skipping a run of blanks stops at the first other octet, or at the end. -/
theorem runAt_skipBlanks {fuel : Nat} (hb : ∀ x ∈ blanks, isBlank x = true)
    (hr : ∀ x ∈ rest.head?, isBlank x = false) (hf : blanks.length ≤ fuel)
    (h : Ahead b i (blanks ++ rest)) :
    runAt (skipBlanks fuel) b i = (.ok rest.head?, i + blanks.length) := by
  induction blanks generalizing i fuel with
  | nil =>
    cases fuel with
    | zero => exact h.runAt_peek
    | succ fuel =>
      rw [skipBlanks, runAt_bind_ok h.runAt_peek]
      cases rest with
      | nil => rfl
      | cons x rest =>
        have hx : isBlank x = false := hr x rfl
        simp only [isBlank] at hx
        simp [hx, runAt_pure]
  | cons x blanks ih =>
    obtain ⟨fuel, rfl⟩ : ∃ k, fuel = k + 1 := ⟨fuel - 1, by simp at hf; omega⟩
    have hx : isBlank x = true := hb x (by simp)
    simp only [isBlank] at hx
    rw [skipBlanks, runAt_bind_ok h.runAt_peek]
    simp only [List.cons_append, List.head?_cons, hx, if_true]
    rw [runAt_bind_ok runAt_eat, ih (fun y hy => hb y (by simp [hy])) (by simp at hf; omega) h.tail]
    simp only [List.length_cons]
    congr 1
    omega

theorem runAt_whitespace (hb : ∀ x ∈ blanks, isBlank x = true)
    (hr : ∀ x ∈ rest.head?, isBlank x = false) (h : Ahead b i (blanks ++ rest)) :
    runAt whitespace b i = (.ok rest.head?, i + blanks.length) := by
  have hlen := h.length_le
  rw [List.length_append] at hlen
  rw [whitespace, runAt_bind_ok runAt_budget, runAt_skipBlanks hb hr (by omega) h]

end Blanks

/-! ## What a string literal holds -/

/-- The one-letter escapes that `escapeChar` writes: the letter after the backslash and the
octet it stands for. -/
def letterEscapes : List (UInt8 × UInt8) :=
  [(34, 34), (92, 92), (98, 8), (102, 12), (110, 10), (114, 13), (116, 9)]

/-- An octet that stands for itself inside a string: no control character, quote or
backslash. -/
def Plain (x : UInt8) : Prop := 0x20 ≤ x.toNat ∧ x.toNat ≠ 34 ∧ x.toNat ≠ 92

/-- The octets between the quotes of a string literal with the characters `l`. -/
def escapedOctets (l : List Char) : List UInt8 :=
  l.flatMap fun c => Text.Utf8.encode (escapeChar c)

theorem encode_join (l : List String) :
    Text.Utf8.encode (String.join l) = l.flatMap Text.Utf8.encode := by
  induction l with
  | nil => simp [Text.Utf8.encode_eq_flatMap]
  | cons s l ih => rw [String.join_cons, Text.Utf8.encode_append, ih, List.flatMap_cons]

/-- A string literal is its escaped octets between two quotes. -/
theorem encode_quote (s : String) :
    Text.Utf8.encode (quote s) = 34 :: escapedOctets s.toList ++ [34] := by
  have hq : Text.Utf8.encode "\"" = [34] := by cbv
  rw [quote, Text.Utf8.encode_append, Text.Utf8.encode_append, encode_join, hq]
  simp [escapedOctets, List.flatMap_map]

open Text.Utf8 in
theorem encode_toString (c : Char) : encode c.toString = String.utf8EncodeChar c := by
  simp [encode_eq_flatMap]

open Text.Utf8 in
/-- The octets of a character other than a control character, a quote or a backslash are
plain: one ASCII octet, or octets from `0x80` on. -/
theorem utf8EncodeChar_plain {c : Char} (hq : c ≠ '"') (hb : c ≠ '\\') (hc : ¬c.toNat < 0x20) :
    ∀ x ∈ String.utf8EncodeChar c, Plain x := by
  have hq' : c.toNat ≠ 34 := fun h => hq (Char.toNat_inj.1 h)
  have hb' : c.toNat ≠ 92 := fun h => hb (Char.toNat_inj.1 h)
  have hcv : c.toNat = c.val.toNat := rfl
  unfold String.utf8EncodeChar
  dsimp only
  split_ifs with h₁ h₂ h₃ <;> simp only [List.mem_cons, List.not_mem_nil, or_false] <;>
    rintro x hx <;> rcases hx with rfl | rfl | rfl | rfl <;>
    first
    | (rw [Plain, toNat_ofNat_of_lt (by omega)]; omega)

/-- What `escapeChar` writes for a character: a one-letter escape, a `\u` escape of a
control character, or the character's own octets. -/
theorem escapeChar_octets (c : Char) :
    (∃ x y, (x, y) ∈ letterEscapes ∧ Text.Utf8.encode (escapeChar c) = [92, x] ∧
        String.utf8EncodeChar c = [y]) ∨
      (c.toNat < 0x20 ∧
        Text.Utf8.encode (escapeChar c) = 92 :: 117 :: Text.Utf8.encode (hex4 c.toNat)) ∨
      (Text.Utf8.encode (escapeChar c) = String.utf8EncodeChar c ∧
        ∀ x ∈ String.utf8EncodeChar c, Plain x) := by
  unfold escapeChar
  split_ifs with h₁ h₂ h₃ h₄ h₅ h₆ h₇ h₈
  · subst h₁
    exact .inl ⟨34, 34, by simp [letterEscapes], by cbv, by decide⟩
  · subst h₂
    exact .inl ⟨92, 92, by simp [letterEscapes], by cbv, by decide⟩
  · subst h₃
    exact .inl ⟨98, 8, by simp [letterEscapes], by cbv, by decide⟩
  · subst h₄
    exact .inl ⟨102, 12, by simp [letterEscapes], by cbv, by decide⟩
  · subst h₅
    exact .inl ⟨110, 10, by simp [letterEscapes], by cbv, by decide⟩
  · subst h₆
    exact .inl ⟨114, 13, by simp [letterEscapes], by cbv, by decide⟩
  · subst h₇
    exact .inl ⟨116, 9, by simp [letterEscapes], by cbv, by decide⟩
  · have hu : Text.Utf8.encode "\\u" = [92, 117] := by cbv
    exact .inr (.inl ⟨h₈, by rw [Text.Utf8.encode_append, hu]; rfl⟩)
  · exact .inr (.inr ⟨encode_toString c, utf8EncodeChar_plain h₁ h₂ h₈⟩)

theorem hex4_octets {n : Nat} (hn : n < 0x20) :
    ∃ d₀ d₁ d₂ d₃, Text.Utf8.encode (hex4 n) = [d₀, d₁, d₂, d₃] ∧ hexValue d₀ = some 0 ∧
      hexValue d₁ = some 0 ∧ hexValue d₂ = some (n / 16) ∧ hexValue d₃ = some (n % 16) := by
  -- the thirty-two cases are checked by evaluation
  have key : ∀ m : Fin 0x20, ((List.replicate (4 - (Nat.toDigits 16 m.val).length) '0' ++
      Nat.toDigits 16 m.val).flatMap String.utf8EncodeChar).map hexValue =
        [some 0, some 0, some (m.val / 16), some (m.val % 16)] := by
    decide
  have hm := key ⟨n, hn⟩
  rw [hex4, Text.Utf8.encode_eq_flatMap, String.toList_ofList]
  simp only [List.map_eq_cons_iff, List.map_eq_nil_iff] at hm
  obtain ⟨d₀, _, hl, h₀, d₁, _, rfl, h₁, d₂, _, rfl, h₂, d₃, _, rfl, h₃, rfl⟩ := hm
  exact ⟨d₀, d₁, d₂, d₃, hl, h₀, h₁, h₂, h₃⟩

section Strings

variable {b : ByteArray} {i : Nat} {rest : List UInt8} {scratch : Array UInt8}

theorem runAt_escape_letter {x y : UInt8} (hxy : (x, y) ∈ letterEscapes)
    (h : Ahead b i (x :: rest)) : runAt (escape scratch) b i = (.ok (scratch.push y), i + 1) := by
  rw [escape, runAt_bind_ok h.runAt_next]
  simp only [letterEscapes, List.mem_cons, Prod.mk.injEq, List.not_mem_nil, or_false] at hxy
  rcases hxy with ⟨rfl, rfl⟩ | ⟨rfl, rfl⟩ | ⟨rfl, rfl⟩ | ⟨rfl, rfl⟩ | ⟨rfl, rfl⟩ | ⟨rfl, rfl⟩ |
    ⟨rfl, rfl⟩ <;> rfl

theorem runAt_hexEscape {n : Nat} (hn : n < 0x20)
    (h : Ahead b i (Text.Utf8.encode (hex4 n) ++ rest)) : runAt hexEscape b i = (.ok n, i + 4) := by
  obtain ⟨d₀, d₁, d₂, d₃, henc, h₀, h₁, h₂, h₃⟩ := hex4_octets hn
  rw [henc] at h
  simp only [hexEscape, runAt_bind, runAt_read, runAt_get, h.getElem?, h.getElem?_add]
  simp [h₀, h₁, h₂, h₃, runAt_map, runAt_set, Except.map]
  omega

theorem encodePoint_toNat (c : Char) : encodePoint c.toNat = String.utf8EncodeChar c := by
  rw [encodePoint, Char.ofNat_toNat, encode_toString]

theorem runAt_unicodeEscape_control {c : Char} (hc : c.toNat < 0x20)
    (h : Ahead b i (Text.Utf8.encode (hex4 c.toNat) ++ rest)) :
    runAt (unicodeEscape scratch) b i =
      (.ok (scratch ++ (String.utf8EncodeChar c).toArray), i + 4) := by
  have hlow : (0xDC00 ≤ c.toNat && c.toNat ≤ 0xDFFF) = false := by
    simp only [Bool.and_eq_false_iff, decide_eq_false_iff_not]
    omega
  have hplain : (c.toNat < 0xD800 || c.toNat > 0xDBFF) = true := by
    simp only [Bool.or_eq_true, decide_eq_true_eq]
    omega
  rw [unicodeEscape, runAt_bind_ok (runAt_hexEscape hc h)]
  simp [hlow, hplain, runAt_pure, encodePoint_toNat]

theorem runAt_stringOctets_plain {l : List UInt8} (hl : ∀ x ∈ l, Plain x)
    (h : Ahead b i (l ++ rest)) (fuel : Nat) :
    runAt (stringOctets (fuel + l.length) scratch) b i =
      runAt (stringOctets fuel (scratch ++ l.toArray)) b (i + l.length) := by
  induction l generalizing i scratch with
  | nil => simp
  | cons x l ih =>
    obtain ⟨hx₁, hx₂, hx₃⟩ := hl x (by simp)
    have hq : (x == byte '"') = false := by
      rw [beq_eq_false_iff_ne]
      rintro rfl
      exact hx₂ rfl
    have hb : (x == byte '\\') = false := by
      rw [beq_eq_false_iff_ne]
      rintro rfl
      exact hx₃ rfl
    have hc : ¬x < 0x20 := by
      rw [UInt8.lt_iff_toNat_lt]
      simpa using hx₁
    rw [List.length_cons, ← Nat.add_assoc, stringOctets]
    simp only [runAt_bind, runAt_get, h.runAt_peek, List.cons_append, List.head?_cons, hq, hb, hc,
      runAt_eat, Bool.false_eq_true, if_false]
    have harr : scratch.push x ++ l.toArray = scratch ++ (x :: l).toArray := by simp
    rw [ih (fun y hy => hl y (by simp [hy])) h.tail, harr, Nat.add_right_comm, Nat.add_assoc]

/-- A backslash: the escape after it is read, then the loop goes on with what it added. -/
theorem runAt_stringOctets_backslash {scratch' : Array UInt8} {j : Nat}
    (h : Ahead b i (92 :: rest)) (hesc : runAt (escape scratch) b (i + 1) = (.ok scratch', j))
    (fuel : Nat) :
    runAt (stringOctets (fuel + 1) scratch) b i = runAt (stringOctets fuel scratch') b j := by
  rw [stringOctets]
  simp only [runAt_bind, runAt_get, h.runAt_peek, List.head?_cons]
  simp only [show ((92 : UInt8) == byte '"') = false from rfl,
    show ((92 : UInt8) == byte '\\') = true from rfl, Bool.false_eq_true, if_false, if_true]
  rw [runAt_bind_ok runAt_eat, runAt_bind_ok hesc]

theorem runAt_stringOctets_letter {x y : UInt8} (hxy : (x, y) ∈ letterEscapes)
    (h : Ahead b i (92 :: x :: rest)) (fuel : Nat) :
    runAt (stringOctets (fuel + 1) scratch) b i =
      runAt (stringOctets fuel (scratch.push y)) b (i + 2) :=
  runAt_stringOctets_backslash h (runAt_escape_letter hxy h.tail) fuel

theorem runAt_stringOctets_control {c : Char} (hc : c.toNat < 0x20)
    (h : Ahead b i (92 :: 117 :: Text.Utf8.encode (hex4 c.toNat) ++ rest)) (fuel : Nat) :
    runAt (stringOctets (fuel + 1) scratch) b i =
      runAt (stringOctets fuel (scratch ++ (String.utf8EncodeChar c).toArray)) b (i + 6) := by
  have hu : runAt (escape scratch) b (i + 1) =
      (.ok (scratch ++ (String.utf8EncodeChar c).toArray), i + 6) := by
    rw [escape, runAt_bind_ok h.tail.runAt_next]
    simp only [show ((117 : UInt8) == byte 'u') = true from rfl]
    exact runAt_unicodeEscape_control hc h.tail.tail
  exact runAt_stringOctets_backslash h hu fuel

/-- Reading one written character: its octets, from whichever form `escapeChar` gave it, are
added to the octets read, using at most as many steps as octets were taken. -/
theorem runAt_stringOctets_char (c : Char) (fuel : Nat) (scratch : Array UInt8)
    (hf : (Text.Utf8.encode (escapeChar c)).length ≤ fuel)
    (h : Ahead b i (Text.Utf8.encode (escapeChar c) ++ rest)) :
    ∃ fuel', fuel - (Text.Utf8.encode (escapeChar c)).length ≤ fuel' ∧
      runAt (stringOctets fuel scratch) b i =
        runAt (stringOctets fuel' (scratch ++ (String.utf8EncodeChar c).toArray)) b
          (i + (Text.Utf8.encode (escapeChar c)).length) := by
  rcases escapeChar_octets c with ⟨x, y, hxy, henc, hy⟩ | ⟨hc, henc⟩ | ⟨henc, hplain⟩
  · rw [henc] at hf h ⊢
    obtain ⟨f, rfl⟩ : ∃ f, fuel = f + 1 := ⟨fuel - 1, by simp at hf; omega⟩
    refine ⟨f, by simp, ?_⟩
    rw [runAt_stringOctets_letter hxy h, hy]
    simp
  · obtain ⟨d₀, d₁, d₂, d₃, hhex, -⟩ := hex4_octets hc
    rw [henc] at hf h ⊢
    obtain ⟨f, rfl⟩ : ∃ f, fuel = f + 1 := ⟨fuel - 1, by simp at hf; omega⟩
    refine ⟨f, by simp [hhex], ?_⟩
    rw [runAt_stringOctets_control hc h, hhex]
    simp
  · rw [henc] at hf h ⊢
    obtain ⟨f, rfl⟩ : ∃ f, fuel = f + (String.utf8EncodeChar c).length :=
      ⟨fuel - (String.utf8EncodeChar c).length, by omega⟩
    exact ⟨f, by omega, runAt_stringOctets_plain hplain h f⟩

theorem runAt_stringOctets (l : List Char) (fuel : Nat) (hf : (escapedOctets l).length < fuel)
    (h : Ahead b i (escapedOctets l ++ 34 :: rest)) :
    runAt (stringOctets fuel scratch) b i =
      (.ok (scratch ++ (l.flatMap String.utf8EncodeChar).toArray, i + (escapedOctets l).length),
        i + (escapedOctets l).length + 1) := by
  induction l generalizing i scratch fuel with
  | nil =>
    obtain ⟨f, rfl⟩ : ∃ f, fuel = f + 1 := ⟨fuel - 1, by simp [escapedOctets] at hf; omega⟩
    simp only [escapedOctets, List.flatMap_nil, List.nil_append, List.length_nil,
      Nat.add_zero] at h ⊢
    rw [stringOctets]
    simp only [runAt_bind, runAt_get, h.runAt_peek, List.head?_cons,
      show ((34 : UInt8) == byte '"') = true from rfl, if_true, runAt_eat, runAt_pure]
    simp
  | cons c l ih =>
    have hsplit : escapedOctets (c :: l) = Text.Utf8.encode (escapeChar c) ++ escapedOctets l := by
      simp [escapedOctets]
    rw [hsplit, List.append_assoc] at h
    rw [hsplit, List.length_append] at hf
    obtain ⟨f, hf', hrun⟩ := runAt_stringOctets_char c fuel scratch (by omega) h
    rw [hrun, ih f (by omega) h.append, hsplit]
    simp [Nat.add_assoc]

/-- A string after its opening quote reads back as the text it was written from. -/
theorem runAt_string (s : String) (h : Ahead b i (escapedOctets s.toList ++ 34 :: rest)) :
    runAt string b i = (.ok s, i + (escapedOctets s.toList).length + 1) := by
  have hlen := h.length_le
  simp only [List.length_append, List.length_cons] at hlen
  rw [string, runAt_bind_ok runAt_budget,
    runAt_bind_ok (runAt_stringOctets s.toList _ (by omega) h)]
  simp [← Text.Utf8.encode_eq_flatMap, Text.Utf8.decode?_encode, runAt_pure]

/-- A string literal, its opening quote looked at, reads back as its text. -/
theorem runAt_quoted (s : String) (h : Ahead b i (Text.Utf8.encode (quote s) ++ rest)) :
    runAt (eat >>= fun _ => string) b i = (.ok s, i + (Text.Utf8.encode (quote s)).length) := by
  rw [encode_quote] at h ⊢
  simp only [List.cons_append, List.append_assoc] at h
  rw [runAt_bind_ok runAt_eat, runAt_string s h.tail]
  simp only [List.length_cons, List.length_append, List.length_nil]
  congr 1
  omega

end Strings

end BearerSession.Json.Reader
