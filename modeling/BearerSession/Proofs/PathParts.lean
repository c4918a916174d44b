import Mathlib
import BearerSession.Disk.Path

/-!
# Reading a path into parts, and writing it back

`Path.parts` reads a path by splitting it at `/`. This file gives that reading an algebra:
the pieces of `a ++ "/" ++ b` are those of `a` followed by those of `b` (`splitOn_append_slash`),
so the parts of a path are the part in front (`leadOf`: the top, the current directory or
nothing) followed by the steps its pieces give (`stepsOf`). Splitting a string at the text
`/` is the same as splitting its characters at `/` (`splitOn_slash`); every statement about
pieces goes through that equation.

Parts that a path can have are `Canonical`: one part in front at most, then steps, each `..`
or a name (`IsName`: not empty, neither `.` nor `..`, without a slash). Canonical parts read
back from their text (`parts_render`), and pushing a name onto a path adds it as the last part
(`parts_push`).

From these, the sibling of a path for a suffix that is a name (`Path.sibling`): for a path
with a file name `f` it has the parts of the path with `f` replaced by `f ++ suffix`, so it
lies in the same directory (`sibling_beside`); for a path without one it is the suffix inside
the path. Either way it is never the path itself, and siblings for different suffixes are
different paths.
-/

namespace BearerSession.Disk

/-- A text that a path reads as a name: not empty, neither `.` nor `..`, and without a slash. -/
structure IsName (s : String) : Prop where
  ne_empty : s ≠ ""
  ne_dot : s ≠ "."
  ne_dotDot : s ≠ ".."
  no_slash : '/' ∉ s.toList

/-- A part that may follow the start of a path: `..` or a name. -/
def Part.IsStep : Part → Prop
  | .up => True
  | .name s => IsName s
  | _ => False

/-- A name followed by a name is a name. -/
theorem IsName.append {f s : String} (hf : IsName f) (hs : IsName s) : IsName (f ++ s) := by
  have hf' : f.toList ≠ [] := by simpa using hf.ne_empty
  have hfd : f.toList ≠ ['.'] := by
    intro h
    apply hf.ne_dot
    rw [← String.toList_inj, h]
    rfl
  have hs' : s.toList ≠ [] := by simpa using hs.ne_empty
  refine ⟨by simp [hf.ne_empty], ?_, ?_, by simp [hf.no_slash, hs.no_slash]⟩
  · intro h
    have h' := congrArg String.toList h
    rw [String.toList_append, show (".":String).toList = ['.'] from rfl,
      List.append_eq_singleton_iff] at h'
    grind
  · -- `..` would split as `.` and `.`, and `f` is not `.`
    intro h
    have h' := congrArg String.toList h
    obtain ⟨c, cs, hc⟩ := List.exists_cons_of_ne_nil hf'
    rw [String.toList_append, show ("..":String).toList = ['.', '.'] from rfl, hc,
      List.cons_append, List.cons.injEq, List.append_eq_singleton_iff] at h'
    grind

/-- A name added to a text makes another text. -/
theorem IsName.append_ne {s : String} (hs : IsName s) (f : String) : f ++ s ≠ f := by
  intro h
  have hlen := congrArg (·.toList.length) h
  have hpos : 0 < s.toList.length := List.length_pos_of_ne_nil (by simpa using hs.ne_empty)
  simp only [String.toList_append, List.length_append] at hlen
  omega

namespace Path

/-! ## Pieces between slashes -/

/-- With a separator of one character, the splitting loop of `String.splitOn` is that of
`String.splitToList` at that character. -/
theorem splitOnAux_slash (s : String) (b i : String.Pos.Raw) (r : List String) :
    s.splitOnAux "/" b i 0 r = s.splitAux (· == '/') b i r := by
  -- the loop runs while bytes are left after `i`
  induction h : s.rawEndPos.1 - i.1 using Nat.strong_induction_on generalizing b i r with
  | _ n ih =>
  rw [String.splitOnAux.eq_1, String.splitAux.eq_1]
  by_cases hend : i.atEnd s = true
  · simp [hend]
  · have hlt : s.rawEndPos.1 - (i.next s).1 < n := by
      have hnext : i.1 < (i.next s).1 := String.Pos.Raw.lt_next s i
      have hin : i.1 < s.rawEndPos.1 := by
        rw [String.atEnd_iff] at hend
        exact Nat.lt_of_not_le hend
      omega
    have hsep : String.Pos.Raw.get "/" 0 = '/' := rfl
    have hone : String.Pos.Raw.next "/" 0 = ⟨1⟩ := rfl
    have hendsep : String.Pos.Raw.atEnd "/" ⟨1⟩ = true := rfl
    have hzero : i.unoffsetBy 0 = i := by simp [String.Pos.Raw.unoffsetBy]
    simp only [hend, hsep, hone, hendsep, hzero, Bool.false_eq_true, if_false, if_true]
    split
    · rename_i hslash
      -- a slash is one byte, so the piece ends where the slash starts
      have hback : (i.next s).unoffsetBy ⟨1⟩ = i := by
        have hsize : '/'.utf8Size = 1 := rfl
        simp only [beq_iff_eq] at hslash
        simp [String.Pos.Raw.unoffsetBy, String.Pos.Raw.next, hslash, hsize]
      rw [hback]
      exact ih _ hlt _ _ _ rfl
    · exact ih _ hlt _ _ _ rfl

/-- Splitting at the text `/` is splitting the characters at `/`. -/
theorem splitOn_slash (s : String) :
    s.splitOn "/" = (s.toList.splitOn '/').map String.ofList := by
  rw [String.splitOn, if_neg (by decide), splitOnAux_slash, List.splitOn_eq_splitOnP]
  exact String.splitToList_of_valid s _

/-- No piece of a split holds the character split at. -/
theorem not_mem_of_mem_splitOn {c : Char} :
    ∀ {l w : List Char}, w ∈ l.splitOn c → c ∉ w
  | [], w, hw => by simp_all [List.splitOn_nil]
  | x :: xs, w, hw => by
    rw [List.splitOn_cons_eq_if_modifyHead] at hw
    split at hw
    · rcases List.mem_cons.1 hw with rfl | hw
      · simp
      · exact not_mem_of_mem_splitOn hw
    · rename_i hx
      obtain ⟨r, rs, hr⟩ := List.exists_cons_of_ne_nil (List.splitOn_ne_nil c xs)
      rw [hr, List.modifyHead_cons] at hw
      rcases List.mem_cons.1 hw with rfl | hw
      · have hr' : c ∉ r := not_mem_of_mem_splitOn (hr ▸ List.mem_cons_self ..)
        simp only [List.mem_cons, not_or]
        exact ⟨fun h => hx (by simp [h]), hr'⟩
      · exact not_mem_of_mem_splitOn (hr ▸ List.mem_cons_of_mem _ hw)

theorem no_slash_of_mem_splitOn {s w : String} (h : w ∈ s.splitOn "/") : '/' ∉ w.toList := by
  rw [splitOn_slash, List.mem_map] at h
  obtain ⟨l, hl, rfl⟩ := h
  simpa using not_mem_of_mem_splitOn hl

/-- A slash cuts the pieces of a text in two. -/
theorem splitOn_append_slash (a b : String) :
    (a ++ "/" ++ b).splitOn "/" = a.splitOn "/" ++ b.splitOn "/" := by
  have hl : (a ++ "/" ++ b).toList = a.toList ++ '/' :: b.toList := by simp
  rw [splitOn_slash, splitOn_slash, splitOn_slash, hl, List.splitOn_append_cons_self,
    List.map_append]

/-- A text without a slash is one piece. -/
theorem splitOn_of_no_slash {s : String} (h : '/' ∉ s.toList) : s.splitOn "/" = [s] := by
  rw [splitOn_slash, List.splitOn_eq_singleton h]
  simp

@[simp] theorem splitOn_empty : "".splitOn "/" = [""] := by
  simp [splitOn_slash]

theorem splitOn_slash_ne_nil (s : String) : s.splitOn "/" ≠ [] := by
  simp [splitOn_slash]

/-! ## The part in front and the steps -/

/-- What one piece between slashes adds to the parts of a path. -/
def partOf (piece : String) : Option Part :=
  if piece = "" || piece = "." then none
  else if piece = ".." then some Part.up
  else some (Part.name piece)

/-- The steps the pieces of a path give. -/
def stepsOf (p : String) : List Part := (p.splitOn "/").filterMap partOf

/-- What stands before the steps of a path: the top, the current directory, or nothing. -/
def leadOf (p : String) : List Part :=
  if p.startsWith "/" then [.top] else if (p.splitOn "/").head? = some "." then [.here] else []

theorem parts_eq (p : String) : parts p = leadOf p ++ stepsOf p := by
  unfold parts leadOf stepsOf partOf
  generalize p.splitOn "/" = pieces
  by_cases htop : p.startsWith "/" = true
  · simp [htop]
  · simp only [htop, if_false, Bool.false_eq_true]
    congr 1
    rcases pieces with _ | ⟨x, xs⟩
    · rfl
    · by_cases hx : x = "."
      · subst hx
        rfl
      · simp [hx]

theorem partOf_of_isName {n : String} (hn : IsName n) : partOf n = some (.name n) := by
  simp [partOf, hn.ne_empty, hn.ne_dot, hn.ne_dotDot]

theorem stepsOf_append_slash (a b : String) :
    stepsOf (a ++ "/" ++ b) = stepsOf a ++ stepsOf b := by
  rw [stepsOf, splitOn_append_slash, List.filterMap_append, stepsOf, stepsOf]

@[simp] theorem stepsOf_empty : stepsOf "" = [] := by
  simp [stepsOf, partOf]

/-- A name is the one step of its own pieces. -/
theorem stepsOf_name {n : String} (hn : IsName n) : stepsOf n = [.name n] := by
  rw [stepsOf, splitOn_of_no_slash hn.no_slash]
  simp [partOf_of_isName hn]

/-- Whether a text starts with a slash is decided by its first character. -/
theorem startsWith_slash_append {a : String} (ha : a ≠ "") (b : String) :
    (a ++ b).startsWith "/" = a.startsWith "/" := by
  obtain ⟨c, cs, hc⟩ := List.exists_cons_of_ne_nil (by simpa using ha : a.toList ≠ [])
  apply Bool.eq_iff_iff.2
  simp only [String.startsWith_string_iff, String.toList_append, hc]
  simp

theorem leadOf_append_slash {a : String} (ha : a ≠ "") (b : String) :
    leadOf (a ++ "/" ++ b) = leadOf a := by
  obtain ⟨w, ws, hw⟩ := List.exists_cons_of_ne_nil (splitOn_slash_ne_nil a)
  have hstart : (a ++ "/" ++ b).startsWith "/" = a.startsWith "/" := by
    rw [String.append_assoc, startsWith_slash_append ha]
  simp only [leadOf, hstart, splitOn_append_slash, hw, List.cons_append, List.head?_cons]

theorem leadOf_slash_append (b : String) : leadOf ("/" ++ b) = [.top] := by
  simp [leadOf]

theorem parts_append_slash {a : String} (ha : a ≠ "") (b : String) :
    parts (a ++ "/" ++ b) = parts a ++ stepsOf b := by
  rw [parts_eq, parts_eq a, leadOf_append_slash ha, stepsOf_append_slash, List.append_assoc]

theorem parts_slash_append (b : String) : parts ("/" ++ b) = .top :: stepsOf b := by
  have h := parts_eq ("" ++ "/" ++ b)
  rwa [stepsOf_append_slash, stepsOf_empty, List.nil_append, String.empty_append,
    leadOf_slash_append, List.singleton_append] at h

@[simp] theorem parts_empty : parts "" = [] := by
  simp [parts_eq, leadOf]

@[simp] theorem parts_slash : parts "/" = [.top] := by
  simpa using parts_slash_append ""

@[simp] theorem parts_dot : parts "." = [.here] := by
  have hpieces : ".".splitOn "/" = ["."] := splitOn_of_no_slash (by decide)
  simp [parts_eq, leadOf, stepsOf, hpieces, partOf]

/-- A final slash adds no part. -/
theorem parts_append_trailing_slash {q : String} (hq : q ≠ "") : parts (q ++ "/") = parts q := by
  simpa using parts_append_slash hq ""

theorem startsWith_slash_of_isName {n : String} (hn : IsName n) : n.startsWith "/" = false := by
  simp only [String.startsWith_string_eq_false_iff]
  intro h
  exact hn.no_slash (List.IsPrefix.subset h (by simp))

/-- A name alone is a path of one part. -/
theorem parts_of_isName {n : String} (hn : IsName n) : parts n = [.name n] := by
  have hlead : leadOf n = [] := by
    simp [leadOf, startsWith_slash_of_isName hn, splitOn_of_no_slash hn.no_slash, hn.ne_dot]
  rw [parts_eq, hlead, stepsOf_name hn, List.nil_append]

theorem exists_eq_append_slash {p : String} (h : p.endsWith "/" = true) :
    ∃ q, p = q ++ "/" := by
  simp only [← String.endsWith_toSlice, String.Slice.endsWith_string_iff,
    String.copy_toSlice] at h
  obtain ⟨l, hl⟩ := h
  refine ⟨String.ofList l, ?_⟩
  rw [← String.toList_inj, String.toList_append, ← hl]
  simp

/-- Pushing a name onto a path adds it as a new last part. -/
theorem parts_push {n : String} (hn : IsName n) (p : String) :
    parts (push p n) = parts p ++ [.name n] := by
  by_cases hp : p = ""
  · subst hp
    simp [push, parts_of_isName hn]
  · unfold push
    split
    · rename_i hend
      obtain ⟨q, rfl⟩ := exists_eq_append_slash (by simpa [hp] using hend)
      by_cases hq : q = ""
      · subst hq
        simp [parts_slash_append, stepsOf_name hn]
      · rw [parts_append_slash hq, parts_append_trailing_slash hq, stepsOf_name hn]
    · rw [parts_append_slash hp, stepsOf_name hn]

/-! ## Canonical parts -/

/-- Parts as a path reads them: the top or the current directory at most once in front, then
steps. -/
def Canonical (ps : List Part) : Prop :=
  ∃ lead steps, ps = lead ++ steps ∧ lead ∈ [[], [.top], [.here]] ∧ ∀ x ∈ steps, x.IsStep

theorem isStep_of_partOf {w : String} {x : Part} (hw : '/' ∉ w.toList) (h : partOf w = some x) :
    x.IsStep := by
  unfold partOf at h
  split at h
  · cases h
  · rename_i hblank
    simp only [Bool.or_eq_true, decide_eq_true_eq, not_or] at hblank
    split at h
    · cases h
      trivial
    · rename_i hup
      cases h
      exact ⟨hblank.1, hblank.2, hup, hw⟩

theorem isStep_of_mem_stepsOf {p : String} {x : Part} (hx : x ∈ stepsOf p) : x.IsStep := by
  obtain ⟨w, hw, hpart⟩ := List.mem_filterMap.1 hx
  exact isStep_of_partOf (no_slash_of_mem_splitOn hw) hpart

theorem leadOf_mem (p : String) : leadOf p ∈ [[], [.top], [.here]] := by
  unfold leadOf
  split_ifs <;> simp

/-- Every path reads as canonical parts. -/
theorem parts_canonical (p : String) : Canonical (parts p) :=
  ⟨leadOf p, stepsOf p, parts_eq p, leadOf_mem p, fun _ => isStep_of_mem_stepsOf⟩

theorem partOf_text {x : Part} (hx : x.IsStep) : partOf x.text = some x := by
  cases x with
  | up => rfl
  | name n => exact partOf_of_isName hx
  | top => cases hx
  | here => cases hx

theorem no_slash_text {x : Part} (hx : x.IsStep) : '/' ∉ x.text.toList := by
  cases x with
  | up => decide
  | name n => exact IsName.no_slash hx
  | top => cases hx
  | here => cases hx

theorem text_ne_dot {x : Part} (hx : x.IsStep) : x.text ≠ "." := by
  cases x with
  | up => decide
  | name n => exact IsName.ne_dot hx
  | top => cases hx
  | here => cases hx

theorem text_ne_empty {x : Part} (hx : x.IsStep) : x.text ≠ "" := by
  cases x with
  | up => decide
  | name n => exact IsName.ne_empty hx
  | top => cases hx
  | here => cases hx

theorem filterMap_partOf_texts {xs : List Part} (hxs : ∀ x ∈ xs, x.IsStep) :
    (xs.map Part.text).filterMap partOf = xs := by
  induction xs with
  | nil => rfl
  | cons x rest ih =>
    rw [List.forall_mem_cons] at hxs
    rw [List.map_cons, List.filterMap_cons, partOf_text hxs.1, ih hxs.2]

/-- Steps joined by slashes split back into their texts. -/
theorem splitOn_intercalate_texts {xs : List Part} (hxs : ∀ x ∈ xs, x.IsStep) (hne : xs ≠ []) :
    ("/".intercalate (xs.map Part.text)).splitOn "/" = xs.map Part.text := by
  rw [splitOn_slash, String.toList_intercalate, show ("/" : String).toList = ['/'] from rfl,
    List.splitOn_intercalate]
  · simp
  · simpa using fun x hx => no_slash_text (hxs x hx)
  · simpa using hne

/-- Steps joined by slashes read back as the steps. -/
theorem stepsOf_intercalate {xs : List Part} (hxs : ∀ x ∈ xs, x.IsStep) :
    stepsOf ("/".intercalate (xs.map Part.text)) = xs := by
  by_cases hne : xs = []
  · subst hne
    simp
  · rw [stepsOf, splitOn_intercalate_texts hxs hne, filterMap_partOf_texts hxs]

/-- Steps joined by slashes start neither at the top nor at `.`. -/
theorem leadOf_intercalate {xs : List Part} (hxs : ∀ x ∈ xs, x.IsStep) :
    leadOf ("/".intercalate (xs.map Part.text)) = [] := by
  cases xs with
  | nil => simp [leadOf]
  | cons x rest =>
    rw [List.forall_mem_cons] at hxs
    obtain ⟨c, cs, hc⟩ := List.exists_cons_of_ne_nil (by simpa using text_ne_empty hxs.1 :
      x.text.toList ≠ [])
    have hcs : '/' ≠ c := fun h => no_slash_text hxs.1 (by simp [hc, ← h])
    have hstart : ("/".intercalate ((x :: rest).map Part.text)).startsWith "/" = false := by
      cases rest with
      | nil => simp [hc, hcs]
      | cons y ys => simp [String.intercalate_cons_of_ne_nil, hc, hcs]
    have hhead : (("/".intercalate ((x :: rest).map Part.text)).splitOn "/").head? =
        some x.text := by
      rw [splitOn_intercalate_texts (List.forall_mem_cons.2 hxs) (List.cons_ne_nil x rest)]
      rfl
    have hdot : some x.text ≠ some "." := by simpa using text_ne_dot hxs.1
    unfold leadOf
    rw [hstart, hhead, if_neg Bool.false_ne_true, if_neg hdot]

theorem render_steps {xs : List Part} (hxs : ∀ x ∈ xs, x.IsStep) :
    render xs = "/".intercalate (xs.map Part.text) := by
  cases xs with
  | nil => rfl
  | cons x rest =>
    cases x with
    | up => rfl
    | name n => rfl
    | top => exact absurd (hxs _ List.mem_cons_self) id
    | here => exact absurd (hxs _ List.mem_cons_self) id

theorem render_top_cons (xs : List Part) :
    render (.top :: xs) = "/" ++ "/".intercalate (xs.map Part.text) := by
  cases xs with
  | nil => rfl
  | cons x rest => rfl

/-- Canonical parts read back from their text. -/
theorem parts_render {ps : List Part} (h : Canonical ps) : parts (render ps) = ps := by
  obtain ⟨lead, steps, rfl, hlead, hsteps⟩ := h
  simp only [List.mem_cons, List.not_mem_nil, or_false] at hlead
  rcases hlead with rfl | rfl | rfl
  · rw [List.nil_append, render_steps hsteps, parts_eq, leadOf_intercalate hsteps,
      stepsOf_intercalate hsteps, List.nil_append]
  · rw [List.singleton_append, render_top_cons, parts_slash_append, stepsOf_intercalate hsteps]
  · have hrender : render (.here :: steps) = "/".intercalate ("." :: steps.map Part.text) := rfl
    rw [List.singleton_append, hrender]
    by_cases hne : steps = []
    · subst hne
      simp [parts_dot]
    · rw [String.intercalate_cons_of_ne_nil (by simpa using hne), parts_append_slash (by decide),
        parts_dot, stepsOf_intercalate hsteps, List.singleton_append]

/-! ## File names and parents -/

theorem getLast?_parts_of_fileName {p f : String} (h : fileName? p = some f) :
    (parts p).getLast? = some (.name f) := by
  unfold fileName? at h
  split at h
  · cases h
    assumption
  · cases h

theorem parts_of_fileName {p f : String} (h : fileName? p = some f) :
    parts p = (parts p).dropLast ++ [.name f] :=
  (List.dropLast_append_getLast? _ (getLast?_parts_of_fileName h)).symm

theorem fileName?_of_parts {q n : String} {ps : List Part} (h : parts q = ps ++ [.name n]) :
    fileName? q = some n := by
  simp [fileName?, h]

theorem parent?_of_parts {q n : String} {ps : List Part} (h : parts q = ps ++ [.name n]) :
    parent? q = some ps := by
  simp [parent?, h]

theorem parent?_of_fileName {p f : String} (h : fileName? p = some f) :
    parent? p = some (parts p).dropLast :=
  parent?_of_parts (parts_of_fileName h)

/-- Canonical parts that end in a name stay canonical without it, and the name is a name. -/
theorem canonical_dropLast {ps : List Part} {f : String} (h : Canonical ps)
    (hlast : ps.getLast? = some (.name f)) : Canonical ps.dropLast ∧ IsName f := by
  obtain ⟨lead, steps, rfl, hlead, hsteps⟩ := h
  rcases List.eq_nil_or_concat steps with rfl | ⟨init, y, rfl⟩
  · -- the part in front is never a name
    simp only [List.mem_cons, List.not_mem_nil, or_false] at hlead
    rcases hlead with rfl | rfl | rfl <;> simp at hlast
  · rw [List.concat_eq_append] at hlast hsteps ⊢
    rw [← List.append_assoc, List.getLast?_concat, Option.some.injEq] at hlast
    subst hlast
    refine ⟨⟨lead, init, by simp, hlead, fun x hx => hsteps x (by simp [hx])⟩, ?_⟩
    exact hsteps (.name f) (by simp)

theorem getLast?_leadOf_ne_name (p n : String) : (leadOf p).getLast? ≠ some (.name n) := by
  unfold leadOf
  split_ifs <;> simp

/-- The file name of a path is its last step. -/
theorem getLast?_stepsOf_of_fileName {p f : String} (h : fileName? p = some f) :
    (stepsOf p).getLast? = some (.name f) := by
  have hlast := getLast?_parts_of_fileName h
  rw [parts_eq] at hlast
  by_cases hne : stepsOf p = []
  · rw [hne, List.append_nil] at hlast
    exact absurd hlast (getLast?_leadOf_ne_name p f)
  · rwa [List.getLast?_append_of_ne_nil _ hne] at hlast

theorem fileName?_of_getLast?_stepsOf {p n : String} (h : (stepsOf p).getLast? = some (.name n)) :
    fileName? p = some n := by
  have hne : stepsOf p ≠ [] := by
    intro hnil
    simp [hnil] at h
  simp [fileName?, parts_eq, List.getLast?_append_of_ne_nil _ hne, h]

theorem leadOf_eq_top_iff (p : String) : leadOf p = [.top] ↔ p.startsWith "/" = true := by
  unfold leadOf
  split_ifs <;> simp_all

/-- Paths with the same part in front start from the same place. -/
theorem startsWith_slash_eq_of_leadOf_eq {a b : String} (h : leadOf a = leadOf b) :
    a.startsWith "/" = b.startsWith "/" :=
  Bool.eq_iff_iff.2 (by rw [← leadOf_eq_top_iff, ← leadOf_eq_top_iff, h])

/-- The part in front and the steps of canonical parts are determined by the parts. -/
theorem lead_steps_inj {l l' s s' : List Part} (hl : l ∈ [[], [.top], [.here]])
    (hl' : l' ∈ [[], [.top], [.here]]) (hs : ∀ x ∈ s, x.IsStep) (hs' : ∀ x ∈ s', x.IsStep)
    (h : l ++ s = l' ++ s') : l = l' ∧ s = s' := by
  simp only [List.mem_cons, List.not_mem_nil, or_false] at hl hl'
  -- where the fronts differ, a top or a current directory would be a step
  rcases hl with rfl | rfl | rfl <;> rcases hl' with rfl | rfl | rfl <;>
    simp only [List.nil_append, List.singleton_append, List.cons.injEq, reduceCtorEq, false_and,
      true_and] at h ⊢
  · exact h
  · exact hs _ (h ▸ List.mem_cons_self)
  · exact hs _ (h ▸ List.mem_cons_self)
  · exact hs' _ (h ▸ List.mem_cons_self)
  · exact h
  · exact hs' _ (h ▸ List.mem_cons_self)
  · exact h

/-- The directory of a path with a file name, written as a path, has the same part in front
and the steps before the file name. -/
theorem render_dropLast_of_fileName {p f : String} (h : fileName? p = some f) :
    leadOf (render (parts p).dropLast) = leadOf p ∧
      stepsOf (render (parts p).dropLast) = (stepsOf p).dropLast := by
  have hne : stepsOf p ≠ [] := by
    intro hnil
    simpa [hnil] using getLast?_stepsOf_of_fileName h
  obtain ⟨hcan, -⟩ := canonical_dropLast (parts_canonical p) (getLast?_parts_of_fileName h)
  have hparts : parts (render (parts p).dropLast) = leadOf p ++ (stepsOf p).dropLast := by
    rw [parts_render hcan, parts_eq, List.dropLast_append_of_ne_nil hne]
  rw [parts_eq] at hparts
  exact lead_steps_inj (leadOf_mem _) (leadOf_mem p) (fun _ => isStep_of_mem_stepsOf)
    (fun _ hx => isStep_of_mem_stepsOf (List.mem_of_mem_dropLast hx)) hparts

/-! ## Siblings -/

theorem sibling_of_fileName {p f : String} (h : fileName? p = some f) (suffix : String) :
    sibling p suffix = push (render (parts p).dropLast) (f ++ suffix) := by
  unfold sibling
  rw [h, parent?_of_fileName h]

theorem sibling_of_fileName_none {p : String} (h : fileName? p = none) (suffix : String) :
    sibling p suffix = push p suffix := by
  unfold sibling
  rw [h]

/-- The sibling of a path with a file name replaces that name by the longer one. -/
theorem parts_sibling_of_fileName {p f suffix : String} (hs : IsName suffix)
    (h : fileName? p = some f) :
    parts (sibling p suffix) = (parts p).dropLast ++ [.name (f ++ suffix)] := by
  obtain ⟨hcan, hf⟩ := canonical_dropLast (parts_canonical p) (getLast?_parts_of_fileName h)
  rw [sibling_of_fileName h, parts_push (hf.append hs), parts_render hcan]

/-- The sibling of a path without a file name is the suffix inside the path. -/
theorem parts_sibling_of_fileName_none {p suffix : String} (hs : IsName suffix)
    (h : fileName? p = none) : parts (sibling p suffix) = parts p ++ [.name suffix] := by
  rw [sibling_of_fileName_none h, parts_push hs]

/-- A sibling sits in the directory of its path and is named after it. -/
theorem sibling_beside {p f suffix : String} (hs : IsName suffix) (h : fileName? p = some f) :
    parent? (sibling p suffix) = parent? p ∧ fileName? (sibling p suffix) = some (f ++ suffix) := by
  have hparts := parts_sibling_of_fileName hs h
  exact ⟨(parent?_of_parts hparts).trans (parent?_of_fileName h).symm, fileName?_of_parts hparts⟩

/-- A sibling is never its own path. -/
theorem parts_sibling_ne {suffix : String} (hs : IsName suffix) (p : String) :
    parts (sibling p suffix) ≠ parts p := by
  cases h : fileName? p with
  | none =>
    rw [parts_sibling_of_fileName_none hs h]
    intro heq
    simpa using congrArg List.length heq
  | some f =>
    rw [parts_sibling_of_fileName hs h]
    conv => rhs; rw [parts_of_fileName h]
    intro heq
    exact hs.append_ne f (by simpa using heq)

/-- Siblings for two suffixes are two paths. -/
theorem parts_sibling_ne_sibling {s s' : String} (hs : IsName s) (hs' : IsName s') (hne : s ≠ s')
    (p : String) : parts (sibling p s) ≠ parts (sibling p s') := by
  cases h : fileName? p with
  | none =>
    rw [parts_sibling_of_fileName_none hs h, parts_sibling_of_fileName_none hs' h]
    intro heq
    exact hne (by simpa using heq)
  | some f =>
    rw [parts_sibling_of_fileName hs h, parts_sibling_of_fileName hs' h]
    intro heq
    exact hne (by simpa using heq)

end Path

end BearerSession.Disk
