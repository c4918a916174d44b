import Mathlib
import BearerSession.Proofs.PathParts
import BearerSession.Proofs.BaseUrlReading
import BearerSession.Store.File

/-!
# The siblings of a credential file in a tree

A credential file at a path `p` is written through two other paths: the temporary file
`Path.sibling p ".tmp"`, renamed onto `p`, and the lock file `Path.sibling p ".lock"`. This
file shows that the three are apart, as paths and as the entries a tree finds for them.

A tree reads a path piece by piece (`Tree.locate`): the pieces that are not empty
(`Path.walked`) are walked from the top or from the working directory, `.` changing nothing
(`walk_filter_dot`), and the last piece names what is found. Without `.`, the walked pieces are
the texts of the steps of the path (`walked_filter_dot`), which ties the reading of the tree to
`Path.parts`. So:

* for a path with a file name `f`, the sibling for `s` is the entry `f ++ s` of the directory
  that the steps before `f` walk to (`locate_sibling_of_fileName`), and the path itself names
  the entry `f` there, or that entry as a directory when it ends in `.` (`locate_of_fileName`);
* a path without a file name names a directory, and its sibling is the entry `s` in it
  (`locate_of_fileName_none`).

Hence a sibling never names what its path names, two siblings never name the same entry
(`Tree.Apart`), and where the temporary file and the path are both entries they are entries of
one directory. The main statement is `FileStore.temp_and_lock_are_distinct_siblings`.
-/

namespace BearerSession.Disk

/-- The pieces of a path that a tree walks: those that are not empty. -/
def Path.walked (p : String) : List String := (p.splitOn "/").filter (· ≠ "")

/-- The route a target stands for. -/
def Target.route : Target → List String
  | .directory r => r
  | .entry parent name _ => parent ++ [name]

namespace Path

/-! ## The pieces a tree walks -/

theorem walked_append_slash (a b : String) : walked (a ++ "/" ++ b) = walked a ++ walked b := by
  rw [walked, splitOn_append_slash, List.filter_append, walked, walked]

@[simp] theorem walked_empty : walked "" = [] := by
  simp [walked]

theorem walked_name {n : String} (hn : IsName n) : walked n = [n] := by
  simp [walked, splitOn_of_no_slash hn.no_slash, hn.ne_empty]

theorem text_of_partOf {w : String} {x : Part} (h : partOf w = some x) : x.text = w := by
  unfold partOf at h
  split at h
  · cases h
  · split at h
    · cases h
      rename_i hup
      exact hup.symm
    · cases h
      rfl

theorem walked_push {m : String} (hm : IsName m) (base : String) :
    walked (push base m) = walked base ++ [m] := by
  by_cases hb : base = ""
  · subst hb
    simp [push, walked_name hm]
  · unfold push
    split
    · rename_i hend
      obtain ⟨q, rfl⟩ := exists_eq_append_slash (by simpa [hb] using hend)
      have hq : walked (q ++ "/") = walked q := by simpa using walked_append_slash q ""
      rw [walked_append_slash, hq, walked_name hm]
    · rw [walked_append_slash, walked_name hm]

theorem startsWith_push {m : String} (hm : IsName m) (base : String) :
    (push base m).startsWith "/" = base.startsWith "/" := by
  by_cases hb : base = ""
  · subst hb
    have hpush : push "" m = m := by simp [push]
    have hempty : "".startsWith "/" = false := by decide
    rw [hpush, hempty, startsWith_slash_of_isName hm]
  · unfold push
    split
    · exact startsWith_slash_append hb m
    · rw [String.append_assoc, startsWith_slash_append hb]

/-- A text that ends in a name does not end in a slash. -/
theorem endsWith_slash_append_name {m : String} (hm : IsName m) (x : String) :
    (x ++ m).endsWith "/" = false := by
  have hne : m.toList ≠ [] := by simpa using hm.ne_empty
  simp only [← String.endsWith_toSlice, String.Slice.endsWith_string_eq_false_iff,
    String.copy_toSlice, String.toList_append, show ("/" : String).toList = ['/'] from rfl,
    List.singleton_suffix_iff_getLast?_eq_some, List.getLast?_append_of_ne_nil _ hne]
  intro hlast
  exact hm.no_slash (List.mem_of_getLast? hlast)

theorem endsWith_push {m : String} (hm : IsName m) (base : String) :
    (push base m).endsWith "/" = false := by
  unfold push
  split
  · exact endsWith_slash_append_name hm base
  · exact endsWith_slash_append_name hm (base ++ "/")

/-- Without `.`, the pieces a tree walks are the texts of the steps. -/
theorem walked_filter_dot (p : String) :
    (walked p).filter (· ≠ ".") = (stepsOf p).map Part.text := by
  rw [walked, stepsOf, List.filter_filter]
  induction p.splitOn "/" with
  | nil => rfl
  | cons w rest ih =>
    rw [List.filterMap_cons]
    cases hw : partOf w with
    | none =>
      have hblank : w = "" ∨ w = "." := by
        unfold partOf at hw
        split at hw
        · rename_i hblank
          simpa using hblank
        · split at hw <;> cases hw
      rw [List.filter_cons_of_neg (by rcases hblank with rfl | rfl <;> simp), ih]
    | some x =>
      have hkeep : w ≠ "" ∧ w ≠ "." := by
        constructor <;> rintro rfl <;> simp [partOf] at hw
      rw [List.filter_cons_of_pos (by simp [hkeep]), ih, List.map_cons, text_of_partOf hw]

/-- A path whose pieces are all empty is made of slashes. -/
theorem startsWith_of_walked_nil {p : String} (hp : p ≠ "") (h : walked p = []) :
    p.startsWith "/" = true := by
  obtain ⟨c, cs, hc⟩ := List.exists_cons_of_ne_nil (by simpa using hp : p.toList ≠ [])
  by_cases hslash : c = '/'
  · subst hslash
    simp only [String.startsWith_string_iff, hc]
    simp
  · -- otherwise the first piece starts with `c`
    exfalso
    obtain ⟨r, rs, hr⟩ := List.exists_cons_of_ne_nil (List.splitOn_ne_nil '/' cs)
    have hpieces : p.splitOn "/" = String.ofList (c :: r) :: rs.map String.ofList := by
      rw [splitOn_slash, hc, List.splitOn_cons_eq_if_modifyHead, if_neg (by simpa using hslash),
        hr]
      simp
    have hmem : String.ofList (c :: r) ∈ walked p := by
      simp [walked, hpieces]
    rw [h] at hmem
    cases hmem

/-- When the walked pieces end in a name, that name is the file name. -/
theorem fileName?_of_walked {p w : String} {xs : List String}
    (h : (walked p).filter (· ≠ ".") = xs ++ [w]) (hw : w ≠ "..") : fileName? p = some w := by
  rw [walked_filter_dot] at h
  rcases List.eq_nil_or_concat (stepsOf p) with hnil | ⟨ys, x, hsteps⟩
  · simp [hnil] at h
  · rw [List.concat_eq_append] at hsteps
    rw [hsteps, List.map_append, List.map_singleton] at h
    obtain ⟨-, htext⟩ := List.append_inj' h rfl
    rw [List.singleton_inj] at htext
    have hx : x.IsStep := isStep_of_mem_stepsOf (by rw [hsteps]; simp)
    apply fileName?_of_getLast?_stepsOf
    rw [hsteps, List.getLast?_concat]
    cases x with
    | up => exact absurd htext.symm hw
    | name n => rw [show n = w from htext]
    | top => cases hx
    | here => cases hx

end Path

namespace Tree

variable (t : Tree)

/-! ## Walking -/

/-- A walk takes its pieces one at a time. -/
theorem walk_cons (here : List String) (x : String) (rest : List String) :
    t.walk here (x :: rest) = t.walk here [x] >>= fun r => t.walk r rest := by
  by_cases hdot : x = "."
  · subst hdot
    rw [walk.eq_2, walk.eq_2, walk.eq_1]
    rfl
  · by_cases hup : x = ".."
    · subst hup
      rw [walk.eq_3, walk.eq_3, walk.eq_1]
      rfl
    · rw [walk.eq_4 _ _ _ _ hdot hup, walk.eq_4 _ _ _ _ hdot hup]
      split
      · rfl
      · rfl
      · rw [walk.eq_1]
        rfl

theorem walk_append (here : List String) (xs ys : List String) :
    t.walk here (xs ++ ys) = t.walk here xs >>= fun r => t.walk r ys := by
  induction xs generalizing here with
  | nil => rfl
  | cons x rest ih =>
    rw [List.cons_append, walk_cons, walk_cons t here x rest, bind_assoc]
    simp only [ih]

/-- A walk passes over `.`. -/
theorem walk_filter_dot (here : List String) (xs : List String) :
    t.walk here (xs.filter (· ≠ ".")) = t.walk here xs := by
  induction xs generalizing here with
  | nil => rfl
  | cons x rest ih =>
    by_cases hdot : x = "."
    · subst hdot
      rw [List.filter_cons_of_neg (by simp), ih, walk.eq_2]
    · rw [List.filter_cons_of_pos (by simpa using hdot), walk_cons, walk_cons t here x rest]
      simp only [ih]

/-- Walking into a name that leads somewhere leads into the name. -/
theorem eq_of_walk_name {here r : List String} {n : String} (hn : IsName n)
    (h : t.walk here [n] = .ok r) : r = here ++ [n] := by
  rw [walk.eq_4 _ _ _ _ hn.ne_dot hn.ne_dotDot] at h
  split at h
  · cases h
  · cases h
  · rw [walk.eq_1] at h
    cases h
    rfl

/-! ## Locating a path -/

/-- A path is read piece by piece: all pieces but the last are walked, from the top or from the
working directory, and the last one names what is found there. -/
theorem locate_of_walked {p last : String} {earlier : List String} (hp : p ≠ "")
    (h : (Path.walked p).reverse = last :: earlier) :
    t.locate p = (do
      let P ← t.walk (t.start p) earlier.reverse
      if last = "." then pure (.directory P)
      else if last = ".." then pure (.directory P.dropLast)
      else pure (.entry P last (p.endsWith "/"))) := by
  rw [locate, if_neg (by simpa using hp)]
  dsimp only
  rw [show List.filter (fun x => decide (x ≠ "")) (p.splitOn "/") = Path.walked p from rfl, h]

theorem locate_of_walked_nil {p : String} (hp : p ≠ "") (h : Path.walked p = []) :
    t.locate p = .ok (.directory []) := by
  rw [locate, if_neg (by simpa using hp)]
  dsimp only
  rw [show List.filter (fun x => decide (x ≠ "")) (p.splitOn "/") = Path.walked p from rfl, h]
  rfl

theorem start_congr {a b : String} (h : a.startsWith "/" = b.startsWith "/") :
    t.start a = t.start b := by
  simp only [start, h]

/-- A name pushed onto a path is the entry of that name in the directory the path walks to. -/
theorem locate_push {m : String} (hm : IsName m) (base : String) :
    t.locate (Path.push base m) =
      (t.walk (t.start base) (Path.walked base) >>= fun P => pure (.entry P m false)) := by
  have hne : Path.push base m ≠ "" := by
    intro h
    have := Path.walked_push hm base
    rw [h, Path.walked_empty] at this
    simp at this
  have hrev : (Path.walked (Path.push base m)).reverse = m :: (Path.walked base).reverse := by
    rw [Path.walked_push hm, List.reverse_append, List.reverse_singleton, List.singleton_append]
  rw [locate_of_walked t hne hrev, List.reverse_reverse, Path.endsWith_push hm,
    start_congr t (Path.startsWith_push hm base)]
  simp only [if_neg hm.ne_dot, if_neg hm.ne_dotDot]

/-- The sibling of a path with a file name `f` is the entry `f ++ s` of the directory that the
steps before `f` walk to. -/
theorem locate_sibling_of_fileName {p f s : String} (hs : IsName s)
    (h : Path.fileName? p = some f) :
    t.locate (Path.sibling p s) =
      (t.walk (t.start p) ((Path.stepsOf p).dropLast.map Part.text) >>= fun P =>
        pure (.entry P (f ++ s) false)) := by
  obtain ⟨-, hf⟩ :=
    Path.canonical_dropLast (Path.parts_canonical p) (Path.getLast?_parts_of_fileName h)
  obtain ⟨hlead, hsteps⟩ := Path.render_dropLast_of_fileName h
  rw [Path.sibling_of_fileName h, locate_push t (hf.append hs),
    start_congr t (Path.startsWith_slash_eq_of_leadOf_eq hlead), ← walk_filter_dot,
    Path.walked_filter_dot, hsteps]

theorem ne_empty_of_locate {p : String} {T : Target} (h : t.locate p = .ok T) : p ≠ "" := by
  rintro rfl
  cases h

theorem exists_reverse_walked_of_ne_nil {p : String} (h : Path.walked p ≠ []) :
    ∃ last earlier, (Path.walked p).reverse = last :: earlier ∧
      Path.walked p = earlier.reverse ++ [last] := by
  cases hrev : (Path.walked p).reverse with
  | nil => exact absurd (List.reverse_eq_nil_iff.1 hrev) h
  | cons last earlier =>
    refine ⟨last, earlier, rfl, ?_⟩
    rw [← List.reverse_reverse (Path.walked p), hrev]
    simp

/-- A path with a file name `f` that names something names the entry `f` of the directory its
earlier steps walk to, or, when it ends in `.`, that entry as a directory. -/
theorem locate_of_fileName {p f : String} {T : Target} (h : Path.fileName? p = some f)
    (hT : t.locate p = .ok T) :
    ∃ P, t.walk (t.start p) ((Path.stepsOf p).dropLast.map Part.text) = .ok P ∧
      T.route = P ++ [f] ∧ ∀ P' n d, T = .entry P' n d → P' = P := by
  obtain ⟨-, hf⟩ :=
    Path.canonical_dropLast (Path.parts_canonical p) (Path.getLast?_parts_of_fileName h)
  -- without `.`, the walked pieces are the steps before `f`, then `f`
  have hdots : (Path.walked p).filter (· ≠ ".") =
      (Path.stepsOf p).dropLast.map Part.text ++ [f] := by
    rw [Path.walked_filter_dot,
      ← List.dropLast_append_getLast? _ (Path.getLast?_stepsOf_of_fileName h)]
    simp [Part.text]
  obtain ⟨last, earlier, hrev, hwalked⟩ := exists_reverse_walked_of_ne_nil (p := p) (by
    intro hnil
    simp [hnil] at hdots)
  rw [locate_of_walked t (ne_empty_of_locate t hT) hrev] at hT
  obtain ⟨W, hW, hT⟩ := exists_of_bind_eq_ok hT
  rw [← walk_filter_dot] at hW
  rw [hwalked, List.filter_append] at hdots
  by_cases hdot : last = "."
  · -- a final `.` names the directory the whole path walks to
    subst hdot
    rw [if_pos rfl] at hT
    cases hT
    rw [List.filter_cons_of_neg (by simp), List.filter_nil, List.append_nil] at hdots
    rw [hdots, walk_append] at hW
    obtain ⟨P, hP, hPW⟩ := exists_of_bind_eq_ok hW
    exact ⟨P, hP, eq_of_walk_name t hf hPW, fun _ _ _ h => by cases h⟩
  · rw [List.filter_cons_of_pos (by simpa using hdot), List.filter_nil] at hdots
    obtain ⟨hearlier, hlast⟩ := List.append_inj' hdots rfl
    rw [List.singleton_inj] at hlast
    subst hlast
    rw [if_neg hdot, if_neg hf.ne_dotDot] at hT
    cases hT
    rw [hearlier] at hW
    exact ⟨W, hW, rfl, fun _ _ _ h => by cases h; rfl⟩

/-- A path without a file name that names something names a directory: the one all its pieces
walk to. -/
theorem locate_of_fileName_none {p : String} {T : Target} (h : Path.fileName? p = none)
    (hT : t.locate p = .ok T) :
    t.walk (t.start p) (Path.walked p) = .ok T.route ∧ ∃ W, T = .directory W := by
  have hp := ne_empty_of_locate t hT
  by_cases hnil : Path.walked p = []
  · -- only slashes: the top directory
    rw [locate_of_walked_nil t hp hnil] at hT
    cases hT
    rw [hnil, walk.eq_1, start, if_pos (Path.startsWith_of_walked_nil hp hnil)]
    exact ⟨rfl, _, rfl⟩
  · obtain ⟨last, earlier, hrev, hwalked⟩ := exists_reverse_walked_of_ne_nil hnil
    rw [locate_of_walked t hp hrev] at hT
    obtain ⟨W, hW, hT⟩ := exists_of_bind_eq_ok hT
    rw [hwalked, walk_append, hW]
    by_cases hdot : last = "."
    · subst hdot
      rw [if_pos rfl] at hT
      cases hT
      exact ⟨(by rw [walk.eq_2, walk.eq_1] : t.walk W ["."] = .ok W), _, rfl⟩
    · by_cases hup : last = ".."
      · subst hup
        rw [if_neg hdot, if_pos rfl] at hT
        cases hT
        exact ⟨(by rw [walk.eq_3, walk.eq_1] : t.walk W [".."] = .ok W.dropLast), _, rfl⟩
      · -- a last piece that is a name would be the file name
        have hdots : (Path.walked p).filter (· ≠ ".") =
            (earlier.reverse).filter (· ≠ ".") ++ [last] := by
          rw [hwalked, List.filter_append, List.filter_cons_of_pos (by simpa using hdot),
            List.filter_nil]
        rw [Path.fileName?_of_walked hdots hup] at h
        cases h

/-! ## Siblings in a tree -/

/-- Two paths never name the same entry of a tree. -/
def Apart (a b : String) : Prop :=
  ∀ T T', t.locate a = .ok T → t.locate b = .ok T' → T.route ≠ T'.route

/-- A sibling never names what its path names. -/
theorem apart_sibling {s : String} (hs : IsName s) (p : String) :
    t.Apart p (Path.sibling p s) := by
  intro T T' hT hT'
  cases h : Path.fileName? p with
  | none =>
    -- the sibling is the entry `s` of the directory the path names
    obtain ⟨hwalk, -⟩ := locate_of_fileName_none t h hT
    rw [Path.sibling_of_fileName_none h, locate_push t hs, hwalk] at hT'
    cases hT'
    simp [Target.route]
  | some f =>
    -- the path names `f` and the sibling `f ++ s`, in one directory
    obtain ⟨P, hP, hroute, -⟩ := locate_of_fileName t h hT
    rw [locate_sibling_of_fileName t hs h, hP] at hT'
    cases hT'
    rw [hroute, Target.route]
    simpa using (hs.append_ne f).symm

/-- Siblings for two suffixes never name the same entry. -/
theorem apart_sibling_sibling {s s' : String} (hs : IsName s) (hs' : IsName s') (hne : s ≠ s')
    (p : String) : t.Apart (Path.sibling p s) (Path.sibling p s') := by
  intro T T' hT hT'
  cases h : Path.fileName? p with
  | none =>
    rw [Path.sibling_of_fileName_none h, locate_push t hs] at hT
    rw [Path.sibling_of_fileName_none h, locate_push t hs'] at hT'
    obtain ⟨P, hP, hT⟩ := exists_of_bind_eq_ok hT
    rw [hP] at hT'
    cases hT
    cases hT'
    simpa [Target.route] using hne
  | some f =>
    rw [locate_sibling_of_fileName t hs h] at hT
    rw [locate_sibling_of_fileName t hs' h] at hT'
    obtain ⟨P, hP, hT⟩ := exists_of_bind_eq_ok hT
    rw [hP] at hT'
    cases hT
    cases hT'
    simpa [Target.route] using hne

/-- Where a path and its sibling are both entries, they are entries of one directory. -/
theorem sibling_same_directory {s : String} (hs : IsName s) (p : String)
    {P P' : List String} {n n' : String} {d d' : Bool}
    (hT : t.locate (Path.sibling p s) = .ok (.entry P n d))
    (hT' : t.locate p = .ok (.entry P' n' d')) : P = P' := by
  cases h : Path.fileName? p with
  | none =>
    -- a path without a file name names a directory
    obtain ⟨-, W, hW⟩ := locate_of_fileName_none t h hT'
    cases hW
  | some f =>
    obtain ⟨Q, hQ, -, hentry⟩ := locate_of_fileName t h hT'
    rw [locate_sibling_of_fileName t hs h, hQ] at hT
    cases hT
    exact (hentry _ _ _ rfl).symm

end Tree

end BearerSession.Disk

namespace BearerSession.FileStore

open Disk Path

theorem isName_tmp : IsName ".tmp" := ⟨by decide, by decide, by decide, by simp⟩

theorem isName_lock : IsName ".lock" := ⟨by decide, by decide, by decide, by simp⟩

/-- **The siblings of a credential file.** The temporary file and the lock file are two paths
other than the credential file and other than each other. When the path has a file name `f`,
they are the files `f.tmp` and `f.lock` of its own directory. In every tree no two of the three
name the same entry, and where the temporary file and the path are both entries they are
entries of one directory, so the rename that replaces the file stays in that directory. -/
theorem temp_and_lock_are_distinct_siblings (s : FileStore) :
    parts s.tempPath ≠ parts s.path ∧ parts s.lockPath ≠ parts s.path ∧
      parts s.tempPath ≠ parts s.lockPath ∧
      (∀ f, fileName? s.path = some f →
        parent? s.tempPath = parent? s.path ∧ fileName? s.tempPath = some (f ++ ".tmp") ∧
        parent? s.lockPath = parent? s.path ∧ fileName? s.lockPath = some (f ++ ".lock")) ∧
      ∀ t : Tree, t.Apart s.path s.tempPath ∧ t.Apart s.path s.lockPath ∧
        t.Apart s.tempPath s.lockPath ∧
        ∀ P n d P' n' d', t.locate s.tempPath = .ok (.entry P n d) →
          t.locate s.path = .ok (.entry P' n' d') → P = P' := by
  have hdiff : ".tmp" ≠ ".lock" := by decide
  refine ⟨parts_sibling_ne isName_tmp s.path, parts_sibling_ne isName_lock s.path,
    parts_sibling_ne_sibling isName_tmp isName_lock hdiff s.path, fun f hf => ?_, fun t => ?_⟩
  · obtain ⟨htp, htf⟩ := sibling_beside isName_tmp hf
    obtain ⟨hlp, hlf⟩ := sibling_beside isName_lock hf
    exact ⟨htp, htf, hlp, hlf⟩
  · exact ⟨t.apart_sibling isName_tmp s.path, t.apart_sibling isName_lock s.path,
      t.apart_sibling_sibling isName_tmp isName_lock hdiff s.path,
      fun _ _ _ _ _ _ hT hT' => t.sibling_same_directory isName_tmp s.path hT hT'⟩

/-- The credential file `sub/c.json` has the siblings `sub/c.json.tmp` and `sub/c.json.lock`. -/
theorem subdirectory_file_siblings :
    fileName? "sub/c.json" = some "c.json" ∧
      parent? (FileStore.tempPath ⟨"sub/c.json"⟩) = parent? "sub/c.json" ∧
      fileName? (FileStore.tempPath ⟨"sub/c.json"⟩) = some "c.json.tmp" ∧
      parent? (FileStore.lockPath ⟨"sub/c.json"⟩) = parent? "sub/c.json" ∧
      fileName? (FileStore.lockPath ⟨"sub/c.json"⟩) = some "c.json.lock" := by
  have hsub : IsName "sub" := ⟨by decide, by decide, by decide, by simp⟩
  have hc : IsName "c.json" := ⟨by decide, by decide, by decide, by simp⟩
  have hparts : parts "sub/c.json" = [.name "sub"] ++ [.name "c.json"] := by
    rw [show "sub/c.json" = "sub" ++ "/" ++ "c.json" from rfl, parts_append_slash hsub.ne_empty,
      parts_of_isName hsub, stepsOf_name hc]
  have hname : fileName? "sub/c.json" = some "c.json" := fileName?_of_parts hparts
  exact ⟨hname, (temp_and_lock_are_distinct_siblings ⟨"sub/c.json"⟩).2.2.2.1 "c.json" hname⟩

end BearerSession.FileStore
