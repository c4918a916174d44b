import BearerSession.Proofs.CredentialDocument
import Mathlib

/-!
# A credential file shared by many callers

Any number of callers work on one credential file at once, each running `set`, `clear` or `get`
as the file store does, one file system call at a time; the calls of different callers
interleave in any order (`Shared.Step`).

* `set` and `clear` first make the calls before the lock (the directories above the path and
  the lock file, `preludeCalls`), then take the exclusive lock, which waits while another caller
  holds it. Holding it they make the calls of their work (`Op.body`: for `set` the calls of
  `replace`, for `clear` the removal) until the first that fails, and then give the lock back.
  `acquire_eq` and `replace_eq` say that these are the very calls of the store.
* `get` reads the file in one call and answers what `FileStore.get` gives.
* Any call may fail: as the file system makes it fail, with what it changed, or out of the
  blue, changing nothing. Any caller may stop after any step; a holder that stops gives its
  lock back, as closing the lock file does.

What the file system does is left open up to the laws of `Lawful`: no call the callers make,
apart from the rename of the temporary file onto the path, brings new contents to the path; the
calls made without the lock leave the temporary file as it is; and creating, writing, syncing
and setting the bits of the temporary file do what they say.

The invariant `Whole` holds in every state of every run (`Reachable.whole`): the file at the
path is absent or holds the whole document of one `set` call, and every `get` answered what the
store reads from such a file. The holder's temporary file carries the argument: it holds exactly
what the holder wrote since it took the lock, because every other writer waits for the lock.

Since a document reads back as its pair (`FileStore.get_document`), every `get` answers no
pair, a failure, or the pair one `set` call was given (`Reachable.file_and_answers_whole`).
The laws are met by a file system of named files (`flatFileSystem`), where every call does what
it says.
-/

namespace BearerSession

open Disk

namespace Disk.FileSystem

variable {σ : Type} (fs : FileSystem σ)

/-- Makes calls one after the other; the first that fails ends the run. -/
def runAll : List Call → EStateM IoError σ Unit
  | [] => pure ()
  | c :: rest => do
    fs.run c
    runAll rest

end Disk.FileSystem

namespace FileStore

/-! ## The calls of the store -/

section Calls

variable {σ : Type} (fs : FileSystem σ) (s : FileStore)

/-- The calls made before the lock: the directories above the path, then the lock file. -/
def preludeCalls : List Call :=
  (match Path.parent? s.path with
    | some parent => if parent.isEmpty then [] else [.makeDirs (Path.render parent)]
    | none => []) ++ [.openKeep s.lockPath]

/-- Taking the lock is the calls before it, then the lock. -/
theorem acquire_eq : s.acquire fs = fs.runAll (s.preludeCalls ++ [.lock s.lockPath]) := by
  unfold acquire preludeCalls
  rcases Path.parent? s.path with _ | parent
  · simp [FileSystem.runAll]
  · by_cases h : parent.isEmpty <;> simp [h, FileSystem.runAll]

/-- The calls that replace the file by `contents`. -/
def replaceCalls (contents : ByteArray) : List Call :=
  [.create s.tempPath, .setMode s.tempPath privateMode, .write s.tempPath contents,
    .sync s.tempPath, .rename s.tempPath s.path]

/-- Replacing the file is its calls, one after the other. -/
theorem replace_eq (contents : ByteArray) :
    s.replace fs contents = fs.runAll (s.replaceCalls contents) := by
  simp [replace, replaceCalls, FileSystem.runAll]

end Calls

/-! ## Callers and their steps -/

/-- An operation a caller runs on the credential file. -/
inductive Op where
  | set (now : Clock.Instant) (pair : Pair)
  | clear
  | get

namespace Op

/-- The octets a `set` writes: its credential document. -/
def document : Op → Option ByteArray
  | .set now pair => some (Saved.document ⟨pair, now⟩).toUTF8
  | _ => none

/-- The calls an operation makes while it holds the lock. -/
def body (s : FileStore) : Op → List Call
  | .set now pair => s.replaceCalls (Saved.document ⟨pair, now⟩).toUTF8
  | .clear => [.remove s.path]
  | .get => []

end Op

/-- Where a caller stands. -/
inductive Stage where
  /-- Taking the lock: the calls before it that are left; with none left, the lock itself. -/
  | acquiring (rest : List Call)
  /-- Holding the lock: the calls of the work that are left; with none left, the unlock. -/
  | working (rest : List Call)
  /-- A `get` whose read is left. -/
  | reading
  /-- A `get` that answered. -/
  | answered (answer : Except Failure (Option Pair))
  /-- Done, failed or stopped, without the lock. -/
  | finished

/-- Whether a caller at this stage holds the lock. -/
def Stage.isWorking : Stage → Bool
  | .working _ => true
  | _ => false

/-- The first stage of an operation. -/
def Op.start (s : FileStore) : Op → Stage
  | .get => .reading
  | _ => .acquiring s.preludeCalls

/-- A caller: the operation it runs and where it stands. -/
structure Caller where
  op : Op
  stage : Stage

/-- Callers on one file, the state of the file system, and the caller holding the lock. -/
structure Shared (σ : Type) where
  disk : σ
  holder : Option Nat
  callers : List Caller

/-- The documents the `set` callers write. -/
def Shared.documents {σ : Type} (sh : Shared σ) : List ByteArray :=
  sh.callers.filterMap (·.op.document)

section Steps

variable {σ : Type} (fs : FileSystem σ) (s : FileStore)

/-- A call that failed, leaving `st'`: as the file system makes it fail, or out of the blue,
changing nothing. -/
def Fails (c : Call) (st st' : σ) : Prop :=
  (∃ e, fs.perform c st = (st', .error e)) ∨ st' = st

/-- One step of one caller on the file `s` over the file system `fs`. -/
inductive Step : Shared σ → Shared σ → Prop
  /-- A new caller starts an operation. -/
  | spawn {sh : Shared σ} (op : Op) :
      Step sh { sh with callers := sh.callers ++ [⟨op, op.start s⟩] }
  /-- A call before the lock succeeds. -/
  | prelude {sh : Shared σ} {i : Nat} {op : Op} {c : Call} {rest : List Call} {st : σ} :
      sh.callers[i]? = some ⟨op, .acquiring (c :: rest)⟩ → fs.perform c sh.disk = (st, .ok ()) →
      Step sh { sh with disk := st, callers := sh.callers.set i ⟨op, .acquiring rest⟩ }
  /-- A call before the lock fails, which ends the operation. -/
  | preludeFails {sh : Shared σ} {i : Nat} {op : Op} {c : Call} {rest : List Call} {st : σ} :
      sh.callers[i]? = some ⟨op, .acquiring (c :: rest)⟩ → Fails fs c sh.disk st →
      Step sh { sh with disk := st, callers := sh.callers.set i ⟨op, .finished⟩ }
  /-- The lock is taken, when nobody holds it. -/
  | lock {sh : Shared σ} {i : Nat} {op : Op} {st : σ} :
      sh.callers[i]? = some ⟨op, .acquiring []⟩ → sh.holder = none →
      fs.perform (.lock s.lockPath) sh.disk = (st, .ok ()) →
      Step sh ⟨st, some i, sh.callers.set i ⟨op, .working (op.body s)⟩⟩
  /-- Taking the lock fails, which ends the operation. -/
  | lockFails {sh : Shared σ} {i : Nat} {op : Op} {st : σ} :
      sh.callers[i]? = some ⟨op, .acquiring []⟩ → Fails fs (.lock s.lockPath) sh.disk st →
      Step sh { sh with disk := st, callers := sh.callers.set i ⟨op, .finished⟩ }
  /-- A call of the work succeeds. -/
  | work {sh : Shared σ} {i : Nat} {op : Op} {c : Call} {rest : List Call} {st : σ} :
      sh.callers[i]? = some ⟨op, .working (c :: rest)⟩ → fs.perform c sh.disk = (st, .ok ()) →
      Step sh { sh with disk := st, callers := sh.callers.set i ⟨op, .working rest⟩ }
  /-- A call of the work fails, which leaves only the unlock. -/
  | workFails {sh : Shared σ} {i : Nat} {op : Op} {c : Call} {rest : List Call} {st : σ} :
      sh.callers[i]? = some ⟨op, .working (c :: rest)⟩ → Fails fs c sh.disk st →
      Step sh { sh with disk := st, callers := sh.callers.set i ⟨op, .working []⟩ }
  /-- The lock is given back, whatever the unlock gives. -/
  | unlock {sh : Shared σ} {i : Nat} {op : Op} {st : σ} :
      sh.callers[i]? = some ⟨op, .working []⟩ →
      st = (fs.perform (.unlock s.lockPath) sh.disk).1 ∨ st = sh.disk →
      Step sh ⟨st, none, sh.callers.set i ⟨op, .finished⟩⟩
  /-- A `get` reads the file and answers. -/
  | read {sh : Shared σ} {i : Nat} {op : Op} :
      sh.callers[i]? = some ⟨op, .reading⟩ →
      Step sh { sh with callers := sh.callers.set i ⟨op, .answered (s.get fs sh.disk)⟩ }
  /-- A caller stops; its lock, if it holds it, is given back. -/
  | stop {sh : Shared σ} {i : Nat} {p : Caller} :
      sh.callers[i]? = some p →
      Step sh ⟨sh.disk, if sh.holder = some i then none else sh.holder,
        sh.callers.set i ⟨p.op, .finished⟩⟩

end Steps

/-! ## What the file system must do -/

section Laws

variable {σ : Type} (fs : FileSystem σ) (s : FileStore)

/-- Nothing appears at `path` from `st` to `st'` that was not there before. -/
def NoNewAt (path : String) (st st' : σ) : Prop :=
  ∀ b, fs.read path st' = .ok b → fs.read path st = .ok b

/-- What `path` holds in `st`, if anything, it still holds in `st'`. -/
def KeptAt (path : String) (st st' : σ) : Prop :=
  ∀ b, fs.read path st = .ok b → fs.read path st' = .ok b

/-- The calls of the callers but the writes and the rename. -/
def keepingCalls : List Call :=
  s.preludeCalls ++ [.lock s.lockPath, .unlock s.lockPath, .create s.tempPath,
    .setMode s.tempPath privateMode, .sync s.tempPath, .remove s.path]

/-- The laws of a file system that the argument uses, for the file `s`. Each holds of a file
system whose path, temporary file and lock file are three different files and where each call
changes only the file it names. -/
structure Lawful : Prop where
  /-- These calls bring nothing new to the path, whether they succeed or fail. -/
  keeps : ∀ c ∈ s.keepingCalls, ∀ st, NoNewAt fs s.path st (fs.perform c st).1
  /-- Nor does writing the temporary file. -/
  write_keeps : ∀ d st, NoNewAt fs s.path st (fs.perform (.write s.tempPath d) st).1
  /-- The rename brings to the path what the temporary file held, or nothing. -/
  rename_brings : ∀ st b, fs.read s.path (fs.perform (.rename s.tempPath s.path) st).1 = .ok b →
    fs.read s.path st = .ok b ∨ fs.read s.tempPath st = .ok b
  /-- The calls made without the lock leave the temporary file as it is. -/
  unlocked_keep_temp : ∀ c ∈ s.preludeCalls ++ [.lock s.lockPath], ∀ st,
    KeptAt fs s.tempPath st (fs.perform c st).1
  /-- A created file is empty. -/
  create_empties : ∀ st st', fs.perform (.create s.tempPath) st = (st', .ok ()) →
    fs.read s.tempPath st' = .ok .empty
  /-- Setting the bits keeps the contents. -/
  setMode_keeps : ∀ st st', fs.perform (.setMode s.tempPath privateMode) st = (st', .ok ()) →
    KeptAt fs s.tempPath st st'
  /-- A write adds its octets at the end. -/
  write_appends : ∀ d st st' b, fs.perform (.write s.tempPath d) st = (st', .ok ()) →
    fs.read s.tempPath st = .ok b → fs.read s.tempPath st' = .ok (b ++ d)
  /-- Syncing keeps the contents. -/
  sync_keeps : ∀ st st', fs.perform (.sync s.tempPath) st = (st', .ok ()) →
    KeptAt fs s.tempPath st st'

end Laws

section Failing

variable {σ : Type} {fs : FileSystem σ} {c : Call} {path : String} {st st' : σ}

/-- A failed call brings nothing new where the call never does. -/
theorem Fails.noNew (h : Fails fs c st st') (hc : ∀ st, NoNewAt fs path st (fs.perform c st).1) :
    NoNewAt fs path st st' := by
  rcases h with ⟨e, he⟩ | rfl
  · have hkeep := hc st
    rw [he] at hkeep
    exact hkeep
  · exact fun _ hb => hb

/-- A failed call keeps a file that the call always keeps. -/
theorem Fails.kept (h : Fails fs c st st') (hc : ∀ st, KeptAt fs path st (fs.perform c st).1) :
    KeptAt fs path st st' := by
  rcases h with ⟨e, he⟩ | rfl
  · have hkeep := hc st
    rw [he] at hkeep
    exact hkeep
  · exact fun _ hb => hb

end Failing

/-! ## The invariant -/

section Invariant

variable {σ : Type} (fs : FileSystem σ) (s : FileStore)

/-- Where a caller may stand, given its operation: the calls it has left are the last ones of
its calls before the lock or of its work. -/
def Caller.Shaped (p : Caller) : Prop :=
  match p.stage with
  | .acquiring rest => rest <:+ s.preludeCalls
  | .working rest => rest <:+ p.op.body s
  | _ => True

/-- What the temporary file of a writer holding the lock holds: nothing once it is created,
the whole document once it is written, up to the rename. -/
def Caller.TempHolds (st : σ) (p : Caller) : Prop :=
  ∀ d rest, p.op.document = some d → p.stage = .working rest → 0 < rest.length →
    rest.length ≤ 4 → fs.read s.tempPath st = .ok (if rest.length ≤ 2 then d else .empty)

/-- An answer of `get` read from a file that was absent or held one of `docs`. -/
def Answered (docs : List ByteArray) (r : Except Failure (Option Pair)) : Prop :=
  ∃ st, r = s.get fs st ∧ ∀ b, fs.read s.path st = .ok b → b ∈ docs

/-- The invariant of the callers on the file. -/
structure Whole (sh : Shared σ) : Prop where
  /-- Every caller stands where its operation can. -/
  shaped : ∀ p ∈ sh.callers, p.Shaped s
  /-- The lock is held by exactly the caller at work. -/
  held : ∀ i, sh.holder = some i ↔ ∃ p, sh.callers[i]? = some p ∧ p.stage.isWorking
  /-- The file at the path is a document that a `set` caller writes. -/
  file : ∀ b, fs.read s.path sh.disk = .ok b → b ∈ sh.documents
  /-- The temporary file of the holder holds what it wrote. -/
  temp : ∀ i p, sh.holder = some i → sh.callers[i]? = some p → p.TempHolds fs s sh.disk
  /-- Every `get` answered from a file that was absent or held such a document. -/
  answers : ∀ p ∈ sh.callers, ∀ r, p.stage = .answered r → Answered fs s sh.documents r

end Invariant

/-! ## Facts of one step -/

section Facts

variable {σ : Type} {fs : FileSystem σ} {s : FileStore}

/-- A caller keeps its operation, so the documents stay what they were. -/
theorem filterMap_document_set {callers : List Caller} {i : Nat} {p q : Caller}
    (h : callers[i]? = some p) (hop : q.op = p.op) :
    (callers.set i q).filterMap (·.op.document) = callers.filterMap (·.op.document) := by
  induction callers generalizing i with
  | nil => simp at h
  | cons r rest ih =>
    cases i with
    | zero =>
      simp only [List.getElem?_cons_zero, Option.some.injEq] at h
      subst h
      simp only [List.set_cons_zero, List.filterMap_cons, hop]
    | succ i =>
      simp only [List.getElem?_cons_succ] at h
      simp only [List.set_cons_succ, List.filterMap_cons, ih h]

/-- The document of a `set` caller is among the documents. -/
theorem mem_documents {sh : Shared σ} {i : Nat} {p : Caller} {d : ByteArray}
    (hi : sh.callers[i]? = some p) (hd : p.op.document = some d) : d ∈ sh.documents :=
  List.mem_filterMap.2 ⟨p, List.mem_of_getElem? hi, hd⟩

/-- An answer read from a file among fewer documents is one among more. -/
theorem Answered.mono {docs docs' : List ByteArray} {r : Except Failure (Option Pair)}
    (h : Answered fs s docs r) (hsub : ∀ b ∈ docs, b ∈ docs') : Answered fs s docs' r := by
  obtain ⟨st, hr, hfile⟩ := h
  exact ⟨st, hr, fun b hb => hsub b (hfile b hb)⟩

/-- The temporary file of the holder holds the same in a state that keeps it. -/
theorem Caller.TempHolds.kept {p : Caller} {st st' : σ} (h : p.TempHolds fs s st)
    (hkept : KeptAt fs s.tempPath st st') : p.TempHolds fs s st' :=
  fun d rest hd hst hpos hle => hkept _ (h d rest hd hst hpos hle)

/-- A caller that is not at work, once moved to another stage that is not, leaves the holder
of the lock as it was. -/
theorem held_set {callers : List Caller} {holder : Option Nat} {i : Nat} {p q : Caller}
    (h : ∀ j, holder = some j ↔ ∃ p, callers[j]? = some p ∧ p.stage.isWorking)
    (hi : callers[i]? = some p) (hp : p.stage.isWorking = false)
    (hq : q.stage.isWorking = false) :
    ∀ j, holder = some j ↔ ∃ p, (callers.set i q)[j]? = some p ∧ p.stage.isWorking := by
  intro j
  rw [h j]
  by_cases hij : i = j
  · subst hij
    obtain ⟨hlt, hget⟩ := List.getElem?_eq_some_iff.1 hi
    simp [hlt, hget, hp, hq]
  · simp [List.getElem?_set_ne hij]

/-- The holder is the caller at work. -/
theorem Whole.holder_of_working (hw : Whole fs s sh) {i : Nat} {op : Op} {rest : List Call}
    (hi : sh.callers[i]? = some ⟨op, .working rest⟩) : sh.holder = some i :=
  (hw.held i).2 ⟨_, hi, rfl⟩

/-- A caller that is not at work does not hold the lock. -/
theorem Whole.ne_of_holder (hw : Whole fs s sh) {i j : Nat} {p : Caller}
    (hi : sh.callers[i]? = some p) (hp : p.stage.isWorking = false) (hj : sh.holder = some j) :
    i ≠ j := by
  rintro rfl
  obtain ⟨q, hq, hwork⟩ := (hw.held i).1 hj
  rw [hi, Option.some.injEq] at hq
  subst hq
  rw [hp] at hwork
  cases hwork

/-- Moving one caller to another stage of its operation keeps the documents. -/
theorem Shared.documents_set {sh : Shared σ} {disk : σ} {holder : Option Nat} {i : Nat} {op : Op}
    {a b : Stage} (hi : sh.callers[i]? = some ⟨op, a⟩) :
    (⟨disk, holder, sh.callers.set i ⟨op, b⟩⟩ : Shared σ).documents = sh.documents :=
  filterMap_document_set hi rfl

/-- The caller at work, moved on in its work, still holds the lock, and alone. -/
theorem Whole.held_working (hw : Whole fs s sh) {i : Nat} {op : Op} {rest rest' : List Call}
    (hi : sh.callers[i]? = some ⟨op, .working rest⟩) (j : Nat) :
    sh.holder = some j ↔
      ∃ p, (sh.callers.set i ⟨op, .working rest'⟩)[j]? = some p ∧ p.stage.isWorking := by
  by_cases hij : i = j
  · subst hij
    simp [(List.getElem?_eq_some_iff.1 hi).1, hw.holder_of_working hi, Stage.isWorking]
  · rw [List.getElem?_set_ne hij]
    exact hw.held j

/-- Moving one caller to a stage its operation can reach leaves every caller so. -/
theorem Whole.shaped_set (hw : Whole fs s sh) {i : Nat} {p q : Caller}
    (hp : p ∈ sh.callers.set i q) (hq : q.Shaped s) : p.Shaped s := by
  rcases List.mem_or_eq_of_mem_set hp with hp | rfl
  · exact hw.shaped p hp
  · exact hq

/-- Moving one caller to a stage that is no answer leaves the answers as they were. -/
theorem Whole.answers_set (hw : Whole fs s sh) {i : Nat} {p q : Caller}
    (hp : p ∈ sh.callers.set i q) {r : Except Failure (Option Pair)} (hr : p.stage = .answered r)
    (hq : ∀ r, q.stage ≠ .answered r) : Answered fs s sh.documents r := by
  rcases List.mem_or_eq_of_mem_set hp with hp | rfl
  · exact hw.answers p hp r hr
  · exact absurd hr (hq r)

/-- A new caller is not at work. -/
theorem Op.start_isWorking (op : Op) : (op.start s).isWorking = false := by
  cases op <;> rfl

/-- A new caller stands where its operation can. -/
theorem Op.start_shaped (op : Op) : Caller.Shaped s ⟨op, op.start s⟩ := by
  cases op <;> simp [Caller.Shaped, Op.start]

/-- The calls left of a `set`'s work, by the next one. -/
theorem suffix_replaceCalls {d : ByteArray} {c : Call} {rest : List Call}
    (h : (c :: rest) <:+ s.replaceCalls d) :
    (c = .create s.tempPath ∧ rest = (s.replaceCalls d).drop 1) ∨
    (c = .setMode s.tempPath privateMode ∧ rest = (s.replaceCalls d).drop 2) ∨
    (c = .write s.tempPath d ∧ rest = (s.replaceCalls d).drop 3) ∨
    (c = .sync s.tempPath ∧ rest = (s.replaceCalls d).drop 4) ∨
    (c = .rename s.tempPath s.path ∧ rest = []) := by
  simpa [replaceCalls, List.suffix_cons_iff] using h

/-- The next call of the work: one that brings nothing new to the path, a write of the
temporary file, or the rename that ends a `set`. -/
theorem Op.bodyCall {op : Op} {c : Call} {rest : List Call} (h : (c :: rest) <:+ op.body s) :
    c ∈ s.keepingCalls ∨ (∃ d, c = .write s.tempPath d) ∨
      (c = .rename s.tempPath s.path ∧ rest = [] ∧ ∃ d, op.document = some d) := by
  cases op with
  | set now pair =>
    rcases suffix_replaceCalls h with ⟨rfl, -⟩ | ⟨rfl, -⟩ | ⟨rfl, -⟩ | ⟨rfl, -⟩ | ⟨rfl, rfl⟩
    · exact .inl (by simp [keepingCalls])
    · exact .inl (by simp [keepingCalls])
    · exact .inr (.inl ⟨_, rfl⟩)
    · exact .inl (by simp [keepingCalls])
    · exact .inr (.inr ⟨rfl, rfl, _, rfl⟩)
  | clear =>
    have hc : c = .remove s.path ∧ rest = [] := by simpa [Op.body, List.suffix_cons_iff] using h
    exact .inl (by simp [keepingCalls, hc.1])
  | get => simp [Op.body] at h

/-- One call of a `set`'s work keeps what its temporary file holds in step with the calls
made: created empty, bits set, the document written, synced. -/
theorem Caller.TempHolds.work (hlaw : Lawful fs s) {op : Op} {c : Call} {rest : List Call}
    {st st' : σ} (hshape : (c :: rest) <:+ op.body s)
    (h : Caller.TempHolds fs s st ⟨op, .working (c :: rest)⟩)
    (hperf : fs.perform c st = (st', .ok ())) :
    Caller.TempHolds fs s st' ⟨op, .working rest⟩ := by
  intro d rest' hd hstage hpos hle
  cases hstage
  cases op with
  | set now pair =>
    simp only [Op.document, Option.some.injEq] at hd
    subst hd
    rcases suffix_replaceCalls hshape with
      ⟨rfl, rfl⟩ | ⟨rfl, rfl⟩ | ⟨rfl, rfl⟩ | ⟨rfl, rfl⟩ | ⟨rfl, rfl⟩
    · simpa [replaceCalls] using hlaw.create_empties st st' hperf
    · have hempty := h _ _ rfl rfl (by simp [replaceCalls]) (by simp [replaceCalls])
      simpa [replaceCalls] using hlaw.setMode_keeps st st' hperf _ hempty
    · have hempty := h _ _ rfl rfl (by simp [replaceCalls]) (by simp [replaceCalls])
      simp only [replaceCalls, List.drop_succ_cons, List.drop_zero, List.length_cons,
        List.length_nil] at hempty ⊢
      simpa [ByteArray.empty_append] using hlaw.write_appends _ st st' _ hperf hempty
    · have hwritten := h _ _ rfl rfl (by simp [replaceCalls]) (by simp [replaceCalls])
      simpa [replaceCalls] using hlaw.sync_keeps st st' hperf _ hwritten
    · simp at hpos
  | clear => simp [Op.document] at hd
  | get => simp [Op.document] at hd

end Facts

/-! ## Every step keeps the invariant -/

section Preserve

variable {σ : Type} {fs : FileSystem σ} {s : FileStore} {sh : Shared σ}

/-- A new caller keeps the invariant: it is not at work, and its document only adds to the
documents. -/
theorem Whole.spawn (hw : Whole fs s sh) (op : Op) :
    Whole fs s { sh with callers := sh.callers ++ [⟨op, op.start s⟩] } := by
  have hsub : ∀ x ∈ sh.documents,
      x ∈ ({ sh with callers := sh.callers ++ [⟨op, op.start s⟩] } : Shared σ).documents := by
    intro x hx
    simp only [Shared.documents, List.filterMap_append, List.mem_append] at hx ⊢
    exact .inl hx
  refine ⟨fun p hp => ?_, fun j => ?_, fun x hx => hsub x (hw.file x hx),
    fun j p hj hp => ?_, fun p hp r hr => ?_⟩
  · rcases List.mem_append.1 hp with hp | hp
    · exact hw.shaped p hp
    · rw [List.mem_singleton.1 hp]
      exact Op.start_shaped op
  · rw [hw.held j]
    constructor
    · rintro ⟨p, hp, hwork⟩
      refine ⟨p, ?_, hwork⟩
      rw [List.getElem?_append_left (List.getElem?_eq_some_iff.1 hp).1]
      exact hp
    · rintro ⟨p, hp, hwork⟩
      rw [List.getElem?_append] at hp
      split at hp
      · exact ⟨p, hp, hwork⟩
      · -- the new caller is not at work
        rw [List.mem_singleton.1 (List.mem_of_getElem? hp), Op.start_isWorking] at hwork
        cases hwork
  · -- the holder is an old caller
    obtain ⟨q, hq, -⟩ := (hw.held j).1 hj
    rw [List.getElem?_append_left (List.getElem?_eq_some_iff.1 hq).1] at hp
    exact hw.temp j p hj hp
  · rcases List.mem_append.1 hp with hp | hp
    · exact (hw.answers p hp r hr).mono hsub
    · rw [List.mem_singleton.1 hp] at hr
      cases op <;> cases hr

/-- A caller that moves between stages without the lock keeps the invariant, when the file
system brings nothing new to the path and keeps the temporary file. -/
theorem Whole.quietMove (hw : Whole fs s sh) {i : Nat} {op : Op} {a b : Stage} {st : σ}
    (hi : sh.callers[i]? = some ⟨op, a⟩) (ha : a.isWorking = false) (hb : b.isWorking = false)
    (hshape : Caller.Shaped s ⟨op, b⟩)
    (hanswer : ∀ r, b = .answered r → Answered fs s sh.documents r)
    (hfile : NoNewAt fs s.path sh.disk st) (htemp : KeptAt fs s.tempPath sh.disk st) :
    Whole fs s ⟨st, sh.holder, sh.callers.set i ⟨op, b⟩⟩ := by
  refine ⟨fun p hp => ?_, held_set hw.held hi ha hb, fun x hx => ?_, fun j p hj hp => ?_,
    fun p hp r hr => ?_⟩
  · exact hw.shaped_set hp hshape
  · rw [Shared.documents_set hi]
    exact hw.file x (hfile x hx)
  · -- the holder is another caller, whose stage is untouched
    rw [List.getElem?_set_ne (hw.ne_of_holder hi ha hj)] at hp
    exact Caller.TempHolds.kept (hw.temp j p hj hp) htemp
  · rw [Shared.documents_set hi]
    rcases List.mem_or_eq_of_mem_set hp with hp | rfl
    · exact hw.answers p hp r hr
    · exact hanswer r hr

/-- Taking the free lock keeps the invariant: the new holder has not touched the temporary file
yet. -/
theorem Whole.lock (hlaw : Lawful fs s) (hw : Whole fs s sh) {i : Nat} {op : Op} {st : σ}
    (hi : sh.callers[i]? = some ⟨op, .acquiring []⟩) (hfree : sh.holder = none)
    (hperf : fs.perform (.lock s.lockPath) sh.disk = (st, .ok ())) :
    Whole fs s ⟨st, some i, sh.callers.set i ⟨op, .working (op.body s)⟩⟩ := by
  have hlt := (List.getElem?_eq_some_iff.1 hi).1
  have hnew : NoNewAt fs s.path sh.disk st := by
    have hkeep := hlaw.keeps (.lock s.lockPath) (by simp [keepingCalls]) sh.disk
    rwa [hperf] at hkeep
  refine ⟨fun p hp => ?_, fun j => ?_, fun x hx => ?_, fun j p hj hp => ?_, fun p hp r hr => ?_⟩
  · exact hw.shaped_set hp (List.suffix_refl _)
  · by_cases hij : i = j
    · subst hij
      simp [hlt, Stage.isWorking]
    · -- nobody else is at work: the lock was free
      rw [List.getElem?_set_ne hij, ← hw.held j, hfree]
      simp [hij]
  · rw [Shared.documents_set hi]
    exact hw.file x (hnew x hx)
  · cases hj
    rw [List.getElem?_set_self hlt] at hp
    cases hp
    intro d rest hd hstage hpos hle
    cases hstage
    cases op with
    | set now pair => simp [Op.body, replaceCalls] at hle
    | clear => simp [Op.document] at hd
    | get => simp [Op.document] at hd
  · rw [Shared.documents_set hi]
    exact hw.answers_set hp hr fun _ => nofun

/-- Whatever the holder's next call leaves at the path is a document: nothing new, or its own
document through the rename. -/
theorem Whole.file_after_work (hlaw : Lawful fs s) (hw : Whole fs s sh) {i : Nat} {op : Op}
    {c : Call} {rest : List Call} (hi : sh.callers[i]? = some ⟨op, .working (c :: rest)⟩) :
    ∀ x, fs.read s.path (fs.perform c sh.disk).1 = .ok x → x ∈ sh.documents := by
  intro x hx
  have hshape : (c :: rest) <:+ op.body s := hw.shaped _ (List.mem_of_getElem? hi)
  rcases Op.bodyCall hshape with hc | ⟨d, rfl⟩ | ⟨rfl, rfl, d, hd⟩
  · exact hw.file x (hlaw.keeps c hc sh.disk x hx)
  · exact hw.file x (hlaw.write_keeps d sh.disk x hx)
  · rcases hlaw.rename_brings sh.disk x hx with hold | hrenamed
    · exact hw.file x hold
    · -- the temporary file holds the holder's own document
      have hwritten := hw.temp i _ (hw.holder_of_working hi) hi d _ hd rfl (by simp) (by simp)
      rw [if_pos (by simp)] at hwritten
      rw [hwritten, Except.ok.injEq] at hrenamed
      rw [← hrenamed]
      exact mem_documents hi hd

/-- A call of the work that succeeds keeps the invariant. -/
theorem Whole.work (hlaw : Lawful fs s) (hw : Whole fs s sh) {i : Nat} {op : Op} {c : Call}
    {rest : List Call} {st : σ} (hi : sh.callers[i]? = some ⟨op, .working (c :: rest)⟩)
    (hperf : fs.perform c sh.disk = (st, .ok ())) :
    Whole fs s { sh with disk := st, callers := sh.callers.set i ⟨op, .working rest⟩ } := by
  have hhold := hw.holder_of_working hi
  have hshape : (c :: rest) <:+ op.body s := hw.shaped _ (List.mem_of_getElem? hi)
  have hlt := (List.getElem?_eq_some_iff.1 hi).1
  refine ⟨fun p hp => ?_, hw.held_working hi, fun x hx => ?_, fun j p hj hp => ?_,
    fun p hp r hr => ?_⟩
  · exact hw.shaped_set hp ((List.suffix_cons c rest).trans hshape)
  · rw [Shared.documents_set hi]
    refine hw.file_after_work hlaw hi x ?_
    rw [hperf]
    exact hx
  · rw [hhold, Option.some.injEq] at hj
    subst hj
    rw [List.getElem?_set_self hlt] at hp
    cases hp
    exact Caller.TempHolds.work hlaw hshape (hw.temp i _ hhold hi) hperf
  · rw [Shared.documents_set hi]
    exact hw.answers_set hp hr fun _ => nofun

/-- A call of the work that fails keeps the invariant: only the unlock is left. -/
theorem Whole.workFails (hlaw : Lawful fs s) (hw : Whole fs s sh) {i : Nat} {op : Op}
    {c : Call} {rest : List Call} {st : σ}
    (hi : sh.callers[i]? = some ⟨op, .working (c :: rest)⟩) (hfail : Fails fs c sh.disk st) :
    Whole fs s { sh with disk := st, callers := sh.callers.set i ⟨op, .working []⟩ } := by
  have hhold := hw.holder_of_working hi
  have hlt := (List.getElem?_eq_some_iff.1 hi).1
  refine ⟨fun p hp => ?_, hw.held_working hi, fun x hx => ?_, fun j p hj hp => ?_,
    fun p hp r hr => ?_⟩
  · exact hw.shaped_set hp List.nil_suffix
  · rw [Shared.documents_set hi]
    rcases hfail with ⟨e, he⟩ | rfl
    · refine hw.file_after_work hlaw hi x ?_
      rw [he]
      exact hx
    · exact hw.file x hx
  · -- with no call left, nothing is said of the temporary file
    rw [hhold, Option.some.injEq] at hj
    subst hj
    rw [List.getElem?_set_self hlt] at hp
    cases hp
    intro d rest' hd hstage hpos
    cases hstage
    simp at hpos
  · rw [Shared.documents_set hi]
    exact hw.answers_set hp hr fun _ => nofun

/-- Giving the lock back keeps the invariant: nobody is at work any more. -/
theorem Whole.unlock (hlaw : Lawful fs s) (hw : Whole fs s sh) {i : Nat} {op : Op} {st : σ}
    (hi : sh.callers[i]? = some ⟨op, .working []⟩)
    (hst : st = (fs.perform (.unlock s.lockPath) sh.disk).1 ∨ st = sh.disk) :
    Whole fs s ⟨st, none, sh.callers.set i ⟨op, .finished⟩⟩ := by
  have hhold := hw.holder_of_working hi
  have hlt := (List.getElem?_eq_some_iff.1 hi).1
  have hnew : NoNewAt fs s.path sh.disk st := by
    rcases hst with rfl | rfl
    · exact hlaw.keeps (.unlock s.lockPath) (by simp [keepingCalls]) sh.disk
    · exact fun _ hx => hx
  refine ⟨fun p hp => ?_, fun j => ?_, fun x hx => ?_, fun j p hj hp => ?_, fun p hp r hr => ?_⟩
  · exact hw.shaped_set hp trivial
  · by_cases hij : i = j
    · subst hij
      simp [hlt, Stage.isWorking]
    · -- the only caller at work was the one that gave the lock back
      rw [List.getElem?_set_ne hij, ← hw.held j, hhold]
      simp [hij]
  · rw [Shared.documents_set hi]
    exact hw.file x (hnew x hx)
  · cases hj
  · rw [Shared.documents_set hi]
    exact hw.answers_set hp hr fun _ => nofun

/-- A caller that stops keeps the invariant; its lock, if it held it, is free. -/
theorem Whole.stop (hw : Whole fs s sh) {i : Nat} {p : Caller} (hi : sh.callers[i]? = some p) :
    Whole fs s ⟨sh.disk, if sh.holder = some i then none else sh.holder,
      sh.callers.set i ⟨p.op, .finished⟩⟩ := by
  have hlt := (List.getElem?_eq_some_iff.1 hi).1
  refine ⟨fun q hq => ?_, fun j => ?_, fun x hx => ?_, fun j q hj hq => ?_, fun q hq r hr => ?_⟩
  · exact hw.shaped_set hq trivial
  · by_cases hij : i = j
    · subst hij
      by_cases hheld : sh.holder = some i <;> simp [hheld, hlt, Stage.isWorking]
    · rw [List.getElem?_set_ne hij, ← hw.held j]
      by_cases hheld : sh.holder = some i
      · simp [hheld, hij]
      · simp [hheld]
  · rw [Shared.documents_set hi]
    exact hw.file x hx
  · -- a holder that stays is another caller
    by_cases hheld : sh.holder = some i
    · simp [hheld] at hj
    · rw [if_neg hheld] at hj
      have hij : i ≠ j := fun h => hheld (h ▸ hj)
      rw [List.getElem?_set_ne hij] at hq
      exact hw.temp j q hj hq
  · rw [Shared.documents_set hi]
    exact hw.answers_set hq hr fun _ => nofun

/-- **One step keeps the invariant**, whichever caller moves and however its call ends. -/
theorem Step.whole (hlaw : Lawful fs s) (hw : Whole fs s sh) {sh' : Shared σ}
    (h : Step fs s sh sh') : Whole fs s sh' := by
  cases h with
  | spawn op => exact hw.spawn op
  | @prelude i op c rest st hi hperf =>
    have hshape : (c :: rest) <:+ s.preludeCalls := hw.shaped _ (List.mem_of_getElem? hi)
    have hc : c ∈ s.preludeCalls := hshape.subset List.mem_cons_self
    have hnew := hlaw.keeps c (List.mem_append_left _ hc) sh.disk
    have hkept := hlaw.unlocked_keep_temp c (List.mem_append_left _ hc) sh.disk
    rw [hperf] at hnew hkept
    exact hw.quietMove hi rfl rfl ((List.suffix_cons c rest).trans hshape)
      (fun _ h => by cases h) hnew hkept
  | @preludeFails i op c rest st hi hfail =>
    have hshape : (c :: rest) <:+ s.preludeCalls := hw.shaped _ (List.mem_of_getElem? hi)
    have hc : c ∈ s.preludeCalls := hshape.subset List.mem_cons_self
    exact hw.quietMove hi rfl rfl trivial (fun _ h => by cases h)
      (hfail.noNew (hlaw.keeps c (List.mem_append_left _ hc)))
      (hfail.kept (hlaw.unlocked_keep_temp c (List.mem_append_left _ hc)))
  | lock hi hfree hperf => exact hw.lock hlaw hi hfree hperf
  | lockFails hi hfail =>
    exact hw.quietMove hi rfl rfl trivial (fun _ h => by cases h)
      (hfail.noNew (hlaw.keeps _ (by simp [keepingCalls])))
      (hfail.kept (hlaw.unlocked_keep_temp _ (by simp)))
  | work hi hperf => exact hw.work hlaw hi hperf
  | workFails hi hfail => exact hw.workFails hlaw hi hfail
  | unlock hi hst => exact hw.unlock hlaw hi hst
  | read hi =>
    -- the answer is read from the file as it stands, a document or nothing
    exact hw.quietMove hi rfl rfl trivial (fun _ h => by cases h; exact ⟨_, rfl, hw.file⟩)
      (fun _ hx => hx) (fun _ hx => hx)
  | stop hi => exact hw.stop hi

end Preserve

/-! ## Every run keeps the invariant -/

section Runs

variable {σ : Type} (fs : FileSystem σ) (s : FileStore)

/-- A state where no caller is under way: the lock is free, every caller is done, and the file
at the path, if any, holds a document of one of their `set` calls. -/
structure Quiet (sh : Shared σ) : Prop where
  free : sh.holder = none
  done : ∀ p ∈ sh.callers, p.stage = .finished
  file : ∀ b, fs.read s.path sh.disk = .ok b → b ∈ sh.documents

variable {fs s}

/-- A quiet state satisfies the invariant. -/
theorem Quiet.whole {sh : Shared σ} (h : Quiet fs s sh) : Whole fs s sh := by
  refine ⟨fun p hp => ?_, fun j => ?_, h.file, fun j p hj _ => ?_, fun p hp r hr => ?_⟩
  · simp [Caller.Shaped, h.done p hp]
  · rw [h.free]
    simp only [reduceCtorEq, false_iff, not_exists, not_and]
    intro p hp
    simp [h.done p (List.mem_of_getElem? hp), Stage.isWorking]
  · rw [h.free] at hj
    cases hj
  · rw [h.done p hp] at hr
    cases hr

/-- **Every run keeps the invariant.** From a quiet state, over a lawful file system, every
interleaving of the callers' steps, with any call failing and any caller stopping, reaches
only states where `Whole` holds. -/
theorem Reachable.whole (hlaw : Lawful fs s) {sh₀ sh : Shared σ} (h₀ : Quiet fs s sh₀)
    (h : Relation.ReflTransGen (Step fs s) sh₀ sh) : Whole fs s sh := by
  induction h with
  | refl => exact h₀.whole
  | tail _ hstep ih => exact Step.whole hlaw ih hstep

end Runs

/-! ## What the callers see -/

section Seen

variable {σ : Type} {fs : FileSystem σ} {s : FileStore}

theorem Op.document_eq_some {op : Op} {d : ByteArray} (h : op.document = some d) :
    ∃ now pair, op = .set now pair ∧ d = (Saved.document ⟨pair, now⟩).toUTF8 := by
  cases op with
  | set now pair => exact ⟨now, pair, rfl, (Option.some.inj h).symm⟩
  | clear => cases h
  | get => cases h

/-- A document among those the callers write is the whole document of one `set` caller. -/
theorem set_of_mem_documents {callers : List Caller} {d : ByteArray}
    (h : d ∈ callers.filterMap (·.op.document)) :
    ∃ p ∈ callers, ∃ now pair, p.op = .set now pair ∧
      d = (Saved.document ⟨pair, now⟩).toUTF8 := by
  obtain ⟨p, hp, hd⟩ := List.mem_filterMap.1 h
  exact ⟨p, hp, Op.document_eq_some hd⟩

/-- A file that is not there, or cannot be read, gives no pair. -/
theorem get_of_read_error {st : σ} {e : IoError} (h : fs.read s.path st = .error e) :
    s.get fs st = .ok none ∨ ∃ f, s.get fs st = .error f := by
  unfold get load
  rw [h]
  dsimp only
  split
  · exact .inl rfl
  · exact .inr ⟨_, rfl⟩

/-- What a `get` answered from a file that was absent or held one of the documents: no pair,
a failure, or the pair of one `set` caller, whole. -/
theorem Answered.cases {callers : List Caller} {r : Except Failure (Option Pair)}
    (h : Answered fs s (callers.filterMap (·.op.document)) r) :
    r = .ok none ∨ (∃ f, r = .error f) ∨
      ∃ p ∈ callers, ∃ now pair, p.op = .set now pair ∧ r = .ok (some pair) := by
  obtain ⟨st, rfl, hfile⟩ := h
  cases hread : fs.read s.path st with
  | error e =>
    rcases get_of_read_error hread with hnone | hfail
    · exact .inl hnone
    · exact .inr (.inl hfail)
  | ok b =>
    obtain ⟨p, hp, now, pair, hop, rfl⟩ := set_of_mem_documents (hfile b hread)
    have hget := get_document hread
    rcases hr : s.get fs st with f | _ | pair'
    · exact .inr (.inl ⟨f, rfl⟩)
    · exact .inl rfl
    · -- the pair read is the pair of the document
      rw [hr] at hget
      cases ht : Clock.Rfc3339.read now.text with
      | error _ => simp [ht, Except.toOption] at hget
      | ok _ =>
        simp only [ht, Except.toOption, Option.map_some, Option.some.injEq] at hget
        exact .inr (.inr ⟨p, hp, now, pair, hop, by rw [hget]⟩)

/-- **A shared credential file is always whole.** However the calls of any number of `set`,
`clear` and `get` callers interleave, with any call failing and any caller stopping, the file
at the path is at every moment absent or the whole document of one `set` call, and every `get`
answers no pair, a failure, or the pair that one `set` call was given, never the tokens of two
calls mixed. -/
theorem Reachable.file_and_answers_whole (hlaw : Lawful fs s) {sh₀ sh : Shared σ}
    (h₀ : Quiet fs s sh₀) (h : Relation.ReflTransGen (Step fs s) sh₀ sh) :
    (∀ b, fs.read s.path sh.disk = .ok b →
      ∃ p ∈ sh.callers, ∃ now pair, p.op = .set now pair ∧
        b = (Saved.document ⟨pair, now⟩).toUTF8) ∧
    ∀ p ∈ sh.callers, ∀ r, p.stage = .answered r →
      r = .ok none ∨ (∃ f, r = .error f) ∨
        ∃ q ∈ sh.callers, ∃ now pair, q.op = .set now pair ∧ r = .ok (some pair) := by
  have hw := Reachable.whole hlaw h₀ h
  exact ⟨fun b hb => set_of_mem_documents (hw.file b hb),
    fun p hp r hr => (hw.answers p hp r hr).cases⟩

end Seen

/-! ## A lawful file system -/

section Flat

/-- Files by name, without directories: every call does what it says on the file it names,
and fails only on a file that is not there. -/
def flatFileSystem : FileSystem (String → Option ByteArray) where
  perform c m :=
    match c with
    | .openKeep p => (Function.update m p (some ((m p).getD .empty)), .ok ())
    | .create p => (Function.update m p (some .empty), .ok ())
    | .write p d =>
      match m p with
      | some b => (Function.update m p (some (b ++ d)), .ok ())
      | none => (m, .error (.os .noEntry))
    | .rename source target =>
      match m source with
      | some b => (Function.update (Function.update m source none) target (some b), .ok ())
      | none => (m, .error (.os .noEntry))
    | .remove p => (Function.update m p none, .ok ())
    | _ => (m, .ok ())
  read p m :=
    match m p with
    | some b => .ok b
    | none => .error (.os .noEntry)

/-- Named files keep the laws for a credential file `c`. -/
theorem flatFileSystem_lawful : Lawful flatFileSystem ⟨"c"⟩ := by
  have ht : FileStore.tempPath ⟨"c"⟩ = "c.tmp" := by cbv
  have hl : FileStore.lockPath ⟨"c"⟩ = "c.lock" := by cbv
  have hp : FileStore.preludeCalls ⟨"c"⟩ = [.openKeep "c.lock"] := by cbv
  refine ⟨?keeps, ?write_keeps, ?rename_brings, ?unlocked_keep_temp, ?create_empties,
    ?setMode_keeps, ?write_appends, ?sync_keeps⟩
  case keeps =>
    intro c hc st b hb
    simp only [keepingCalls, hp, ht, hl, List.cons_append, List.nil_append, List.mem_cons,
      List.not_mem_nil, or_false] at hc
    rcases hc with rfl | rfl | rfl | rfl | rfl | rfl | rfl <;>
      simp [flatFileSystem] at hb ⊢ <;> exact hb
  case write_keeps =>
    intro d st b hb
    rw [ht] at hb
    cases hst : st "c.tmp" <;> simp [flatFileSystem, hst] at hb ⊢ <;> exact hb
  case rename_brings =>
    -- the path gets what the temporary file held, or keeps what it had
    intro st b hb
    rw [ht]
    rw [ht] at hb
    cases hst : st "c.tmp" with
    | none =>
      left
      simpa [flatFileSystem, hst] using hb
    | some b' =>
      right
      simp [flatFileSystem, hst] at hb ⊢
      exact hb
  case unlocked_keep_temp =>
    intro c hc st b hb
    simp only [hp, hl, List.cons_append, List.nil_append, List.mem_cons, List.not_mem_nil,
      or_false] at hc
    rw [ht] at hb ⊢
    rcases hc with rfl | rfl <;> simp [flatFileSystem] at hb ⊢ <;> exact hb
  case create_empties =>
    intro st st' h
    rw [ht] at h ⊢
    simp only [flatFileSystem, Prod.mk.injEq] at h
    rw [← h.1]
    simp [flatFileSystem]
  case setMode_keeps =>
    intro st st' h b hb
    rw [ht] at h hb ⊢
    simp only [flatFileSystem, Prod.mk.injEq] at h
    rw [← h.1]
    exact hb
  case write_appends =>
    intro d st st' b h hb
    rw [ht] at h hb ⊢
    cases hst : st "c.tmp" with
    | none => simp [flatFileSystem, hst] at h
    | some b' =>
      simp only [flatFileSystem, hst, Prod.mk.injEq, Except.ok.injEq] at h hb
      rw [← h.1, ← hb]
      simp [flatFileSystem]
  case sync_keeps =>
    intro st st' h b hb
    rw [ht] at h hb ⊢
    simp only [flatFileSystem, Prod.mk.injEq] at h
    rw [← h.1]
    exact hb

/-- One `set` caller has written its document to `c` and is done. -/
def writtenOnce : Shared (String → Option ByteArray) :=
  ⟨Function.update (fun _ => none) "c"
      (some (Saved.document ⟨Pair.of "a" "r", ⟨2024, 1, 1, 0, 0, 0, 0⟩⟩).toUTF8),
    none, [⟨.set ⟨2024, 1, 1, 0, 0, 0, 0⟩ (Pair.of "a" "r"), .finished⟩]⟩

/-- After `writtenOnce`, a `get` caller came and read the file. -/
def readOnce : Shared (String → Option ByteArray) :=
  ⟨writtenOnce.disk, none, writtenOnce.callers ++
    [⟨.get, .answered (FileStore.get flatFileSystem ⟨"c"⟩ writtenOnce.disk)⟩]⟩

/-- The laws hold of named files, a file written once is quiet, and a `get` then reads it. -/
theorem flat_file_and_answers_whole :
    Lawful flatFileSystem ⟨"c"⟩ ∧ Quiet flatFileSystem ⟨"c"⟩ writtenOnce ∧
    Relation.ReflTransGen (Step flatFileSystem ⟨"c"⟩) writtenOnce readOnce ∧
    ((∀ b, flatFileSystem.read "c" readOnce.disk = .ok b →
      ∃ p ∈ readOnce.callers, ∃ now pair, p.op = .set now pair ∧
        b = (Saved.document ⟨pair, now⟩).toUTF8) ∧
    ∀ p ∈ readOnce.callers, ∀ r, p.stage = .answered r →
      r = .ok none ∨ (∃ f, r = .error f) ∨
        ∃ q ∈ readOnce.callers, ∃ now pair, q.op = .set now pair ∧ r = .ok (some pair)) := by
  have hquiet : Quiet flatFileSystem ⟨"c"⟩ writtenOnce := by
    refine ⟨rfl, by simp [writtenOnce], fun b hb => ?_⟩
    simp [flatFileSystem, writtenOnce] at hb
    simp [writtenOnce, Shared.documents, Op.document, hb]
  have hrun : Relation.ReflTransGen (Step flatFileSystem ⟨"c"⟩) writtenOnce readOnce :=
    .tail (.single (Step.spawn .get)) (Step.read (i := 1) rfl)
  exact ⟨flatFileSystem_lawful, hquiet, hrun,
    Reachable.file_and_answers_whole flatFileSystem_lawful hquiet hrun⟩

end Flat

end FileStore

end BearerSession
