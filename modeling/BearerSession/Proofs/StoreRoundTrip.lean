import BearerSession.Proofs.FailedWrite
import BearerSession.Proofs.TimeText

/-!
# Writes read back

Writes to a credential file that all succeed leave it holding what the last of them saved: a
run of `set` and `clear` calls leaves the document of the last `set` not followed by a `clear`,
or no file (`Succeeds.holds`). Stores on one path are one store, since a `FileStore` is its
path and keeps nothing else between calls.

What the file holds reads back (`load_of_holds`): no file is no credentials, and a document
reads as the pair it was written from, whatever its tokens hold, with the instant it was
stamped with to the nanosecond, for every instant a clock can give, since the RFC 3339 text of
such an instant reads back as itself (`Clock.Rfc3339.read_text`).

Two facts of single calls complete the picture: a `set` that succeeds leaves no temporary file
(`Faithful.set_ok`), and a `clear` on an absent file only takes and gives back the lock
(`Faithful.clear_absent`), so it fails only when the lock does. The main statement is
`writes_read_back`.

What the file system does is left open up to the laws of `Faithful`: what each call of the
store does when it succeeds, and that nothing but the removal makes a missing file appear or
go. Named files keep them (`flatFileSystem_faithful`).
-/

namespace BearerSession

open Disk

namespace FileStore

/-! ## What the calls do when they succeed -/

section Laws

variable {σ : Type} (fs : FileSystem σ) (s : FileStore)

/-- No file is at `path`: reading it fails as reading a missing file does. -/
def Absent (path : String) (st : σ) : Prop :=
  ∃ e, fs.read path st = .error e ∧ e.isNotFound = true

/-- What the calls of the store `s` do when they succeed, and what becomes of a missing file.
Each holds of a file system where the path, the temporary file and the lock file are three
different files and each call changes only the file it names. -/
structure Faithful : Prop where
  /-- A created file is empty. -/
  create_empties : ∀ st st', fs.perform (.create s.tempPath) st = (st', .ok ()) →
    fs.read s.tempPath st' = .ok .empty
  /-- Setting the bits keeps the contents. -/
  setMode_keeps : ∀ st st', fs.perform (.setMode s.tempPath privateMode) st = (st', .ok ()) →
    fs.read s.tempPath st' = fs.read s.tempPath st
  /-- A write adds its octets at the end. -/
  write_appends : ∀ d st st' b, fs.perform (.write s.tempPath d) st = (st', .ok ()) →
    fs.read s.tempPath st = .ok b → fs.read s.tempPath st' = .ok (b ++ d)
  /-- Syncing keeps the contents. -/
  sync_keeps : ∀ st st', fs.perform (.sync s.tempPath) st = (st', .ok ()) →
    fs.read s.tempPath st' = fs.read s.tempPath st
  /-- The rename moves the temporary file onto the path. -/
  rename_moves : ∀ st st' b, fs.perform (.rename s.tempPath s.path) st = (st', .ok ()) →
    fs.read s.tempPath st = .ok b → fs.read s.path st' = .ok b ∧ Absent fs s.tempPath st'
  /-- Giving the lock back keeps both files. -/
  unlock_keeps : ∀ st st', fs.perform (.unlock s.lockPath) st = (st', .ok ()) →
    fs.read s.path st' = fs.read s.path st ∧ fs.read s.tempPath st' = fs.read s.tempPath st
  /-- A removal that succeeds, or fails for want of the file, leaves no file. -/
  remove_absents : ∀ st st' r, fs.perform (.remove s.path) st = (st', r) →
    (∀ e, r = .error e → e.isNotFound = true) → Absent fs s.path st'
  /-- The calls before the lock leave a missing file missing. -/
  unlocked_keep_absent : ∀ c ∈ s.preludeCalls ++ [.lock s.lockPath], ∀ st,
    Absent fs s.path st → Absent fs s.path (fs.perform c st).1
  /-- Removing a missing file changes nothing, and fails, if it fails, for want of the file. -/
  remove_missing : ∀ st, Absent fs s.path st → (fs.perform (.remove s.path) st).1 = st ∧
    ∀ e, (fs.perform (.remove s.path) st).2 = .error e → e.isNotFound = true

end Laws

/-! ## Runs of writes -/

/-- A call that writes the credential file. -/
inductive Write where
  | set (now : Clock.Instant) (pair : Pair)
  | clear

namespace Write

variable {σ : Type}

/-- The credentials the file holds after the write: those it saves, or none. -/
def saved : Write → Option Saved
  | .set now pair => some ⟨pair, now⟩
  | .clear => none

/-- Makes the write on the file `s`. -/
def perform (fs : FileSystem σ) (s : FileStore) : Write → σ → σ × Except Failure Unit
  | .set now pair => s.set fs now pair
  | .clear => s.clear fs

end Write

/-- The writes `ws`, made one after the other from `st`, all succeed and end in `st'`. -/
inductive Succeeds {σ : Type} (fs : FileSystem σ) (s : FileStore) : σ → List Write → σ → Prop
  | nil (st : σ) : Succeeds fs s st [] st
  | cons {st st₁ st' : σ} {w : Write} {ws : List Write} :
    w.perform fs s st = (st₁, .ok ()) → Succeeds fs s st₁ ws st' → Succeeds fs s st (w :: ws) st'

/-- The credentials a file that held `init` holds after the writes `ws`: those of the last
write, none when it is a `clear`, and `init` after no writes. -/
def lastSaved (init : Option Saved) (ws : List Write) : Option Saved :=
  match ws.getLast? with
  | some w => w.saved
  | none => init

theorem lastSaved_cons (init : Option Saved) (w : Write) (ws : List Write) :
    lastSaved init (w :: ws) = lastSaved w.saved ws := by
  cases ws with
  | nil => rfl
  | cons w' ws =>
    obtain ⟨x, hx⟩ : ∃ x, (w' :: ws).getLast? = some x :=
      ⟨_, List.getLast?_eq_some_getLast (List.cons_ne_nil w' ws)⟩
    simp [lastSaved, List.getLast?_cons_cons, hx]

/-- The file holds the document of `saved`, or there is no file when there is none. -/
def Holds {σ : Type} (fs : FileSystem σ) (s : FileStore) (st : σ) : Option Saved → Prop
  | none => Absent fs s.path st
  | some sv => fs.read s.path st = .ok (Saved.document sv).toUTF8

/-! ## Inside a successful call -/

section Success

variable {σ : Type} {fs : FileSystem σ} {s : FileStore}

theorem outcome_ok {step : EStateM IoError σ Unit} {st st' : σ}
    (h : s.outcome step st = (st', .ok ())) : step st = .ok () st' := by
  unfold outcome at h
  rcases hs : step st with ⟨⟨⟩, st₁⟩ | ⟨e, st₁⟩ <;> rw [hs] at h
  · cases h
    rfl
  · cases h

/-- Work under the lock succeeds when the lock is taken, the work succeeds and the lock is
given back. -/
theorem locked_ok {body : EStateM IoError σ Unit} {st st' : σ}
    (h : s.locked fs body st = .ok () st') :
    ∃ st₁ st₂, s.acquire fs st = .ok () st₁ ∧ body st₁ = .ok () st₂ ∧
      fs.perform (.unlock s.lockPath) st₂ = (st', .ok ()) := by
  unfold locked at h
  rcases ha : s.acquire fs st with ⟨⟨⟩, st₁⟩ | ⟨e₀, st₁⟩ <;> rw [ha] at h
  · dsimp only at h
    rcases hb : body st₁ with ⟨⟨⟩, st₂⟩ | ⟨e₁, st₂⟩ <;> rw [hb] at h
    · rcases hu : fs.perform (.unlock s.lockPath) st₂ with ⟨st₃, e₂ | ⟨⟩⟩ <;>
        simp only [FileSystem.run, hu] at h <;> cases h
      exact ⟨st₁, st₂, rfl, hb, hu⟩
    · rcases hu : fs.perform (.unlock s.lockPath) st₂ with ⟨st₃, e₂ | ⟨⟩⟩ <;>
        simp only [FileSystem.run, hu] at h <;> cases h
  · cases h

theorem runAll_nil (st : σ) : fs.runAll [] st = .ok () st := rfl

theorem runAll_cons_ok {c : Call} {rest : List Call} {st st' : σ}
    (h : fs.runAll (c :: rest) st = .ok () st') :
    ∃ st₁, fs.perform c st = (st₁, .ok ()) ∧ fs.runAll rest st₁ = .ok () st' := by
  rw [runAll_cons] at h
  rcases hc : fs.perform c st with ⟨st₁, e | ⟨⟩⟩ <;> rw [hc] at h
  · cases h
  · exact ⟨st₁, rfl, h⟩

/-- What each call that succeeds keeps, a run of them that succeeds keeps. -/
theorem runAll_ok_of_step {P : σ → Prop} {cs : List Call}
    (hstep : ∀ c ∈ cs, ∀ st st', fs.perform c st = (st', .ok ()) → P st → P st')
    {st st' : σ} (h : fs.runAll cs st = .ok () st') (hp : P st) : P st' := by
  induction cs generalizing st with
  | nil =>
    cases h
    exact hp
  | cons c rest ih =>
    obtain ⟨st₁, hc, hrest⟩ := runAll_cons_ok h
    exact ih (fun c' hc' => hstep c' (List.mem_cons_of_mem _ hc')) hrest
      (hstep c List.mem_cons_self st st₁ hc hp)

/-- A removal that the store counts as done either removed the file or found none. -/
theorem discard_ok {st st' : σ} (h : s.discard fs st = .ok () st') :
    ∃ r, fs.perform (.remove s.path) st = (st', r) ∧ ∀ e, r = .error e → e.isNotFound = true := by
  unfold discard FileSystem.run at h
  rcases hr : fs.perform (.remove s.path) st with ⟨st₁, e | ⟨⟩⟩ <;> rw [hr] at h
  · dsimp only at h
    cases hnf : e.isNotFound <;> rw [hnf] at h
    · cases h
    · cases h
      exact ⟨_, rfl, fun e' he' => by cases he'; exact hnf⟩
  · cases h
    exact ⟨_, rfl, fun e' he' => by cases he'⟩

end Success

/-! ## One call -/

section Calls

variable {σ : Type} {fs : FileSystem σ} {s : FileStore}

/-- **A `set` that succeeds** leaves its document at the path and no temporary file. -/
theorem Faithful.set_ok (hf : Faithful fs s) {now : Clock.Instant} {pair : Pair} {st st' : σ}
    (h : s.set fs now pair st = (st', .ok ())) :
    fs.read s.path st' = .ok (Saved.document ⟨pair, now⟩).toUTF8 ∧ Absent fs s.tempPath st' := by
  obtain ⟨st₁, st₂, -, hbody, hunlock⟩ := locked_ok (outcome_ok h)
  rw [replace_eq, replaceCalls] at hbody
  -- the temporary file is created, its bits set, written, synced and moved onto the path
  obtain ⟨a, ha, hbody⟩ := runAll_cons_ok hbody
  obtain ⟨b, hb, hbody⟩ := runAll_cons_ok hbody
  obtain ⟨c, hc, hbody⟩ := runAll_cons_ok hbody
  obtain ⟨d, hd, hbody⟩ := runAll_cons_ok hbody
  obtain ⟨e, he, hbody⟩ := runAll_cons_ok hbody
  cases hbody
  have hwritten : fs.read s.tempPath d = .ok (Saved.document ⟨pair, now⟩).toUTF8 := by
    have hempty : fs.read s.tempPath b = .ok .empty := by
      rw [hf.setMode_keeps _ _ hb, hf.create_empties _ _ ha]
    rw [hf.sync_keeps _ _ hd, hf.write_appends _ _ _ _ hc hempty, ByteArray.empty_append]
  obtain ⟨hpath, ⟨err, herr, hnf⟩⟩ := hf.rename_moves _ _ _ he hwritten
  obtain ⟨hkeepPath, hkeepTemp⟩ := hf.unlock_keeps _ _ hunlock
  exact ⟨hkeepPath.trans hpath, err, hkeepTemp.trans herr, hnf⟩

/-- A `clear` that succeeds leaves no file. -/
theorem Faithful.clear_ok (hf : Faithful fs s) {st st' : σ} (h : s.clear fs st = (st', .ok ())) :
    Absent fs s.path st' := by
  obtain ⟨st₁, st₂, -, hbody, hunlock⟩ := locked_ok (outcome_ok h)
  obtain ⟨r, hr, hnf⟩ := discard_ok hbody
  obtain ⟨err, herr, hnf'⟩ := hf.remove_absents _ _ _ hr hnf
  exact ⟨err, (hf.unlock_keeps _ _ hunlock).1.trans herr, hnf'⟩

/-- A write that succeeds leaves the file holding what it saves. -/
theorem Faithful.write_holds (hf : Faithful fs s) {w : Write} {st st' : σ}
    (h : w.perform fs s st = (st', .ok ())) : Holds fs s st' w.saved := by
  cases w with
  | set now pair => exact (hf.set_ok h).1
  | clear => exact hf.clear_ok h

/-- Taking the lock leaves a missing file missing. -/
theorem Faithful.acquire_absent (hf : Faithful fs s) {st st' : σ}
    (h : s.acquire fs st = .ok () st') (habsent : Absent fs s.path st) : Absent fs s.path st' := by
  rw [acquire_eq] at h
  refine runAll_ok_of_step (fun c hc st₁ st₂ hstep habs => ?_) h habsent
  have hkeep := hf.unlocked_keep_absent c hc st₁ habs
  rwa [hstep] at hkeep

/-- **A `clear` on an absent file** only takes and gives back the lock. -/
theorem Faithful.clear_absent (hf : Faithful fs s) {st : σ} (habsent : Absent fs s.path st) :
    s.clear fs st = s.outcome (s.locked fs (pure ())) st := by
  -- once the lock is taken the file is still missing, and removing it does nothing
  have hlocked : s.locked fs (s.discard fs) st = s.locked fs (pure ()) st := by
    unfold locked
    rcases ha : s.acquire fs st with ⟨⟨⟩, st₁⟩ | ⟨e, st₁⟩
    · obtain ⟨hsame, hnf⟩ := hf.remove_missing st₁ (hf.acquire_absent ha habsent)
      have hdiscard : s.discard fs st₁ = .ok () st₁ := by
        unfold discard FileSystem.run
        rcases hr : fs.perform (.remove s.path) st₁ with ⟨st₂, e | ⟨⟩⟩ <;>
          rw [hr] at hsame hnf <;> cases hsame
        · simp [hnf e rfl]
        · rfl
      simp only [hdiscard]
      rfl
    · rfl
  unfold clear outcome
  rw [hlocked]

end Calls

/-! ## Runs and what they read -/

section Runs

variable {σ : Type} {fs : FileSystem σ} {s : FileStore}

/-- **Every run of successful writes** leaves the file holding the credentials of the last
write, or what it held before when there were none. -/
theorem Succeeds.holds (hf : Faithful fs s) {st st' : σ} {ws : List Write}
    (h : Succeeds fs s st ws st') {init : Option Saved} (hinit : Holds fs s st init) :
    Holds fs s st' (lastSaved init ws) := by
  induction h generalizing init with
  | nil => exact hinit
  | cons hw _ ih =>
    rw [lastSaved_cons]
    exact ih (hf.write_holds hw)

/-- A file that holds a credential document is loaded as its pair, with the instant its time
text reads as, or fails to load when that text does not read. -/
theorem load_document {st : σ} {sv : Saved}
    (h : fs.read s.path st = .ok (Saved.document sv).toUTF8) :
    (s.load fs st).toOption =
      (Clock.Rfc3339.read sv.savedAt.text).toOption.map fun t => some ⟨sv.pair, t⟩ := by
  have hparse := Saved.parse_document sv
  unfold load
  rw [h]
  dsimp only
  rw [Text.Utf8.decode?_toUTF8]
  dsimp only
  cases hp : Saved.parse (Saved.document sv).toUTF8 with
  | error e =>
    rw [hp] at hparse
    cases ht : Clock.Rfc3339.read sv.savedAt.text <;> simp_all [Except.toOption]
  | ok saved =>
    rw [hp] at hparse
    cases ht : Clock.Rfc3339.read sv.savedAt.text <;> simp_all [Except.toOption]

/-- What the file holds is what `load` reads, when its instant is one a clock can give. -/
theorem load_of_holds {st : σ} {o : Option Saved} (h : Holds fs s st o)
    (hv : ∀ sv ∈ o, sv.savedAt.Valid) : s.load fs st = .ok o := by
  cases o with
  | none =>
    obtain ⟨e, he, hnf⟩ := h
    unfold load
    simp [he, hnf]
  | some sv =>
    have hload := load_document (s := s) h
    rw [Clock.Rfc3339.read_text (hv sv rfl)] at hload
    rcases hl : s.load fs st with f | o'
    · simp [hl, Except.toOption] at hload
    · simp only [hl, Except.toOption, Option.map_some, Option.some.injEq] at hload
      rw [hload]

/-- **Successful writes read back.** Over a file system where the calls of the store do what
they say, after writes that all succeed, from a file holding some credentials or none: `load`
reads the credentials of the last `set` not followed by a `clear`, with its instant to the
nanosecond, and `get` its pair, whatever the tokens hold; both read none when a `clear` came
last. Every `set` that succeeds leaves no temporary file, and a `clear` on an absent file only
takes and gives back the lock. -/
theorem writes_read_back (hf : Faithful fs s) {st st' : σ} {ws : List Write}
    {init : Option Saved} (hinit : Holds fs s st init) (hrun : Succeeds fs s st ws st')
    (hvalid : ∀ sv ∈ lastSaved init ws, sv.savedAt.Valid) :
    s.load fs st' = .ok (lastSaved init ws) ∧
      s.get fs st' = .ok ((lastSaved init ws).map Saved.pair) ∧
      (∀ now pair st₁ st₂, s.set fs now pair st₁ = (st₂, .ok ()) → Absent fs s.tempPath st₂) ∧
      ∀ st₁, Absent fs s.path st₁ → s.clear fs st₁ = s.outcome (s.locked fs (pure ())) st₁ := by
  have hload := load_of_holds (hrun.holds hf hinit) hvalid
  refine ⟨hload, ?_, fun now pair st₁ st₂ h => (hf.set_ok h).2, fun st₁ h => hf.clear_absent h⟩
  rw [get, hload]
  rfl

end Runs

/-! ## Named files -/

section Flat

theorem flat_absent {m : String → Option ByteArray} {p : String} :
    Absent flatFileSystem p m ↔ m p = none := by
  constructor
  · rintro ⟨e, he, -⟩
    cases hp : m p
    · rfl
    · simp [flatFileSystem, hp] at he
  · intro hp
    exact ⟨.os .noEntry, by simp [flatFileSystem, hp], rfl⟩

/-- Named files keep the laws for a credential file `c`. -/
theorem flatFileSystem_faithful : Faithful flatFileSystem ⟨"c"⟩ := by
  have ht : FileStore.tempPath ⟨"c"⟩ = "c.tmp" := by cbv
  have hl : FileStore.lockPath ⟨"c"⟩ = "c.lock" := by cbv
  have hp : FileStore.preludeCalls ⟨"c"⟩ = [.openKeep "c.lock"] := by cbv
  -- creating and writing the temporary file are as in `flatFileSystem_lawful`
  refine ⟨flatFileSystem_lawful.create_empties, ?setMode_keeps, flatFileSystem_lawful.write_appends,
    ?sync_keeps, ?rename_moves, ?unlock_keeps, ?remove_absents, ?unlocked_keep_absent,
    ?remove_missing⟩
  case setMode_keeps =>
    intro st st' h
    rw [ht] at h ⊢
    simp only [flatFileSystem, Prod.mk.injEq] at h
    rw [← h.1]
  case sync_keeps =>
    intro st st' h
    rw [ht] at h ⊢
    simp only [flatFileSystem, Prod.mk.injEq] at h
    rw [← h.1]
  case rename_moves =>
    -- the path gets what the temporary file held, and the temporary file is gone
    intro st st' b h hb
    rw [ht] at h hb ⊢
    cases hst : st "c.tmp" with
    | none => simp [flatFileSystem, hst] at hb
    | some b' =>
      simp only [flatFileSystem, hst, Prod.mk.injEq, Except.ok.injEq] at h hb
      rw [← h.1, flat_absent, ← hb]
      simp [flatFileSystem]
  case unlock_keeps =>
    intro st st' h
    simp only [flatFileSystem, Prod.mk.injEq] at h
    rw [← h.1]
    exact ⟨rfl, rfl⟩
  case remove_absents =>
    intro st st' r h _
    simp only [flatFileSystem, Prod.mk.injEq] at h
    rw [← h.1, flat_absent]
    simp
  case unlocked_keep_absent =>
    intro c hc st habsent
    simp only [hp, hl, List.cons_append, List.nil_append, List.mem_cons, List.not_mem_nil,
      or_false] at hc
    rw [flat_absent] at habsent ⊢
    rcases hc with rfl | rfl <;> simp [flatFileSystem, habsent]
  case remove_missing =>
    intro st habsent
    rw [flat_absent] at habsent
    simp [flatFileSystem, ← habsent]

/-- Every write on `c` succeeds among named files. -/
theorem flat_perform_ok (w : Write) (st : String → Option ByteArray) :
    (w.perform flatFileSystem ⟨"c"⟩ st).2 = .ok () := by
  have ht : FileStore.tempPath ⟨"c"⟩ = "c.tmp" := by cbv
  have hl : FileStore.lockPath ⟨"c"⟩ = "c.lock" := by cbv
  have hp : FileStore.preludeCalls ⟨"c"⟩ = [.openKeep "c.lock"] := by cbv
  cases w <;>
    simp [Write.perform, set, clear, outcome, locked, acquire_eq, replace_eq, replaceCalls,
      discard, hp, ht, hl, runAll_cons, runAll_nil, flatFileSystem, FileSystem.run]

/-- Among named files the writes `ws` on `c` all succeed. -/
theorem flat_succeeds (ws : List Write) (st : String → Option ByteArray) :
    Succeeds flatFileSystem ⟨"c"⟩ st ws
      (ws.foldl (fun st w => (w.perform flatFileSystem ⟨"c"⟩ st).1) st) := by
  induction ws generalizing st with
  | nil => exact .nil st
  | cons w ws ih => exact .cons (Prod.ext rfl (flat_perform_ok w st)) (ih _)

/-- A `set`, a `clear`, and a `set` of tokens with a quote, a backslash and a character outside
the basic plane, stamped with a leap second in year -1. -/
def sampleWrites : List Write :=
  [.set ⟨2024, 1, 1, 0, 0, 0, 0⟩ (Pair.of "a" "r"), .clear,
    .set ⟨-1, 12, 31, 23, 59, 60, 1500⟩ (Pair.of "a\"b" "r\\😀")]

/-- The sample writes on `c`, from no file, read back as the last `set`. -/
theorem sampleWrites_read_back :
    let st' := sampleWrites.foldl (fun st w => (w.perform flatFileSystem ⟨"c"⟩ st).1) fun _ => none
    Faithful flatFileSystem ⟨"c"⟩ ∧ Holds flatFileSystem ⟨"c"⟩ (fun _ => none) none ∧
      Succeeds flatFileSystem ⟨"c"⟩ (fun _ => none) sampleWrites st' ∧
      (∀ sv ∈ lastSaved none sampleWrites, sv.savedAt.Valid) ∧
      (FileStore.load flatFileSystem ⟨"c"⟩ st' = .ok (lastSaved none sampleWrites) ∧
        FileStore.get flatFileSystem ⟨"c"⟩ st' = .ok ((lastSaved none sampleWrites).map Saved.pair) ∧
        (∀ now pair st₁ st₂, FileStore.set flatFileSystem ⟨"c"⟩ now pair st₁ = (st₂, .ok ()) →
          Absent flatFileSystem (FileStore.tempPath ⟨"c"⟩) st₂) ∧
        ∀ st₁, Absent flatFileSystem "c" st₁ →
          FileStore.clear flatFileSystem ⟨"c"⟩ st₁ =
            FileStore.outcome ⟨"c"⟩ (FileStore.locked flatFileSystem ⟨"c"⟩ (pure ())) st₁) := by
  intro st'
  have hinit : Holds flatFileSystem ⟨"c"⟩ (fun _ => none) none := flat_absent.2 rfl
  have hvalid : ∀ sv ∈ lastSaved none sampleWrites, sv.savedAt.Valid := by
    intro sv hsv
    simp only [lastSaved, sampleWrites, List.getLast?_cons_cons, List.getLast?_singleton,
      Write.saved, Option.mem_def, Option.some.injEq] at hsv
    rw [← hsv]
    decide
  exact ⟨flatFileSystem_faithful, hinit, flat_succeeds _ _, hvalid,
    writes_read_back flatFileSystem_faithful hinit (flat_succeeds _ _) hvalid⟩

end Flat

end FileStore

end BearerSession
