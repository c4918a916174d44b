import BearerSession.Proofs.SharedFile

/-!
# A write that fails

`set` and `clear` make their calls under the lock of the credential file, and report a failure
when any of them fails. A login that fails is to leave the store as it was, so a failed call
should leave the file as it was. One case breaks that: the lock is given back after the work,
and a failure to give it back is reported even when the work, the rename of the new document
onto the path or the removal of the path, has already succeeded (`UnlockFailed`). A `set` can
so store its document and fail (`set_fails_after_replacing`), and a `clear` remove the file and
fail (`clear_fails_after_removing`).

Short of that, a failed call leaves the file as it was (`failed_call_keeps_file`): over a file
system where every call of the store but the rename onto the path and the removal of the path
leaves what the path reads, succeeding or failing, and those two change nothing when they fail
(`KeepsFile`), what the path reads after a failed `set` or `clear` is what it read before,
unless the work succeeded and only giving the lock back failed. The condition holds of the
paths a caller names plainly; it leaves out a path that climbs back with `..` out of a directory
the call creates before the lock, which stays when the call then fails.
-/

namespace BearerSession

open Disk

namespace FileStore

/-! ## Calls that leave the file -/

section Runs

variable {σ : Type} (fs : FileSystem σ) (path : String)

/-- A call that leaves what `path` reads as it was, whether it succeeds or fails. -/
def Keeps (c : Call) : Prop :=
  ∀ st, fs.read path (fs.perform c st).1 = fs.read path st

/-- A call that leaves what `path` reads as it was when it fails. -/
def KeepsFailing (c : Call) : Prop :=
  ∀ st st' e, fs.perform c st = (st', .error e) → fs.read path st' = fs.read path st

variable {fs path}

theorem Keeps.failing {c : Call} (h : Keeps fs path c) : KeepsFailing fs path c := by
  intro st st' e hc
  have hkeep := h st
  rw [hc] at hkeep
  exact hkeep

/-- A run of calls, one call and then the rest. -/
theorem runAll_cons (c : Call) (rest : List Call) (st : σ) :
    fs.runAll (c :: rest) st =
      match fs.perform c st with
      | (st', .ok ()) => fs.runAll rest st'
      | (st', .error e) => .error e st' := by
  rcases hc : fs.perform c st with ⟨st', _ | _⟩ <;>
    simp [FileSystem.runAll, FileSystem.run, hc, bind, EStateM.bind]

/-- A run of calls that each leave the path ends, when it succeeds, with the path as it was. -/
theorem runAll_ok_keeps {cs : List Call} (h : ∀ c ∈ cs, Keeps fs path c) {st st' : σ}
    (hrun : fs.runAll cs st = .ok () st') : fs.read path st' = fs.read path st := by
  induction cs generalizing st with
  | nil =>
    cases hrun
    rfl
  | cons c rest ih =>
    rw [runAll_cons] at hrun
    rcases hc : fs.perform c st with ⟨st₁, _ | _⟩
    · rw [hc] at hrun
      cases hrun
    · rw [hc] at hrun
      have hfirst := h c List.mem_cons_self st
      rw [hc] at hfirst
      rw [ih (fun c hc => h c (List.mem_cons_of_mem _ hc)) hrun, hfirst]

/-- A run of calls that fails leaves the path as it was, when each call leaves it when it fails
and each call but the last leaves it anyway. -/
theorem runAll_error_keeps {cs : List Call} (hfail : ∀ c ∈ cs, KeepsFailing fs path c)
    (hinit : ∀ c ∈ cs.dropLast, Keeps fs path c) {st st' : σ} {e : IoError}
    (hrun : fs.runAll cs st = .error e st') : fs.read path st' = fs.read path st := by
  induction cs generalizing st with
  | nil => cases hrun
  | cons c rest ih =>
    rw [runAll_cons] at hrun
    rcases hc : fs.perform c st with ⟨st₁, e₁ | ⟨⟩⟩
    · rw [hc] at hrun
      cases hrun
      exact hfail c List.mem_cons_self st _ _ hc
    · rw [hc] at hrun
      -- the first call succeeded, so some later call failed and this one is not the last
      cases rest with
      | nil => cases hrun
      | cons c' rest' =>
        have hfirst := hinit c (by simp)
        have hkeep := hfirst st
        rw [hc] at hkeep
        have hinit' : ∀ c ∈ (c' :: rest').dropLast, Keeps fs path c := fun x hx =>
          hinit x (by rw [List.dropLast_cons_cons]; exact List.mem_cons_of_mem _ hx)
        rw [ih (fun x hx => hfail x (List.mem_cons_of_mem _ hx)) hinit' hrun, hkeep]

end Runs

/-! ## Work under the lock -/

section Locked

variable {σ : Type} (fs : FileSystem σ) (s : FileStore)

/-- The work under the lock succeeded and giving the lock back failed, ending in `st'`. -/
def UnlockFailed (body : EStateM IoError σ Unit) (st st' : σ) : Prop :=
  ∃ st₁ st₂ e, s.acquire fs st = .ok () st₁ ∧ body st₁ = .ok () st₂ ∧
    fs.perform (.unlock s.lockPath) st₂ = (st', .error e)

variable {fs s}

/-- How work under the lock fails: taking the lock fails; or the work fails and the lock is
given back, well or not; or the work succeeds and giving the lock back fails. -/
theorem locked_error {body : EStateM IoError σ Unit} {st st' : σ} {e : IoError}
    (h : s.locked fs body st = .error e st') :
    (∃ e₀, s.acquire fs st = .error e₀ st') ∨
      (∃ st₁ e₁ st₂, s.acquire fs st = .ok () st₁ ∧ body st₁ = .error e₁ st₂ ∧
        (fs.perform (.unlock s.lockPath) st₂).1 = st') ∨
      s.UnlockFailed fs body st st' := by
  unfold locked at h
  rcases ha : s.acquire fs st with ⟨⟨⟩, st₁⟩ | ⟨e₀, st₁⟩
  · rw [ha] at h
    dsimp only at h
    rcases hb : body st₁ with ⟨⟨⟩, st₂⟩ | ⟨e₁, st₂⟩
    · rw [hb] at h
      rcases hu : fs.perform (.unlock s.lockPath) st₂ with ⟨st₃, e₂ | ⟨⟩⟩
      · simp only [FileSystem.run, hu] at h
        cases h
        exact .inr (.inr ⟨st₁, st₂, _, ha, hb, hu⟩)
      · simp [FileSystem.run, hu] at h
    · rw [hb] at h
      rcases hu : fs.perform (.unlock s.lockPath) st₂ with ⟨st₃, e₂ | ⟨⟩⟩ <;>
        simp only [FileSystem.run, hu] at h <;> cases h <;>
        exact .inr (.inl ⟨st₁, _, st₂, rfl, hb, by rw [hu]⟩)
  · rw [ha] at h
    cases h
    exact .inl ⟨_, rfl⟩

/-- A failed step, as the store reports it, ended in the state the store gives back. -/
theorem outcome_error {step : EStateM IoError σ Unit} {st : σ} (h : (s.outcome step st).2 ≠ .ok ()) :
    ∃ e, step st = .error e (s.outcome step st).1 := by
  unfold outcome at h ⊢
  rcases hs : step st with ⟨⟨⟩, st'⟩ | ⟨e, st'⟩
  · rw [hs] at h
    exact absurd rfl h
  · exact ⟨e, rfl⟩

end Locked

/-! ## What a failed call leaves -/

section Laws

variable {σ : Type} (fs : FileSystem σ) (s : FileStore)

/-- What a file system must do for a failed call of the store `s` to leave its file as it was:
every call of the store but the rename of the temporary file onto the path and the removal of
the path leaves what the path reads, succeeding or failing, and those two change nothing when
they fail. The directories above the path are among the calls before the lock, so this rules
out a path that climbs back out of them with `..`. -/
structure KeepsFile : Prop where
  prelude : ∀ c ∈ s.preludeCalls, Keeps fs s.path c
  lock : Keeps fs s.path (.lock s.lockPath)
  unlock : Keeps fs s.path (.unlock s.lockPath)
  temp : ∀ d, ∀ c ∈ (s.replaceCalls d).dropLast, Keeps fs s.path c
  rename : KeepsFailing fs s.path (.rename s.tempPath s.path)
  remove : KeepsFailing fs s.path (.remove s.path)

variable {fs s}

/-- Taking the lock leaves the path, whether it succeeds or fails. -/
theorem KeepsFile.acquire_keeps (hk : KeepsFile fs s) {st st' : σ} {r : Except IoError Unit}
    (h : (match r with | .ok () => EStateM.Result.ok () st' | .error e => .error e st') =
      s.acquire fs st) : fs.read s.path st' = fs.read s.path st := by
  have hcalls : ∀ c ∈ s.preludeCalls ++ [.lock s.lockPath], Keeps fs s.path c := by
    intro c hc
    rcases List.mem_append.1 hc with hc | hc
    · exact hk.prelude c hc
    · rw [List.mem_singleton.1 hc]
      exact hk.lock
  rw [acquire_eq] at h
  rcases r with e | ⟨⟩
  · exact runAll_error_keeps (fun c hc => (hcalls c hc).failing)
      (fun c hc => hcalls c (List.dropLast_subset _ hc)) h.symm
  · exact runAll_ok_keeps hcalls h.symm

/-- Work under the lock that leaves the path when it fails: when it all fails, the path is as
it was, unless the work succeeded and only giving the lock back failed. -/
theorem KeepsFile.locked_error (hk : KeepsFile fs s) {body : EStateM IoError σ Unit}
    (hbody : ∀ st₁ st₂ e, body st₁ = .error e st₂ → fs.read s.path st₂ = fs.read s.path st₁)
    {st st' : σ} {e : IoError} (h : s.locked fs body st = .error e st') :
    fs.read s.path st' = fs.read s.path st ∨ s.UnlockFailed fs body st st' := by
  rcases FileStore.locked_error h with ⟨e₀, ha⟩ | ⟨st₁, e₁, st₂, ha, hb, hu⟩ | hunlock
  · exact .inl (hk.acquire_keeps (r := .error e₀) ha.symm)
  · left
    rw [← hu, hk.unlock st₂, hbody st₁ st₂ e₁ hb, hk.acquire_keeps (r := .ok ()) ha.symm]
  · exact .inr hunlock

/-- Writing and renaming the new document leaves the path when it fails. -/
theorem KeepsFile.replace_error (hk : KeepsFile fs s) (d : ByteArray) {st st' : σ} {e : IoError}
    (h : s.replace fs d st = .error e st') : fs.read s.path st' = fs.read s.path st := by
  rw [replace_eq] at h
  refine runAll_error_keeps (fun c hc => ?_) (hk.temp d) h
  by_cases hlast : c = .rename s.tempPath s.path
  · rw [hlast]
    exact hk.rename
  · -- every call but the rename is among the first four
    refine (hk.temp d c ?_).failing
    simp only [replaceCalls, List.mem_cons, List.not_mem_nil, or_false] at hc
    simp only [replaceCalls, List.dropLast_cons_cons, List.dropLast_singleton, List.mem_cons,
      List.not_mem_nil, or_false]
    rcases hc with rfl | rfl | rfl | rfl | rfl
    all_goals first | exact absurd rfl hlast | simp

/-- Removing the path leaves it when the removal fails. -/
theorem KeepsFile.discard_error (hk : KeepsFile fs s) {st st' : σ} {e : IoError}
    (h : s.discard fs st = .error e st') : fs.read s.path st' = fs.read s.path st := by
  unfold discard at h
  rcases hr : fs.perform (.remove s.path) st with ⟨st₁, e₁ | ⟨⟩⟩
  · simp only [FileSystem.run, hr] at h
    split at h
    · cases h
    · cases h
      exact hk.remove st _ _ hr
  · simp [FileSystem.run, hr] at h

/-- **A failed call leaves the file.** Over a file system where no call of the store changes
what the path reads but the rename onto it and its removal, and those not when they fail, a
`set` or `clear` that fails leaves the path reading what it read before, unless its work (the
rename of the new document, or the removal) succeeded and only giving the lock back failed. -/
theorem failed_call_keeps_file (hk : KeepsFile fs s) (now : Clock.Instant) (pair : Pair)
    (st : σ) :
    ((s.set fs now pair st).2 ≠ .ok () →
      fs.read s.path (s.set fs now pair st).1 = fs.read s.path st ∨
        s.UnlockFailed fs (s.replace fs (Saved.document ⟨pair, now⟩).toUTF8) st
          (s.set fs now pair st).1) ∧
    ((s.clear fs st).2 ≠ .ok () →
      fs.read s.path (s.clear fs st).1 = fs.read s.path st ∨
        s.UnlockFailed fs (s.discard fs) st (s.clear fs st).1) := by
  constructor
  · intro h
    obtain ⟨e, he⟩ := outcome_error h
    exact hk.locked_error (fun _ _ _ hb => hk.replace_error _ hb) he
  · intro h
    obtain ⟨e, he⟩ := outcome_error h
    exact hk.locked_error (fun _ _ _ hb => hk.discard_error hb) he

end Laws

/-! ## File systems that keep the file -/

section Witness

variable {σ : Type}

/-- The file system `fs` where the calls that `fails` picks fail at once, changing nothing. -/
def withFailures (fs : FileSystem σ) (fails : Call → Bool) : FileSystem σ where
  perform c st := if fails c then (st, .error (.other "failed")) else fs.perform c st
  read := fs.read

/-- Making some calls fail at once keeps the laws. -/
theorem KeepsFile.under_failures {fs : FileSystem σ} {s : FileStore} (hk : KeepsFile fs s)
    (fails : Call → Bool) : KeepsFile (withFailures fs fails) s := by
  -- a call that fails at once changes nothing; any other does what it did
  have hkeep : ∀ c, Keeps fs s.path c → Keeps (withFailures fs fails) s.path c := by
    intro c hc st
    by_cases hf : fails c <;> simp [withFailures, hf, hc st]
  have hfail : ∀ c, KeepsFailing fs s.path c → KeepsFailing (withFailures fs fails) s.path c := by
    intro c hc st st' e h
    by_cases hf : fails c
    · simp only [withFailures, hf, if_true, Prod.mk.injEq] at h
      rw [← h.1]
    · simp only [withFailures, hf] at h
      exact hc st st' e (by simpa using h)
  exact ⟨fun c hc => hkeep c (hk.prelude c hc), hkeep _ hk.lock, hkeep _ hk.unlock,
    fun d c hc => hkeep c (hk.temp d c hc), hfail _ hk.rename, hfail _ hk.remove⟩

/-- Named files keep the laws for a credential file `c`. -/
theorem flatFileSystem_keepsFile : KeepsFile flatFileSystem ⟨"c"⟩ := by
  have ht : FileStore.tempPath ⟨"c"⟩ = "c.tmp" := by cbv
  have hl : FileStore.lockPath ⟨"c"⟩ = "c.lock" := by cbv
  have hp : FileStore.preludeCalls ⟨"c"⟩ = [.openKeep "c.lock"] := by cbv
  refine ⟨?prelude, ?lock, ?unlock, ?temp, ?rename, ?remove⟩
  case prelude =>
    intro c hc st
    rw [hp, List.mem_singleton] at hc
    subst hc
    simp [flatFileSystem]
  case lock => intro st; rfl
  case unlock => intro st; rfl
  case temp =>
    intro d c hc st
    simp only [replaceCalls, ht, List.dropLast_cons_cons, List.dropLast_singleton, List.mem_cons,
      List.not_mem_nil, or_false] at hc
    rcases hc with rfl | rfl | rfl | rfl
    · simp [flatFileSystem]
    · rfl
    · cases hst : st "c.tmp" <;> simp [flatFileSystem, hst]
    · rfl
  case rename =>
    -- a rename fails only when the temporary file is missing, and then changes nothing
    intro st st' e h
    rw [ht] at h
    cases hst : st "c.tmp" <;> simp [flatFileSystem, hst] at h
    rw [← h.1]
  case remove =>
    intro st st' e h
    simp [flatFileSystem] at h

/-- The sync of the temporary file, made to fail. -/
def isSync : Call → Bool
  | .sync _ => true
  | _ => false

/-- A `set` on named files whose sync fails keeps the laws, and leaves `c` as it was. -/
theorem syncFailure_keeps_file :
    KeepsFile (withFailures flatFileSystem isSync) ⟨"c"⟩ ∧
      (((⟨"c"⟩ : FileStore).set (withFailures flatFileSystem isSync) ⟨2024, 1, 1, 0, 0, 0, 0⟩
          (Pair.of "a" "r") (fun _ => none)).2 ≠ .ok () →
        (withFailures flatFileSystem isSync).read "c"
            ((⟨"c"⟩ : FileStore).set (withFailures flatFileSystem isSync) ⟨2024, 1, 1, 0, 0, 0, 0⟩
              (Pair.of "a" "r") (fun _ => none)).1 =
          (withFailures flatFileSystem isSync).read "c" (fun _ => none) ∨
        (⟨"c"⟩ : FileStore).UnlockFailed (withFailures flatFileSystem isSync)
          ((⟨"c"⟩ : FileStore).replace (withFailures flatFileSystem isSync)
            (Saved.document ⟨Pair.of "a" "r", ⟨2024, 1, 1, 0, 0, 0, 0⟩⟩).toUTF8) (fun _ => none)
          ((⟨"c"⟩ : FileStore).set (withFailures flatFileSystem isSync) ⟨2024, 1, 1, 0, 0, 0, 0⟩
            (Pair.of "a" "r") (fun _ => none)).1) ∧
      (((⟨"c"⟩ : FileStore).clear (withFailures flatFileSystem isSync) (fun _ => none)).2 ≠ .ok () →
        (withFailures flatFileSystem isSync).read "c"
            ((⟨"c"⟩ : FileStore).clear (withFailures flatFileSystem isSync) (fun _ => none)).1 =
          (withFailures flatFileSystem isSync).read "c" (fun _ => none) ∨
        (⟨"c"⟩ : FileStore).UnlockFailed (withFailures flatFileSystem isSync)
          ((⟨"c"⟩ : FileStore).discard (withFailures flatFileSystem isSync)) (fun _ => none)
          ((⟨"c"⟩ : FileStore).clear (withFailures flatFileSystem isSync) (fun _ => none)).1) :=
  ⟨flatFileSystem_keepsFile.under_failures isSync,
    failed_call_keeps_file (flatFileSystem_keepsFile.under_failures isSync) _ _ _⟩

end Witness

/-! ## A failed call that changes the file -/

/-- Giving the lock back, made to fail. -/
def isUnlock : Call → Bool
  | .unlock _ => true
  | _ => false

/-- **A failed `clear` can remove the file.** On named files where giving the lock back fails,
`clear` removes the stored file `c` and then reports the failure: the file was there before the
failed call and is gone after it. -/
theorem clear_fails_after_removing :
    ((⟨"c"⟩ : FileStore).clear (withFailures flatFileSystem isUnlock)
        (Function.update (fun _ => none) "c" (some ⟨#[120]⟩))).2 ≠ .ok () ∧
      (withFailures flatFileSystem isUnlock).read "c"
          (Function.update (fun _ => none) "c" (some ⟨#[120]⟩)) = .ok ⟨#[120]⟩ ∧
      (withFailures flatFileSystem isUnlock).read "c"
          ((⟨"c"⟩ : FileStore).clear (withFailures flatFileSystem isUnlock)
            (Function.update (fun _ => none) "c" (some ⟨#[120]⟩))).1 = .error (.os .noEntry) := by
  refine ⟨?_, by cbv, by cbv⟩
  cbv
  intro h
  cases h

/-- **A failed `set` can store its pair.** On named files where giving the lock back fails,
`set` renames its new document onto `c` and then reports the failure: `c` held nothing before
the failed call and holds the new document after it. -/
theorem set_fails_after_replacing :
    let fs := withFailures flatFileSystem isUnlock
    let now : Clock.Instant := ⟨2024, 1, 1, 0, 0, 0, 0⟩
    ((⟨"c"⟩ : FileStore).set fs now (Pair.of "a" "r") (fun _ => none)).2 ≠ .ok () ∧
      fs.read "c" (fun _ => none) = .error (.os .noEntry) ∧
      fs.read "c" ((⟨"c"⟩ : FileStore).set fs now (Pair.of "a" "r") (fun _ => none)).1 =
        .ok (Saved.document ⟨Pair.of "a" "r", now⟩).toUTF8 := by
  intro fs now
  unfold FileStore.set
  -- the calls only move the document's octets, so they can stay unevaluated
  generalize (Saved.document ⟨Pair.of "a" "r", now⟩).toUTF8 = d
  refine ⟨?_, rfl, by cbv⟩
  cbv
  intro h
  cases h

end FileStore

end BearerSession
