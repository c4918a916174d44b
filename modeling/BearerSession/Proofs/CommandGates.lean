import BearerSession.Console.Run

/-!
# What a command needs before it runs

Every command first locates its session file, every command but `logout` builds a client for
the base URL, and `whoami` and `refresh` first read the stored session. A command that lacks
what it needs stops there: it ends with status 1, prints its fault and nothing else, leaves the
tree as it was, and its outcome is the same on every network, so nothing was sent (`StopsWith`).

* With no session file given and no home directory known, every command stops
  (`run_without_home`).
* `logout` never reads the base URL, and fails only when the session file cannot be removed.
* Without a base URL every other command stops before anything is sent (`gateFault` says with
  which fault: that of the session or of the body it reads first, else the missing base URL).
* Without a stored session `whoami` and `refresh` stop before anything is sent.

`request` is the exception to the last rule: it never reads the session, so with a base URL it
sends its request whether a session is stored or not (`request_sent_without_session`). The main
statement is `run_gates`.
-/

namespace BearerSession.Console

open CommandLine

/-! ## Steps of a command -/

section Act

variable {α β : Type} {x : Act α} {f : α → Act β} {e e' : Effects}

/-- A step that fails ends the steps after it, with its fault and its effects. -/
theorem Act.run_bind_error {flt : Fault} (h : x.run.run e = (.error flt, e')) :
    (x >>= f).run.run e = (.error flt, e') := by
  simp [ExceptT.run_bind, StateT.run_bind, h]
  rfl

/-- A step that succeeds hands its value and effects to the steps after it. -/
theorem Act.run_bind_ok {a : α} (h : x.run.run e = (.ok a, e')) :
    (x >>= f).run.run e = (f a).run.run e' := by
  simp [ExceptT.run_bind, StateT.run_bind, h]
  rfl

end Act

/-- The fault of a command that needs a base URL and has none. -/
def noBackend : Fault := ⟨"No backend configured. Pass --base-url or set AUTHWAVE_BASE_URL.", []⟩

/-- The fault of a command that needs a stored session and finds none. -/
def noSession : Fault := ⟨"No active session. Run 'authwave login' first.", []⟩

/-- The fault of a command that needs the stored session, read from `file` on `tree`: none when
one is stored. -/
def sessionFault (file : FileStore) (tree : Disk.Tree) : Option Fault :=
  match file.load Disk.Tree.fileSystem tree with
  | .ok (some _) => none
  | .ok none => some noSession
  | .error f => some (Fault.within "Failed to load session" f)

/-- The fault of a command run without a base URL: `whoami` and `refresh` first need the session,
`request` first reads its body, and then the base URL is missing. -/
def gateFault (file : FileStore) (tree : Disk.Tree) : Command → Fault
  | .whoami => (sessionFault file tree).getD noBackend
  | .refresh => (sessionFault file tree).getD noBackend
  | .request _ _ (some text) _ _ =>
    match Json.Value.parseText text with
    | .ok _ => noBackend
    | .error e => ⟨"--data is not valid JSON", [e.message]⟩
  | _ => noBackend

namespace Context

variable (ctx : Context) (e : Effects)

/-- Without a base URL no client is built, and nothing changes. -/
theorem client_run_of_none (h : ctx.baseUrl = none) :
    ctx.client.run.run e = (.error noBackend, e) := by
  simp [Context.client, h, noBackend]
  rfl

/-- Reading the session file changes nothing. -/
theorem load_run (wrap : Failure → Fault) :
    (ctx.load wrap).run.run e = (match ctx.file.load Disk.Tree.fileSystem e.tree with
      | .ok saved => .ok saved
      | .error f => .error (wrap f), e) := by
  rw [Context.load, Act.run_bind_ok (rfl : (get : Act Effects).run.run e = (.ok e, e))]
  rcases ctx.file.load Disk.Tree.fileSystem e.tree with f | saved <;> rfl

/-- Requiring the session changes nothing; it fails exactly as `sessionFault` says. -/
theorem requireSession_run :
    (∃ saved, ctx.requireSession.run.run e = (.ok saved, e) ∧ sessionFault ctx.file e.tree = none) ∨
      ∃ flt, ctx.requireSession.run.run e = (.error flt, e) ∧
        sessionFault ctx.file e.tree = some flt := by
  have hload := load_run ctx e (Fault.within "Failed to load session")
  rw [Context.requireSession]
  unfold sessionFault
  rcases hfile : ctx.file.load Disk.Tree.fileSystem e.tree with f | _ | saved <;>
    rw [hfile] at hload
  · exact .inr ⟨_, Act.run_bind_error hload, rfl⟩
  · exact .inr ⟨_, (Act.run_bind_ok hload).trans rfl, rfl⟩
  · exact .inl ⟨saved, (Act.run_bind_ok hload).trans rfl, rfl⟩

end Context

/-! ## Commands that stop before sending -/

variable {ctx : Context} {e : Effects}

/-- A command that first requires the session and then builds a client, with no base URL:
the fault of the session, else the missing base URL. -/
theorem requireSession_then_client {α : Type} {rest : Saved → Client Http.Link → Act α}
    (h : ctx.baseUrl = none) :
    (ctx.requireSession >>= fun saved => ctx.client >>= rest saved).run.run e =
      (.error ((sessionFault ctx.file e.tree).getD noBackend), e) := by
  rcases ctx.requireSession_run e with ⟨saved, hrun, hnone⟩ | ⟨flt, hrun, hsome⟩
  · rw [Act.run_bind_ok hrun, Act.run_bind_error (ctx.client_run_of_none e h), hnone]
    rfl
  · rw [Act.run_bind_error hrun, hsome]
    rfl

/-- Without a base URL every command but `logout` stops with `gateFault`, changing nothing. -/
theorem perform_run_of_none (h : ctx.baseUrl = none) {cmd : Command} (hcmd : cmd ≠ .logout) :
    (perform ctx cmd).run.run e = (.error (gateFault ctx.file e.tree cmd), e) := by
  cases cmd with
  | login email password => exact Act.run_bind_error (ctx.client_run_of_none e h)
  | logout => exact absurd rfl hcmd
  | whoami => exact requireSession_then_client h
  | refresh => exact requireSession_then_client h
  | request method path data noRefresh compact =>
    -- the body is read before the client is built
    rcases data with _ | text
    · exact (Act.run_bind_ok rfl).trans (Act.run_bind_error (ctx.client_run_of_none e h))
    · rcases hparse : Json.Value.parseText text with err | body
      · have hfault : gateFault ctx.file e.tree (.request method path (some text) noRefresh compact) =
            ⟨"--data is not valid JSON", [err.message]⟩ := by
          simp [gateFault, hparse]
        rw [hfault, perform, request]
        simp only [hparse]
        exact Act.run_bind_error rfl
      · have hfault : gateFault ctx.file e.tree (.request method path (some text) noRefresh compact) =
            noBackend := by
          simp [gateFault, hparse]
        rw [hfault, perform, request]
        simp only [hparse]
        exact (Act.run_bind_ok rfl).trans (Act.run_bind_error (ctx.client_run_of_none e h))

/-- Without a stored session `whoami` and `refresh` stop with `noSession`, changing nothing. -/
theorem perform_run_of_no_session
    (h : ctx.file.load Disk.Tree.fileSystem e.tree = .ok none) {cmd : Command}
    (hcmd : cmd = .whoami ∨ cmd = .refresh) :
    (perform ctx cmd).run.run e = (.error noSession, e) := by
  have hfault : sessionFault ctx.file e.tree = some noSession := by simp [sessionFault, h]
  obtain ⟨flt, hrun, hsome⟩ : ∃ flt, ctx.requireSession.run.run e = (.error flt, e) ∧
      sessionFault ctx.file e.tree = some flt := by
    rcases ctx.requireSession_run e with ⟨_, _, hnone⟩ | hfail
    · rw [hfault] at hnone
      cases hnone
    · exact hfail
  rw [hfault] at hsome
  cases hsome
  rcases hcmd with rfl | rfl
  · exact Act.run_bind_error hrun
  · exact Act.run_bind_error hrun

/-- A logout whose removal of the session file fails stops with that failure, keeping the tree
the removal left. -/
theorem logout_run_error {tree : Disk.Tree} {f : Failure}
    (h : ctx.file.clear Disk.Tree.fileSystem e.tree = (tree, .error f)) :
    (logout ctx).run.run e =
      (.error (Fault.within "Failed to remove session file" f), { e with tree }) := by
  rw [logout, Act.run_bind_ok (rfl : (get : Act Effects).run.run e = (.ok e, e))]
  simp only [h]
  rfl

/-- A logout whose removal of the session file succeeds succeeds. -/
theorem logout_run_ok {tree : Disk.Tree}
    (h : ctx.file.clear Disk.Tree.fileSystem e.tree = (tree, .ok ())) :
    ∃ e', (logout ctx).run.run e = (.ok (), e') := by
  rw [logout, Act.run_bind_ok (rfl : (get : Act Effects).run.run e = (.ok e, e))]
  simp only [h]
  exact ⟨_, rfl⟩

/-- `logout` fails only when the session file cannot be removed, and then with no output but
its fault. -/
theorem logout_fault {flt : Fault} {e' : Effects} (h : (logout ctx).run.run e = (.error flt, e')) :
    ∃ f, flt = Fault.within "Failed to remove session file" f ∧ e'.out = e.out ∧
      e'.err = e.err := by
  rcases hclear : ctx.file.clear Disk.Tree.fileSystem e.tree with ⟨tree, f | u⟩
  · rw [logout_run_error hclear] at h
    cases h
    exact ⟨f, rfl, rfl, rfl⟩
  · obtain ⟨e'', hok⟩ := logout_run_ok hclear
    rw [hok] at h
    cases h

/-! ## Runs of the program -/

/-- The invocation a command line is read as on a machine, if it names a command and its
session file can be located. -/
def invocation (m : Machine) (words : List String) : Option Invocation :=
  match read program m.look words with
  | .ok parsed =>
    (Invocation.ofParsed parsed).filter fun inv => (sessionPath? m inv.sessionFile).isSome
  | .error _ => none

/-- The context an invocation runs its command in. An invocation is read only when its session
file is located, so the empty path never stands. -/
def Invocation.context (inv : Invocation) (m : Machine) : Context :=
  ⟨m, inv.baseUrl, (sessionPath? m inv.sessionFile).getD ""⟩

/-- The session file of a machine does not depend on its network. -/
@[simp] theorem sessionPath?_network (m : Machine) (net : Http.Network) (given : Option String) :
    sessionPath? { m with network := net } given = sessionPath? m given := rfl

/-- A command line that names a command first locates its session file: it stops when there is
none, and otherwise runs the command on it. -/
theorem run_of_named {m : Machine} {words : List String} {parsed : Parsed} {inv : Invocation}
    (hread : read program m.look words = .ok parsed)
    (hinv : Invocation.ofParsed parsed = some inv) :
    run m words =
      match sessionPath? m inv.sessionFile with
      | none => ⟨1, "", noDataDirectory.render, m.tree⟩
      | some path =>
        let (r, c) := (perform ⟨m, inv.baseUrl, path⟩ inv.command).run.run { tree := m.tree }
        match r with
        | .ok () => ⟨0, c.out, c.err, c.tree⟩
        | .error f => ⟨1, c.out, c.err ++ f.render, c.tree⟩ := by
  unfold run
  rw [hread]
  dsimp only
  -- the two sides match through different matchers, which only unfold by rfl
  rewrite [hinv]
  rfl

/-- A command line that names a command on a machine where its session file is located runs
that command on the file. -/
theorem run_of_located {m : Machine} {words : List String} {parsed : Parsed} {inv : Invocation}
    {path : String} (hread : read program m.look words = .ok parsed)
    (hinv : Invocation.ofParsed parsed = some inv)
    (hpath : sessionPath? m inv.sessionFile = some path) :
    run m words =
      match (perform ⟨m, inv.baseUrl, path⟩ inv.command).run.run { tree := m.tree } with
      | (.ok (), c) => ⟨0, c.out, c.err, c.tree⟩
      | (.error f, c) => ⟨1, c.out, c.err ++ f.render, c.tree⟩ := by
  rw [run_of_named hread hinv, hpath]
  dsimp only
  rcases (perform ⟨m, inv.baseUrl, path⟩ inv.command).run.run { tree := m.tree } with
    ⟨_ | _, c⟩ <;> rfl

/-- A run that reads its command line as `inv` ends as its command does: status 0 with what it
printed, or status 1 with its fault added to standard error. -/
theorem run_of_invocation {m : Machine} {words : List String} {inv : Invocation}
    (h : invocation m words = some inv) :
    run m words = match (perform (inv.context m) inv.command).run.run { tree := m.tree } with
      | (.ok (), c) => ⟨0, c.out, c.err, c.tree⟩
      | (.error f, c) => ⟨1, c.out, c.err ++ f.render, c.tree⟩ := by
  unfold invocation at h
  split at h
  · next parsed hread =>
    obtain ⟨hinv, hlocated⟩ := Option.filter_eq_some_iff.1 h
    obtain ⟨path, hpath⟩ := Option.isSome_iff_exists.1 hlocated
    rw [run_of_located hread hinv hpath]
    simp only [Invocation.context, hpath, Option.getD_some]
  · cases h

/-- A command line that stops at once with `flt` whatever the network: status 1, the fault on
standard error and nothing else, and the tree as it was. An outcome that no network changes
is one for which nothing was sent. -/
def StopsWith (m : Machine) (words : List String) (flt : Fault) : Prop :=
  ∀ net, run { m with network := net } words = ⟨1, "", flt.render, m.tree⟩

/-- A command that fails with `flt` on every network, changing nothing, stops the run with it. -/
theorem stopsWith_of_perform {m : Machine} {words : List String} {inv : Invocation} {flt : Fault}
    (h : invocation m words = some inv)
    (hrun : ∀ net, (perform (inv.context { m with network := net }) inv.command).run.run
      { tree := m.tree } = (.error flt, { tree := m.tree })) :
    StopsWith m words flt := by
  intro net
  -- the command line is read from the environment only, so the network does not change it
  have hinv : invocation { m with network := net } words = some inv := h
  rw [run_of_invocation hinv, hrun net]
  simp

/-- **A session file must be located.** A command line that names a command and no session
file, on a machine that knows no home directory, stops at once, `logout` included: status 1, the
fault and nothing else, and the tree as it was, whatever the network. -/
theorem run_without_home {m : Machine} {words : List String} {parsed : Parsed} {inv : Invocation}
    (hread : read program m.look words = .ok parsed) (hinv : Invocation.ofParsed parsed = some inv)
    (hfile : inv.sessionFile = none) (hhome : homeDir m.look m.account = none) :
    StopsWith m words noDataDirectory := by
  intro net
  have hpath : sessionPath? { m with network := net } inv.sessionFile = none := by
    rw [sessionPath?_network]
    simp [sessionPath?, hfile, defaultSessionPath, hhome]
  rw [run_of_named (m := { m with network := net }) hread hinv, hpath]

/-- **What a command needs before it runs.** Take a command line that names a command.

* `logout` reads neither the base URL nor the network, and it fails only when the session file
  cannot be removed: then with status 1 and no output but that fault.
* Without a base URL every other command stops before sending anything, with status 1, the
  fault `gateFault` names and nothing else printed, and the tree as it was.
* Without a stored session `whoami` and `refresh` stop the same way, with `noSession`. -/
theorem run_gates {m : Machine} {words : List String} {inv : Invocation}
    (h : invocation m words = some inv) :
    (inv.command = .logout →
      (∀ b net, perform ⟨{ m with network := net }, b, (inv.context m).sessionPath⟩ .logout =
        perform (inv.context m) .logout) ∧
      ((run m words).code = 0 ∨ ∃ f t, run m words =
        ⟨1, "", (Fault.within "Failed to remove session file" f).render, t⟩)) ∧
    (inv.baseUrl = none → inv.command ≠ .logout →
      StopsWith m words (gateFault (inv.context m).file m.tree inv.command)) ∧
    ((inv.context m).file.load Disk.Tree.fileSystem m.tree = .ok none →
      inv.command = .whoami ∨ inv.command = .refresh → StopsWith m words noSession) := by
  refine ⟨?_, ?_, ?_⟩
  · intro hcmd
    refine ⟨fun _ _ => rfl, ?_⟩
    rw [run_of_invocation h, hcmd]
    rcases hrun : (perform (inv.context m) .logout).run.run { tree := m.tree } with ⟨_ | u, c⟩
    · obtain ⟨f, rfl, hout, herr⟩ := logout_fault hrun
      refine .inr ⟨f, c.tree, ?_⟩
      simp [hout, herr]
    · exact .inl rfl
  · intro hbase hcmd
    exact stopsWith_of_perform h fun net => perform_run_of_none hbase hcmd
  · intro hload hcmd
    exact stopsWith_of_perform h fun net => perform_run_of_no_session hload hcmd

/-- `whoami` with nothing on the disk and no base URL: it stops before sending anything. -/
theorem run_gates_whoami :
    let m : Machine :=
      ⟨[], {}, Http.Network.unreachable, ⟨2024, 1, 1, 0, 0, 0, 0⟩, some "/home/user"⟩
    let inv : Invocation := ⟨none, none, .whoami⟩
    invocation m ["whoami"] = some inv ∧
      (inv.command = .logout →
        (∀ b net, perform ⟨{ m with network := net }, b, (inv.context m).sessionPath⟩ .logout =
          perform (inv.context m) .logout) ∧
        ((run m ["whoami"]).code = 0 ∨ ∃ f t, run m ["whoami"] =
          ⟨1, "", (Fault.within "Failed to remove session file" f).render, t⟩)) ∧
      (inv.baseUrl = none → inv.command ≠ .logout →
        StopsWith m ["whoami"] (gateFault (inv.context m).file m.tree inv.command)) ∧
      ((inv.context m).file.load Disk.Tree.fileSystem m.tree = .ok none →
        inv.command = .whoami ∨ inv.command = .refresh → StopsWith m ["whoami"] noSession) := by
  intro m inv
  have h : invocation m ["whoami"] = some inv := rfl
  exact ⟨h, run_gates h⟩

/-- `request` never reads the session: with a base URL and nothing on the disk, so no session,
it sends its request, exits 0 when the backend answers 200 and 1 when the backend cannot be
reached. -/
theorem request_sent_without_session :
    let words := ["--base-url", "http://127.0.0.1:8080", "request", "GET", "/x", "--no-refresh"]
    let t : Clock.Instant := ⟨2024, 1, 1, 0, 0, 0, 0⟩
    ({} : Disk.Tree).entries = [] ∧
      (run ⟨[], {}, fun _ _ => .ok { status := 200 }, t, some "/home/user"⟩ words).code = 0 ∧
      (run ⟨[], {}, Http.Network.unreachable, t, some "/home/user"⟩ words).code = 1 := by
  refine ⟨rfl, ?_, ?_⟩
  · decide +kernel
  · decide +kernel

end BearerSession.Console
