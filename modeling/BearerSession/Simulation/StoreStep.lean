import BearerSession.Report

/-!
# Steps on a credential store

A simulation acts on a credential store by steps (`StoreStep`), each giving an `Answer`.
Every store reads, saves and clears pairs and tokens. A credential file also answers for its
document (loaded with or without its instant, read as raw text, or overwritten with raw text),
for the presence of the file and of its two siblings, and for its permission bits; and
obstacles can be put on its tree: a directory, or a file with some text. Raw text and
obstacles are written with the directories above them created first, as plain files with the
bits `rw-r--r--`.

Raw text read back shows the document's own instant as `"<saved_at>"`, so that a document
written with the clock can be compared with one written by hand.
-/

namespace BearerSession.Simulation

open Disk

/-- The instant the simulated clock shows: the start of 2024 in UTC. -/
def clock : Clock.Instant :=
  { year := 2024, month := 1, day := 1, hour := 0, minute := 0, second := 0, nano := 0 }

/-- A step on a credential store. -/
inductive StoreStep where
  | get
  | set (pair : Pair)
  | clear
  | accessToken
  | refreshToken
  /-- Opens the same file anew; answers its path. -/
  | reopen
  /-- The pair of the document. -/
  | load
  /-- The instant of the document. -/
  | loadSavedAt
  /-- Replaces the file with the given text. -/
  | writeRaw (text : String)
  /-- The text of the file. -/
  | readRaw
  /-- Whether the file and its siblings `.tmp` and `.lock` exist. -/
  | presence
  /-- The permission bits of the file in octal. -/
  | mode
  /-- Creates a directory and those above it. -/
  | makeDir (path : String)
  /-- Writes a file with the given text. -/
  | writeFile (path text : String)

/-- What a step gives. -/
inductive Answer where
  /-- A value. -/
  | ok (value : Json.Value)
  /-- A failure of the library. -/
  | failed (failure : Failure)
  /-- A value reported as it is, outside `{"ok": ...}`. -/
  | bare (value : Json.Value)
  /-- The step could not be carried out. -/
  | refused (message : String)
  /-- The task was dropped before it finished. -/
  | dropped
  /-- The task never finished. -/
  | stalled

namespace Answer

/-- A value or the failure that stands for it. -/
def ofExcept : Except Failure Json.Value → Answer
  | .ok v => .ok v
  | .error f => .failed f

/-- The report of an answer. -/
def report : Answer → Json.Value
  | .ok v => Report.obj [("ok", v)]
  | .failed f => f.report
  | .bare v => v
  | .refused m => Report.obj [("error", .string "driver"), ("message", .string m)]
  | .dropped => .string "dropped"
  | .stalled => .string "stalled"

end Answer

/-- Octal digits of a number. -/
def octal (n : Nat) : String := String.ofList (Nat.toDigits 8 n)

/-- The text with the first occurrence of `pattern` replaced. -/
def replaceFirst (text pattern replacement : String) : String :=
  match text.splitOn pattern with
  | first :: rest@(_ :: _) => first ++ replacement ++ pattern.intercalate rest
  | _ => text

/-- A document's text with its own instant shown as `"<saved_at>"`. -/
def maskInstant (text : String) : String :=
  match Json.Value.parseText text with
  | .ok v =>
    match v.field? "saved_at" with
    | some (.string s) => replaceFirst text (Json.quote s) "\"<saved_at>\""
    | _ => text
  | .error _ => text

/-- The answer of a change to the tree of a file store. -/
def changeTree (s : Store) (change : Tree → Except IoError Tree) : Store × Answer :=
  match s with
  | .file at_ tree now =>
    match change tree with
    | .ok tree' => (.file at_ tree' now, .ok .null)
    | .error e => (s, .refused e.message)
  | .memory _ => (s, .refused "not a file store")

/-- Runs a step on a store. -/
def StoreStep.run (step : StoreStep) (s : Store) : Store × Answer :=
  match step, s with
  | .get, s => (s, .ofExcept (s.get.map Report.pair))
  | .set p, s =>
    let (s', r) := s.set p
    (s', .ofExcept (r.map fun _ => .null))
  | .clear, s =>
    let (s', r) := s.clear
    (s', .ofExcept (r.map fun _ => .null))
  | .accessToken, s => (s, .ofExcept (s.accessToken.map fun t => Report.optText (t.map (·.value))))
  | .refreshToken, s =>
    (s, .ofExcept (s.refreshToken.map fun t => Report.optText (t.map (·.value))))
  | .reopen, .file at_ _ _ => (s, .ok (.string at_.path))
  | .load, .file at_ tree _ =>
    (s, .ofExcept ((at_.load Tree.fileSystem tree).map fun o => Report.pair (o.map Saved.pair)))
  | .loadSavedAt, .file at_ tree _ =>
    (s, .ofExcept ((at_.load Tree.fileSystem tree).map fun o =>
      Report.optText (o.map (·.savedAt.text))))
  | .writeRaw text, .file at_ _ _ => changeTree s (·.writeWhole at_.path text.toUTF8)
  | .readRaw, .file at_ tree _ =>
    match tree.read at_.path with
    | .error e => (s, .bare (Report.obj [("read_error", .string (IoError.os e).kind)]))
    | .ok bytes =>
      match Text.Utf8.decode? bytes.toList with
      | some text => (s, .ok (.string (maskInstant text)))
      | none => (s, .bare (Report.obj [("read_error", .string IoError.notText.kind)]))
  | .presence, .file at_ tree _ =>
    (s, .ok (Report.obj [("file", .bool (tree.exists? at_.path)),
      ("tmp", .bool (tree.exists? at_.tempPath)), ("lock", .bool (tree.exists? at_.lockPath))]))
  | .mode, .file at_ tree _ =>
    (s, .ok (Report.optText ((tree.lookup at_.path).map fun e => octal (e.mode % 0o1000))))
  | .makeDir path, _ => changeTree s (·.makeDirs path)
  | .writeFile path text, _ => changeTree s (·.writeWhole path text.toUTF8)
  | _, .memory _ => (s, .refused "not a file store")

/-- Runs steps on a store in order and reports every answer. -/
def runStoreSteps (s : Store) : List StoreStep → List Json.Value
  | [] => []
  | step :: rest =>
    let (s, a) := step.run s
    a.report :: runStoreSteps s rest

end BearerSession.Simulation
