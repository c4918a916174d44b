import BearerSession.Http.Response
import BearerSession.Profile
import BearerSession.Store.Basic

/-!
# Reports

The JSON form in which the library reports its values: a failure as its kind, text, status,
whether it ended the session and the details of its kind; a request as its method, target,
headers in order, body and attempt; a response as its status, reason, headers, body text and
body value; a profile as its id, email and other members; a pair as its two tokens.

Objects are written with their keys in byte order, as `Json.Value.ofEntries` keeps them.
-/

namespace BearerSession

open Json

/-- An object of the given members. -/
def Report.obj (fields : List (String × Value)) : Value := Value.ofEntries fields

/-- A text, or null. -/
def Report.optText : Option String → Value
  | some t => .string t
  | none => .null

/-- A number, or null. -/
def Report.optNat : Option Nat → Value
  | some n => .number (.nat n)
  | none => .null

open Report

/-- The kind of a failure, as reports name it. -/
def Failure.kind : Failure → String
  | .noRefreshToken => "NoRefreshToken"
  | .refreshFailed _ => "RefreshFailed"
  | .requestFailed _ => "RequestFailed"
  | .transport (.connection _) => "Transport.Connection"
  | .transport .timeout => "Transport.Timeout"
  | .transport (.decode _) => "Transport.Decode"
  | .transport (.http _) => "Transport.Http"
  | .storage (.io _ _) => "Storage.Io"
  | .storage (.corrupt _ _) => "Storage.Corrupt"
  | .invalidInput (.baseUrl _ _) => "InvalidInput.BaseUrl"
  | .invalidInput (.header _ _) => "InvalidInput.Header"
  | .invalidInput (.method _) => "InvalidInput.Method"
  | .invalidInput (.other _) => "InvalidInput.Other"

/-- The members of a failure's report. -/
def Failure.reportFields (f : Failure) : List (String × Value) :=
  let base := [("error", .string f.kind), ("message", .string f.message),
    ("status", optNat f.status), ("terminated", .bool f.terminated)]
  match f with
  | .refreshFailed r => base ++ [("detail", .string r.message)]
  | .requestFailed r =>
    base ++ [("unauthorized", .bool r.unauthorized)] ++
      (match r.reason with | some t => [("reason", .string t)] | none => []) ++
      (match r.data with | some d => [("data", d)] | none => [])
  | _ => base

/-- The report of a failure. -/
def Failure.report (f : Failure) : Value := obj f.reportFields

/-- `{"ok": v}` for a success, the failure's report otherwise. -/
def Report.result : Except Failure Value → Value
  | .ok v => obj [("ok", v)]
  | .error f => f.report

/-- Headers as a list of name and value pairs. -/
def Report.headerList (hs : List (String × String)) : Value :=
  .array (hs.map fun (k, v) => .array [.string k, .string v])

/-- The report of a request. -/
def Http.Request.report (r : Http.Request) : Value :=
  obj ([("method", .string r.method.name), ("target", .string r.target),
      ("headers", headerList r.headers), ("attempt", .string r.attempt.name)] ++
    (match r.body with | some v => [("body", v)] | none => []))

/-- The report of a response. -/
def Http.Response.report (r : Http.Response) : Value :=
  obj ([("status", .number (.nat r.status)), ("headers", headerList r.headers),
      ("text", .string r.text)] ++
    (match r.reason with | some t => [("reason", .string t)] | none => []) ++
    (match r.json? with | some v => [("json_value", v)] | none => []))

/-- The report of a profile. -/
def Profile.report (p : Profile) : Value :=
  obj [("id", .number (.nat p.id)), ("email", .string p.email), ("extra", .object p.extra)]

/-- The report of a stored pair, null when there is none. -/
def Report.pair : Option Pair → Value
  | some p => p.toJson
  | none => .null

end BearerSession
