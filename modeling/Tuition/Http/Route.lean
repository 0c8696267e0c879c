/-
# Routes

A path names one or more endpoints, each for one method; parts of the path are parameters, which
are read later. Percent signs in a path stand for octets.
-/

import Tuition.Json.Reader
import Tuition.Text.Octets
import Tuition.Text.Split

namespace Tuition.Http

/-- What a request can ask for, with the parameters of its path as they stand there. -/
inductive Endpoint where
  | health
  | generateDrafts (year month : String)
  | issueAll (year month : String)
  | listInvoices
  | getInvoice (id : String)
  | deleteDraft (id : String)
  | issueInvoice (id : String)
  | renderInvoice (id : String)
  | downloadInvoice (id : String)
  | invoiceProgress (id : String)
  | recordPayment
  | quickCash
  | deletePayment (id : String)
  | studentPayments (id : String)
  | studentBalance (id : String)
  | listDebtors
  | addOverride (enrollmentId : String)
  | documentation
  deriving DecidableEq, Repr

/-- The endpoints below the path of billing. The last part of the path comes without and with the
line end that it may have; only a parameter keeps it. -/
def billingEndpoints (parts : List String) (last : String) : List (String × Endpoint) :=
  match parts with
  | ["invoices"] => [("GET", .listInvoices)]
  | ["invoices", _] => [("GET", .getInvoice last), ("DELETE", .deleteDraft last)]
  | ["invoices", id, "issue"] => [("POST", .issueInvoice id)]
  | ["invoices", id, "render"] => [("POST", .renderInvoice id)]
  | ["invoices", id, "pdf"] => [("GET", .downloadInvoice id)]
  | ["invoices", id, "summary"] => [("GET", .invoiceProgress id)]
  | ["invoices", "drafts", year, _] => [("POST", .generateDrafts year last)]
  | ["invoices", "issue", year, _] => [("POST", .issueAll year last)]
  | ["payments"] => [("POST", .recordPayment)]
  | ["payments", "quick-cash"] => [("POST", .quickCash), ("DELETE", .deletePayment last)]
  | ["payments", _] => [("DELETE", .deletePayment last)]
  | ["students", id, "payments"] => [("GET", .studentPayments id)]
  | ["students", id, "balance"] => [("GET", .studentBalance id)]
  | ["debtors"] => [("GET", .listDebtors)]
  | ["enrollments", id, "price-overrides"] => [("POST", .addOverride id)]
  | _ => []

/-- The endpoints of the documentation. -/
def documentationEndpoints : List (String × Endpoint) :=
  [("GET", .documentation), ("HEAD", .documentation)]

/-- A part of a path without the line end that it may have. -/
def withoutLineEnd (part : String) : String :=
  if part.toList.getLast? = some '\n' then String.ofList part.toList.dropLast else part

/-- The endpoints at a path, which is given by its parts. No part is empty. -/
def endpoints (parts : List String) : List (String × Endpoint) :=
  if parts.any (·.isEmpty) then []
  else
    let last := parts.getLast?.getD ""
    match parts.dropLast ++ [withoutLineEnd last] with
    | ["health"] => [("GET", .health)]
    | ["docs"] => documentationEndpoints
    | ["docs", "oauth2-redirect"] => documentationEndpoints
    | ["redoc"] => documentationEndpoints
    | ["openapi.json"] => documentationEndpoints
    | "api" :: "billing" :: rest => billingEndpoints rest last
    | _ => []

/-- The octets that the octets of a path stand for; 37 is the percent sign. -/
def decodeOctets : List Nat → List Nat
  | 37 :: a :: b :: rest =>
    match Json.hexDigit? (Char.ofNat a), Json.hexDigit? (Char.ofNat b) with
    | some high, some low => (16 * high + low) :: decodeOctets rest
    | _, _ => 37 :: decodeOctets (a :: b :: rest)
  | octet :: rest => octet :: decodeOctets rest
  | [] => []

/-- A path with its percent signs decoded. -/
def decodePath (path : String) : String :=
  Text.ofLetters (Text.lenientUtf8 0 (decodeOctets (Text.utf8Octets path)))

/-- The parts of a path that starts with a slash. -/
def partsOf (path : String) : List String :=
  ((Text.split (· = '/') path.toList).drop 1).map String.ofList

/-- A path without the slashes at its end. -/
def withoutEndSlashes (path : String) : String :=
  String.ofList (path.toList.reverse.dropWhile (· = '/')).reverse

/-- What a path and a method lead to. -/
inductive Target where
  | endpoint (endpoint : Endpoint)
  | wrongMethod
  | redirect
  | nothing
  deriving DecidableEq, Repr

/-- Find what a path and a method lead to. -/
def find (method path : String) : Target :=
  let path := decodePath path
  match endpoints (partsOf path) with
  | [] =>
    if path.endsWith "/" && !(endpoints (partsOf (withoutEndSlashes path))).isEmpty then .redirect
    else .nothing
  | found =>
    match found.lookup method with
    | some endpoint => .endpoint endpoint
    | none => .wrongMethod

end Tuition.Http
