import PoolHealth.Errors
import PoolHealth.Text.Quoted

/-!
# Backends

What kind of service a pool connects to, and where it is found.  Addresses may carry
credentials; `sanitizeUrl` hides them in everything that is shown.
-/

namespace PoolHealth

inductive BackendKind where
  | database
  | cache
  | http
  | other
deriving DecidableEq, Repr

namespace BackendKind

def name : BackendKind -> String
  | database => "database"
  | cache => "cache"
  | http => "http"
  | other => "other"

def title : BackendKind -> String
  | database => "Database"
  | cache => "Cache"
  | http => "Http"
  | other => "Other"

def all : List BackendKind := [database, cache, http, other]

def named : List (String × BackendKind) := all.map fun k => (k.name, k)

end BackendKind

/-!
## Addresses without credentials
-/

def schemeEnd : List Char := [':', '/', '/']

/-- The characters up to and including the first `://`, and those behind it. -/
def splitScheme? : List Char -> Option (List Char × List Char)
  | [] => none
  | c :: rest =>
      if schemeEnd.isPrefixOf (c :: rest) then some (schemeEnd, rest.drop 2)
      else (splitScheme? rest).map fun (scheme, body) => (c :: scheme, body)

/-- The characters from the last `@` on. -/
def fromLastAt? : List Char -> Option (List Char)
  | [] => none
  | c :: rest =>
      match fromLastAt? rest with
      | some tail => some tail
      | none => if c = '@' then some (c :: rest) else none

/-- The address with everything between the scheme and the last `@` hidden, if
there is something to hide. -/
def sanitizeChars (cs : List Char) : List Char :=
  match splitScheme? cs with
  | none => cs
  | some (scheme, body) =>
      match fromLastAt? body with
      | none => cs
      | some tail => if tail.length < body.length then scheme ++ '*' :: '*' :: '*' :: tail else cs

def sanitizeUrl (url : String) : String := String.ofList (sanitizeChars url.toList)

inductive BackendSpec where
  | database (url : String)
  | cache (url : String)
  | http (baseUrl : String)
deriving DecidableEq

namespace BackendSpec

def kind : BackendSpec -> BackendKind
  | database _ => .database
  | cache _ => .cache
  | http _ => .http

/-- The specification in diagnostics, with a sanitized address. -/
def describe : BackendSpec -> String
  | database url => "Database \x7b url: " ++ Text.quote (sanitizeUrl url) ++ " \x7d"
  | cache url => "Cache \x7b url: " ++ Text.quote (sanitizeUrl url) ++ " \x7d"
  | http baseUrl => "Http \x7b base_url: " ++ Text.quote (sanitizeUrl baseUrl) ++ " \x7d"

end BackendSpec
end PoolHealth
