import Transclusion.Web.Header
import Transclusion.Clock.Layout
import Transclusion.Text.Case
import Transclusion.Text.Number

/-!
# Freshness of a response

How long a response stays fresh, read from its headers. `no-store` or
`no-cache` anywhere in `Cache-Control` makes it stale at once; otherwise the
last valid `s-maxage` wins, then the last valid `max-age` less the `Age`; then
`Expires` counted from `Date` (or from now). Without any of these the headers
say nothing, and a fetched fragment lives for the configured default.

Directive values may be quoted and padded with spaces; a value that is not a
whole non-negative integer is ignored. Lifetimes in seconds are converted to
nanoseconds in 64 bits, so a huge `max-age` wraps around.
-/

namespace Transclusion.Http

open Transclusion.Time Transclusion.Text

/-- The `Cache-Control` directives that decide freshness, read in order. -/
structure Directives where
  /-- `no-store` or `no-cache` was seen. -/
  noStore : Bool := false
  /-- The last valid `s-maxage`, in seconds. -/
  sMaxAge : Option Int := none
  /-- The last valid `max-age`, in seconds. -/
  maxAge : Option Int := none
  deriving Repr

/-- A directive value: the text after `=` without surrounding quotes and
spaces, read as a non-negative integer. -/
def directiveSeconds (value : String) : Option Int :=
  match parseInt64 (trimChars ['"', ' '] value) with
  | some n => if 0 ≤ n then some n else none
  | none => none

def Directives.read (d : Directives) (directive : String) : Directives :=
  let t := trimBlank directive
  let (name, value) := match t.splitOn "=" with
    | [] => ("", "")
    | n :: rest => (n, "=".intercalate rest)
  match lower (trimBlank name) with
  | "no-store" | "no-cache" => { d with noStore := true }
  | "s-maxage" =>
    match directiveSeconds value with
    | some n => { d with sMaxAge := some n }
    | none => d
  | "max-age" =>
    match directiveSeconds value with
    | some n => { d with maxAge := some n }
    | none => d
  | _ => d

/-- The directives of every `Cache-Control` line. -/
def cacheDirectives (h : Header) : Directives :=
  (h.values "Cache-Control").foldl
    (fun d line => (line.splitOn ",").foldl Directives.read d) {}

/-- How long a response with headers `h` stays fresh, measured from `now`:
`none` when the headers say nothing about freshness, else a lifetime in
nanoseconds that is never negative. -/
def lifetime (h : Header) (now : Instant) : Option Int :=
  let d := cacheDirectives h
  if d.noStore then some 0
  else match d.sMaxAge, d.maxAge with
  | some s, _ => some (wrap64 (s * nsPerSecond))
  | none, some m =>
    let life := wrap64 (m * nsPerSecond)
    let age := trimBlank (h.get "Age")
    let life := if age.isEmpty then life
      else match parseInt64 age with
        | some n =>
          let a := if n < 0 then wrap64 (-n) else n
          wrap64 (life - wrap64 (a * nsPerSecond))
        | none => life
    some (max life 0)
  | none, none =>
    let expires := trimBlank (h.get "Expires")
    if expires.isEmpty then none
    else if expires == "0" then some 0
    else match parseHttpDate expires with
      | none => some 0
      | some exp =>
        let date := trimBlank (h.get "Date")
        let ref := if date.isEmpty then now else (parseHttpDate date).getD now
        some (max (exp.sub ref) 0)

/-- When a fetched fragment expires: `now` plus its lifetime, or plus the
default when its headers say nothing; the epoch when that lifetime is not
positive. -/
def expiration (h : Header) (now : Instant) (defaultTtl : Int) : Instant :=
  let life := (lifetime h now).getD defaultTtl
  if life ≤ 0 then Instant.epoch else now.add life

end Transclusion.Http
