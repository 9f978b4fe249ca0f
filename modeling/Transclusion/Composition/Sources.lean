import Transclusion.Fragment.Basic

/-!
# Scripted fragment servers

The servers fragments are fetched from, as scripts: each URL answers its
list of responses in turn, and the last one repeats. A response may move the
clock before it is built, fail without an HTTP response, or never answer.
A URL without a script fails.

A fetched fragment carries the requested URL and the response's headers as
sent. Its expiry is given as a lifetime from the (possibly moved) clock or
as an instant; without either it lives for ten seconds.
-/

namespace Transclusion.Composition

open Transclusion.Http Transclusion.Time

/-- How a fragment's expiry is given. -/
inductive Expiry where
  /-- A lifetime in nanoseconds from the clock. -/
  | after (ns : Int)
  /-- An absolute instant. -/
  | at (t : Instant)
  /-- Not given. -/
  | unset
  deriving Repr, Inhabited, DecidableEq

/-- The expiry instant at `now`, with `otherwise` when it is not given. -/
def Expiry.resolve (e : Expiry) (now otherwise : Instant) : Instant :=
  match e with
  | .after ns => now.add (wrap64 ns)
  | .at t => t
  | .unset => otherwise

/-- A fetch that produced no HTTP response. -/
structure FetchError where
  message : String
  timeout : Bool := false
  deriving Repr, Inhabited, DecidableEq

/-- What one fetch gives. -/
inductive Reply where
  | fragment (f : Fragment)
  | failure (e : FetchError)
  /-- The fetch never returns. -/
  | stall
  deriving Repr, Inhabited

/-- One scripted response. -/
structure Response where
  status : Int := 200
  body : String := ""
  header : Header := {}
  expiry : Expiry := .unset
  /-- A failure with this text instead of a response. -/
  error : Option String := none
  /-- Whether that failure is a timeout. -/
  timeout : Bool := false
  /-- Whether the response never comes. -/
  hang : Bool := false
  /-- Nanoseconds the clock moves before the response is built. -/
  advance : Int := 0
  deriving Repr, Inhabited

/-- The script of one URL and how many fetches it has answered. -/
structure Route where
  url : String
  responses : List Response
  served : Nat := 0
  deriving Repr, Inhabited

/-- The scripted servers. -/
structure Servers where
  routes : List Route := []
  deriving Repr, Inhabited

/-- The lifetime of a fragment whose response gives none. -/
def scriptedTtl : Int := 10 * nsPerSecond

/-- The reply a response gives to a request at `now`. -/
def Response.reply (r : Response) (req : FetchRequest) (now : Instant) : Reply :=
  if r.hang then .stall
  else match r.error with
    | some text => .failure { message := text, timeout := r.timeout }
    | none => .fragment
        { url := req.url, status := r.status, body := r.body, header := r.header
          expiresAt := r.expiry.resolve now (now.add scriptedTtl) }

/-- Answers a fetch at `clock`: the reply, the servers with the script
advanced, and the clock after the response's own delay. -/
def Servers.serve (s : Servers) (req : FetchRequest) (clock : Instant) :
    Reply × Servers × Instant :=
  match s.routes.find? (·.url == req.url) with
  | none => (.failure { message := "fetch " ++ req.url ++ ": no route" }, s, clock)
  | some route =>
    match route.responses.getLast? with
    | none => (.failure { message := "fetch " ++ req.url ++ ": no route" }, s, clock)
    | some last =>
      let r := route.responses.getD route.served last
      let clock := clock.add r.advance
      let routes := s.routes.map fun x =>
        if x.url == req.url then { x with served := x.served + 1 } else x
      (r.reply req clock, { routes }, clock)

end Transclusion.Composition
