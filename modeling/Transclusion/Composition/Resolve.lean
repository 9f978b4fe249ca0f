import Transclusion.Composition.Node
import Transclusion.Settings.Basic
import Transclusion.Placeholder.Basic
import Transclusion.Placeholder.Timeout
import Transclusion.Text.Quote

/-!
# Resolving includes

A directive resolves to a fragment through its sources in order: `src`,
then `fallback-src`, each with its own timeout attribute, and finally the
literal fallback content between its tags. The first source answering with
a successful status wins. A primary directive whose sources all failed but
one answered with an error status carries that first error response to the
page instead of the fallback, marked as never cacheable.

Only the configured request headers of the page are passed on.

Proved: `resolvedWith_timeout` (a timed-out include always reports its
fallback).
-/

namespace Transclusion.Composition

open Transclusion.Http Transclusion.Time Transclusion.Config

/-- A directive and the fragment that resolved it. -/
structure Include where
  directive : Directive
  /-- The position in document order. -/
  index : Nat
  id : String
  primary : Bool
  fragment : Fragment
  /-- The attribute whose URL supplied the fragment; empty for fallback
  content. -/
  sourceAttr : String := ""
  cached : Bool := false
  /-- Whether the page deadline passed first and the fallback was used. -/
  timedOut : Bool := false
  /-- Nanoseconds spent resolving. -/
  duration : Int := 0
  deriving Repr, Inhabited

def Include.resolvedWith (inc : Include) : String :=
  if inc.timedOut then "fallback content (timeout)"
  else if inc.sourceAttr.isEmpty then "fallback content"
  else if inc.cached then "cached " ++ inc.sourceAttr
  else "remote " ++ inc.sourceAttr

def fallbackInclude (d : Directive) (index : Nat) : Include :=
  { directive := d, index, id := d.id, primary := d.primary, fragment := Fragment.fallback (Text.textOfBytesLossy d.fallback) }

/-- One source of a directive. -/
structure Source where
  attr : String
  url : String
  timeout : Int
  deriving Repr, Inhabited

/-- The directive's sources in order, each with its timeout: the attribute's
value when it reads as a valid timeout, the request timeout otherwise. -/
def sources (cfg : TransclusionConfig) (d : Directive) : List Source :=
  [("src", d.src, "src-timeout"), ("fallback-src", d.fallbackSrc, "fallback-src-timeout")].filterMap
    fun (attr, url, timeoutAttr) =>
      if url.isEmpty then none
      else
        let timeout := match d.attr? timeoutAttr with
          | some raw => let r := parseTimeout raw; if r.ok then r.ns else cfg.requestTimeout
          | none => cfg.requestTimeout
        some { attr, url, timeout }

def forwardedNames (cfg : TransclusionConfig) : List String := cfg.forward ++ cfg.forwardVary

/-- What trying the sources gives: the winning fragment with its source and
whether the cache supplied it, and the first error response. -/
structure Attempts where
  won : Option (Source × Fragment × Bool) := none
  errored : Option (Source × Fragment × Bool) := none

/-- Tries the sources in order until one wins; `none` when a load never
finishes. -/
def trySources (cfg : TransclusionConfig) (header : Header) :
    List Source → Attempts → Node → Option Attempts × Node
  | [], acc, n => (some acc, n)
  | s :: rest, acc, n =>
    match n.load cfg.forwardVary s.url s.timeout header with
    | (.stall, n) => (none, n)
    | (.failure _, n) => trySources cfg header rest acc n
    | (.fragment f cached, n) =>
      if isSuccess f.status then (some { acc with won := some (s, f, cached) }, n)
      else trySources cfg header rest { acc with errored := acc.errored.or (some (s, f, cached)) } n

/-- Resolves a directive for a page whose request carries `parent`; `none`
when a source never answers. -/
def resolve (cfg : TransclusionConfig) (n : Node) (d : Directive) (index : Nat) (parent : Header) :
    Option Include × Node :=
  let start := n.clock
  let header := parent.filter (forwardedNames cfg)
  match trySources cfg header (sources cfg d) {} n with
  | (none, n) => (none, n)
  | (some acc, n) =>
    let inc := fallbackInclude d index
    let inc := match acc.won, acc.errored with
      | some (s, f, cached), _ => { inc with fragment := f, sourceAttr := s.attr, cached }
      | none, some (s, f, cached) =>
        if inc.primary then
          { inc with fragment := { f with expiresAt := Instant.epoch }, sourceAttr := s.attr, cached }
        else inc
      | none, none => inc
    (some { inc with duration := n.clock.sub start }, n)

/-- Loads each URL into the cache as a request without headers would:
the numbers warmed and failed. URLs already cached count as neither. -/
def prewarm (cfg : TransclusionConfig) (n : Node) (urls : List String) : (Nat × Nat) × Node :=
  urls.foldl (fun ((warmed, failed), n) u =>
    match n.load cfg.forwardVary u cfg.requestTimeout {} with
    | (.fragment f cached, n) =>
      if cached then ((warmed, failed), n)
      else if isSuccess f.status then ((warmed + 1, failed), n)
      else ((warmed, failed + 1), n)
    | (_, n) => ((warmed, failed + 1), n)) ((0, 0), n)

theorem resolvedWith_timeout (inc : Include) (h : inc.timedOut = true) :
    inc.resolvedWith = "fallback content (timeout)" := by
  simp [Include.resolvedWith, h]

end Transclusion.Composition
