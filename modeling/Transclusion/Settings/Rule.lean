import Transclusion.Text.Blank
import Transclusion.Text.Quote

/-!
# Page rules

A rule matches request paths by prefix. Its match expression is a list of
`PathPrefix(/prefix)` alternatives separated by `|`; blanks around each part
and inside the parentheses are ignored, empty parts are skipped, and every
prefix must start with a slash.

Proved: `matches_iff` (a path matches exactly when one of the prefixes
starts it).
-/

namespace Transclusion.Config

open Transclusion.Text

/-- Why a match expression was refused. -/
inductive MatchError where
  | empty
  | unsupported (part : String)
  | invalidPrefix (prefix_ : String)
  | noMatchers
  deriving Repr, DecidableEq

def MatchError.message : MatchError → String
  | .empty => "empty match"
  | .unsupported p => "only PathPrefix(...) supported, got " ++ quote p
  | .invalidPrefix p => "invalid prefix " ++ quote p
  | .noMatchers => "no valid matchers"

def prefixOpening : String := "PathPrefix("

def readAlternative (part : String) : Except MatchError String :=
  if !(part.startsWith prefixOpening) || !(part.endsWith ")") then .error (.unsupported part)
  else
    let afterOpening := String.ofList (part.toList.drop prefixOpening.length)
    let inside := if afterOpening.endsWith ")" then
        String.ofList (afterOpening.toList.take (afterOpening.length - 1))
      else afterOpening
    let inside := trimBlank inside
    if inside.isEmpty || !(inside.startsWith "/") then .error (.invalidPrefix inside)
    else .ok inside

def parseMatch (expr : String) : Except MatchError (List String) := do
  let expr := trimBlank expr
  if expr.isEmpty then throw .empty
  let parts := (expr.splitOn "|").map trimBlank
  let prefixes ← (parts.filter (!·.isEmpty)).mapM readAlternative
  if prefixes.isEmpty then throw .noMatchers
  pure prefixes

/-- Whether a path starts with one of the prefixes. -/
def matchesAny (prefixes : List String) (path : String) : Bool :=
  prefixes.any (path.startsWith ·)

theorem matches_iff (prefixes : List String) (path : String) :
    matchesAny prefixes path = true ↔ ∃ p ∈ prefixes, path.startsWith p = true := by
  simp [matchesAny]

end Transclusion.Config
