/-!
# Page size statistics

Running statistics of composed pages: how many, how many includes, and the
smallest, largest and average size. Negative sizes count as zero; counters
wrap at 2^64 as unsigned 64-bit counters do.

Proved: `observe_pages` (every observation counts one page).
-/

namespace Transclusion.Proxy

-- Powers take natural exponents through the core instance, so these definitions
-- elaborate to the same terms whatever else is imported beside them.
attribute [local instance (high)] instPowNat instNatPowNat

/-- The counters. -/
structure PageStats where
  pages : Nat := 0
  includes : Nat := 0
  bytes : Nat := 0
  /-- The smallest size seen; 2^64 - 1 before the first page. -/
  minBytes : Nat := 2 ^ (64 : Nat) - 1
  maxBytes : Nat := 0
  deriving Repr, Inhabited, DecidableEq

/-- The unsigned 64-bit value of an integer. -/
def toUInt64Value (i : Int) : Nat := (i % (2 ^ (64 : Nat) : Int)).toNat

namespace PageStats

/-- Records one page of `pageBytes` bytes with `includes` includes. -/
def observe (s : PageStats) (pageBytes includes : Int) : PageStats :=
  let n := toUInt64Value (max pageBytes 0)
  { pages := (s.pages + 1) % 2 ^ (64 : Nat)
    bytes := (s.bytes + n) % 2 ^ (64 : Nat)
    includes := (s.includes + toUInt64Value includes) % 2 ^ (64 : Nat)
    minBytes := min s.minBytes n
    maxBytes := max s.maxBytes n }

/-- A report: pages, includes, smallest, largest and average size; all zero
before the first page. -/
structure Snapshot where
  pages : Nat := 0
  includes : Nat := 0
  minBytes : Nat := 0
  maxBytes : Nat := 0
  avgBytes : Nat := 0
  deriving Repr, Inhabited, DecidableEq

def snapshot (s : PageStats) : Snapshot :=
  if s.pages = 0 then {}
  else
    { pages := s.pages, includes := s.includes
      minBytes := if s.minBytes = 2 ^ (64 : Nat) - 1 then 0 else s.minBytes
      maxBytes := s.maxBytes, avgBytes := s.bytes / s.pages }

theorem observe_pages (s : PageStats) (b i : Int) (h : s.pages + 1 < 2 ^ (64 : Nat)) :
    (s.observe b i).pages = s.pages + 1 := by
  show (s.pages + 1) % 2 ^ (64 : Nat) = s.pages + 1
  exact Nat.mod_eq_of_lt h

end PageStats

end Transclusion.Proxy
