import Transclusion.Fragment.Basic
import Transclusion.Record.Item
import Transclusion.Clock.Instant

/-!
# Encoded fragments

Fragments and fetch requests are encoded as CBOR maps with small integer keys;
the length of a fragment's encoding is the size the cache budget counts.

A fragment is `{1: url, 2: status, 3: body, 4: headers, 5: expiry}`, where the
headers map each name to the array of its values and are left out when there
are none, and the expiry is RFC 3339 text in the zone the instant is written in
(null for an instant that was never set). A request is
`{1: url, 2: headers, 3: timeout in nanoseconds}`, headers again left out when
empty.
-/

namespace Transclusion

open Transclusion.Cbor Transclusion.Http Transclusion.Time

/-- A header map as a CBOR map of names to arrays of values; a name without
a value list maps to null. -/
def Http.Header.toCbor (h : Header) : Item :=
  .map (h.entries.map fun (k, vs) => (.text k, match vs with
    | some vs => .array (vs.map .text)
    | none => .null))

/-- An instant as RFC 3339 text, or null when it was never set. -/
def Time.Instant.toCbor (t : Instant) : Item :=
  if t.isZero then .null else .text t.rfc3339

def Fragment.toCbor (f : Fragment) : Item :=
  .map ([(.uint 1, .text f.url), (.uint 2, .int f.status), (.uint 3, .text f.body)] ++
    (if f.header.entries.isEmpty then [] else [(.uint 4, f.header.toCbor)]) ++
    [(.uint 5, f.expiresAt.toCbor)])

def FetchRequest.toCbor (r : FetchRequest) : Item :=
  .map ([(.uint 1, .text r.url)] ++
    (if r.header.entries.isEmpty then [] else [(.uint 2, r.header.toCbor)]) ++
    [(.uint 3, .int r.timeout)])

def Fragment.encode (f : Fragment) : List UInt8 := Cbor.encode f.toCbor

/-- The size a fragment takes in the cache: the length of its encoding. -/
def Fragment.size (f : Fragment) : Nat := f.encode.length

def FetchRequest.encode (r : FetchRequest) : List UInt8 := Cbor.encode r.toCbor

end Transclusion
