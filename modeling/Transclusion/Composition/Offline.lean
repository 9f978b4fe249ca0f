import Transclusion.Web.Address
import Transclusion.Composition.Sources

/-!
# Fetching with no network

What a fragment fetch gives on a host whose network reaches nothing, not
even itself: a URL the fetcher refuses (one that does not read, or whose
scheme is not `http` or `https`, or that names no host) fails as invalid;
any other fails when connecting, naming the request in its canonical form
and the address dialled. An address is the host and the URL's port, or the
scheme's port (80 or 443). A host that is not an IP address is looked up
first, and the lookup fails in the same way.
-/

namespace Transclusion.Composition

open Transclusion.Http Transclusion.Text

/-- Reads a dotted-quad IPv4 address: four decimal parts up to 255, without
leading zeros. -/
def readIpv4 (bs : List UInt8) : Option (List Nat) :=
  let parts := (String.fromUTF8? (ByteArray.mk bs.toArray)).map (·.splitOn ".")
  match parts with
  | some ps =>
    if ps.length != 4 then none
    else ps.mapM fun p =>
      let cs := p.toList
      if cs.isEmpty || cs.length > 3 || !cs.all Char.isDigit || (cs.length > 1 && cs.head? == some '0') then none
      else
        let v := cs.foldl (fun n c => n * 10 + (c.toNat - 48)) 0
        if v > 255 then none else some v
  | none => none

def dialPort (u : Url) : String :=
  let p := textOfBytes u.port
  if !p.isEmpty then p else if u.scheme == "https" then "443" else "80"

def unreachableDial (u : Url) : String :=
  let host := textOfBytes u.hostname
  let port := dialPort u
  let portOk := port.toList.all Char.isDigit && (port.toNat?.getD 0) ≤ 65535
  if !portOk then "dial tcp: address " ++ port ++ ": invalid port"
  else if (readIpv4 u.hostname).isSome || host.isEmpty then
    "dial tcp " ++ host ++ ":" ++ port ++ ": connect: network is unreachable"
  else if host.contains ':' then
    "dial tcp [" ++ host.toLower ++ "]:" ++ port ++ ": connect: network is unreachable"
  else
    "dial tcp: lookup " ++ host ++ " on [::1]:53: dial udp [::1]:53: connect: network is unreachable"

/-- The failure of fetching `url` with no network. -/
def fetchOffline (url : String) : FetchError :=
  let invalid : FetchError := { message := "fetch " ++ url ++ ": invalid url" }
  match parseUrl url with
  | none => invalid
  | some u =>
    if (u.scheme != "http" && u.scheme != "https") || u.host.isEmpty then invalid
    else { message := "fetch " ++ url ++ ": Get " ++ quote (u.text true) ++ ": " ++ unreachableDial u }

end Transclusion.Composition
