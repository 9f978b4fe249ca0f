import Transclusion.Text.Blank
import Transclusion.Text.Case
import Transclusion.Clock.Instant
import Transclusion.Clock.Layout
import Transclusion.Web.Header
import Transclusion.Text.Number
import Transclusion.Web.Lifetime
import Transclusion.Record.Item
import Transclusion.Fragment.Basic
import Transclusion.Fragment.Encoding
import Transclusion.Digest.TreeHash
import Transclusion.Text.Radix64
import Transclusion.Markup.Entity
import Transclusion.Markup.Reference
import Transclusion.Markup.Lexer
import Transclusion.Placeholder.Basic
import Transclusion.Placeholder.Timeout
import Transclusion.Placeholder.Scan
import Transclusion.Store.Tiered
import Transclusion.Numeric.Binary64
import Transclusion.Store.Memory
import Transclusion.Store.DiskTier
import Transclusion.Record.Compression
import Transclusion.Record.Frame
import Transclusion.Text.Quote
import Transclusion.Settings.Rule
import Transclusion.Settings.Basic
import Transclusion.Composition.Sources
import Transclusion.Composition.Node
import Transclusion.Composition.Renewal
import Transclusion.Composition.Resolve
import Transclusion.Composition.Page
import Transclusion.Composition.Assemble
import Transclusion.Composition.Session
import Transclusion.Numeric.Elementary
import Transclusion.Numeric.Decimal
import Transclusion.Text.DataSize
import Transclusion.Web.Media
import Transclusion.Proxy.Headers
import Transclusion.Proxy.PageStats
import Transclusion.Proxy.Serve
import Transclusion.Clock.Duration
import Transclusion.Document.Scanner
import Transclusion.Document.Compose
import Transclusion.Document.Resolve
import Transclusion.Settings.Decode
import Transclusion.Settings.Environment
import Transclusion.Web.Address
import Transclusion.Composition.Offline
import Transclusion.Proxy.Options
import Transclusion.Main
import Transclusion.Proofs.Cache.Entries
import Transclusion.Proofs.Cache.Run
import Transclusion.Proofs.Cache.Representation
import Transclusion.Proofs.Markup.Offsets
import Transclusion.Proofs.Placeholder.Spans
import Transclusion.Proofs.Composition.Arrivals
import Transclusion.Proofs.Numeric.Rounding
import Transclusion.Proofs.Composition.Freshness
import Transclusion.Proofs.Cache.Throttling
import Transclusion.Proofs.Placeholder.Excerpts
import Transclusion.Proofs.Cache.DiskIndex
import Transclusion.Proofs.Cache.Reads
import Transclusion.Proofs.Settings.Checks
import Transclusion.Proofs.Cache.Eviction
import Transclusion.Proofs.Cache.Completion
import Transclusion.Proofs.Composition.Fallbacks
import Transclusion.Proofs.Composition.PlainPages
import Transclusion.Proofs.Record.Frames
import Transclusion.Proofs.Cache.Keys
import Transclusion.Proofs.Web.Lifetime
import Transclusion.Proofs.Cache.Admission
import Transclusion.Proofs.Placeholder.Timeouts
import Transclusion.Proofs.Cache.PassOrder
import Transclusion.Proofs.Composition.Coherence
import Transclusion.Proofs.Text.Split
import Transclusion.Proofs.Proxy.Exposure
import Transclusion.Proofs.Settings.Rules
