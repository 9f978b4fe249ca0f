import Transclusion.Document.Compose
import Transclusion.Document.Resolve
import Transclusion.Settings.Basic
import Transclusion.Text.DataSize
import Transclusion.Clock.Duration
import Transclusion.Text.Radix64

/-!
# Settings from YAML

Reads a YAML document over the current settings. Each setting has a type,
and a node that does not fit it leaves the setting as it was and adds a
type error naming the node's line, tag and text (cut to seven bytes when
longer than ten) and the type; all such errors are reported together.
Some failures stop at once instead: a size that does not read, a tag the
text cannot have, an alias inside the node it names.

What each type accepts:
- durations: strings in duration syntax only (`5` is refused);
- integers: integers within 64 bits and floats up to 2^63, truncated;
- booleans: `true`/`false` spellings, and as strings `y`, `yes`, `on`,
  `n`, `no`, `off` in the usual capitalisations;
- floats: integers and floats;
- strings: the text of any scalar;
- sizes: the text of any node, read as a size;
- lists: sequences, element by element, dropping elements that fail.
A null leaves a scalar setting alone and empties a list. Binary scalars
are decoded from base64 and read as strings. Keys are matched exactly,
unknown keys are ignored, a mapping that repeats a key is refused, and a
field set twice through different keys is an error. A `<<` key merges
other mappings into a record once the record's own keys are read, without
overriding them.
-/

namespace Transclusion.Config

open Transclusion.Yaml Transclusion.Text Transclusion.Time Transclusion.Numeric

-- Powers take natural exponents through the core instance, so these definitions
-- elaborate to the same terms whatever else is imported beside them.
attribute [local instance (high)] instPowNat instNatPowNat

/-- What decoding sees: the anchored nodes, and the aliases being expanded. -/
structure DecodeScope where
  anchored : Array Node
  expanding : List Nat := []

/-- What decoding accumulates: the type errors so far; while merged
mappings are read, the keys already given (by the mapping that merges or by
an earlier merged mapping), which merged mappings do not set again; and the
number of decoding steps, with how many of them were taken inside an
alias's expansion. -/
structure DecodeState where
  errors : Array String := #[]
  merged : Option (List String) := none
  steps : Nat := 0
  aliasedSteps : Nat := 0

/-- Decoding reads the scope, collects type errors, and may stop on a
fatal error. -/
abbrev Decode := ReaderT DecodeScope (ExceptT String (StateM DecodeState))

def addError (e : String) : Decode Unit :=
  modify fun st => { st with errors := st.errors.push e }

/-- Whether `aliased` of `steps` decoding steps is too large a share to come
from alias expansion: more than 99% up to 400,000 steps, more than 10% from
4,000,000 steps on, and a share falling evenly from 99% to 10% in between. -/
def excessiveAliasing (aliased steps : Nat) : Bool :=
  if steps ≤ 400000 then 100 * aliased > 99 * steps
  else if steps ≥ 4000000 then 10 * aliased > steps
  else (360000000 * aliased : Int) > steps * (356400000 - 89 * ((steps : Int) - 400000))

/-- When every step came from alias expansion, the share is excessive. -/
theorem excessiveAliasing_all (n : Nat) (h : 0 < n) (hn : n ≤ 400000) :
    excessiveAliasing n n = true := by
  simp [excessiveAliasing, hn]
  omega

/-- Counts one decoding step, and stops the decoding once more than 100 of
more than 1,000 steps came from alias expansion and their share is
excessive. -/
def countStep : Decode Unit := do
  let scope ← read
  let st ← get
  let steps := st.steps + 1
  let aliasedSteps := if scope.expanding.isEmpty then st.aliasedSteps else st.aliasedSteps + 1
  set { st with steps, aliasedSteps }
  if aliasedSteps > 100 && steps > 1000 && excessiveAliasing aliasedSteps steps then
    throw "yaml: document contains excessive aliasing"

/-- Decodes nodes into values of one type. -/
structure Decoder (α : Type) where
  /-- The type's name in error messages. -/
  name : String
  /-- Decodes a node that is not an alias into the current value, with fuel
  for the nodes inside; says whether the node was taken. -/
  run : Nat → Node → α → Decode (Bool × α)

/-- Decodes a node, following aliases, as one counted step (and one more
for an alias's target); an alias met again inside its own expansion stops
the decoding. -/
def unmarshal {α : Type} (d : Decoder α) : Nat → Node → α → Decode (Bool × α)
  | 0, _, _ => throw "yaml: document is too deeply nested"
  | fuel + 1, .alias name target occurrence _, v => do
    countStep
    let scope ← read
    if scope.expanding.contains occurrence then
      throw ("yaml: anchor '" ++ name ++ "' value contains itself")
    withReader (fun s => { s with expanding := occurrence :: s.expanding })
      (unmarshal d fuel (scope.anchored.getD target default) v)
  | fuel + 1, n, v => do
    countStep
    d.run fuel n v

/-! ## Errors -/

def nodeTagOf : Node → String
  | .scalar _ tag _ _ => tag
  | .sequence tag _ _ => tag
  | .mapping tag _ _ => tag
  | .alias .. => ""

/-- A node's text: a scalar's text, an alias's name, else empty. -/
def nodeText : Node → String
  | .scalar text _ _ _ => text
  | .alias name _ _ _ => name
  | _ => ""

def nodeKind : Node → Nat
  | .scalar .. => 0
  | .sequence .. => 1
  | .mapping .. => 2
  | .alias .. => 3

/-- The first `n` bytes of a text; a character cut in the middle leaves one
replacement character per byte kept. -/
def takeBytes (n : Nat) (s : String) : String :=
  let rec go : List Char → Nat → List Char
    | [], _ => []
    | c :: cs, room =>
      let w := c.utf8Size
      if w ≤ room then c :: go cs (room - w)
      else List.replicate room (Char.ofNat 0xFFFD)
  String.ofList (go s.toList n)

def shownText (s : String) : String :=
  if s.utf8ByteSize > 10 then takeBytes 7 s ++ "..." else s

/-- Adds a type error for a node that does not fit `into`. -/
def typeError (n : Node) (into : String) : Decode Unit := do
  let tag := nodeTagOf n
  let value := if tag == "!!seq" || tag == "!!map" then "" else " `" ++ shownText (nodeText n) ++ "`"
  let line := toString n.line
  addError ("line " ++ line ++ ": cannot unmarshal " ++ tag ++ value ++ " into " ++ into)

/-- Adds an error for every key that repeats an earlier one in a mapping;
says whether there was one. -/
def repeatedKeys (entries : List (Node × Node)) : Decode Bool := do
  let keys := entries.map (·.1)
  let mut found := false
  for (k, i) in keys.zipIdx do
    for k2 in keys.drop (i + 1) do
      if nodeKind k == nodeKind k2 && nodeText k == nodeText k2 then
        found := true
        let line2 := toString k2.line
        let line1 := toString k.line
        addError ("line " ++ line2 ++ ": mapping key " ++ quote (nodeText k) ++
          " already defined at line " ++ line1)
  pure found

/-- The resolved value of a scalar node and the text that types read from
it: a string with its own text; binary data decoded from base64 and read as
a string; else what the tag and text resolve to, with the text as written.
Binary data that is not base64 stops the decoding. -/
def scalarValue (tag text : String) : Decode (Resolved × String) :=
  if tag == "!!str" then pure (.str, text)
  else if tag == "!!binary" then
    match decodeBase64 text with
    | some bs => pure (.str, textOfBytesLossy bs)
    | none => throw "yaml: !!binary value contains invalid base64 data"
  else match resolve tag text with
    | .ok (_, v) => pure (v, text)
    | .error e => throw e

/-! ## Decoders -/

/-- A decoder for a scalar type: `accept` says what a resolved value and
its text store, if anything. -/
def scalarDecoder {α : Type} (name : String) (accept : Resolved → String → Option α) : Decoder α where
  name := name
  run := fun _ n v => do
    match n with
    | .scalar text tag _ _ =>
      match ← scalarValue tag text with
      | (.null, _) => pure (false, v)
      | (r, t) =>
        match accept r t with
        | some w => pure (true, w)
        | none => typeError n name; pure (false, v)
    | .mapping _ entries _ =>
      if ← repeatedKeys entries then pure (false, v)
      else typeError n name; pure (false, v)
    | _ => typeError n name; pure (false, v)

def durationDecoder : Decoder Int :=
  scalarDecoder "time.Duration" fun r text =>
    match r with
    | .str => (parseDuration text).toOption
    | _ => none

/-- Whether a float is at most 2^63. -/
def atMostTwo63 (x : Binary64) : Bool := !x.isNaN && !(Binary64.lt (Binary64.ofInt (2 ^ (63 : Nat))) x)

/-- Integers: 64-bit integers, and floats up to 2^63 truncated. -/
def intDecoder : Decoder Int :=
  scalarDecoder "int" fun r _ =>
    match r with
    | .int i => some i
    | .float x => if atMostTwo63 x then some x.toInt64 else none
    | _ => none

def boolWords : List (String × Bool) :=
  [("y", true), ("Y", true), ("yes", true), ("Yes", true), ("YES", true),
   ("on", true), ("On", true), ("ON", true),
   ("n", false), ("N", false), ("no", false), ("No", false), ("NO", false),
   ("off", false), ("Off", false), ("OFF", false)]

def boolDecoder : Decoder Bool :=
  scalarDecoder "bool" fun r text =>
    match r with
    | .bool b => some b
    | .str => boolWords.lookup text
    | _ => none

def floatDecoder : Decoder Binary64 :=
  scalarDecoder "float64" fun r _ =>
    match r with
    | .int i => some (Binary64.ofInt i)
    | .uint u => some (Binary64.ofInt u)
    | .float x => some x
    | _ => none

/-- Strings: any scalar's text. -/
def stringDecoder : Decoder String :=
  scalarDecoder "string" fun _ text => some text

/-- Sizes: the text of any node not tagged null, read as a size; a size
that does not read stops the decoding. A null leaves the size alone, and a
collection tagged null is a type error. -/
def sizeDecoder : Decoder Int where
  name := "stitch.ByteSize"
  run := fun _ n v => do
    if nodeTagOf n == "!!null" then
      match n with
      | .scalar text tag _ _ =>
        let _ ← scalarValue tag text
        return (false, v)
      | .mapping _ entries _ =>
        if ← repeatedKeys entries then return (false, v)
        typeError n "stitch.ByteSize"
        return (false, v)
      | _ =>
        typeError n "stitch.ByteSize"
        return (false, v)
    match parseSize (nodeText n) with
    | .ok s => pure (true, signedSize s)
    | .error e => throw e.message

/-- Lists: a sequence element by element, dropping the elements that fail;
a null empties the list. -/
def listDecoder {α : Type} (name : String) (item : Decoder α) (zero : α) : Decoder (List α) where
  name := name
  run := fun fuel n v => do
    match n with
    | .sequence _ items _ =>
      let mut out : Array α := #[]
      for i in items do
        let (ok, x) ← unmarshal item fuel i zero
        if ok then out := out.push x
      pure (true, out.toList)
    | .scalar text tag _ _ =>
      match ← scalarValue tag text with
      | (.null, _) => pure (true, [])
      | _ => typeError n name; pure (false, v)
    | .mapping _ entries _ =>
      if ← repeatedKeys entries then pure (false, v)
      else typeError n name; pure (false, v)
    | .alias .. => pure (false, v)

/-- A field of a record type: its key and how a node updates it. -/
structure Field (σ : Type) where
  key : String
  update : Nat → Node → σ → Decode σ

/-- A field read with `d`, through `get` and `set`. -/
def Field.of {σ β : Type} (key : String) (d : Decoder β) (get : σ → β) (set : σ → β → σ) : Field σ where
  key := key
  update := fun fuel n s => do
    let (_, b) ← unmarshal d fuel n (get s)
    pure (set s b)

/-- Whether a key asks for a merge: a plain `<<`. -/
def isMergeKey : Node → Bool
  | .scalar "<<" tag _ _ => tag == "!!merge"
  | _ => false

/-- The name a key gives when it reads as a string, following an alias,
each node read as a counted step; keys of other kinds name nothing. -/
def keyName : Nat → Node → Decode (Option String)
  | 0, _ => pure none
  | fuel + 1, .alias _ target occurrence _ => do
    countStep
    let scope ← read
    withReader (fun s => { s with expanding := occurrence :: s.expanding })
      (keyName fuel (scope.anchored.getD target default))
  | _, .scalar text tag _ _ => do
    countStep
    match ← scalarValue tag text with
    | (.str, t) => pure (some t)
    | _ => pure none
  | _, _ => do
    countStep
    pure none

/-- Merges `m`, a mapping or a sequence of mappings (directly or through
aliases), into a record with `d`. When no merge is under way, the names of
the merging mapping's keys are noted first, so that merged mappings never set
them; each merged mapping adds its own names too, so that an earlier merged
mapping wins over a later one. -/
def mergeInto {σ : Type} (d : Decoder σ) (fuel : Nat) (parent : List (Node × Node)) (m : Node) (v : σ) :
    Decode σ := do
  let outermost := (← get).merged.isNone
  if outermost then
    let mut names : List String := []
    for (k, _) in parent do
      if let some t ← keyName fuel k then names := t :: names
    modify fun st => { st with merged := some names }
  let scope ← read
  let isMap := fun (x : Node) => match x with
    | .mapping .. => true
    | .alias _ target _ _ =>
      match scope.anchored.getD target default with
      | .mapping .. => true
      | _ => false
    | _ => false
  let wantMap := "yaml: map merge requires map or sequence of maps as the value"
  let mut v := v
  match m with
  | .mapping .. => v := (← unmarshal d fuel m v).2
  | .alias .. => if isMap m then v := (← unmarshal d fuel m v).2 else throw wantMap
  | .sequence _ items _ =>
    for x in items do
      if isMap x then v := (← unmarshal d fuel x v).2 else throw wantMap
  | _ => throw wantMap
  if outermost then modify fun st => { st with merged := none }
  pure v

/-- Reads a node into a record: a mapping whose keys name fields, other keys
being ignored. A field given twice (through an alias key, say) is a type
error. A `<<` key (the last one, when there are several) merges other
mappings after the mapping's own keys are read, and their keys never
override the mapping's own. Values inside the record are read with no merge
under way. -/
def recordRun {σ : Type} (name : String) (fields : List (Field σ)) : Nat → Node → σ → Decode (Bool × σ)
  | 0, _, _ => throw "yaml: document is too deeply nested"
  | fuel + 1, n, v => do
    let self : Decoder σ := ⟨name, fun _ m w => recordRun name fields fuel m w⟩
    match n with
    | .mapping _ entries _ =>
      if ← repeatedKeys entries then return (false, v)
      let mut names := (← get).merged
      modify fun st => { st with merged := none }
      let mut v := v
      let mut done : List String := []
      let mut mergeNode : Option Node := none
      for (k, value) in entries do
        if isMergeKey k then
          mergeNode := some value
        else
          let (ok, key) ← unmarshal stringDecoder fuel k ""
          let skip := match names with
            | some ns => ns.contains key
            | none => false
          if ok && !skip then
            names := names.map (key :: ·)
            if let some f := fields.find? (·.key == key) then
              if done.contains key then
                addError ("line " ++ toString k.line ++ ": field " ++ key ++ " already set in type " ++ name)
              else
                done := key :: done
                v ← f.update fuel value v
      modify fun st => { st with merged := names }
      if let some m := mergeNode then
        v ← mergeInto self fuel entries m v
      pure (true, v)
    | .scalar text tag _ _ =>
      match ← scalarValue tag text with
      | (.null, _) => pure (false, v)
      | _ => typeError n name; pure (false, v)
    | _ => typeError n name; pure (false, v)

def recordDecoder {σ : Type} (name : String) (fields : List (Field σ)) : Decoder σ where
  name := name
  run := recordRun name fields

/-! ## The settings -/

def serverDecoder : Decoder ServerConfig :=
  recordDecoder "struct \x7b Port int \"yaml:\\\"port\\\" env:\\\"PORT\\\"\"; Origin string \"yaml:\\\"origin\\\" env:\\\"ORIGIN\\\"\" \x7d"
    [.of "port" intDecoder (·.port) fun s x => { s with port := x },
     .of "origin" stringDecoder (·.origin) fun s x => { s with origin := x }]

def transclusionDecoder : Decoder TransclusionConfig :=
  recordDecoder "stitch.TransclusionConfig"
    [.of "enabled" boolDecoder (·.enabled) fun s x => { s with enabled := x },
     .of "requestTimeout" durationDecoder (·.requestTimeout) fun s x => { s with requestTimeout := x },
     .of "pageTimeout" durationDecoder (·.pageTimeout) fun s x => { s with pageTimeout := x },
     .of "defaultFragmentTTL" durationDecoder (·.defaultTtl) fun s x => { s with defaultTtl := x },
     .of "maxFragmentSize" sizeDecoder (·.maxFragmentSize) fun s x => { s with maxFragmentSize := x },
     .of "requestHeadersForward" (listDecoder "[]string" stringDecoder "") (·.forward)
       fun s x => { s with forward := x },
     .of "requestHeadersForwardVary" (listDecoder "[]string" stringDecoder "") (·.forwardVary)
       fun s x => { s with forwardVary := x },
     .of "responseHeadersForward" (listDecoder "[]string" stringDecoder "") (·.responseForward)
       fun s x => { s with responseForward := x }]

def diskDecoder : Decoder DiskConfig :=
  recordDecoder "struct \x7b Path string \"yaml:\\\"path\\\" env:\\\"PATH\\\"\"; Max stitch.ByteSize \"yaml:\\\"max\\\" env:\\\"MAX\\\"\" \x7d"
    [.of "path" stringDecoder (·.path) fun s x => { s with path := x },
     .of "max" sizeDecoder (·.max) fun s x => { s with max := x }]

def refreshDecoder : Decoder RefreshConfig :=
  recordDecoder "stitch.AutoRefreshConfig"
    [.of "enabled" boolDecoder (·.enabled) fun s x => { s with enabled := x },
     .of "maxAttempts" intDecoder (·.maxAttempts) fun s x => { s with maxAttempts := x },
     .of "inactiveFragmentsMaxRefreshs" intDecoder (·.inactiveMax) fun s x => { s with inactiveMax := x },
     .of "interval" durationDecoder (·.interval) fun s x => { s with interval := x },
     .of "margin" durationDecoder (·.margin) fun s x => { s with margin := x },
     .of "ratio" floatDecoder (·.ratio) fun s x => { s with ratio := x },
     .of "concurrency" intDecoder (·.concurrency) fun s x => { s with concurrency := x }]

def prewarmDecoder : Decoder PrewarmConfig :=
  recordDecoder ("struct \x7b URLs []string \"yaml:\\\"urls\\\" env:\\\"URLS\\\"\"; " ++
      "InitialDelay time.Duration \"yaml:\\\"initialDelay\\\" env:\\\"INITIAL_DELAY\\\"\"; " ++
      "Every time.Duration \"yaml:\\\"every\\\" env:\\\"EVERY\\\"\" \x7d")
    [.of "urls" (listDecoder "[]string" stringDecoder "") (·.urls) fun s x => { s with urls := x },
     .of "initialDelay" durationDecoder (·.initialDelay) fun s x => { s with initialDelay := x },
     .of "every" durationDecoder (·.every) fun s x => { s with every := x }]

def cacheDecoder : Decoder CacheConfig :=
  recordDecoder "stitch.CacheConfig"
    [.of "maxSize" sizeDecoder (·.maxSize) fun s x => { s with maxSize := x },
     .of "disk" diskDecoder (·.disk) fun s x => { s with disk := x },
     .of "autoRefresh" refreshDecoder (·.autoRefresh) fun s x => { s with autoRefresh := x },
     .of "prewarm" prewarmDecoder (·.prewarm) fun s x => { s with prewarm := x }]

def statsDecoder : Decoder StatsConfig :=
  recordDecoder "stitch.StatsConfig"
    [.of "appendToContent" boolDecoder (·.appendToContent) fun s x => { s with appendToContent := x },
     .of "exposeFragmentUrl" boolDecoder (·.exposeFragmentUrl) fun s x => { s with exposeFragmentUrl := x }]

def loggingDecoder : Decoder LoggingConfig :=
  recordDecoder "stitch.LoggingConfig"
    [.of "level" stringDecoder (·.level) fun s x => { s with level := x },
     .of "format" stringDecoder (·.format) fun s x => { s with format := x },
     .of "logStatsEvery" durationDecoder (·.logStatsEvery) fun s x => { s with logStatsEvery := x }]

def tracingDecoder : Decoder TracingConfig :=
  recordDecoder "stitch.TracingConfig"
    [.of "endpoint" stringDecoder (·.endpoint) fun s x => { s with endpoint := x },
     .of "serviceName" stringDecoder (·.serviceName) fun s x => { s with serviceName := x }]

def ruleDecoder : Decoder Rule :=
  recordDecoder "stitch.Rule"
    [.of "match" stringDecoder (·.expr) fun s x => { s with expr := x },
     .of "priority" intDecoder (·.priority) fun s x => { s with priority := x },
     .of "bypass" boolDecoder (·.bypass) fun s x => { s with bypass := x }]

def settingsDecoder : Decoder Settings :=
  recordDecoder "stitch.Config"
    [.of "server" serverDecoder (·.server) fun s x => { s with server := x },
     .of "transclusion" transclusionDecoder (·.transclusion) fun s x => { s with transclusion := x },
     .of "cache" cacheDecoder (·.cache) fun s x => { s with cache := x },
     .of "stats" statsDecoder (·.stats) fun s x => { s with stats := x },
     .of "logging" loggingDecoder (·.logging) fun s x => { s with logging := x },
     .of "tracing" tracingDecoder (·.tracing) fun s x => { s with tracing := x },
     .of "rules" (listDecoder "[]stitch.Rule" ruleDecoder {}) (·.rules) fun s x => { s with rules := x }]

/-- Reads YAML text over the given settings: the first document, if any,
decoded with every type error reported together. -/
def decodeYaml (text : String) (base : Settings) : Except String Settings :=
  match readDocument plainTag text with
  | .error e => .error e.message
  | .ok none => .ok base
  | .ok (some doc) =>
    let fuel := (text.length + 2) * (text.length + 2)
    let run := (do countStep; unmarshal settingsDecoder fuel doc.root base).run
      { anchored := doc.anchored }
    match run.run.run {} with
    | (.error e, _) => .error e
    | (.ok (_, cfg), st) =>
      let errs := st.errors
      if errs.isEmpty then .ok cfg
      else .error ("yaml: unmarshal errors:\n  " ++ "\n  ".intercalate errs.toList)

end Transclusion.Config
