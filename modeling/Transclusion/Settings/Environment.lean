import Transclusion.Settings.Decode
import Transclusion.Numeric.Decimal
import Transclusion.Text.DataSize
import Transclusion.Clock.Duration

/-!
# Settings from the environment

Every setting but the rules can be overridden by a variable named
`STITCH_` followed by its section's prefix and its own name in capitals,
such as `STITCH_CACHE_AUTO_REFRESH_RATIO`. A variable that is unset or
empty changes nothing. Lists are split at commas, keeping empty items.

Every variable is read, in the order of the settings; those that do not
read are all reported, each as a parse error naming the setting's field
and type, joined by `; ` after `env: `.

Sections whose settings form a named record answer to the bare prefix of
the section around them (`STITCH_` for the top-level sections,
`STITCH_CACHE_` for auto-refresh): text there is refused, since a record has
no reading from text, and the section is then skipped. Each rule answers to
`STITCH_<index>_` in all of its fields; the rules never change, but their
reading errors are reported after all others.
-/

namespace Transclusion.Config

open Transclusion.Text Transclusion.Time Transclusion.Numeric

-- Powers take natural exponents through the core instance, so these definitions
-- elaborate to the same terms whatever else is imported beside them.
attribute [local instance (high)] instPowNat instNatPowNat

/-- Why a signed integer did not read. -/
inductive IntError where
  | malformed
  | range

/-- Reads decimal digits into a `bits`-bit unsigned value; an invalid
character or a value of `2 ^ bits` or more stops the reading, whichever comes
first. -/
def readDecimalBits (bits : Nat) : List Char → Nat → Except IntError Nat
  | [], n => .ok n
  | c :: rest, n =>
    if !c.isDigit then .error .malformed
    else
      let n' := n * 10 + (c.toNat - 48)
      if n' ≥ 2 ^ bits then .error .range else readDecimalBits bits rest n'

/-- Reads a signed `bits`-bit decimal integer with an optional sign. -/
def parseSigned (bits : Nat) (s : String) : Except String Int :=
  let fail := fun (why : String) => Except.error ("strconv.ParseInt: parsing " ++ quote s ++ ": " ++ why)
  let (neg, body) := match s.toList with
    | '+' :: r => (false, r)
    | '-' :: r => (true, r)
    | r => (false, r)
  if body.isEmpty then fail "invalid syntax"
  else match readDecimalBits bits body 0 with
    | .error .malformed => fail "invalid syntax"
    | .error .range => fail "value out of range"
    | .ok u =>
      if neg then (if u ≤ 2 ^ (bits - 1) then .ok (-(u : Int)) else fail "value out of range")
      else if u < 2 ^ (bits - 1) then .ok u else fail "value out of range"

/-- Reads an integer setting: integers from the environment are read in 32
bits, so values beyond ±2^31 are out of range. -/
def parseIntText (s : String) : Except String Int := parseSigned 32 s

/-- Reads a boolean: `1`, `t`, `T`, `true`, `True`, `TRUE` and the like for
false. -/
def parseBoolText (s : String) : Except String Bool :=
  if ["1", "t", "T", "TRUE", "true", "True"].contains s then .ok true
  else if ["0", "f", "F", "FALSE", "false", "False"].contains s then .ok false
  else .error ("strconv.ParseBool: parsing " ++ quote s ++ ": invalid syntax")

def parseFloatText (s : String) : Except String Binary64 :=
  (parseFloat s.toUTF8.toList).mapError (·.message s.toUTF8.toList)

def parseDurationText (s : String) : Except String Int :=
  (parseDuration s).mapError ("unable to parse duration: " ++ ·.message)

def parseSizeText (s : String) : Except String Int :=
  match parseSize s with
  | .ok n => .ok (signedSize n)
  | .error e => .error e.message

def parseListText (s : String) : Except String (List String) :=
  .ok (s.splitOn ",")

/-- A setting read from a variable: its name, its field and type as
reported, and how its text updates the settings. -/
structure EnvSetting where
  name : String
  field : String
  type : String
  apply : String → Settings → Except String Settings

def EnvSetting.of {β : Type} (name field type : String) (parse : String → Except String β)
    (set : Settings → β → Settings) : EnvSetting where
  name := "STITCH_" ++ name
  field := field
  type := type
  apply := fun text s => (parse text).map (set s)

/-- How the environment is read: single settings, and sections of settings
that form a named record type. A record's field has no variable of its
own, so it answers to the bare prefix of the section holding it (`key`);
text there cannot be read into a record, and the record's settings are
then skipped. -/
inductive EnvField where
  | setting (s : EnvSetting)
  | record (field type key : String) (fields : List EnvField)

def envFields : List EnvField :=
  [.setting (.of "SERVER_PORT" "Port" "int" parseIntText fun s x => { s with server.port := x }),
   .setting (.of "SERVER_ORIGIN" "Origin" "string" .ok fun s x => { s with server.origin := x }),
   .record "Transclusion" "stitch.TransclusionConfig" "STITCH_" [
     .setting (.of "TRANSCLUSION_ENABLED" "Enabled" "bool" parseBoolText
       fun s x => { s with transclusion.enabled := x }),
     .setting (.of "TRANSCLUSION_REQUEST_TIMEOUT" "RequestTimeout" "time.Duration" parseDurationText
       fun s x => { s with transclusion.requestTimeout := x }),
     .setting (.of "TRANSCLUSION_PAGE_TIMEOUT" "PageTimeout" "time.Duration" parseDurationText
       fun s x => { s with transclusion.pageTimeout := x }),
     .setting (.of "TRANSCLUSION_DEFAULT_FRAGMENT_TTL" "DefaultFragmentTTL" "time.Duration" parseDurationText
       fun s x => { s with transclusion.defaultTtl := x }),
     .setting (.of "TRANSCLUSION_MAX_FRAGMENT_SIZE" "MaxFragmentSize" "stitch.ByteSize" parseSizeText
       fun s x => { s with transclusion.maxFragmentSize := x }),
     .setting (.of "TRANSCLUSION_REQUEST_HEADERS_FORWARD" "RequestHeadersForward" "[]string" parseListText
       fun s x => { s with transclusion.forward := x }),
     .setting (.of "TRANSCLUSION_REQUEST_HEADERS_FORWARD_VARY" "RequestHeadersForwardVary" "[]string"
       parseListText fun s x => { s with transclusion.forwardVary := x }),
     .setting (.of "TRANSCLUSION_RESPONSE_HEADERS_FORWARD" "ResponseHeadersForward" "[]string" parseListText
       fun s x => { s with transclusion.responseForward := x })],
   .record "Cache" "stitch.CacheConfig" "STITCH_" [
     .setting (.of "CACHE_MAX_SIZE" "MaxSize" "stitch.ByteSize" parseSizeText
       fun s x => { s with cache.maxSize := x }),
     .setting (.of "CACHE_DISK_PATH" "Path" "string" .ok fun s x => { s with cache.disk.path := x }),
     .setting (.of "CACHE_DISK_MAX" "Max" "stitch.ByteSize" parseSizeText
       fun s x => { s with cache.disk.max := x }),
     .record "AutoRefresh" "stitch.AutoRefreshConfig" "STITCH_CACHE_" [
       .setting (.of "CACHE_AUTO_REFRESH_ENABLED" "Enabled" "bool" parseBoolText
         fun s x => { s with cache.autoRefresh.enabled := x }),
       .setting (.of "CACHE_AUTO_REFRESH_MAX_ATTEMPTS" "MaxAttempts" "int" parseIntText
         fun s x => { s with cache.autoRefresh.maxAttempts := x }),
       .setting (.of "CACHE_AUTO_REFRESH_INACTIVE_FRAGMENTS_MAX_REFRESHS" "InactiveFragmentsMaxRefreshs"
         "int" parseIntText fun s x => { s with cache.autoRefresh.inactiveMax := x }),
       .setting (.of "CACHE_AUTO_REFRESH_INTERVAL" "Interval" "time.Duration" parseDurationText
         fun s x => { s with cache.autoRefresh.interval := x }),
       .setting (.of "CACHE_AUTO_REFRESH_MARGIN" "Margin" "time.Duration" parseDurationText
         fun s x => { s with cache.autoRefresh.margin := x }),
       .setting (.of "CACHE_AUTO_REFRESH_RATIO" "Ratio" "float64" parseFloatText
         fun s x => { s with cache.autoRefresh.ratio := x }),
       .setting (.of "CACHE_AUTO_REFRESH_CONCURRENCY" "Concurrency" "int" parseIntText
         fun s x => { s with cache.autoRefresh.concurrency := x })],
     .setting (.of "CACHE_PREWARM_URLS" "URLs" "[]string" parseListText
       fun s x => { s with cache.prewarm.urls := x }),
     .setting (.of "CACHE_PREWARM_INITIAL_DELAY" "InitialDelay" "time.Duration" parseDurationText
       fun s x => { s with cache.prewarm.initialDelay := x }),
     .setting (.of "CACHE_PREWARM_EVERY" "Every" "time.Duration" parseDurationText
       fun s x => { s with cache.prewarm.every := x })],
   .record "Stats" "stitch.StatsConfig" "STITCH_" [
     .setting (.of "STATS_APPEND_TO_CONTENT" "AppendToContent" "bool" parseBoolText
       fun s x => { s with stats.appendToContent := x }),
     .setting (.of "STATS_EXPOSE_FRAGMENT_URL" "ExposeFragmentURL" "bool" parseBoolText
       fun s x => { s with stats.exposeFragmentUrl := x })],
   .record "Logging" "stitch.LoggingConfig" "STITCH_" [
     .setting (.of "LOGGING_LEVEL" "Level" "string" .ok fun s x => { s with logging.level := x }),
     .setting (.of "LOGGING_FORMAT" "Format" "string" .ok fun s x => { s with logging.format := x }),
     .setting (.of "LOGGING_LOG_STATS_EVERY" "LogStatsEvery" "time.Duration" parseDurationText
       fun s x => { s with logging.logStatsEvery := x })],
   .record "Tracing" "stitch.TracingConfig" "STITCH_" [
     .setting (.of "TRACING_ENDPOINT" "Endpoint" "string" .ok fun s x => { s with tracing.endpoint := x }),
     .setting (.of "TRACING_SERVICE_NAME" "ServiceName" "string" .ok
       fun s x => { s with tracing.serviceName := x })]]

mutual
def EnvField.names : EnvField → List String
  | .setting e => [e.name]
  | .record _ _ key fields => key :: namesOf fields

def namesOf : List EnvField → List String
  | [] => []
  | f :: fs => f.names ++ namesOf fs
end

/-- The entries of an environment block: `NAME=value` items separated by NUL
characters; items without `=` are dropped. -/
def environmentEntries (block : String) : List (String × String) :=
  (block.splitOn "\x00").filterMap fun item =>
    match item.splitOn "=" with
    | name :: rest@(_ :: _) => some (name, "=".intercalate rest)
    | _ => none

/-- The text of a variable, when it is set and not empty. -/
def envText (env : List (String × String)) (name : String) : Option String :=
  match env.lookup name with
  | some "" => none
  | t => t

/-- The error for a field whose type has no reading from text. -/
def noReading (field type : String) : String :=
  "no parser found for field " ++ quote field ++ " of type " ++ quote type

/-- The error for a setting whose text does not read. -/
def unreadable (field type why : String) : String :=
  "parse error on field " ++ quote field ++ " of type " ++ quote type ++ ": " ++ why

mutual
def applyField (env : List (String × String)) : EnvField → Settings × Array String → Settings × Array String
  | .setting e, acc =>
    match envText env e.name with
    | none => acc
    | some text =>
      match e.apply text acc.1 with
      | .ok s => (s, acc.2)
      | .error why => (acc.1, acc.2.push (unreadable e.field e.type why))
  | .record field type key fields, acc =>
    match envText env key with
    | some _ => (acc.1, acc.2.push (noReading field type))
    | none => applyFields env fields acc

def applyFields (env : List (String × String)) : List EnvField → Settings × Array String → Settings × Array String
  | [], acc => acc
  | f :: fs, acc => applyFields env fs (applyField env f acc)
end

/-- The variables of the rule at `index`: its match, priority and bypass
fields have no variables of their own, so all three answer to the rule's
prefix `STITCH_<index>_`; the errors of the priority and bypass. -/
def ruleErrors (env : List (String × String)) (index : Nat) : List String :=
  match envText env ("STITCH_" ++ toString index ++ "_") with
  | none => []
  | some text =>
    (match parseIntText text with
      | .error why => [unreadable "Priority" "int" why]
      | .ok _ => []) ++
    (match parseBoolText text with
      | .error why => [unreadable "Bypass" "bool" why]
      | .ok _ => [])

/-- How many rules the environment describes: the length of the run of
indexes from 0 for which some variable starts with `STITCH_<index>_`. -/
def envRuleCount (env : List (String × String)) : Nat :=
  let described := fun (i : Nat) => env.any fun (k, _) => k.startsWith ("STITCH_" ++ toString i ++ "_")
  let rec go : Nat → Nat → Nat
    | 0, i => i
    | fuel + 1, i => if described i then go fuel (i + 1) else i
  go (env.length + 1) 0

/-- The errors of the rules' variables, given the number of rules read from
the file. Text in the bare `STITCH_` cannot be read into the list of rules.
Otherwise, once any `STITCH_` variable is set, every rule (of the file, or
described by the environment, whichever are more) is read from its prefix;
the first rule with errors reports them and ends the reading. The rules
themselves always come from the file. -/
def rulesErrors (env : List (String × String)) (fileRules : Nat) : List String :=
  if (envText env "STITCH_").isSome then [noReading "Rules" "[]stitch.Rule"]
  else if !(env.any fun (k, _) => k.startsWith "STITCH_") then []
  else
    let count := max fileRules (envRuleCount env)
    match (List.range count).find? (fun i => !(ruleErrors env i).isEmpty) with
    | some i => ruleErrors env i
    | none => []

/-- Applies the environment's overrides, or reports every one that does not
read. -/
def applyEnv (env : List (String × String)) (cfg : Settings) : Except String Settings :=
  let (out, errs) := applyFields env envFields (cfg, #[])
  let errs := errs.toList ++ rulesErrors env cfg.rules.length
  if errs.isEmpty then .ok out else .error ("env: " ++ "; ".intercalate errs)

/-! ## Loading the settings

The settings start from their defaults; a settings file, when there is one,
is read over them; then the environment overrides what it names, except the
rules, which come from the file only; last the settings are checked and
completed. -/

/-- Where the settings file stands. -/
inductive SettingsFile where
  /-- No file is read. -/
  | none
  /-- The file at `path` cannot be opened. -/
  | missing (path : String)
  /-- The file could not be read, for the reason `message` gives. -/
  | unreadable (message : String)
  /-- The file at `path` holds `text`. -/
  | present (path : String) (text : String)

def loadSettings (file : SettingsFile) (env : List (String × String)) : Except String Settings := do
  let base : Settings := {}
  let cfg ← match file with
    | .none => pure base
    | .missing path => throw ("open " ++ path ++ ": no such file or directory")
    | .unreadable message => throw message
    | .present path text => (decodeYaml text base).mapError (fun e => "parse " ++ path ++ ": " ++ e)
  let rules := cfg.rules
  let cfg ← (applyEnv env cfg).mapError ("parse env: " ++ ·)
  { cfg with rules }.finalize

end Transclusion.Config
