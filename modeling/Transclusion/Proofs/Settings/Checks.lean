import Transclusion.Settings.Environment
import Mathlib

/-!
# What loaded settings satisfy

Settings are handed out only after `Settings.finalize` has checked and
completed them, so every loaded configuration has a positive request timeout,
a non-negative default lifetime, a budget for a configured disk path, a
refresh concurrency of at least one, a positive interval when refreshing is
on, an origin without a trailing slash, and its rules ordered by priority,
in the order the file gives them among equal priorities, each compiled from
its match expression into at least one prefix (`loaded_settings_checked`).

Two kinds of value pass unchecked. A page timeout left at zero becomes twice
the request timeout as a signed 64-bit count, which is negative from a request
timeout of 2^62 ns, about 146 years (`TransclusionConfig.finalize_wraps`).
Sizes are held as signed 64-bit counts, so a size of 2^63 bytes or more is
negative (`signedSize_neg_iff`), and `finalize` passes sizes on as they are.
-/

namespace Transclusion.Config

open Transclusion.Time Transclusion.Text

/-! ## Signed 64-bit counts -/

/-- Twice a positive count below 2^63, as a signed 64-bit count: the count
itself below 2^62, wrapped around below zero from there. -/
theorem wrap64_double {x : Int} (h0 : 0 < x) (h1 : x < 2 ^ 63) :
    wrap64 (2 * x) = if x < 2 ^ 62 then 2 * x else 2 * x - 2 ^ 64 := by
  have hmod : 2 * x % (18446744073709551616 : Nat) = 2 * x :=
    Int.emod_eq_of_lt (by omega) (by omega)
  rw [wrap64, Int.bmod_def, hmod]
  split <;> split <;> omega

theorem signedSize_neg_iff {n : Nat} (h : n < 2 ^ 64) : signedSize n < 0 ↔ 2 ^ 63 ≤ n := by
  unfold signedSize
  rw [Int.bmod_neg_iff (by omega) (by omega)]
  omega

/-! ## The checks of each section -/

theorem TransclusionConfig.finalize_ok {t t' : TransclusionConfig} (h : t.finalize = .ok t') :
    0 < t.requestTimeout ∧ 0 ≤ t.pageTimeout ∧ 0 ≤ t.defaultTtl ∧
      t' = if t.pageTimeout = 0 then { t with pageTimeout := wrap64 (2 * t.requestTimeout) } else t := by
  unfold TransclusionConfig.finalize at h
  split at h
  · cases h
  split at h
  · cases h
  rename_i hrt hneg
  cases h
  simp only [Bool.or_eq_true, decide_eq_true_eq, not_or] at hneg
  refine ⟨by omega, by omega, by omega, ?_⟩
  simp only [beq_iff_eq]

/-- A page timeout left at zero wraps to a negative count when the request
timeout is 2^62 ns or more. -/
theorem TransclusionConfig.finalize_wraps {t : TransclusionConfig} (hpt : t.pageTimeout = 0)
    (httl : 0 ≤ t.defaultTtl) (h1 : 2 ^ 62 ≤ t.requestTimeout) (h2 : t.requestTimeout < 2 ^ 63) :
    ∃ t', t.finalize = .ok t' ∧ t'.pageTimeout < 0 := by
  have hrt : ¬ t.requestTimeout ≤ 0 := by omega
  refine ⟨{ t with pageTimeout := wrap64 (2 * t.requestTimeout) }, ?_, ?_⟩
  · simp [TransclusionConfig.finalize, hrt, hpt, httl]
  · have hwrap := wrap64_double (x := t.requestTimeout) (by omega) h2
    rw [if_neg (by omega)] at hwrap
    show wrap64 (2 * t.requestTimeout) < 0
    omega

theorem RefreshConfig.finalize_ok {ar ar' : RefreshConfig} (h : ar.finalize = .ok ar') :
    (ar.enabled = true → 0 < ar.interval) ∧
      ar' = if ar.concurrency ≤ 0 then { ar with concurrency := 1 } else ar := by
  unfold RefreshConfig.finalize at h
  split at h
  · cases h
  split at h
  · cases h
  rename_i hint _
  cases h
  refine ⟨fun hon => ?_, rfl⟩
  simp only [hon, Bool.true_and, decide_eq_true_eq] at hint
  omega

theorem DiskConfig.check_ok {d : DiskConfig} (h : d.check = .ok ()) : d.path ≠ "" → 0 < d.max := by
  intro hpath
  unfold DiskConfig.check at h
  split at h
  · cases h
  rename_i hmax
  simp only [Bool.and_eq_true, Bool.not_eq_true', decide_eq_true_eq, not_and] at hmax
  have := hmax (String.isEmpty_eq_false_iff.mpr hpath)
  omega

theorem trimTrailingSlashes_getLast? (s : String) :
    (trimTrailingSlashes s).toList.getLast? ≠ some '/' := by
  have hhead := List.head?_dropWhile_not (· == '/') s.toList.reverse
  simp only [trimTrailingSlashes, String.toList_ofList, List.getLast?_reverse]
  intro hslash
  rw [hslash] at hhead
  simp at hhead

/-! ## Rules -/

/-- A rule compiled from `r`: `r` with the prefixes its match expression reads
into. -/
def Rule.CompiledFrom (c r : Rule) : Prop :=
  parseMatch r.expr = .ok c.prefixes ∧ c = { r with prefixes := c.prefixes }

theorem Rule.CompiledFrom.priority_eq {c r : Rule} (h : c.CompiledFrom r) :
    c.priority = r.priority := by
  rw [h.2]

theorem parseMatch_ne_nil {expr : String} {ps : List String} (h : parseMatch expr = .ok ps) :
    ps ≠ [] := by
  unfold parseMatch at h
  simp only [bind, Except.bind] at h
  -- an empty expression, an alternative that does not read, and no
  -- alternatives at all are refused in turn
  split at h
  · cases h
  split at h
  · cases h
  split at h
  · cases h
  rename_i hne
  cases h
  simpa using hne

theorem compileRules_go_ok : ∀ {i : Nat} {rules out : List Rule},
    compileRules.go i rules = .ok out → List.Forall₂ Rule.CompiledFrom out rules
  | _, [], _, h => by
    cases h
    exact .nil
  | i, r :: rest, out, h => by
    unfold compileRules.go at h
    split at h
    · cases h
    rename_i ps hps
    cases hrest : compileRules.go (i + 1) rest with
    | error e =>
      rw [hrest] at h
      cases h
    | ok cs =>
      rw [hrest] at h
      cases h
      exact .cons ⟨hps, rfl⟩ (compileRules_go_ok hrest)


theorem compileRules_ok {rules out : List Rule} (h : compileRules rules = .ok out) :
    List.Forall₂ Rule.CompiledFrom out rules :=
  compileRules_go_ok h

theorem compiled_ne_nil {out rules : List Rule} (h : List.Forall₂ Rule.CompiledFrom out rules) :
    ∀ c ∈ out, c.prefixes ≠ [] := by
  have hboth : List.Forall₂ (fun c r => c.prefixes ≠ [] ∧ c.CompiledFrom r) out rules :=
    h.imp fun _ _ hc => ⟨parseMatch_ne_nil hc.1, hc⟩
  exact ((List.forall₂_and_left _ _).mp hboth).1

/-- The order rules are applied in: by priority, smallest first. -/
abbrev byPriority (a b : Rule) : Bool := decide (a.priority ≤ b.priority)

theorem byPriority_trans (a b c : Rule) (hab : byPriority a b) (hbc : byPriority b c) :
    byPriority a c := by
  simp only [byPriority, decide_eq_true_eq] at *
  omega

theorem byPriority_total (a b : Rule) : byPriority a b || byPriority b a := by
  simp only [byPriority, Bool.or_eq_true, decide_eq_true_eq]
  omega

theorem filter_mergeSort_byPriority (rules : List Rule) (p : Int) :
    (rules.mergeSort byPriority).filter (·.priority == p) = rules.filter (·.priority == p) := by
  -- the rules of one priority are sorted already, so they stay a sublist
  have hsame : ∀ a ∈ rules.filter (·.priority == p), a.priority = p := fun a ha => by
    simpa using (List.mem_filter.mp ha).2
  have hsorted : (rules.filter (·.priority == p)).Pairwise fun a b => byPriority a b :=
    List.pairwise_of_forall_mem_list fun a ha b hb => by simp [byPriority, hsame a ha, hsame b hb]
  have hsub : List.Sublist (rules.filter (·.priority == p))
      ((rules.mergeSort byPriority).filter (·.priority == p)) := by
    have := (List.sublist_mergeSort byPriority_trans byPriority_total hsorted List.filter_sublist).filter
      (·.priority == p)
    rwa [List.filter_filter, List.filter_congr (fun a _ => Bool.and_self _)] at this
  have hlen : ((rules.mergeSort byPriority).filter (·.priority == p)).length =
      (rules.filter (·.priority == p)).length :=
    ((List.mergeSort_perm rules byPriority).filter _).length_eq
  exact (hsub.eq_of_length hlen.symm).symm

/-! ## Finalizing -/

theorem Settings.finalize_ok {cfg out : Settings} (h : cfg.finalize = .ok out) :
    ∃ rules, cfg.transclusion.finalize = .ok out.transclusion ∧
      cfg.cache.autoRefresh.finalize = .ok out.cache.autoRefresh ∧
      cfg.cache.disk.check = .ok () ∧ out.cache.disk = cfg.cache.disk ∧
      out.server.origin = trimTrailingSlashes cfg.server.origin ∧
      compileRules cfg.rules = .ok rules ∧ out.rules = rules.mergeSort byPriority := by
  unfold Settings.finalize at h
  -- each section's check either fails, and so does the whole, or passes
  -- its completed section on
  cases ht : cfg.transclusion.finalize with
  | error e => rw [ht] at h; cases h
  | ok t =>
  cases har : cfg.cache.autoRefresh.finalize with
  | error e => rw [ht, har] at h; cases h
  | ok ar =>
  cases hd : cfg.cache.disk.check with
  | error e => rw [ht, har, hd] at h; cases h
  | ok u =>
  cases hr : compileRules cfg.rules with
  | error e => rw [ht, har, hd, hr] at h; cases h
  | ok rules =>
  rw [ht, har, hd, hr] at h
  cases h
  exact ⟨rules, rfl, rfl, rfl, rfl, rfl, rfl, rfl⟩

/-- What every checked configuration satisfies, against the rules as they
were configured. -/
structure Checked (rules : List Rule) (cfg : Settings) : Prop where
  requestTimeout_pos : 0 < cfg.transclusion.requestTimeout
  /-- The page timeout was set positive, or left at zero and doubled from
  the request timeout. -/
  pageTimeout_cases : 0 < cfg.transclusion.pageTimeout ∨
    cfg.transclusion.pageTimeout = wrap64 (2 * cfg.transclusion.requestTimeout)
  pageTimeout_pos : cfg.transclusion.requestTimeout < 2 ^ 62 → 0 < cfg.transclusion.pageTimeout
  defaultTtl_nonneg : 0 ≤ cfg.transclusion.defaultTtl
  disk_max_pos : cfg.cache.disk.path ≠ "" → 0 < cfg.cache.disk.max
  concurrency_pos : 1 ≤ cfg.cache.autoRefresh.concurrency
  interval_pos : cfg.cache.autoRefresh.enabled = true → 0 < cfg.cache.autoRefresh.interval
  origin_trimmed : cfg.server.origin.toList.getLast? ≠ some '/'
  rules_sorted : cfg.rules.Pairwise fun a b => a.priority ≤ b.priority
  /-- The rules of each priority are the configured ones, compiled, in the
  configured order. -/
  rules_stable : ∀ p, List.Forall₂ Rule.CompiledFrom
    (cfg.rules.filter (·.priority == p)) (rules.filter (·.priority == p))
  rules_matchers : ∀ r ∈ cfg.rules, r.prefixes ≠ []

theorem finalize_checked {cfg out : Settings} (h : cfg.finalize = .ok out) : Checked cfg.rules out := by
  obtain ⟨rules, ht, har, hd, hdisk, horigin, hr, hrules⟩ := Settings.finalize_ok h
  obtain ⟨hrt, hpt, httl, ht'⟩ := TransclusionConfig.finalize_ok ht
  obtain ⟨hint, har'⟩ := RefreshConfig.finalize_ok har
  have hcomp := compileRules_ok hr
  have hrt' : out.transclusion.requestTimeout = cfg.transclusion.requestTimeout := by
    rw [ht']; split <;> rfl
  have httl' : out.transclusion.defaultTtl = cfg.transclusion.defaultTtl := by
    rw [ht']; split <;> rfl
  have hpt' : out.transclusion.pageTimeout = if cfg.transclusion.pageTimeout = 0 then
      wrap64 (2 * cfg.transclusion.requestTimeout) else cfg.transclusion.pageTimeout := by
    rw [ht']; split <;> rfl
  refine ⟨by omega, ?_, ?_, by omega, ?_, ?_, ?_, ?_, ?_, ?_, ?_⟩
  · rw [hpt', hrt']
    split <;> omega
  · intro hsmall
    rw [hpt']
    split
    · rw [wrap64_double hrt (by omega), if_pos (by omega)]
      omega
    · omega
  · rw [hdisk]
    exact DiskConfig.check_ok hd
  · rw [har']
    split
    · exact Int.le_refl 1
    · omega
  · rw [har']
    split <;> exact hint
  · rw [horigin]
    exact trimTrailingSlashes_getLast? _
  · have hsorted := List.pairwise_mergeSort byPriority_trans byPriority_total rules
    rw [hrules]
    exact hsorted.imp fun hab => by simpa using hab
  · intro p
    rw [hrules, filter_mergeSort_byPriority]
    exact List.rel_filter (fun c r hc => by simp [hc.priority_eq]) hcomp
  · intro r hr
    rw [hrules] at hr
    exact compiled_ne_nil hcomp r (List.mem_mergeSort.mp hr)

/-! ## Loading -/

/-- The rules a settings file configures; the environment never changes
them. -/
def SettingsFile.rules : SettingsFile → List Rule
  | .present _ text =>
    match decodeYaml text {} with
    | .ok cfg => cfg.rules
    | .error _ => []
  | _ => []

/-- Loaded settings are the finalized form of settings that carry the file's
rules. -/
theorem loadSettings_ok {file : SettingsFile} {env : List (String × String)} {cfg : Settings}
    (h : loadSettings file env = .ok cfg) :
    ∃ raw : Settings, raw.rules = file.rules ∧ raw.finalize = .ok cfg := by
  unfold loadSettings at h
  cases file with
  | none =>
    simp only [bind, Except.bind, pure, Except.pure] at h
    cases henv : applyEnv env {} with
    | error e => rw [henv] at h; cases h
    | ok v => rw [henv] at h; exact ⟨_, rfl, h⟩
  | missing path => cases h
  | unreadable message => cases h
  | present path text =>
    simp only [bind, Except.bind] at h
    cases hdecode : decodeYaml text {} with
    | error e => rw [hdecode] at h; cases h
    | ok read =>
      simp only [hdecode, Except.mapError] at h
      cases henv : applyEnv env read with
      | error e => rw [henv] at h; cases h
      | ok v => rw [henv] at h; exact ⟨_, by simp [SettingsFile.rules, hdecode], h⟩

/-- Every configuration that loads is checked: positive request timeout,
non-negative default lifetime, a budget for a disk path, a concurrency of at
least one, a positive refresh interval when refreshing is on, no trailing
slash on the origin, and the file's rules compiled and stably sorted by
priority. The page timeout is positive when set, and when left at zero is
twice the request timeout as a signed 64-bit count: positive for a request
timeout below 2^62 ns. -/
theorem loaded_settings_checked {file : SettingsFile} {env : List (String × String)}
    {cfg : Settings} (h : loadSettings file env = .ok cfg) : Checked file.rules cfg := by
  obtain ⟨raw, hrules, hfin⟩ := loadSettings_ok h
  rw [← hrules]
  exact finalize_checked hfin

set_option maxRecDepth 100000 in
/-- A settings file that sets timeouts, a disk tier and refreshing, read under
an environment that overrides the request timeout and the cache size: the
page timeout, left at zero, becomes twice the overridden request timeout. -/
theorem loaded_settings_checked_file :
    let file : SettingsFile := .present "stitch.yaml"
      "transclusion:\n  requestTimeout: 1s\ncache:\n  maxSize: 1mb\n  disk:\n    path: /tmp/d\n    max: 10mb\n  autoRefresh:\n    enabled: true\n    interval: 30s\n"
    let env := [("STITCH_CACHE_MAX_SIZE", "2mb"), ("STITCH_TRANSCLUSION_REQUEST_TIMEOUT", "2s")]
    ∃ cfg, loadSettings file env = .ok cfg ∧ cfg.transclusion.requestTimeout = 2000000000 ∧
      cfg.transclusion.pageTimeout = 4000000000 ∧ cfg.cache.maxSize = 2000000 ∧ cfg.cache.disk.max = 10000000 ∧
      Checked file.rules cfg := by
  intro file env
  have h : (loadSettings file env).toOption.map (fun c => (c.transclusion.requestTimeout,
      c.transclusion.pageTimeout, c.cache.maxSize, c.cache.disk.max)) =
      some (2000000000, 4000000000, 2000000, 10000000) := by
    decide +kernel
  cases hl : loadSettings file env with
  | error e => simp [hl, Except.toOption] at h
  | ok cfg =>
    simp only [hl, Except.toOption, Option.map_some, Option.some.injEq, Prod.mk.injEq] at h
    exact ⟨cfg, rfl, h.1, h.2.1, h.2.2.1, h.2.2.2, loaded_settings_checked hl⟩

end Transclusion.Config
