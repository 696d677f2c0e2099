import SteadyTask.Config.Section
import SteadyTask.Mode.Controller
import SteadyTask.Monitor.Lifecycle
import SteadyTask.Recovery
import SteadyTask.Reflection.Generate

/-!
# The settings of the system

Six sections with their defaults, and what follows from them: durations that are never shorter
than a second where a shorter one would mean that nothing can be done in time.
-/

namespace SteadyTask.Config

/-- Which model service is used. -/
structure Backend where
  provider : String
  model : String
  baseUrl : Option String
  deriving Repr, DecidableEq, Inhabited

/-- Whether tasks are monitored, and how often sensors are read. -/
structure Sampling where
  enabled : Bool
  intervalSeconds : Nat
  deriving Repr, DecidableEq, Inhabited

/-- How long readings are kept, and how long a poll may take. -/
structure Caching where
  ttlSeconds : Nat
  pollTimeoutSeconds : Nat
  deriving Repr, DecidableEq, Inhabited

/-- How many retries follow the first call. -/
structure Retries where
  tool : Nat
  model : Nat
  deriving Repr, DecidableEq, Inhabited

/-- How long calls may take, and what follows a failed one. -/
structure Calls where
  toolTimeoutSeconds : Nat
  modelTimeoutSeconds : Nat
  backoffBase : Millis
  backoffMax : Millis
  retries : Retries
  deriving Repr, DecidableEq, Inhabited

/-- Which ways of reflecting are tried, and where records are kept. -/
structure Reflecting where
  schemaGuided : Bool
  manualParse : Bool
  timeoutSeconds : Nat
  storePath : Option String
  deriving Repr, DecidableEq, Inhabited

/-- All settings. -/
structure Settings where
  backend : Backend
  sampling : Sampling
  caching : Caching
  mode : Mode.Settings
  calls : Calls
  reflecting : Reflecting
  deriving Repr, Inhabited

/-! ## Layouts -/

/-- The layout of the section about the model service. -/
def Backend.layout : Layout Backend where
  name := "LlmSection"
  start := ⟨"openai", "gpt-4o-mini", none⟩
  settings :=
    [.of "provider" .defaulted .text fun s a => { s with provider := a },
      .of "model" .defaulted .text fun s a => { s with model := a },
      .of "base_url" .optional (.orAbsent .text) fun s a => { s with baseUrl := a }]

/-- The layout of the section about monitoring. -/
def Sampling.layout : Layout Sampling where
  name := "MonitorSection"
  start := ⟨true, 5⟩
  settings :=
    [.of "enabled" .defaulted .flag fun s a => { s with enabled := a },
      .of "poll_interval_seconds" .defaulted (.word 64) fun s a => { s with intervalSeconds := a }]

/-- The layout of the section about the cache. -/
def Caching.layout : Layout Caching where
  name := "CacheSection"
  start := ⟨10, 5⟩
  settings :=
    [.of "ttl_seconds" .defaulted (.word 64) fun s a => { s with ttlSeconds := a },
      .of "poll_timeout_seconds" .defaulted (.word 64) fun s a =>
        { s with pollTimeoutSeconds := a }]

/-- The layout of the ceilings of one mode. -/
def ceilingsLayout : Layout Mode.Ceilings where
  name := "ThresholdSet"
  start := ⟨0.0, 0.0, 0.0⟩
  settings :=
    [.of Metric.cpuPercent .required .real fun s a => { s with cpu := a },
      .of Metric.memoryPercent .required .real fun s a => { s with memory := a },
      .of Metric.acceleratorPercent .required .real fun s a => { s with accelerator := a }]

/-- The layout of the ceilings of all modes. -/
def thresholdsLayout : Layout Mode.Thresholds where
  name := "ModeThresholds"
  start := .default
  settings :=
    [.of "normal" .required ceilingsLayout.kind fun s a => { s with normal := a },
      .of "alert" .required ceilingsLayout.kind fun s a => { s with alert := a },
      .of "degraded" .required ceilingsLayout.kind fun s a => { s with degraded := a },
      .of "lockdown" .required ceilingsLayout.kind fun s a => { s with lockdown := a },
      .of "recovery" .required ceilingsLayout.kind fun s a => { s with recovery := a }]

/-- The layout of the section about modes. -/
def modeLayout : Layout Mode.Settings where
  name := "ModeSection"
  start := ⟨3, 2, 1, .default⟩
  settings :=
    [.of "degrade_after_breaches" .defaulted (.word 32) fun s a =>
        { s with degradeAfterBreaches := a },
      .of "recovery_after_clear" .defaulted (.word 32) fun s a =>
        { s with recoveryAfterClear := a },
      .of "recovery_checks" .defaulted (.word 32) fun s a => { s with recoveryChecks := a },
      .of "thresholds" .defaulted thresholdsLayout.kind fun s a => { s with thresholds := a }]

/-- The layout of the numbers of retries. -/
def Retries.layout : Layout Retries where
  name := "MaxRetriesSection"
  start := ⟨2, 2⟩
  settings :=
    [.of "tool" .defaulted (.word 32) fun s a => { s with tool := a },
      .of "model" .defaulted (.word 32) fun s a => { s with model := a }]

/-- The layout of the section about calls. -/
def Calls.layout : Layout Calls where
  name := "ExecutorSection"
  start := ⟨30, 60, 500, 8000, Retries.layout.start⟩
  settings :=
    [.of "tool_timeout_secs" .defaulted (.word 64) fun s a => { s with toolTimeoutSeconds := a },
      .of "model_timeout_secs" .defaulted (.word 64) fun s a => { s with modelTimeoutSeconds := a },
      .of "backoff_base_ms" .defaulted (.word 64) fun s a => { s with backoffBase := a },
      .of "backoff_max_ms" .defaulted (.word 64) fun s a => { s with backoffMax := a },
      .of "max_retries" .defaulted Retries.layout.kind fun s a => { s with retries := a }]

/-- The layout of the section about reflection. -/
def Reflecting.layout : Layout Reflecting where
  name := "ReflectionSection"
  start := ⟨true, true, 30, none⟩
  settings :=
    [.of "schema_guided" .defaulted .flag fun s a => { s with schemaGuided := a },
      .of "manual_parse" .defaulted .flag fun s a => { s with manualParse := a },
      .of "timeout_secs" .defaulted (.word 64) fun s a => { s with timeoutSeconds := a },
      .of "store_path" .optional (.orAbsent .path) fun s a => { s with storePath := a }]

/-- The layout of all settings. -/
def Settings.layout : Layout Settings where
  name := "AppConfig"
  start :=
    ⟨Backend.layout.start, Sampling.layout.start, Caching.layout.start, modeLayout.start,
      Calls.layout.start, Reflecting.layout.start⟩
  settings :=
    [.of "llm" .defaulted Backend.layout.kind fun s a => { s with backend := a },
      .of "monitor" .defaulted Sampling.layout.kind fun s a => { s with sampling := a },
      .of "cache" .defaulted Caching.layout.kind fun s a => { s with caching := a },
      .of "mode" .defaulted modeLayout.kind fun s a => { s with mode := a },
      .of "executor" .defaulted Calls.layout.kind fun s a => { s with calls := a },
      .of "reflection" .defaulted Reflecting.layout.kind fun s a => { s with reflecting := a }]

/-! ## What follows from settings -/

/-- So many seconds, but at least one. -/
def atLeastOneSecond (seconds : Nat) : Millis :=
  Millis.ofSeconds (max seconds 1)

/-- How often sensors are read. -/
def Sampling.interval (s : Sampling) : Millis :=
  atLeastOneSecond s.intervalSeconds

/-- The options of monitors. -/
def Sampling.options (s : Sampling) : Monitor.Options :=
  ⟨s.enabled, s.interval⟩

/-- How long readings are kept. -/
def Caching.ttl (s : Caching) : Millis :=
  Millis.ofSeconds s.ttlSeconds

/-- How long a poll may take. -/
def Caching.pollTimeout (s : Caching) : Millis :=
  atLeastOneSecond s.pollTimeoutSeconds

/-- Delays and policies. -/
def Calls.recovery (s : Calls) : Recovery :=
  .make s.backoffBase s.backoffMax ⟨atLeastOneSecond s.toolTimeoutSeconds, s.retries.tool⟩
    ⟨atLeastOneSecond s.modelTimeoutSeconds, s.retries.model⟩

/-- How tasks are reflected on. -/
def Reflecting.plan (s : Reflecting) : Reflection.Settings :=
  ⟨s.schemaGuided, s.manualParse, atLeastOneSecond s.timeoutSeconds⟩

end SteadyTask.Config
