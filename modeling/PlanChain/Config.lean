import PlanChain.Retry
import PlanChain.Toml.Parser

set_option autoImplicit false

namespace PlanChain

structure Config where
  defaultMaxSteps : Int64 := PlanChain.defaultMaxSteps
  retry : RetryParams := {}
  stepTimeout : UInt64 := 5000
  toolTimeout : UInt64 := 1000
deriving DecidableEq

structure ConfigError where
  field : String
  reason : String
deriving DecidableEq

def ConfigError.message (error : ConfigError) : String :=
  "invalid config value `" ++ error.field ++ "`: " ++ error.reason

namespace Config

def toJson (config : Config) : Json :=
  .obj [("default_max_steps", .ofInt64 config.defaultMaxSteps), ("fixpoint", config.retry.toJson),
    ("sandbox_step_timeout_ms", .ofUInt64 config.stepTimeout),
    ("tool_timeout_ms", .ofUInt64 config.toolTimeout)]

def ofJson? (json : Json) : Option Config := do
  let members ← json.record?
    ["default_max_steps", "fixpoint", "sandbox_step_timeout_ms", "tool_timeout_ms"]
  let standard : Config := {}
  some {
    defaultMaxSteps := ←
      members.defaulted "default_max_steps" standard.defaultMaxSteps Json.int64?
    retry := ← members.defaulted "fixpoint" standard.retry RetryParams.ofJson?
    stepTimeout := ← members.defaulted "sandbox_step_timeout_ms" standard.stepTimeout Json.uint64?
    toolTimeout := ← members.defaulted "tool_timeout_ms" standard.toolTimeout Json.uint64? }

def error? (config : Config) : Option ConfigError :=
  if config.defaultMaxSteps ≤ 0 then some ⟨"default_max_steps", "must be positive"⟩
  else if config.retry.maxIterations = 0 then some ⟨"fixpoint.maxIterations", "must be positive"⟩
  else if config.retry.maxBackoff < config.retry.baseBackoff then
    some ⟨"fixpoint.baseBackoffMs", "must not exceed fixpoint.maxBackoffMs"⟩
  else if config.stepTimeout = 0 then some ⟨"sandbox_step_timeout_ms", "must be positive"⟩
  else if config.toolTimeout = 0 then some ⟨"tool_timeout_ms", "must be positive"⟩
  else none

def validate (config : Config) : Except ConfigError Config :=
  match config.error? with
  | none => .ok config
  | some error => .error error

-- The configuration that entries of a TOML document give. A list that stands for the retry parameters may
-- go on after them.
def ofEntries? (entries : Toml.Entries) : Option Config :=
  ofJson? <| .obj <| (Toml.entriesToJson entries).map fun (name, value) =>
    match name, value with
    | "fixpoint", .arr items => (name, .arr (items.take RetryParams.fields.length))
    | _, _ => (name, value)

def describe (config : Config) : String :=
  let number (value : UInt64) : String := Text.numeral value.toNat
  "RuntimeConfig \x7b default_max_steps: "
    ++ String.ofList (Text.signedDecimal config.defaultMaxSteps.toInt)
    ++ ", fixpoint: FixpointParams \x7b max_iterations: "
    ++ Text.numeral config.retry.maxIterations.toNat
    ++ ", base_backoff_ms: " ++ number config.retry.baseBackoff
    ++ ", max_backoff_ms: " ++ number config.retry.maxBackoff
    ++ " \x7d, sandbox_step_timeout_ms: " ++ number config.stepTimeout
    ++ ", tool_timeout_ms: " ++ number config.toolTimeout ++ " \x7d"

end Config

inductive ConfigFailure where
  | unreadable
  | invalid (error : ConfigError)
deriving DecidableEq

def Config.ofText (text : String) : Except ConfigFailure Config :=
  match (Toml.parse? text).bind ofEntries? with
  | none => .error .unreadable
  | some config => config.validate.mapError .invalid

def describeMilliseconds (milliseconds : Nat) : String :=
  let seconds := milliseconds / 1000
  let rest := milliseconds % 1000
  if milliseconds = 0 then "0ns"
  else if seconds = 0 then Text.numeral milliseconds ++ "ms"
  else if rest = 0 then Text.numeral seconds ++ "s"
  else
    let digits := Text.padded 3 (Text.decimal rest)
    Text.numeral seconds ++ "."
      ++ String.ofList (digits.reverse.dropWhile (· = '0')).reverse ++ "s"

end PlanChain
