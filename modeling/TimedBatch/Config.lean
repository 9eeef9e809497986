import TimedBatch.Duration
import TimedBatch.Ledger

/-!
# Configuration of a stage

A stage is configured by the greatest size of a batch, the longest time a batch stays open and the
policy for asking the producer. The text form counts the time span in whole milliseconds, at most
`2 ^ 64 - 1` of them, so it keeps a configuration whose span is such a number and rounds every
other span down.
-/

namespace TimedBatch

/-- What a stage is configured with. -/
structure Config where
  maxSize : Amount
  timeSpan : Duration
  policy : Policy := .fallback
  deriving DecidableEq

/-- Why a configuration cannot be used. -/
inductive ConfigError where
  | zeroMaxSize
  | zeroTimeSpan
  deriving DecidableEq

namespace ConfigError

def name : ConfigError → String
  | zeroMaxSize => "ZeroMaxSize"
  | zeroTimeSpan => "ZeroTimeSpan"

def message : ConfigError → String
  | zeroMaxSize => "buffer_timeout.max_size must be greater than zero"
  | zeroTimeSpan => "buffer_timeout.time_span must be greater than zero"

end ConfigError

namespace Config

/-- The fault of a configuration, if it has one. A zero size is found before a zero span. -/
def fault? (config : Config) : Option ConfigError :=
  if config.maxSize = 0 then some .zeroMaxSize
  else if config.timeSpan = .zero then some .zeroTimeSpan
  else none

/-- The fields of a configuration. -/
def record (config : Config) : String :=
  let policy :=
    match config.policy with
    | .unbounded => "Unbounded"
    | .prefetch => "Prefetch"
  "BufferTimeoutConfig \x7b max_size: " ++ toString config.maxSize.count ++ ", time_span: " ++
    config.timeSpan.text ++ ", upstream_demand: " ++ policy ++ " \x7d"

/-! ## The text form -/

/-- The name of the size in the text form. -/
def maxSizeKey : String :=
  "max_size"

/-- The name of the time span in the text form. -/
def timeSpanKey : String :=
  "time_span_ms"

/-- The name of the policy in the text form. -/
def policyKey : String :=
  "upstream_demand"

/-- The time span as the text form counts it. -/
def encodedMillis (config : Config) : Nat :=
  min config.timeSpan.millis (2 ^ 64 - 1)

/-- A name between quotes and the colon behind it. -/
def encodeKey (key : String) : List Char :=
  '"' :: key.toList ++ ['"', ':']

def encodeChars (config : Config) : List Char :=
  '\x7b' :: encodeKey maxSizeKey ++ Nat.toDigits 10 config.maxSize.count ++
    ',' :: encodeKey timeSpanKey ++ Nat.toDigits 10 config.encodedMillis ++
    ',' :: encodeKey policyKey ++ '"' :: config.policy.name.toList ++ ['"', '\x7d']

def encode (config : Config) : String :=
  String.ofList config.encodeChars

end Config

end TimedBatch
