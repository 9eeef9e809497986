import TimedBatch.Text.Quoted

/-!
# Errors of the stream

An error carries a code, a message, a category and the chain of its causes, nearest first. A
refusal of the timer is an error of its own kind, which becomes the cause of the stream error that
reports it. The code alone says whether an error reports a refusal of the timer.
-/

namespace TimedBatch

/-- Why a timer did not take a task: the worker that refused it, and the reason. -/
structure TimerRejection where
  worker : String
  reason : String
  deriving DecidableEq

namespace TimerRejection

/-- The refusal of a timer that was shut down. -/
def shutDown (worker : String) : TimerRejection :=
  ⟨worker, "executor has been shut down"⟩

/-- The refusal of a delay that the clock of the worker cannot represent. -/
def delayOutOfRange (worker : String) : TimerRejection :=
  ⟨worker, "delay exceeds the representable clock range"⟩

def text (rejection : TimerRejection) : String :=
  "timer worker `" ++ rejection.worker ++ "` rejected task: " ++ rejection.reason

end TimerRejection

/-- What kind of failure an error reports. -/
inductive Category where
  | producer
  | protocolViolation
  | insufficientDemand
  | rejected
  deriving DecidableEq

namespace Category

def name : Category → String
  | producer => "Upstream"
  | protocolViolation => "ProtocolViolation"
  | insufficientDemand => "InsufficientDemand"
  | rejected => "Rejected"

def ofName? (name : String) : Option Category :=
  [producer, protocolViolation, insufficientDemand, rejected].find? (·.name = name)

end Category

/-- What stream errors and their causes say in text. -/
def codedText (code message : String) : String :=
  "[" ++ code ++ "] " ++ message

/-- A link in the chain of causes. -/
inductive Cause where
  | text (content : String)
  | rejection (rejection : TimerRejection)
  | stream (code message : String) (category : Category)
  deriving DecidableEq

def Cause.content : Cause → String
  | text content => content
  | rejection refusal => refusal.text
  | stream code message _ => codedText code message

/-- An error of the stream. -/
structure StreamError where
  code : String
  message : String
  category : Category
  causes : List Cause
  deriving DecidableEq

namespace StreamError

/-! ## Codes -/

/-- The code of an item that was never asked for. -/
def unrequestedElementCode : String :=
  "flow.unrequested_element"

/-- The code of a batch that found no demand. -/
def insufficientDemandCode : String :=
  "flow.insufficient_demand"

def timerRejectedCode : String :=
  "flow.timer_rejected"

def duplicateSubscriptionCode : String :=
  "flow.duplicate_subscription"

/-- The code of a failure that the producer reports. -/
def producerCode : String :=
  "flow.upstream"

/-! ## Making errors -/

def ofMessage (code message : String) : StreamError :=
  ⟨code, message, .producer, []⟩

def withCategory (error : StreamError) (category : Category) : StreamError :=
  { error with category := category }

/-- The same error with another cause, which has no cause of its own. -/
def withCause (error : StreamError) (cause : Cause) : StreamError :=
  { error with causes := [cause] }

/-- The same error with a stream error as its cause, whose chain of causes follows it. -/
def withErrorAsCause (error cause : StreamError) : StreamError :=
  { error with causes := .stream cause.code cause.message cause.category :: cause.causes }

def unrequestedElement : StreamError :=
  (ofMessage unrequestedElementCode "Unrequested element received").withCategory
    .protocolViolation

/-- A batch was due while the consumer had asked for none. -/
def insufficientDemand : StreamError :=
  (ofMessage insufficientDemandCode
    "Could not emit buffer due to lack of requests").withCategory .insufficientDemand

def timerRejected (rejection : TimerRejection) : StreamError :=
  ((ofMessage timerRejectedCode rejection.text).withCategory .rejected).withCause
    (.rejection rejection)

def duplicateSubscription : StreamError :=
  (ofMessage duplicateSubscriptionCode
    "Subscription already set: on_subscribe called twice").withCategory .protocolViolation

/-! ## Text -/

/-- Whether the error reports a refusal of the timer. -/
def isTimerRejection (error : StreamError) : Bool :=
  error.code = timerRejectedCode

def text (error : StreamError) : String :=
  codedText error.code error.message

/-- What the causes of an error say, nearest first. -/
def causeTexts (error : StreamError) : List String :=
  error.causes.map Cause.content

/-- The fields of an error, with the nearest cause as text. -/
def record (error : StreamError) : String :=
  let cause :=
    match error.causeTexts.head? with
    | none => "None"
    | some content => "Some(" ++ Text.quote content ++ ")"
  "FlowError \x7b code: " ++ Text.quote error.code ++ ", message: " ++ Text.quote error.message ++
    ", category: " ++ error.category.name ++ ", cause: " ++ cause ++ " \x7d"

end StreamError

end TimedBatch
