import TimedBatch.Config
import TimedBatch.Json.Reader

/-!
# Reading a configuration

A configuration is read from an object or from an array. In an object the fields may come in any
order, the policy may be left out, fields with other names are skipped and no field may come twice.
In an array the size and the span come first and the policy may follow. What is missing is
reported at the closing bracket.
-/

namespace TimedBatch.Config

open Json

/-- What a configuration is called in messages. -/
def kind : String :=
  "struct BufferTimeoutConfig"

def readPolicyName (name : String) : Except Failure Policy :=
  if name = Policy.unbounded.name then .ok .unbounded
  else if name = Policy.prefetch.name then .ok .prefetch
  else
    .error (.unfit ("unknown variant `" ++ name ++ "`, expected `" ++ Policy.unbounded.name ++
      "` or `" ++ Policy.prefetch.name ++ "`"))

/-- Read the null that stands behind the name of a policy in an object. -/
def readNull (text : List Char) : Except Failure (List Char) :=
  match skipBlanks text with
  | [] => .error .truncated
  | 'n' :: rest => readWord ['u', 'l', 'l'] rest
  | other => .error (misfit "unit" other)

/-- Read a policy: its name, or an object with its name as the only key and null as the value. -/
def readPolicy (text : List Char) : Except Failure (Policy × List Char) :=
  match skipBlanks text with
  | [] => .error .truncated
  | '"' :: rest => do
      let (name, behind) ← readString rest
      .ok (← readPolicyName name, behind)
  | '\x7b' :: rest => do
      match skipBlanks rest with
      | '"' :: inner =>
          let (name, behind) ← readString inner
          let policy ← readPolicyName name
          let value ← readMark ':' (skipBlanks behind)
          let last ← readNull value
          let behindObject ← readMark '\x7d' (skipBlanks last)
          .ok (policy, behindObject)
      | other => .error (unexpected other)
  | _ => .error .malformed

structure Draft where
  maxSize : Option Nat := none
  timeSpan : Option Nat := none
  policy : Option Policy := none

namespace Draft

/-- The failure of a second field of one name. -/
def duplicate (key : String) : Failure :=
  .unfit ("duplicate field `" ++ key ++ "`")

def missing (key : String) : Failure :=
  .unfit ("missing field `" ++ key ++ "`")

/-- Read the value of a field behind its key. A second field of one name fails before its value is
looked at. -/
def readField (draft : Draft) (key : String) (text : List Char) :
    Except Failure (Draft × List Char) := do
  if key = maxSizeKey ∧ draft.maxSize.isSome then .error (duplicate key)
  else if key = timeSpanKey ∧ draft.timeSpan.isSome then .error (duplicate key)
  else if key = policyKey ∧ draft.policy.isSome then .error (duplicate key)
  else
    let value ← readMark ':' (skipBlanks text)
    if key = maxSizeKey then
      let (size, rest) ← readNatural "usize" value
      .ok ({ draft with maxSize := some size }, rest)
    else if key = timeSpanKey then
      let (millis, rest) ← readNatural "u64" value
      .ok ({ draft with timeSpan := some millis }, rest)
    else if key = policyKey then
      let (policy, rest) ← readPolicy value
      .ok ({ draft with policy := some policy }, rest)
    else
      let rest ← skipValue value
      .ok (draft, rest)

/-- Read the fields that are left, up to the closing bracket. No more fields are read than the
given number; a text has fewer fields than characters. -/
def readFields : Nat → Bool → Draft → List Char → Except Failure (Draft × List Char)
  | 0, _, _, _ => .error .malformed
  | bound + 1, first, draft, text => do
      match skipBlanks text with
      | [] => .error .truncated
      | '\x7d' :: rest => .ok (draft, rest)
      | character :: rest =>
          let start :=
            if first then character :: rest
            else if character = ',' then skipBlanks rest
            else []
          if ¬first ∧ character ≠ ',' then .error .malformed
          else
            match start with
            | '"' :: inner =>
                let (key, behind) ← readString inner
                let (next, remainder) ← draft.readField key behind
                readFields bound false next remainder
            | other => .error (unexpected other)

def finish (draft : Draft) : Except Failure Config :=
  match draft.maxSize, draft.timeSpan with
  | none, _ => .error (missing maxSizeKey)
  | some _, none => .error (missing timeSpanKey)
  | some size, some millis =>
      .ok
        { maxSize := .ofNat size
          timeSpan := .ofMillis millis
          policy := draft.policy.getD .fallback }

end Draft

/-- The failure of an array that is too short. -/
def shortArray (length : Nat) : Failure :=
  .unfit ("invalid length " ++ toString length ++ ", expected " ++ kind ++ " with 3 elements")

/-- Go to the next element of an array: the text at which it starts, or `none` in front of the
closing bracket. -/
def nextElement (first : Bool) (text : List Char) : Except Failure (Option (List Char)) :=
  match skipBlanks text with
  | [] => .error .truncated
  | ']' :: _ => .ok none
  | character :: rest =>
      if first then .ok (some (character :: rest))
      else if character = ',' then
        match skipBlanks rest with
        | [] => .error .truncated
        | ']' :: _ => .error .malformed
        | start => .ok (some start)
      else .error .malformed

/-- Read the elements of an array up to its closing bracket. -/
def readElements (text : List Char) : Except Failure (Config × List Char) := do
  match ← nextElement true text with
  | none => .error (shortArray 0)
  | some sizeText =>
      let (size, behindSize) ← readNatural "usize" sizeText
      match ← nextElement false behindSize with
      | none => .error (shortArray 1)
      | some spanText =>
          let (millis, behindSpan) ← readNatural "u64" spanText
          let (policy, last) ←
            match ← nextElement false behindSpan with
            | none => .ok (Policy.fallback, behindSpan)
            | some policyText => readPolicy policyText
          let rest ← readMark ']' (skipBlanks last)
          .ok (⟨.ofNat size, .ofMillis millis, policy⟩, rest)

def decodeChars (text : List Char) : Except Failure Config := do
  let (config, rest) ←
    match skipBlanks text with
    | [] => .error .truncated
    | '[' :: inner => readElements inner
    | '\x7b' :: inner => do
        let (draft, rest) ← Draft.readFields (inner.length + 1) true {} inner
        .ok (← draft.finish, rest)
    | other => .error (misfit kind other)
  if (skipBlanks rest).isEmpty then .ok config else .error .malformed

def decode (text : String) : Except Failure Config :=
  decodeChars text.toList

end TimedBatch.Config
