import TimedBatch.Decimal.Shortest
import TimedBatch.Text.Quoted

/-!
# Reading JSON text from left to right

Each reader takes the characters still to be read and answers what it read together with the rest.
The first failure ends the reading. A failure says whether the text breaks the grammar, ends too
early, or is well formed but does not fit what is read.

A value that nobody asks for is skipped: its brackets have to match and its tokens have to be well
formed, but its numbers may be of any size and its escapes may name half of a surrogate pair.
-/

namespace TimedBatch.Json

-- Sums of natural numbers are taken from the zero of the core library, whatever is imported.
attribute [local instance (high)] Zero.ofOfNat0

inductive Failure where
  | malformed
  | truncated
  | unfit (message : String)
  deriving DecidableEq

/-- The four blanks that may stand between tokens. -/
def isBlank (character : Char) : Bool :=
  character = ' ' || character = '\n' || character = '\t' || character = '\r'

def skipBlanks (text : List Char) : List Char :=
  text.dropWhile isBlank

/-- The failure where something else was expected: the text is truncated if nothing is left of
it. -/
def unexpected : List Char → Failure
  | [] => .truncated
  | _ :: _ => .malformed

def readMark (mark : Char) : List Char → Except Failure (List Char)
  | [] => .error .truncated
  | character :: rest => if character = mark then .ok rest else .error .malformed

/-- Read the given characters one after the other. -/
def readWord : List Char → List Char → Except Failure (List Char)
  | [], text => .ok text
  | mark :: marks, text => do readWord marks (← readMark mark text)

/-! ## Strings -/

/-- The value of a hexadecimal digit of either case. -/
def hexValue? (character : Char) : Option Nat :=
  if '0' ≤ character ∧ character ≤ '9' then some (character.toNat - 48)
  else if 'a' ≤ character ∧ character ≤ 'f' then some (character.toNat - 87)
  else if 'A' ≤ character ∧ character ≤ 'F' then some (character.toNat - 55)
  else none

/-- Read four hexadecimal digits. The text is truncated if fewer than four bytes of it are
left. -/
def readHexUnit (text : List Char) : Except Failure Nat :=
  let bytes := (text.map Char.utf8Size).sum
  if bytes < 4 then .error .truncated
  else
    match (text.take 4).mapM hexValue? with
    | some [first, second, third, fourth] =>
        .ok (((first * 16 + second) * 16 + third) * 16 + fourth)
    | _ => .error .malformed

/-- The character that a letter after a backslash stands for. -/
def letterEscape? : Char → Option Char
  | '"' => some '"'
  | '\\' => some '\\'
  | '/' => some '/'
  | 'b' => some '\x08'
  | 'f' => some '\x0c'
  | 'n' => some '\n'
  | 'r' => some '\r'
  | 't' => some '\t'
  | _ => none

/-- Read the second half of a surrogate pair, which is a whole escape of its own. -/
def readLowSurrogate (text : List Char) : Except Failure Nat := do
  let rest ← readWord ['\\', 'u'] text
  let unit ← readHexUnit rest
  if 0xDC00 ≤ unit ∧ unit ≤ 0xDFFF then .ok unit else .error .malformed

/-- Read what follows a backslash: the character it stands for, and how many characters of the
text spell it. Surrogates are read in pairs. -/
def readEscape : List Char → Except Failure (Char × Nat)
  | [] => .error .truncated
  | 'u' :: rest => do
      let unit ← readHexUnit rest
      if 0xDC00 ≤ unit ∧ unit ≤ 0xDFFF then .error .malformed
      else if 0xD800 ≤ unit ∧ unit ≤ 0xDBFF then
        let low ← readLowSurrogate (rest.drop 4)
        .ok (Char.ofNat (0x10000 + (unit - 0xD800) * 0x400 + (low - 0xDC00)), 11)
      else .ok (Char.ofNat unit, 5)
  | letter :: _ =>
      match letterEscape? letter with
      | some character => .ok (character, 1)
      | none => .error .malformed

/-- Read the rest of a string behind its opening quote. The number counts the characters that
belong to an escape which is already understood. -/
def readStringFrom : Nat → List Char → Except Failure (List Char × List Char)
  | _, [] => .error .truncated
  | skipped + 1, _ :: rest => readStringFrom skipped rest
  | 0, character :: rest =>
      if character = '"' then .ok ([], rest)
      else if character = '\\' then do
        let (meaning, length) ← readEscape rest
        let (content, remainder) ← readStringFrom length rest
        .ok (meaning :: content, remainder)
      else if character.toNat < 0x20 then .error .malformed
      else do
        let (content, remainder) ← readStringFrom 0 rest
        .ok (character :: content, remainder)

/-- Read the rest of a string behind its opening quote. -/
def readString (text : List Char) : Except Failure (String × List Char) := do
  let (content, rest) ← readStringFrom 0 text
  .ok (String.ofList content, rest)

/-! ## Numbers -/

/-- A number of the text. A number with a fraction or an exponent is rounded to a binary fraction,
and so is a whole number beyond 64 bits. -/
inductive Number where
  | natural (value : Nat)
  | negative (magnitude : Nat)
  | rounded (value : Float)

/-- The greatest natural number that is kept exactly. -/
def greatestWord : Nat :=
  2 ^ 64 - 1

def digitValue (character : Char) : Nat :=
  character.toNat - 48

/-- Append the digits of a whole number to a significand. As soon as one does not fit the word it
is left out together with all that follow; the count of digits left out is kept. -/
def appendDigits (significand : Nat) (digits : List Char) : Nat × Nat :=
  digits.foldl
    (fun (current, omitted) digit =>
      let next := current * 10 + digitValue digit
      if 0 < omitted ∨ greatestWord < next then (current, omitted + 1) else (next, 0))
    (significand, 0)

/-- The power of ten of a whole exponent, rounded to a binary fraction. -/
def powerOfTen (exponent : Nat) : Float :=
  Float.ofScientific 1 false exponent

/-- Divide by a power of ten, in steps no greater than the greatest power that is representable. -/
def divideByPower (value : Float) (exponent : Nat) : Float :=
  if exponent ≤ 308 then value / powerOfTen exponent
  else if value == 0 then value
  else divideByPower (value / powerOfTen 308) (exponent - 308)
termination_by exponent

/-- The number `significand * 10 ^ exponent`, unless it is too great to be represented. -/
def scale? (significand : Nat) (exponent : Int) : Option Float :=
  let value := (UInt64.ofNat significand).toFloat
  match exponent with
  | .negSucc magnitude => some (divideByPower value (magnitude + 1))
  | .ofNat magnitude =>
      if magnitude ≤ 308 then
        let scaled := value * powerOfTen magnitude
        if scaled.isInf then none else some scaled
      else if significand = 0 then some value
      else none

/-- Round to a binary fraction of the given sign; a number too great for that breaks the
grammar. -/
def finishRounded (positive : Bool) (significand : Nat) (exponent : Int) :
    Except Failure Number :=
  match scale? significand exponent with
  | some value => .ok (.rounded (if positive then value else -value))
  | none => .error .malformed

def readExponent (positive : Bool) (significand : Nat) (exponent : Int) (text : List Char) :
    Except Failure (Number × List Char) := do
  let (upward, unsigned) :=
    match text with
    | '+' :: rest => (true, rest)
    | '-' :: rest => (false, rest)
    | _ => (true, text)
  let digits := unsigned.takeWhile Char.isDigit
  let rest := unsigned.dropWhile Char.isDigit
  if digits.isEmpty then .error (unexpected rest)
  else
    let magnitude := digits.foldl (fun value digit => value * 10 + digitValue digit) 0
    if 2 ^ 31 - 1 < magnitude then
      if significand ≠ 0 ∧ upward then .error .malformed
      else .ok (.rounded (if positive then 0 else -0.0), rest)
    else
      let number ← finishRounded positive significand
        (if upward then exponent + magnitude else exponent - magnitude)
      .ok (number, rest)

/-- Whether a text goes on with the letter of an exponent; the rest behind it. -/
def exponentMark? : List Char → Option (List Char)
  | 'e' :: rest => some rest
  | 'E' :: rest => some rest
  | _ => none

def readFraction (positive : Bool) (significand : Nat) (exponent : Int) (text : List Char) :
    Except Failure (Number × List Char) := do
  let digits := text.takeWhile Char.isDigit
  let rest := text.dropWhile Char.isDigit
  if digits.isEmpty then .error (unexpected rest)
  else
    let (extended, omitted) := appendDigits significand digits
    let shifted := exponent - ((digits.length - omitted : Nat) : Int)
    match exponentMark? rest with
    | some behind => readExponent positive extended shifted behind
    | none => do
        let number ← finishRounded positive extended shifted
        .ok (number, rest)

/-- A whole number as it stands, unless it is a negative zero or below the least number of 64
bits. -/
def wholeNumber (positive : Bool) (significand : Nat) : Number :=
  if positive then .natural significand
  else if significand = 0 ∨ 2 ^ 63 < significand then
    .rounded (-(UInt64.ofNat significand).toFloat)
  else .negative significand

def readNumber (positive : Bool) (text : List Char) : Except Failure (Number × List Char) := do
  let digits := text.takeWhile Char.isDigit
  let rest := text.dropWhile Char.isDigit
  if digits.isEmpty then .error (unexpected rest)
  else if digits.head? = some '0' ∧ 1 < digits.length then .error .malformed
  else
    let (significand, omitted) := appendDigits 0 digits
    match rest with
    | '.' :: behind => readFraction positive significand omitted behind
    | _ =>
        match exponentMark? rest with
        | some behind => readExponent positive significand omitted behind
        | none =>
            if omitted = 0 then .ok (wholeNumber positive significand, rest)
            else do
              let number ← finishRounded positive significand omitted
              .ok (number, rest)

/-! ## Values that do not fit -/

/-- The name of a number in messages. -/
def Number.text : Number → String
  | natural value => "integer `" ++ toString value ++ "`"
  | negative magnitude => "integer `-" ++ toString magnitude ++ "`"
  | rounded value => "floating point `" ++ Decimal.text value ++ "`"

/-- The failure of a value of the wrong type. -/
def wrongType (found expected : String) : Failure :=
  .unfit ("invalid type: " ++ found ++ ", expected " ++ expected)

/-- The failure of a value of the right type out of range. -/
def wrongValue (found expected : String) : Failure :=
  .unfit ("invalid value: " ++ found ++ ", expected " ++ expected)

/-- The failure of a value that is not of the expected type at all. A value other than an array or
an object is read first, and may fail on its own. -/
def misfit (expected : String) (text : List Char) : Failure :=
  let named (found : String) (outcome : Except Failure (List Char)) : Failure :=
    match outcome with
    | .ok _ => wrongType found expected
    | .error failure => failure
  let numeral (outcome : Except Failure (Number × List Char)) : Failure :=
    match outcome with
    | .ok (number, _) => wrongType number.text expected
    | .error failure => failure
  match text with
  | [] => .truncated
  | 'n' :: rest => named "null" (readWord ['u', 'l', 'l'] rest)
  | 't' :: rest => named "boolean `true`" (readWord ['r', 'u', 'e'] rest)
  | 'f' :: rest => named "boolean `false`" (readWord ['a', 'l', 's', 'e'] rest)
  | '-' :: rest => numeral (readNumber false rest)
  | '"' :: rest =>
      match readString rest with
      | .ok (content, _) => wrongType ("string " ++ Text.quote content) expected
      | .error failure => failure
  | '[' :: _ => wrongType "sequence" expected
  | '\x7b' :: _ => wrongType "map" expected
  | character :: _ => if character.isDigit then numeral (readNumber true text) else .malformed

def readNatural (expected : String) (text : List Char) : Except Failure (Nat × List Char) := do
  let finish (outcome : Except Failure (Number × List Char)) : Except Failure (Nat × List Char) :=
    match outcome with
    | .ok (.natural value, rest) => .ok (value, rest)
    | .ok (.negative magnitude, _) => .error (wrongValue (Number.negative magnitude).text expected)
    | .ok (number, _) => .error (wrongType number.text expected)
    | .error failure => .error failure
  match skipBlanks text with
  | [] => .error .truncated
  | '-' :: rest => finish (readNumber false rest)
  | character :: rest =>
      if character.isDigit then finish (readNumber true (character :: rest))
      else .error (misfit expected (character :: rest))

/-! ## Skipped values -/

/-- How many characters of a text belong to a string that opened in front of it, the closing quote
included. The first number counts the characters of an escape which is already understood. -/
def stringLength : Nat → List Char → Except Failure Nat
  | _, [] => .error .truncated
  | skipped + 1, _ :: rest => do .ok ((← stringLength skipped rest) + 1)
  | 0, character :: rest =>
      if character = '"' then .ok 1
      else if character = '\\' then
        match rest with
        | [] => .error .truncated
        | letter :: hex =>
            if letter = 'u' then do
              let _ ← readHexUnit hex
              .ok ((← stringLength 5 rest) + 1)
            else if (letterEscape? letter).isSome then do
              .ok ((← stringLength 1 rest) + 1)
            else .error .malformed
      else if character.toNat < 0x20 then .error .malformed
      else do .ok ((← stringLength 0 rest) + 1)

/-- How many digits a text starts with; at least one is needed. -/
def digitsLength (text : List Char) : Except Failure Nat :=
  let length := (text.takeWhile Char.isDigit).length
  if length = 0 then .error .malformed else .ok length

/-- How many characters an exponent takes, from its letter on. -/
def exponentLength (text : List Char) : Except Failure Nat :=
  match exponentMark? text with
  | none => .ok 0
  | some ('+' :: rest) => do .ok ((← digitsLength rest) + 2)
  | some ('-' :: rest) => do .ok ((← digitsLength rest) + 2)
  | some rest => do .ok ((← digitsLength rest) + 1)

/-- How many characters a number without a sign takes. -/
def numberLength (text : List Char) : Except Failure Nat := do
  let whole ← digitsLength text
  if text.head? = some '0' ∧ 1 < whole then .error .malformed
  else
    match text.drop whole with
    | '.' :: rest =>
        let fraction ← digitsLength rest
        let exponent ← exponentLength (rest.drop fraction)
        .ok (whole + 1 + fraction + exponent)
    | rest =>
        let exponent ← exponentLength rest
        .ok (whole + exponent)

/-- What may stand next in a value that is skipped. -/
inductive Phase where
  | value
  /-- A bracket was opened, and may close at once. -/
  | opened
  | complete
  | key
  | colon
  deriving DecidableEq

/-- The bracket that closes an open one. -/
def closing (bracket : Char) : Char :=
  if bracket = '[' then ']' else '\x7d'

/-- The phase in front of an element between brackets: fields start with a key. -/
def elementPhase (bracket : Char) : Phase :=
  if bracket = '[' then .value else .key

/-- How many characters the scalar value at the start of a text takes. -/
def scalarLength (text : List Char) : Except Failure Nat :=
  match text with
  | 'n' :: rest => do
      let _ ← readWord ['u', 'l', 'l'] rest
      .ok 4
  | 't' :: rest => do
      let _ ← readWord ['r', 'u', 'e'] rest
      .ok 4
  | 'f' :: rest => do
      let _ ← readWord ['a', 'l', 's', 'e'] rest
      .ok 5
  | '"' :: rest => do .ok ((← stringLength 0 rest) + 1)
  | '-' :: rest => do .ok ((← numberLength rest) + 1)
  | _ =>
      if (text.head?.map Char.isDigit).getD false then numberLength text
      else .error (unexpected text)

/-- Skip the rest of a value. The number counts the characters of a token which is already
understood, and the brackets are those still open, the innermost first. -/
def skipFrom : Nat → Phase → List Char → List Char → Except Failure (List Char)
  | skipped + 1, phase, brackets, _ :: rest => skipFrom skipped phase brackets rest
  | 0, .complete, [], rest => .ok rest
  | _, _, _, [] => .error .truncated
  | 0, phase, brackets, character :: rest =>
      if isBlank character then skipFrom 0 phase brackets rest
      else
        match phase, brackets with
        | .key, _ =>
            if character = '"' then do
              skipFrom (← stringLength 0 rest) .colon brackets rest
            else .error .malformed
        | .colon, _ =>
            if character = ':' then skipFrom 0 .value brackets rest else .error .malformed
        | .complete, bracket :: outer =>
            if character = ',' then skipFrom 0 (elementPhase bracket) brackets rest
            else if character = closing bracket then skipFrom 0 .complete outer rest
            else .error .malformed
        | .opened, bracket :: outer =>
            if character = closing bracket then skipFrom 0 .complete outer rest
            else if bracket = '[' then
              if character = '[' ∨ character = '\x7b' then
                skipFrom 0 .opened (character :: brackets) rest
              else do
                skipFrom ((← scalarLength (character :: rest)) - 1) .complete brackets rest
            else if character = '"' then do
              skipFrom (← stringLength 0 rest) .colon brackets rest
            else .error .malformed
        | _, _ =>
            if character = '[' ∨ character = '\x7b' then
              skipFrom 0 .opened (character :: brackets) rest
            else do
              skipFrom ((← scalarLength (character :: rest)) - 1) .complete brackets rest

def skipValue (text : List Char) : Except Failure (List Char) :=
  skipFrom 0 .value [] text

end TimedBatch.Json
