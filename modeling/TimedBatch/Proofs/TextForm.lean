import Mathlib.Data.List.Basic
import TimedBatch.Config.Decode
import TimedBatch.Pipeline

/-!
# Storing a configuration as text

The text form of a configuration is read back to the end, and what is read has the same size, the
same policy and the span in whole milliseconds. What is lost is the fraction of a millisecond, and
whatever lies beyond the greatest number of milliseconds. So a configuration that was stored is
written just as before, and it is accepted just as before, with one exception: a span of less than
a millisecond is stored as no span at all, and the stored configuration is refused.

The text is followed from its end to its start: each reader gets the text that is left and answers
what was written together with the rest of it.
-/

namespace TimedBatch

namespace Json

/-! ## Written numbers -/

theorem isBlank_of_isDigit {digit : Char} (isDigit : digit.isDigit = true) :
    isBlank digit = false := by
  by_contra blank
  simp only [isBlank, Bool.not_eq_false, Bool.or_eq_true, decide_eq_true_eq] at blank
  rcases blank with ((rfl | rfl) | rfl) | rfl <;> cases isDigit

theorem digitValue_digitChar {digit : Nat} (small : digit < 10) :
    digitValue digit.digitChar = digit :=
  Nat.toNat_digitChar_sub_48_of_lt_ten small

/-- No written number but zero starts with the digit zero. -/
theorem eq_zero_of_head?_toDigits {number : Nat}
    (first : (Nat.toDigits 10 number).head? = some '0') : number = 0 := by
  induction number using Nat.base_induction 10 (by decide) with
  | single digit small =>
      rw [Nat.toDigits_of_lt_base small, List.head?_cons, Option.some.injEq] at first
      have value := digitValue_digitChar small
      rw [first] at value
      exact value.symm
  | digit number last small positive ih =>
      rw [← Nat.toDigits_append_toDigits (by decide) positive small,
        List.head?_append_of_ne_nil _ Nat.toDigits_ne_nil] at first
      exact absurd (ih first) (Nat.ne_of_gt positive)

/-- A number of 64 bits is read back digit by digit, and none of its digits is left out. -/
theorem appendDigits_toDigits {number : Nat} (fits : number ≤ greatestWord) :
    appendDigits 0 (Nat.toDigits 10 number) = (number, 0) := by
  -- The last digit comes off the end of the text, and what stands before it is a tenth.
  induction number using Nat.base_induction 10 (by decide) with
  | single digit small =>
      rw [Nat.toDigits_of_lt_base small]
      simp [appendDigits, digitValue_digitChar small, Nat.not_lt.mpr fits]
  | digit number last small positive ih =>
      have read := ih (by omega)
      rw [appendDigits] at read
      rw [← Nat.toDigits_append_toDigits (by decide) positive small,
        Nat.toDigits_of_lt_base small, appendDigits, List.foldl_append, read]
      have value : number * 10 + digitValue last.digitChar = 10 * number + last := by
        rw [digitValue_digitChar small, Nat.mul_comm]
      simp [value, Nat.not_lt.mpr fits]

theorem readNumber_toDigits {number : Nat} (fits : number ≤ greatestWord) (rest : List Char) :
    readNumber true (Nat.toDigits 10 number ++ ',' :: rest) =
      .ok (.natural number, ',' :: rest) := by
  have digits : ∀ digit ∈ Nat.toDigits 10 number, digit.isDigit = true :=
    fun digit member => Nat.isDigit_of_mem_toDigits (by decide) (by decide) member
  have taken : (Nat.toDigits 10 number ++ ',' :: rest).takeWhile Char.isDigit =
      Nat.toDigits 10 number := by
    rw [List.takeWhile_append_of_pos digits, List.takeWhile_cons_of_neg (by decide),
      List.append_nil]
  have dropped : (Nat.toDigits 10 number ++ ',' :: rest).dropWhile Char.isDigit =
      ',' :: rest := by
    rw [List.dropWhile_append_of_pos digits, List.dropWhile_cons_of_neg (by decide)]
  have unpadded : ¬((Nat.toDigits 10 number).head? = some '0' ∧
      1 < (Nat.toDigits 10 number).length) := by
    rintro ⟨first, long⟩
    rw [eq_zero_of_head?_toDigits first] at long
    exact absurd long (by decide)
  have some : (Nat.toDigits 10 number).isEmpty = false :=
    List.isEmpty_eq_false_iff.mpr Nat.toDigits_ne_nil
  rw [readNumber]
  simp only [taken, dropped, some, appendDigits_toDigits fits, if_neg unpadded]
  rfl

theorem readNatural_toDigits {number : Nat} (fits : number ≤ greatestWord) (expected : String)
    (rest : List Char) :
    readNatural expected (Nat.toDigits 10 number ++ ',' :: rest) = .ok (number, ',' :: rest) := by
  have read := readNumber_toDigits fits rest
  obtain ⟨digit, digits, written⟩ : ∃ digit digits, Nat.toDigits 10 number = digit :: digits :=
    List.exists_cons_of_ne_nil Nat.toDigits_ne_nil
  have isDigit : digit.isDigit = true :=
    Nat.isDigit_of_mem_toDigits (by decide) (by decide) (written ▸ List.mem_cons_self)
  rw [written, List.cons_append] at read ⊢
  rw [readNatural, skipBlanks, List.dropWhile_cons_of_neg (by simp [isBlank_of_isDigit isDigit])]
  split
  case h_1 =>
    contradiction
  case h_2 same =>
    cases same
    cases isDigit
  case h_3 same =>
    cases same
    rw [if_pos isDigit, read]

/-! ## Written words -/

/-- Whether every character of a word stands for itself between quotes. -/
def isPlain (word : List Char) : Bool :=
  word.all fun character => character ≠ '"' && character ≠ '\\' && 0x20 ≤ character.toNat

theorem readStringFrom_append {content : List Char} (plain : isPlain content = true)
    (rest : List Char) : readStringFrom 0 (content ++ '"' :: rest) = .ok (content, rest) := by
  induction content with
  | nil => rfl
  | cons character content ih =>
      simp only [isPlain, List.all_cons, Bool.and_eq_true, decide_eq_true_eq] at plain
      obtain ⟨⟨⟨noQuote, noEscape⟩, noControl⟩, others⟩ := plain
      rw [List.cons_append, readStringFrom, if_neg noQuote, if_neg noEscape,
        if_neg (Nat.not_lt_of_le noControl), ih others]
      rfl

theorem readString_toList {word : String} (plain : isPlain word.toList = true) (rest : List Char) :
    readString (word.toList ++ '"' :: rest) = .ok (word, rest) := by
  rw [readString, readStringFrom_append plain]
  exact congrArg (fun content => Except.ok (content, rest)) String.ofList_toList

end Json

namespace Config

open Json

/-! ## Written fields -/

theorem isPlain_name (policy : Policy) : isPlain policy.name.toList = true := by
  cases policy <;> rfl

theorem readPolicyName_name (policy : Policy) : readPolicyName policy.name = .ok policy := by
  cases policy <;> rfl

theorem readPolicy_name (policy : Policy) (rest : List Char) :
    readPolicy ('"' :: (policy.name.toList ++ '"' :: rest)) = .ok (policy, rest) := by
  simp [readPolicy, skipBlanks, isBlank, readString_toList (isPlain_name policy),
    readPolicyName_name, bind, Except.bind]

namespace Draft

variable {draft next : Draft} {key : String} {text rest : List Char}

/-- A written field is put into the draft: the first one as it stands, any other one behind a
comma. -/
theorem readFields_encodeKey (plain : isPlain key.toList = true)
    (read : draft.readField key (':' :: text) = .ok (next, rest)) (bound : Nat) :
    readFields (bound + 1) true draft (encodeKey key ++ text) = readFields bound false next rest ∧
      readFields (bound + 1) false draft (',' :: (encodeKey key ++ text)) =
        readFields bound false next rest := by
  rw [encodeKey, List.cons_append, List.cons_append, readFields, readFields]
  simp [skipBlanks, isBlank, readString_toList plain, read, bind, Except.bind]

theorem readField_maxSize {size : Nat} (fits : size ≤ greatestWord)
    (unset : draft.maxSize = none) (rest : List Char) :
    draft.readField maxSizeKey (':' :: (Nat.toDigits 10 size ++ ',' :: rest)) =
      .ok ({ draft with maxSize := some size }, ',' :: rest) := by
  have other : maxSizeKey ≠ timeSpanKey ∧ maxSizeKey ≠ policyKey := by decide
  simp [readField, unset, other, readMark, skipBlanks, isBlank, readNatural_toDigits fits, bind,
    Except.bind]

theorem readField_timeSpan {millis : Nat} (fits : millis ≤ greatestWord)
    (unset : draft.timeSpan = none) (rest : List Char) :
    draft.readField timeSpanKey (':' :: (Nat.toDigits 10 millis ++ ',' :: rest)) =
      .ok ({ draft with timeSpan := some millis }, ',' :: rest) := by
  have other : timeSpanKey ≠ maxSizeKey ∧ timeSpanKey ≠ policyKey := by decide
  simp [readField, unset, other, readMark, skipBlanks, isBlank, readNatural_toDigits fits, bind,
    Except.bind]

theorem readField_policy (unset : draft.policy = none) (policy : Policy) (rest : List Char) :
    draft.readField policyKey (':' :: '"' :: (policy.name.toList ++ '"' :: rest)) =
      .ok ({ draft with policy := some policy }, rest) := by
  have other : policyKey ≠ maxSizeKey ∧ policyKey ≠ timeSpanKey := by decide
  simp [readField, unset, other, readMark, skipBlanks, isBlank, readPolicy_name, bind,
    Except.bind]

end Draft

/-! ## The whole text -/

variable (config : Config)

/-- The configuration as its text form keeps it. -/
def rounded : Config :=
  { config with timeSpan := .ofMillis config.encodedMillis }

-- Each of these is shown for a record of given fields. For a record as a whole the kernel would
-- compare the two records field by field, and compute with the span, before it looks at the size.
@[simp]
theorem maxSize_rounded : config.rounded.maxSize = config.maxSize := by
  obtain ⟨size, span, policy⟩ := config
  show Config.maxSize ⟨size, _, policy⟩ = size
  rfl

@[simp]
theorem policy_rounded : config.rounded.policy = config.policy := by
  obtain ⟨size, span, policy⟩ := config
  show Config.policy ⟨size, _, policy⟩ = policy
  rfl

/-- The text form behind its opening bracket. -/
def encodedFields : List Char :=
  encodeKey maxSizeKey ++ (Nat.toDigits 10 config.maxSize.count ++
    ',' :: (encodeKey timeSpanKey ++ (Nat.toDigits 10 config.encodedMillis ++
      ',' :: (encodeKey policyKey ++ '"' :: (config.policy.name.toList ++ ['"', '\x7d'])))))

theorem encodeChars_eq : config.encodeChars = '\x7b' :: config.encodedFields := by
  simp only [encodeChars, encodedFields, List.append_assoc, List.cons_append]

/-- What the written fields say. -/
def draft : Draft where
  maxSize := some config.maxSize.count
  timeSpan := some config.encodedMillis
  policy := some config.policy

theorem readFields_encodedFields (bound : Nat) :
    Draft.readFields (bound + 4) true {} config.encodedFields = .ok (config.draft, []) := by
  have size : config.maxSize.count ≤ greatestWord := config.maxSize.count_le
  have span : config.encodedMillis ≤ greatestWord := Nat.min_le_right _ _
  rw [encodedFields,
    (Draft.readFields_encodeKey rfl (Draft.readField_maxSize size rfl _) _).1,
    (Draft.readFields_encodeKey rfl (Draft.readField_timeSpan span rfl _) _).2,
    (Draft.readFields_encodeKey rfl (Draft.readField_policy rfl _ _) _).2]
  rfl

theorem finish_draft : config.draft.finish = .ok config.rounded := by
  have size : Amount.ofNat config.maxSize.count = config.maxSize := by
    ext
    exact Nat.min_eq_left config.maxSize.count_le
  simp [Draft.finish, draft, rounded, size]

theorem decode_encode_eq : decode config.encode = .ok config.rounded := by
  -- Three fields and the closing bracket are read, and the text has at least as many characters.
  obtain ⟨bound, enough⟩ : ∃ bound, config.encodedFields.length + 1 = bound + 4 := by
    refine Nat.exists_eq_add_of_le' ?_
    simp only [encodedFields, encodeKey, List.length_append, List.length_cons]
    omega
  have read := config.readFields_encodedFields bound
  rw [← enough] at read
  rw [decode, encode, String.toList_ofList, encodeChars_eq, decodeChars, skipBlanks,
    List.dropWhile_cons_of_neg (by decide)]
  simp [read, finish_draft, skipBlanks, bind, Except.bind]

/-! ## What a stored configuration is -/

/-- The greatest number of milliseconds is far below the longest duration. -/
theorem nanos_rounded :
    config.rounded.timeSpan.nanos = min (config.timeSpan.nanos / 10 ^ 6) (2 ^ 64 - 1) * 10 ^ 6 := by
  have capped : config.encodedMillis ≤ 2 ^ 64 - 1 := Nat.min_le_right _ _
  show min (config.encodedMillis * 10 ^ 6) (2 ^ 64 * 10 ^ 9 - 1) = config.encodedMillis * 10 ^ 6
  omega

theorem rounded_eq_iff :
    config.rounded = config ↔
      10 ^ 6 ∣ config.timeSpan.nanos ∧ config.timeSpan.nanos ≤ (2 ^ 64 - 1) * 10 ^ 6 := by
  have same : config.rounded = config ↔
      min (config.timeSpan.nanos / 10 ^ 6) (2 ^ 64 - 1) * 10 ^ 6 = config.timeSpan.nanos := by
    rw [← nanos_rounded]
    constructor
    case mp => exact fun same => congrArg (fun config => config.timeSpan.nanos) same
    case mpr =>
      intro same
      have span : .ofMillis config.encodedMillis = config.timeSpan := Duration.ext same
      rw [rounded, span]
  rw [same]
  omega

theorem encode_rounded : config.rounded.encode = config.encode := by
  have millis : config.rounded.encodedMillis = config.encodedMillis := by
    have capped : config.encodedMillis ≤ 2 ^ 64 - 1 := Nat.min_le_right _ _
    rw [encodedMillis, Duration.millis, nanos_rounded, ← Duration.millis, ← encodedMillis]
    omega
  simp only [encode, encodeChars, millis, maxSize_rounded, policy_rounded]

/-- What is kept of a configuration that was stored as text and read again. -/
structure Survives (config stored : Config) : Prop where
  size : stored.maxSize = config.maxSize
  policy : stored.policy = config.policy
  /-- The span is rounded down to milliseconds, and there are at most `2 ^ 64 - 1` of them. -/
  span : stored.timeSpan.nanos = min (config.timeSpan.nanos / 10 ^ 6) (2 ^ 64 - 1) * 10 ^ 6
  whole : stored = config ↔
    10 ^ 6 ∣ config.timeSpan.nanos ∧ config.timeSpan.nanos ≤ (2 ^ 64 - 1) * 10 ^ 6
  stable : stored.encode = config.encode

theorem survives_decode_encode :
    ∃ stored, decode config.encode = .ok stored ∧ config.Survives stored := by
  refine ⟨config.rounded, config.decode_encode_eq, ?_⟩
  constructor
  case size => exact config.maxSize_rounded
  case policy => exact config.policy_rounded
  case span => exact config.nanos_rounded
  case whole => exact config.rounded_eq_iff
  case stable => exact config.encode_rounded

/-- A span that is no whole number of milliseconds, and one beyond the greatest number of them. -/
example :
    rounded ⟨5, .ofNanos 1999999, .prefetch⟩ = ⟨5, .ofMillis 1, .prefetch⟩ ∧
      rounded ⟨5, .longest, .prefetch⟩ = ⟨5, .ofMillis (2 ^ 64 - 1), .prefetch⟩ := by
  decide +kernel

/-! ## Whether a stored configuration is accepted -/

theorem nanos_ofMillis_one : (Duration.ofMillis 1).nanos = 10 ^ 6 :=
  rfl

/-- A span is stored as no span at all if it is less than a millisecond. -/
theorem rounded_timeSpan_eq_zero_iff :
    config.rounded.timeSpan = .zero ↔ config.timeSpan < .ofMillis 1 := by
  rw [Duration.ext_iff, Duration.lt_def, nanos_rounded, nanos_ofMillis_one, Duration.nanos_zero]
  omega

/-- The verdict on a stored configuration. Its size is the size it had, and its span is zero if
less than a millisecond was to be stored. -/
theorem fault?_rounded :
    config.rounded.fault? =
      if config.maxSize = 0 then some .zeroMaxSize
      else if config.timeSpan < .ofMillis 1 then some .zeroTimeSpan
      else none := by
  simp only [fault?, maxSize_rounded, rounded_timeSpan_eq_zero_iff]

/-- A stage can be made from a configuration if the configuration has no fault. -/
theorem exists_opening?_iff {α : Type} (setup : Pipeline.Setup α) :
    (∃ pipeline, Pipeline.opening? config setup = .ok pipeline) ↔ config.fault? = none := by
  rw [Pipeline.opening?]
  cases config.fault? <;> simp

/-- Whether a configuration that was stored as text and read again is still accepted. -/
structure Reaccepted (config stored : Config) : Prop where
  /-- Without size, without span and with a millisecond or more, the verdict is what it was. -/
  kept : config.maxSize = 0 ∨ config.timeSpan = .zero ∨ .ofMillis 1 ≤ config.timeSpan →
    stored.fault? = config.fault?
  /-- A span of less than a millisecond is accepted before it is stored, and refused afterwards. -/
  refused : config.maxSize ≠ 0 → .zero < config.timeSpan → config.timeSpan < .ofMillis 1 →
    config.fault? = none ∧ stored.fault? = some .zeroTimeSpan
  /-- Where a stage was made from the configuration, one can be made from what was stored if the
  span is a millisecond or more. -/
  rebuilt : ∀ {α : Type} (setup : Pipeline.Setup α) (pipeline : Pipeline α),
    Pipeline.opening? config setup = .ok pipeline →
      ((∃ again, Pipeline.opening? stored setup = .ok again) ↔ .ofMillis 1 ≤ config.timeSpan)

theorem reaccepted_decode_encode :
    ∃ stored, decode config.encode = .ok stored ∧ config.Reaccepted stored := by
  have short : config.timeSpan < .ofMillis 1 ↔ ¬.ofMillis 1 ≤ config.timeSpan :=
    Nat.not_le.symm
  have long : .ofMillis 1 ≤ config.timeSpan → config.timeSpan ≠ .zero := by
    intro long absent
    rw [absent] at long
    exact absurd long (by decide)
  refine ⟨config.rounded, config.decode_encode_eq, ?_⟩
  constructor
  case kept =>
    rintro (zeroSize | zeroSpan | millisecond)
    · rw [fault?_rounded, fault?, if_pos zeroSize, if_pos zeroSize]
    · have less : config.timeSpan < .ofMillis 1 := by
        rw [zeroSpan]
        decide
      rw [fault?_rounded, fault?]
      simp only [if_pos zeroSpan, if_pos less]
    · rw [fault?_rounded, fault?]
      simp only [if_neg (long millisecond), if_neg fun less => short.mp less millisecond]
  case refused =>
    intro sized spans less
    have present : config.timeSpan ≠ .zero := by
      intro absent
      rw [absent] at spans
      exact absurd spans (by decide)
    rw [fault?_rounded, fault?, if_neg sized, if_neg present, if_neg sized, if_pos less]
    exact ⟨rfl, rfl⟩
  case rebuilt =>
    intro α setup pipeline made
    have valid := (config.exists_opening?_iff setup).mp ⟨pipeline, made⟩
    have sized : config.maxSize ≠ 0 := by
      intro zeroSize
      simp [fault?, zeroSize] at valid
    rw [exists_opening?_iff, fault?_rounded, if_neg sized]
    simp [short]

/-- Half a millisecond is accepted, it is stored as no span at all, and that is refused. -/
theorem stored_half_millisecond :
    fault? ⟨1, .ofNanos 500000, .unbounded⟩ = none ∧
      ∃ stored, decode (encode ⟨1, .ofNanos 500000, .unbounded⟩) = .ok stored ∧
        stored.fault? = some .zeroTimeSpan := by
  refine ⟨by decide +kernel, _, decode_encode_eq _, ?_⟩
  rw [fault?_rounded]
  decide +kernel

end Config

end TimedBatch
