import Mathlib.Data.List.Basic
import Mathlib.Data.List.Induction
import TimedBatch.Proofs.Alarms

/-!
# The descent of references

A reference to a cancellation bit is made with a bit of its own, or again from another reference, so
it descends from one reference that was made with its bit. Descent is said of the answers alone,
without looking at bits. It agrees with what the references refer to: two of them share a bit just
if they descend from the same one. So a reference is cancelled as soon as any of its descent was,
and the first one to be cancelled in a descent is the only one that is told so.
-/

namespace TimedBatch

namespace CancelFamily

/-- The reference that an operation is about; to make a bit takes none. -/
def Operation.subject? : Operation → Option Nat
  | make | makeHandle => none
  | copy index | wrap index | cancel index => some index

/-- Perform operations one after the other, and keep what each of them answers. -/
def performAll (operations : List Operation) : List (Operation × Reply) × CancelFamily :=
  operations.foldl
    (fun (history, family) operation =>
      (history ++ [(operation, (family.perform operation).1)], (family.perform operation).2))
    ([], {})

/-- A reference descends from itself if it was made with a bit, and otherwise from where the
reference descends that it was made from. -/
inductive Descends (history : List (Operation × Reply)) : Nat → Nat → Prop where
  | made {operation : Operation} {index : Nat} (member : (operation, .reference index) ∈ history)
      (new : operation.subject? = none) : Descends history index index
  | again {operation : Operation} {index source founder : Nat}
      (member : (operation, .reference index) ∈ history)
      (old : operation.subject? = some source) (descends : Descends history source founder) :
      Descends history index founder

/-- Two references descend from the same one. -/
def Kin (history : List (Operation × Reply)) (first second : Nat) : Prop :=
  ∃ founder, Descends history first founder ∧ Descends history second founder

/-! ## Single operations -/

/-- What an operation does. -/
inductive Turn (family : CancelFamily) : Operation → Reply → CancelFamily → Prop where
  | made {operation : Operation} (new : operation.subject? = none) :
      Turn family operation (.reference family.references.length)
        { register := family.register.make.2
          references := family.references ++ [family.register.make.1] }
  | again {operation : Operation} {source : Nat} {token : CancelToken}
      (old : operation.subject? = some source) (copies : ∀ index, operation ≠ .cancel index)
      (found : family.references[source]? = some token) :
      Turn family operation (.reference family.references.length)
        { family with references := family.references ++ [token] }
  | cancelled {index : Nat} {token : CancelToken} (found : family.references[index]? = some token) :
      Turn family (.cancel index) (.cancelled (family.register.cancel token).1)
        { family with register := (family.register.cancel token).2 }
  | missed {operation : Operation} {index : Nat} (about : operation.subject? = some index)
      (missing : family.references[index]? = none) : Turn family operation .nothing family

theorem turn_referAgain (family : CancelFamily) {operation : Operation} {source : Nat}
    (old : operation.subject? = some source) (copies : ∀ index, operation ≠ .cancel index) :
    family.Turn operation (family.referAgain source).1 (family.referAgain source).2 := by
  rw [referAgain]
  cases found : family.references[source]? with
  | none => exact .missed old found
  | some token => exact .again old copies found

theorem turn_perform (family : CancelFamily) (operation : Operation) :
    family.Turn operation (family.perform operation).1 (family.perform operation).2 := by
  cases operation with
  | make => exact .made rfl
  | makeHandle => exact .made rfl
  | copy source => exact turn_referAgain family rfl nofun
  | wrap source => exact turn_referAgain family rfl nofun
  | cancel index =>
      rw [perform]
      cases found : family.references[index]? with
      | none => exact .missed rfl found
      | some token => exact .cancelled found

section Step

variable {history : List (Operation × Reply)} {family next : CancelFamily} {operation : Operation}
  {reply : Reply}

theorem Turn.references_prefix (turn : family.Turn operation reply next) :
    family.references <+: next.references := by
  cases turn with
  | made new => exact List.prefix_append _ _
  | again old copies found => exact List.prefix_append _ _
  | cancelled found => exact List.prefix_refl _
  | missed about missing => exact List.prefix_refl _

theorem Turn.getElem?_eq (turn : family.Turn operation reply next) {index : Nat}
    (present : index < family.references.length) :
    next.references[index]? = family.references[index]? := by
  obtain ⟨rest, extended⟩ := turn.references_prefix
  rw [← extended, List.getElem?_append_left present]

/-- Only an operation that is about a reference that does not exist answers nothing. -/
theorem Turn.lt_of_subject (turn : family.Turn operation reply next) (answers : reply ≠ .nothing)
    {subject : Nat} (about : operation.subject? = some subject) :
    subject < family.references.length := by
  cases turn with
  | made new => cases new.symm.trans about
  | again old copies found =>
      cases old.symm.trans about
      exact (List.getElem?_eq_some_iff.mp found).1
  | cancelled found =>
      cases about
      exact (List.getElem?_eq_some_iff.mp found).1
  | missed about missing => exact absurd rfl answers

/-- Cancelling answers whether it was the first time, and everything else with a reference. -/
theorem Turn.cancels_iff (turn : family.Turn operation reply next) (answers : reply ≠ .nothing) :
    (∃ first, reply = .cancelled first) ↔ ∃ index, operation = .cancel index := by
  cases turn with
  | made new =>
      refine iff_of_false nofun ?_
      rintro ⟨index, rfl⟩
      cases new
  | again old copies found =>
      exact iff_of_false nofun fun ⟨index, cancels⟩ => copies index cancels
  | cancelled found => exact iff_of_true ⟨_, rfl⟩ ⟨_, rfl⟩
  | missed about missing => exact absurd rfl answers

theorem Turn.length_le (turn : family.Turn operation reply next) :
    family.references.length ≤ next.references.length :=
  turn.references_prefix.length_le

/-! ## Descent step by step -/

theorem Descends.mono {index founder : Nat} (descends : Descends history index founder)
    (later : List (Operation × Reply)) : Descends (history ++ later) index founder := by
  induction descends with
  | made member new => exact .made (List.mem_append_left later member) new
  | again member old _ ih => exact .again (List.mem_append_left later member) old ih

/-- A reference that is new brings its own descent and changes no other. -/
theorem descends_concat_iff {count : Nat}
    (named : ∀ operation index source, (operation, .reference index) ∈ history →
      operation.subject? = some source → source < count)
    (about : ∀ source, operation.subject? = some source → source < count) {index founder : Nat} :
    Descends (history ++ [(operation, Reply.reference count)]) index founder ↔
      Descends history index founder ∨
        (index = count ∧ ((operation.subject? = none ∧ founder = count) ∨
          ∃ source, operation.subject? = some source ∧ Descends history source founder)) := by
  constructor
  · intro descends
    induction descends with
    | made member new =>
        rcases List.mem_append.mp member with before | last
        · exact Or.inl (.made before new)
        · cases List.mem_singleton.mp last
          exact Or.inr ⟨rfl, Or.inl ⟨new, rfl⟩⟩
    | @again other index source founder member old _ ih =>
        have older : source < count := by
          rcases List.mem_append.mp member with before | last
          · exact named other index source before old
          · cases List.mem_singleton.mp last
            exact about source old
        have descends := ih.resolve_right fun new => Nat.ne_of_lt older new.1
        rcases List.mem_append.mp member with before | last
        · exact Or.inl (.again before old descends)
        · cases List.mem_singleton.mp last
          exact Or.inr ⟨rfl, Or.inr ⟨source, old, descends⟩⟩
  · have member : (operation, .reference count) ∈ history ++ [(operation, .reference count)] :=
      List.mem_concat_self
    rintro (descends | ⟨rfl, ⟨new, rfl⟩ | ⟨source, old, descends⟩⟩)
    · exact descends.mono _
    · exact .made member new
    · exact .again member old (descends.mono _)

/-- Answers without a reference have no part in descent. -/
theorem descends_concat_of_unreferred (unreferred : ∀ index, reply ≠ .reference index)
    {index founder : Nat} :
    Descends (history ++ [(operation, reply)]) index founder ↔ Descends history index founder := by
  constructor
  · intro descends
    have before {operation' : Operation} {index : Nat}
        (member : (operation', .reference index) ∈ history ++ [(operation, reply)]) :
        (operation', .reference index) ∈ history := by
      rcases List.mem_append.mp member with before | last
      · exact before
      · cases List.mem_singleton.mp last
        exact absurd rfl (unreferred index)
    induction descends with
    | made member new => exact .made (before member) new
    | again member old _ ih => exact .again (before member) old ih
  · exact fun descends => descends.mono _

/-! ## Bits -/

/-- A bit was cancelled through a reference to it. -/
def CancelledIn (history : List (Operation × Reply)) (references : List CancelToken)
    (token : CancelToken) : Prop :=
  ∃ other first, (.cancel other, .cancelled first) ∈ history ∧ references[other]? = some token

/-- The operations of a history are answered as they should be. -/
structure Told (history : List (Operation × Reply)) (family : CancelFamily) : Prop where
  /-- Only an operation about a reference that was not made goes without an answer. -/
  answered : ∀ earlier later operation reply, history = earlier ++ (operation, reply) :: later →
    (reply = .nothing ↔ ∃ subject, operation.subject? = some subject ∧
      ∀ maker, (maker, .reference subject) ∉ earlier)
  cancels_iff : ∀ operation reply, (operation, reply) ∈ history → reply ≠ .nothing →
    ((∃ first, reply = .cancelled first) ↔ ∃ index, operation = .cancel index)
  numbered : ∀ index, index < family.references.length ↔
    ∃ operation, (operation, .reference index) ∈ history

/-- The answers of a history agree with the references and the bits that it made. -/
structure Traced (history : List (Operation × Reply)) (family : CancelFamily) : Prop
    extends Told history family where
  made : ∀ token ∈ family.references, token.index < family.register.bits.length
  /-- What an answered operation is about is there. -/
  named : ∀ operation reply subject, (operation, reply) ∈ history → reply ≠ .nothing →
    operation.subject? = some subject → subject < family.references.length
  /-- The founder of a descent is the first reference to its bit. -/
  descends_iff : ∀ index founder, Descends history index founder ↔
    ∃ token, family.references[index]? = some token ∧ family.references.idxOf token = founder
  cancelled_iff : ∀ token ∈ family.references,
    family.register.isCancelled token = true ↔ CancelledIn history family.references token
  first_iff : ∀ earlier later index first token,
    history = earlier ++ (.cancel index, .cancelled first) :: later →
      family.references[index]? = some token →
        (first = true ↔ ¬CancelledIn earlier family.references token)

namespace Traced

theorem made_step (traced : Traced history family) (turn : family.Turn operation reply next) :
    ∀ token ∈ next.references, token.index < next.register.bits.length := by
  intro token member
  cases turn with
  | made new =>
      rw [CancelRegister.make, List.length_append]
      rcases List.mem_append.mp member with before | last
      · exact Nat.lt_add_right 1 (traced.made token before)
      · rw [List.mem_singleton.mp last]
        exact Nat.lt_add_one _
  | again old copies found =>
      rcases List.mem_append.mp member with before | last
      · exact traced.made token before
      · rw [List.mem_singleton.mp last]
        exact traced.made _ (List.mem_of_getElem? found)
  | cancelled found =>
      rw [CancelRegister.cancel, List.length_set]
      exact traced.made token member
  | missed about missing => exact traced.made token member

theorem named_step (traced : Traced history family) (turn : family.Turn operation reply next) :
    ∀ other answer subject, (other, answer) ∈ history ++ [(operation, reply)] →
      answer ≠ .nothing → other.subject? = some subject → subject < next.references.length := by
  intro other answer subject member answers about
  refine Nat.lt_of_lt_of_le ?_ turn.length_le
  rcases List.mem_append.mp member with before | last
  · exact traced.named other answer subject before answers about
  · cases List.mem_singleton.mp last
    exact turn.lt_of_subject answers about

theorem numbered_step (traced : Traced history family) (turn : family.Turn operation reply next)
    (index : Nat) : index < next.references.length ↔
      ∃ maker, (maker, .reference index) ∈ history ++ [(operation, reply)] := by
  have before := traced.numbered index
  simp only [List.mem_append, List.mem_singleton, exists_or, ← before, Prod.mk.injEq]
  have grows : index < family.references.length + 1 ↔
      index < family.references.length ∨ index = family.references.length :=
    Nat.lt_succ_iff_lt_or_eq
  cases turn with
  | made new => simp [grows]
  | again old copies found => simp [grows]
  | cancelled found => simp
  | missed about missing => simp

theorem answered_step (traced : Traced history family)
    (turn : family.Turn operation reply next) :
    reply = .nothing ↔ ∃ subject, operation.subject? = some subject ∧
      ∀ maker, (maker, .reference subject) ∉ history := by
  have absent (subject : Nat) : (∀ maker, (maker, .reference subject) ∉ history) ↔
      family.references.length ≤ subject := by
    rw [← Nat.not_lt, traced.numbered, not_exists]
  simp only [absent]
  constructor
  · intro nothing
    cases turn with
    | missed about missing => exact ⟨_, about, List.getElem?_eq_none_iff.mp missing⟩
    | _ => cases nothing
  · rintro ⟨subject, about, missing⟩
    by_contra answers
    exact Nat.not_lt.mpr missing (turn.lt_of_subject answers about)

/-- The founder that a reference has is the one it had, unless the reference is new. -/
theorem exists_founder_concat_iff (references : List CancelToken) (token : CancelToken)
    (index founder : Nat) :
    (∃ other, (references ++ [token])[index]? = some other ∧
        (references ++ [token]).idxOf other = founder) ↔
      (∃ other, references[index]? = some other ∧ references.idxOf other = founder) ∨
        (index = references.length ∧ (references ++ [token]).idxOf token = founder) := by
  rcases Nat.lt_trichotomy index references.length with before | rfl | beyond
  · rw [List.getElem?_append_left before]
    have older {other : CancelToken} (found : references[index]? = some other) :
        (references ++ [token]).idxOf other = references.idxOf other :=
      List.idxOf_append_of_mem (List.mem_of_getElem? found)
    simp only [Nat.ne_of_lt before, false_and, or_false]
    exact exists_congr fun other => and_congr_right fun found => by rw [older found]
  · simp
  · simp [List.getElem?_eq_none (Nat.le_of_lt beyond), Nat.ne_of_gt beyond,
      Nat.not_lt.mpr (Nat.succ_le_of_lt beyond)]

theorem descends_step (traced : Traced history family) (turn : family.Turn operation reply next)
    (index founder : Nat) : Descends (history ++ [(operation, reply)]) index founder ↔
      ∃ token, next.references[index]? = some token ∧ next.references.idxOf token = founder := by
  have named : ∀ operation index source, (operation, .reference index) ∈ history →
      operation.subject? = some source → source < family.references.length :=
    fun operation index source member => traced.named operation _ source member nofun
  have about : ∀ source, reply ≠ .nothing → operation.subject? = some source →
      source < family.references.length := fun source answers => turn.lt_of_subject answers
  cases turn with
  | made new =>
      rw [descends_concat_iff named fun source => about source nofun, traced.descends_iff,
        exists_founder_concat_iff]
      have unused : family.register.make.1 ∉ family.references := fun member =>
        Nat.lt_irrefl _ (traced.made _ member)
      have founds : (family.references ++ [family.register.make.1]).idxOf family.register.make.1 =
          family.references.length := by
        rw [List.idxOf_append_of_notMem unused, List.idxOf_cons_self, Nat.add_zero]
      rw [founds, new]
      simp [eq_comm]
  | again old copies found =>
      rw [descends_concat_iff named fun source => about source nofun, traced.descends_iff,
        exists_founder_concat_iff, List.idxOf_append_of_mem (List.mem_of_getElem? found), old]
      simp [traced.descends_iff, found]
  | cancelled found =>
      rw [descends_concat_of_unreferred (by rintro _ ⟨⟩)]
      exact traced.descends_iff index founder
  | missed about missing =>
      rw [descends_concat_of_unreferred (by rintro _ ⟨⟩)]
      exact traced.descends_iff index founder

/-- Later operations do not change what was cancelled before. -/
theorem cancelledIn_earlier (traced : Traced history family)
    (turn : family.Turn operation reply next) {earlier : List (Operation × Reply)}
    (subset : earlier ⊆ history) (token : CancelToken) :
    CancelledIn earlier next.references token ↔ CancelledIn earlier family.references token := by
  refine exists_congr fun other => exists_congr fun first => and_congr_right fun member => ?_
  rw [turn.getElem?_eq (traced.named _ _ other (subset member) nofun rfl)]

theorem cancelledIn_step (traced : Traced history family)
    (turn : family.Turn operation reply next) (token : CancelToken) :
    CancelledIn (history ++ [(operation, reply)]) next.references token ↔
      CancelledIn history family.references token ∨
        ∃ index first, operation = .cancel index ∧ reply = .cancelled first ∧
          family.references[index]? = some token := by
  rw [← traced.cancelledIn_earlier turn (List.Subset.refl history)]
  constructor
  · rintro ⟨other, first, member, found⟩
    rcases List.mem_append.mp member with before | last
    · exact Or.inl ⟨other, first, before, found⟩
    · cases List.mem_singleton.mp last
      rw [turn.getElem?_eq (turn.lt_of_subject nofun rfl)] at found
      exact Or.inr ⟨other, first, rfl, rfl, found⟩
  · rintro (⟨other, first, before, found⟩ | ⟨index, first, rfl, rfl, found⟩)
    · exact ⟨other, first, List.mem_append_left _ before, found⟩
    · rw [← turn.getElem?_eq (turn.lt_of_subject nofun rfl)] at found
      exact ⟨index, first, List.mem_concat_self, found⟩

theorem cancelled_step (traced : Traced history family)
    (turn : family.Turn operation reply next) :
    ∀ token ∈ next.references, next.register.isCancelled token = true ↔
      CancelledIn (history ++ [(operation, reply)]) next.references token := by
  intro token member
  rw [traced.cancelledIn_step turn]
  cases turn with
  | made new =>
      have unused : ¬CancelledIn history family.references family.register.make.1 := by
        rintro ⟨_, _, _, found⟩
        exact Nat.lt_irrefl _ (traced.made _ (List.mem_of_getElem? found))
      rw [CancelRegister.isCancelled_make]
      rcases List.mem_append.mp member with before | last
      · simp [traced.cancelled_iff token before]
      · rw [List.mem_singleton.mp last, ← CancelRegister.isCancelled_make,
          CancelRegister.isCancelled_make_self]
        simp [unused]
  | again old copies found =>
      have before : token ∈ family.references := by
        rcases List.mem_append.mp member with before | last
        · exact before
        · rw [List.mem_singleton.mp last]
          exact List.mem_of_getElem? found
      simp [traced.cancelled_iff token before]
  | cancelled found =>
      have made := traced.made _ (List.mem_of_getElem? found)
      rw [CancelRegister.isCancelled_cancel_iff _ made, traced.cancelled_iff token member]
      simp [found, eq_comm]
  | missed about missing => simp [traced.cancelled_iff token member]

/-- A cancellation succeeds if there was none in the descent before. -/
theorem first_step (traced : Traced history family) (turn : family.Turn operation reply next)
    {index : Nat} {first : Bool} {token : CancelToken} (operation_eq : operation = .cancel index)
    (reply_eq : reply = .cancelled first) (found : family.references[index]? = some token) :
    first = true ↔ ¬CancelledIn history family.references token := by
  cases turn with
  | cancelled present =>
      cases operation_eq
      cases reply_eq
      cases present.symm.trans found
      rw [← traced.cancelled_iff token (List.mem_of_getElem? found)]
      simp [CancelRegister.cancel]
  | _ => cases reply_eq

end Traced

/-- The last of some entries, or one that comes before it. -/
theorem eq_or_of_concat_eq {last entry : Operation × Reply}
    {earlier later : List (Operation × Reply)}
    (split : history ++ [last] = earlier ++ entry :: later) :
    (history = earlier ∧ last = entry) ∨ ∃ front, history = earlier ++ entry :: front := by
  rcases List.eq_nil_or_concat later with rfl | ⟨front, other, rfl⟩
  · obtain ⟨same, last_eq⟩ := List.append_inj' split rfl
    exact Or.inl ⟨same, List.singleton_inj.mp last_eq⟩
  · rw [List.concat_eq_append, ← List.cons_append, ← List.append_assoc] at split
    exact Or.inr ⟨front, (List.append_inj' split rfl).1⟩

theorem Traced.told_step (traced : Traced history family)
    (turn : family.Turn operation reply next) : Told (history ++ [(operation, reply)]) next := by
  constructor
  case answered =>
    intro earlier later other answer split
    rcases eq_or_of_concat_eq split with ⟨rfl, same⟩ | ⟨front, before⟩
    · cases same
      exact traced.answered_step turn
    · exact traced.answered earlier front other answer before
  case cancels_iff =>
    intro other answer member answers
    rcases List.mem_append.mp member with before | last
    · exact traced.cancels_iff other answer before answers
    · cases List.mem_singleton.mp last
      exact turn.cancels_iff answers
  case numbered => exact traced.numbered_step turn

theorem Traced.step (traced : Traced history family) (turn : family.Turn operation reply next) :
    Traced (history ++ [(operation, reply)]) next := by
  constructor
  case toTold => exact traced.told_step turn
  case made => exact traced.made_step turn
  case named => exact traced.named_step turn
  case descends_iff => exact traced.descends_step turn
  case cancelled_iff => exact traced.cancelled_step turn
  case first_iff =>
    intro earlier later index first token split found
    rcases eq_or_of_concat_eq split with ⟨rfl, same⟩ | ⟨front, rfl⟩
    · cases same
      rw [traced.cancelledIn_earlier turn (List.Subset.refl _)]
      rw [turn.getElem?_eq (turn.lt_of_subject nofun rfl)] at found
      exact traced.first_step turn rfl rfl found
    · rw [traced.cancelledIn_earlier turn (List.subset_append_left _ _)]
      have member : (Operation.cancel index, Reply.cancelled first) ∈
          earlier ++ (.cancel index, .cancelled first) :: front :=
        List.mem_append_right earlier List.mem_cons_self
      rw [turn.getElem?_eq (traced.named _ _ index member nofun rfl)] at found
      exact traced.first_iff earlier front index first token rfl found

end Step

/-! ## Sequences of operations -/

theorem not_descends_nil {index founder : Nat} : ¬Descends [] index founder := by
  intro descends
  induction descends with
  | made member new => cases member
  | again member old _ ih => cases member

theorem traced_performAll (operations : List Operation) :
    Traced (performAll operations).1 (performAll operations).2 := by
  induction operations using List.reverseRecOn with
  | nil =>
      constructor
      case toTold => exact ⟨by simp [performAll], by simp [performAll], by simp [performAll]⟩
      case descends_iff => exact fun _ _ => iff_of_false not_descends_nil (by simp [performAll])
      all_goals simp [performAll]
  | append_singleton operations operation traced =>
      rw [performAll, List.foldl_append]
      exact traced.step (turn_perform _ operation)

section Traced

variable {history : List (Operation × Reply)} {family : CancelFamily}

/-- References descend from the same one just if they share a bit. -/
theorem Traced.kin_iff (traced : Traced history family) (first second : Nat) :
    Kin history first second ↔
      ∃ token, family.references[first]? = some token ∧
        family.references[second]? = some token := by
  simp only [Kin, traced.descends_iff]
  constructor
  · rintro ⟨founder, ⟨one, present, founds⟩, other, found, rfl⟩
    obtain rfl := (List.idxOf_inj (List.mem_of_getElem? present)).mp founds
    exact ⟨one, present, found⟩
  · rintro ⟨token, present, found⟩
    exact ⟨_, ⟨token, present, rfl⟩, token, found, rfl⟩

/-- A bit was cancelled just if a reference of the descent was. -/
theorem Traced.cancelledIn_iff (traced : Traced history family)
    {earlier : List (Operation × Reply)} {index : Nat} {token : CancelToken}
    (present : family.references[index]? = some token) :
    CancelledIn earlier family.references token ↔
      ∃ other first, (.cancel other, .cancelled first) ∈ earlier ∧ Kin history index other := by
  refine exists_congr fun other => exists_congr fun first => and_congr_right fun _ => ?_
  rw [traced.kin_iff]
  simp [present]

end Traced

/-- What the answers of a history say of the references that it made. -/
structure SharesBits (history : List (Operation × Reply)) (family : CancelFamily) : Prop
    extends Told history family where
  founded : ∀ index, index < family.references.length → ∃! founder, Descends history index founder
  same_iff : ∀ first second one other, family.references[first]? = some one →
    family.references[second]? = some other → (one = other ↔ Kin history first second)
  seen_iff : ∀ index seen, family.view[index]? = some seen →
    (seen = true ↔
      ∃ other first, (.cancel other, .cancelled first) ∈ history ∧ Kin history index other)
  first_iff : ∀ earlier later index first,
    history = earlier ++ (.cancel index, .cancelled first) :: later →
      (first = true ↔
        ∀ other again, (.cancel other, .cancelled again) ∈ earlier → ¬Kin history index other)

/-- Whatever is done with references, those of one descent share one bit, and no others do. Each is
cancelled once any of its descent was, and only the first cancellation in a descent succeeds. -/
theorem sharesBits_performAll (operations : List Operation) :
    SharesBits (performAll operations).1 (performAll operations).2 := by
  have traced := traced_performAll operations
  generalize (performAll operations).1 = history at traced ⊢
  generalize (performAll operations).2 = family at traced ⊢
  constructor
  case toTold => exact traced.toTold
  case founded =>
    intro index present
    have found := List.getElem?_eq_getElem present
    refine ⟨_, (traced.descends_iff _ _).mpr ⟨_, found, rfl⟩, fun founder descends => ?_⟩
    obtain ⟨token, same, rfl⟩ := (traced.descends_iff _ _).mp descends
    cases found.symm.trans same
    rfl
  case same_iff =>
    intro first second one other present found
    rw [traced.kin_iff, present, found]
    simp [eq_comm]
  case seen_iff =>
    intro index seen shown
    rw [view, List.getElem?_map] at shown
    obtain ⟨token, present, rfl⟩ := Option.map_eq_some_iff.mp shown
    rw [traced.cancelled_iff token (List.mem_of_getElem? present)]
    exact traced.cancelledIn_iff present
  case first_iff =>
    intro earlier later index first split
    have member : (Operation.cancel index, Reply.cancelled first) ∈ history :=
      split ▸ List.mem_append_right earlier List.mem_cons_self
    have present := List.getElem?_eq_getElem (traced.named _ _ index member nofun rfl)
    rw [traced.first_iff earlier later index first _ split present,
      traced.cancelledIn_iff present]
    simp only [not_exists, not_and]

/-- A handle over a copy is cancelled through the original, and has no other success to report. -/
example :
    (performAll [.make, .makeHandle, .copy 0, .wrap 2, .cancel 0, .cancel 3, .cancel 1]).1.map
        Prod.snd =
      [.reference 0, .reference 1, .reference 2, .reference 3, .cancelled true,
        .cancelled false, .cancelled true] := by
  decide

end CancelFamily

end TimedBatch
