/-!
# Cancellation tokens

A cancellation bit is shared by everything that refers to it. A register keeps the bits that were
made, and a token names one of them. Copies of a token name the same bit, so cancelling through
one copy is seen through all, and only the first cancellation of a bit succeeds.
-/

namespace TimedBatch

structure CancelToken where
  index : Nat
  deriving DecidableEq

/-- The cancellation bits made so far, in the order in which they were made. -/
structure CancelRegister where
  bits : List Bool := []
  deriving DecidableEq

namespace CancelRegister

def make (register : CancelRegister) : CancelToken × CancelRegister :=
  (⟨register.bits.length⟩, ⟨register.bits ++ [false]⟩)

def isCancelled (register : CancelRegister) (token : CancelToken) : Bool :=
  register.bits.getD token.index false

/-- Cancel the bit of a token. The answer says whether it was not cancelled before. -/
def cancel (register : CancelRegister) (token : CancelToken) : Bool × CancelRegister :=
  (!register.isCancelled token, ⟨register.bits.set token.index true⟩)

end CancelRegister

/-! ## Families of references -/

/-- References that were made one after the other, some of them copies of earlier ones. -/
structure CancelFamily where
  register : CancelRegister := {}
  references : List CancelToken := []
  deriving DecidableEq

namespace CancelFamily

/-- What can be done with references. A handle of a timer is a reference like any other, and the
handle that no timer gave out refers to a bit of its own. -/
inductive Operation where
  | make
  | makeHandle
  | copy (index : Nat)
  | wrap (index : Nat)
  | cancel (index : Nat)
  deriving DecidableEq

/-- What an operation answers: the index of a new reference, whether it cancelled, or nothing where
there is no such reference. -/
inductive Reply where
  | reference (index : Nat)
  | cancelled (first : Bool)
  | nothing
  deriving DecidableEq

def refer (family : CancelFamily) (token : CancelToken) : Reply × CancelFamily :=
  (.reference family.references.length,
    { family with references := family.references ++ [token] })

def referNew (family : CancelFamily) : Reply × CancelFamily :=
  let (token, register) := family.register.make
  refer { family with register := register } token

/-- Add a reference to the bit of another one. -/
def referAgain (family : CancelFamily) (index : Nat) : Reply × CancelFamily :=
  match family.references[index]? with
  | some token => family.refer token
  | none => (.nothing, family)

def perform (family : CancelFamily) : Operation → Reply × CancelFamily
  | .make => family.referNew
  | .makeHandle => family.referNew
  | .copy index => family.referAgain index
  | .wrap index => family.referAgain index
  | .cancel index =>
      match family.references[index]? with
      | some token =>
          let (first, register) := family.register.cancel token
          (.cancelled first, { family with register := register })
      | none => (.nothing, family)

/-- Whether each reference is cancelled. -/
def view (family : CancelFamily) : List Bool :=
  family.references.map family.register.isCancelled

end CancelFamily

end TimedBatch
