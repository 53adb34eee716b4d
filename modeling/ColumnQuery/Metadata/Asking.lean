import ColumnQuery.Metadata.Basic

/-! Computations that ask a store for names. Such a computation ends with a result or an error, and
either way with the list of all lookups made so far, in their order. -/
namespace ColumnQuery

/-- What a computation ended with, and the lookups made up to its end. -/
structure Asked (ε α : Type) where
  result : Except ε α
  lookups : List Lookup

/-- A computation that may ask a store for names. It takes the store and the lookups already made. -/
def Asking (ε α : Type) := Metadata → List Lookup → Asked ε α

namespace Asking

variable {ε δ α β : Type}

/-- Runs the computation on a store that has not been asked anything. -/
def run (computation : Asking ε α) (metadata : Metadata) : Asked ε α :=
  computation metadata []

/-- Ends with a result and asks nothing. -/
def done (value : α) : Asking ε α :=
  fun _ lookups => ⟨.ok value, lookups⟩

/-- Ends with an error and asks nothing. -/
def fail (error : ε) : Asking ε α :=
  fun _ lookups => ⟨.error error, lookups⟩

/-- Goes on with the result of a computation, unless it ended with an error. -/
def andThen (first : Asking ε α) (next : α → Asking ε β) : Asking ε β :=
  fun metadata lookups =>
    match first metadata lookups with
    | ⟨.ok value, later⟩ => next value metadata later
    | ⟨.error error, later⟩ => ⟨.error error, later⟩

instance : Monad (Asking ε) where
  pure := done
  bind := andThen

/-- Ends with a given outcome and asks nothing. -/
def ofExcept (outcome : Except ε α) : Asking ε α :=
  fun _ lookups => ⟨outcome, lookups⟩

/-- Makes one lookup. -/
def ask (lookup : Lookup) : Asking LookupError String :=
  fun metadata lookups => ⟨metadata lookups lookup, lookups ++ [lookup]⟩

/-- The same computation with its error read as another kind of error. -/
def mapError (f : ε → δ) (computation : Asking ε α) : Asking δ α :=
  fun metadata lookups =>
    match computation metadata lookups with
    | ⟨.ok value, later⟩ => ⟨.ok value, later⟩
    | ⟨.error error, later⟩ => ⟨.error (f error), later⟩

end Asking

end ColumnQuery
