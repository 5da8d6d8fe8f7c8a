import GridFilter.Codec.Basic
import GridFilter.Validation

/-!
# The JSON form of validation results

A result says whether there is an error and gives its message, which is empty when there is none.
-/

namespace GridFilter

/-- The result of one slot as it is sent to an editor. -/
structure ValidationResult where
  error : Bool
  message : String
  deriving DecidableEq, Repr

namespace ValidationResult

/-- The result of a slot with that complaint, or without one. -/
def of : Option Complaint → ValidationResult
  | none => ⟨false, ""⟩
  | some complaint => ⟨true, complaint.message⟩

/-- A result whose fields may be missing. -/
structure Draft where
  error : Option Bool := none
  message : Option String := none

/-- How a result is read. -/
def shape : Shape Draft ValidationResult where
  empty := {}
  fields :=
    [Field.once "error" (·.error) (fun v d => { d with error := some v }) Decoder.bool,
     Field.once "errorMessage" (·.message) (fun v d => { d with message := some v }) Decoder.text]
  finish := fun _ draft => do
    pure { error := ← required draft.error, message := ← required draft.message }

/-- Reads a result. -/
def decode : Decoder ValidationResult :=
  shape.decode

/-- The JSON form of a result. -/
def toJson (result : ValidationResult) : Json :=
  .object [("error", .bool result.error), ("errorMessage", .string result.message)]

end ValidationResult

/-- The JSON form of a verdict: one result per slot. -/
def Verdict.toJson (verdict : Verdict) : Json :=
  Json.ofList (fun slot => (ValidationResult.of slot).toJson) verdict

end GridFilter
