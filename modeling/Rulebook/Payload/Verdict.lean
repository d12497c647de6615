import Rulebook.Message
import Rulebook.Value.Field

/-!
# Verdicts

A verdict is what a caller of the service is told: whether the artefact is valid and, if not, one
summary and the list of errors.
-/

namespace Rulebook

/-- The outcome of a validation as told to a caller. -/
structure Verdict where
  /-- No error was found. -/
  valid : Bool
  /-- One text for all errors. -/
  error : Option Text
  /-- The errors one by one. -/
  errors : Option (List Text)
  deriving DecidableEq

namespace Verdict

/-- The verdict on an artefact without errors. -/
def clean : Verdict := ⟨true, none, none⟩

/-- The verdict on an artefact with these errors; it is clean if there are none.  The summary is
the given one unless that is empty, and else the errors joined by semicolons. -/
def ofErrors (errors : List Text) (summary : Option Text) : Verdict :=
  if errors.isEmpty then clean
  else
    let joined := Text.join "; " errors
    let summary := (summary.filter (!·.isEmpty)).getD joined
    ⟨false, some summary, some errors⟩

/-- The verdict that a validation could not be carried through. -/
def internal (message : Text) : Verdict := ⟨false, some message, some [message]⟩

/-- The errors, none if they are not given. -/
def errorList (verdict : Verdict) : List Text := verdict.errors.getD []

/-- The document told to a caller; parts that are not given are left out. -/
def response (verdict : Verdict) : Json :=
  .object
    ([(Text.ofString "valid", Json.bool verdict.valid)] ++
      (verdict.error.map fun error => (Text.ofString "error", Json.text error)).toList ++
      (verdict.errors.map fun errors => (Text.ofString "errors", Json.texts errors)).toList)

@[simp]
theorem ofErrors_nil (summary : Option Text) : ofErrors [] summary = clean := rfl

@[simp]
theorem errorList_clean : clean.errorList = [] := rfl

theorem ofErrors_valid (errors : List Text) (summary : Option Text) :
    (ofErrors errors summary).valid = errors.isEmpty := by
  cases errors <;> rfl

theorem ofErrors_errorList (errors : List Text) (summary : Option Text) :
    (ofErrors errors summary).errorList = errors := by
  cases errors <;> rfl

end Verdict

/-- Reads data as a verdict. -/
def Value.fitVerdict : Value → Fit Verdict
  | .mapping entries =>
      let fields :=
        Fit.both (Entries.fitRequired "valid" Value.fitTruth entries)
          (Fit.both (Entries.fitOptional "error" Value.fitOptionalText entries)
            (Entries.fitOptional "errors" Value.fitOptionalTexts entries))
      match fields with
      | .ok (valid, error, errors) => .ok ⟨valid, error, errors⟩
      | .error mismatches => .error mismatches
  | _ => Fit.fail .recordType

end Rulebook
