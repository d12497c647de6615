import Rulebook.Service.World

/-!
# Checking bodies

Bodies that are too large or that are no documents are refused before they reach a route.  The
declared length is looked at first, whatever the media type; the body itself is looked at only if
its media type is written as that of a document.
-/

namespace Rulebook

/-- The method sends a body. -/
def Request.sendsBody (request : Request) : Bool :=
  [Text.ofString "POST", "PUT", "PATCH"].contains request.method

/-- A code point that counts as a digit, though not always as a decimal one. -/
def CodePoint.isDigitLike (point : CodePoint) : Bool :=
  point.digit?.isSome || [0xB2, 0xB3, 0xB9].contains point.val

/-- The declared length: nothing unless it is written with digits alone.  A digit that is not
decimal, or too many digits, are a fault. -/
def Request.declaredLength? (request : Request) : Except Fault (Option Nat) :=
  match request.header? "content-length" with
  | none => .ok none
  | some written =>
      if written.isEmpty || !written.all (·.isDigitLike) then .ok none
      else
        let leading := Json.leadingDigits written
        if 4300 < leading.length then .error (.tooManyDigits leading.length)
        else if leading.length < written.length then .error (.notDecimal written)
        else .ok (some (Text.digitsValue leading))

/-- What is said of a body that is too large. -/
def tooLargeEvent (path : Text) (maxSize size : Int) : Event :=
  .of "payload.too_large" .warning
    [("size", .int size), ("max_size", .int maxSize), ("path", .text path)]

/-- The document that refuses a body that is too large. -/
def tooLargeDocument (maxSize size : Int) : Json :=
  .record
    [("error", .string "PayloadTooLarge"),
      ("message",
        .text (Text.ofString "Request payload exceeds maximum size of " ++ Text.ofInt maxSize ++
          Text.ofString " bytes")),
      ("max_size", .int maxSize), ("received_size", .int size)]

/-- What is said of a body that is no document. -/
def notDocumentEvent (path : Text) : Event :=
  .of "payload.invalid_json" .warning [("path", .text path)]

/-- The document that refuses a body that is no document. -/
def notDocumentDocument : Json :=
  .record
    [("error", .string "InvalidJSON"), ("message", .string "Request body is not valid JSON"),
      ("detail", .string "the document does not follow the grammar")]

/-- The bytes hold a document of the strict dialect. -/
def isStrictDocument (bytes : List UInt8) : Bool :=
  match Text.ofStrictUtf8? bytes with
  | some text =>
      match Json.read .strict text with
      | .ok _ => true
      | .error _ => false
  | none => false

/-- Refuses a body that is too large. -/
def refuseTooLarge (maxSize size : Int) (path : Text) : Serve Response := do
  Serve.report (tooLargeEvent path maxSize size)
  Serve.answer 413 (tooLargeDocument maxSize size)

/-- Refuses a body that is no document. -/
def refuseNotDocument (path : Text) : Serve Response := do
  Serve.report (notDocumentEvent path)
  Serve.answer 400 notDocumentDocument

/-- The media type is written as that of a document. -/
def Request.declaresDocument (request : Request) : Bool :=
  (Text.ofString "application/json").isPrefixOf ((request.header? "content-type").getD [])

/-- Checks the bodies of requests that send one. -/
def withBodyCheck (maxSize : Int) (inner : Handler) : Handler := fun request => do
  if !request.sendsBody then inner request
  else
    match ← Serve.ofOutcome request.declaredLength? with
    | some length =>
        if maxSize < length then refuseTooLarge maxSize length request.location
        else checkBody request
    | none => checkBody request
where
  /-- Checks the body itself. -/
  checkBody (request : Request) : Serve Response :=
    if !request.declaresDocument then inner request
    else if maxSize < request.body.length then
      refuseTooLarge maxSize request.body.length request.location
    else if request.body.isEmpty || isStrictDocument request.body then inner request
    else refuseNotDocument request.location

end Rulebook
