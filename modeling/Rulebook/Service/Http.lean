import Rulebook.Fault
import Rulebook.Json.Reader
import Rulebook.Json.Writer
import Rulebook.Text.Encoding

/-!
# Requests and responses

A request carries a body as bytes, a response a document or a page.  The content of a request is
its document only if the declared media type says that it is one; otherwise it stays raw.
-/

namespace Rulebook

/-- A code point of a path as it stands in an address.  A question mark and a number sign are
escaped, because they would end the path there; tabs and line breaks have no place in an address. -/
def CodePoint.inAddress (point : CodePoint) : Text :=
  if point = .ofChar '?' then "%3F"
  else if point = .ofChar '#' then "%23"
  else if ['\t', '\n', '\r'].any fun blank => point = .ofChar blank then []
  else [point]

/-- A request to the service. -/
structure Request where
  method : Text
  path : Text
  /-- The header fields in order; names are in small letters. -/
  headers : List (Text × Text)
  body : List UInt8

namespace Request

/-- The first header field of that name. -/
def header? (name : Text) (request : Request) : Option Text :=
  Assoc.get? name request.headers

/-- The path as it stands in the address of the request.  Reports and measurements name a request
by it, while routes are found by the path itself. -/
def location (request : Request) : Text := request.path.flatMap CodePoint.inAddress

end Request

/-- The body of a response. -/
inductive Body where
  | document (content : Json)
  /-- A page of plain text. -/
  | page (content : Text)

/-- A response of the service. -/
structure Response where
  status : Nat
  body : Body
  headers : List (Text × Text)

namespace Response

/-- The response that carries a document.  A document that holds a number that is not finite, or a
text without a byte form, cannot be sent. -/
def ofDocument (status : Nat) (content : Json) : Except Fault Response :=
  if !content.isFinite then .error .notFinite
  else
    match Text.firstUnencodable? (content.write .compact) with
    | some place => .error (.unencodable place)
    | none => .ok ⟨status, .document content, []⟩

/-- The response with a header field set. -/
def withHeader (name value : Text) (response : Response) : Response :=
  { response with headers := response.headers.filter (·.1 ≠ name) ++ [(name, value)] }

end Response

/-! ## Content -/

/-- What a request hands to a route. -/
inductive Content where
  | absent
  /-- A body that is not declared to be a document. -/
  | raw (content : Text)
  | document (content : Json)
  /-- A body declared to be a document that does not follow the grammar. -/
  | malformed
  /-- A body declared to be a document that cannot be read for another reason. -/
  | unreadable

namespace Text

/-- The declared media type in small letters, without its parameters. -/
def mediaType (declared : Text) : Text :=
  lower (trimBlanks (declared.takeWhile (· ≠ .ofChar ';')))
where
  /-- The text without blanks at its two ends. -/
  trimBlanks (text : Text) : Text :=
    ((text.dropWhile isSpace).reverse.dropWhile isSpace).reverse
  /-- White space of header fields. -/
  isSpace (point : CodePoint) : Bool :=
    point.val = 0x20 || (9 ≤ point.val && point.val ≤ 13) ||
      (0x1C ≤ point.val && point.val ≤ 0x1F) || point.val = 0x85 || point.val = 0xA0

/-- The media type is that of a document: the plain one, or an application's own. -/
def isDocumentType (mediaType : Text) : Bool :=
  let kind := mediaType.takeWhile (· ≠ .ofChar '/')
  let subtype := mediaType.drop (kind.length + 1)
  kind = ofString "application" && !subtype.contains (.ofChar '/') &&
    (subtype = ofString "json" || (ofString "+json").isSuffixOf subtype)

end Text

namespace Content

/-- Reads a body that is declared to be a document. -/
def ofBytes (bytes : List UInt8) : Content :=
  match Text.ofBytes? bytes with
  | none => .unreadable
  | some text =>
      match Json.read .lenient text with
      | .ok content => .document content
      | .error .malformed => .malformed
      | .error .overlongNumber => .unreadable

/-- The content of a request. -/
def ofRequest (request : Request) : Content :=
  if request.body.isEmpty then .absent
  else if ((request.header? "content-type").getD []).mediaType.isDocumentType then
    ofBytes request.body
  else .raw ((Text.ofUtf8? request.body).getD [])

end Content

end Rulebook
