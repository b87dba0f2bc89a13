import SolcRelease.Json.Basic
import SolcRelease.Text.Utf8

/-! The messages between the service and its clients. -/

namespace SolcRelease

/-- A request to the service. -/
structure Request where
  /-- The method. -/
  method : Text
  /-- The address: a path, with or without a query. -/
  address : Text
  /-- The kind of content that the body is said to have. -/
  contentType : Option Text
  /-- The body. -/
  body : Bytes

/-- The kind of content in an answer. -/
inductive Content where
  /-- A page for people, whose text is of no concern here. -/
  | page
  /-- A JSON document. -/
  | document (value : Json)
  /-- The announcement of a JSON document that is not sent. -/
  | announced

/-- An answer of the service. -/
structure Answer where
  /-- The status. -/
  status : Nat
  /-- The content. -/
  content : Content
  /-- The methods that the path takes, where the answer names them. -/
  allow : Option (List Text)
  /-- Where the client is sent to, where it is sent anywhere. -/
  location : Option Text

namespace Content

/-- The media type of the content. -/
def mediaType : Content → Text
  | .page => "text/html"
  | .document _ | .announced => "application/json"

/-- The content as announced without being sent. -/
def announcedOnly : Content → Content
  | .document _ => .announced
  | content => content

end Content

namespace Answer

/-- An answer that is a page. -/
def page (status : Nat) : Answer :=
  ⟨status, .page, none, none⟩

/-- An answer that is a JSON document. -/
def document (status : Nat) (value : Json) : Answer :=
  ⟨status, .document value, none, none⟩

/-- An answer without its content. -/
def announcedOnly (answer : Answer) : Answer :=
  { answer with content := answer.content.announcedOnly }

end Answer

end SolcRelease
