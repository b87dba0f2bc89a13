import SolcRelease.Failure
import SolcRelease.Journal
import SolcRelease.Settings

/-! The world around an activity: the settings, the transport, and the room for documents. -/

namespace SolcRelease

/-- Why a response has no text to read a document from. -/
inductive SourceFailure where
  /-- Its bytes stand for no text, says a failure of this kind and wording. -/
  | noText (kind message : Text)
  /-- Looking for the text ends in a fault. -/
  | broken (fault : Fault)

/--
A response, as it is seen by those who receive it.

How its bytes become a text depends on the encoding that it names, or on what they look like, and
is not the same for those who show the text and for those who read a document from it.
-/
structure Response where
  /-- The status. -/
  status : Int
  /-- The text of the body, unless making it out ends in a fault. -/
  text : Except Fault Text
  /-- The text from which a document is read, if there is one. -/
  source : Except SourceFailure Text

/-- A response whose encoding is UTF-8, with a stand-in for what encodes nothing. -/
def Response.ofUtf8 (status : Int) (body : Bytes) : Response :=
  ⟨status, .ok (Utf8.decodeLenient body), .ok (Utf8.decodeLenient body)⟩

/-- What comes back from the transport when the catalog is asked for. -/
inductive Delivery where
  /-- A response. -/
  | response (response : Response)
  /-- A failure of the transport: its kind and its wording. -/
  | unreachable (kind message : Text)
  /-- A failure of another nature. -/
  | broken (failure : Failure)

/--
How many enclosures may lie in each other before the stack is full.

Documents are read and written at different depths of the stack, so each place has a number of its
own.
-/
structure Room where
  /-- In a catalog that is delivered. -/
  catalog : Nat
  /-- In the body of a request. -/
  request : Nat
  /-- In the document of an answer. -/
  answer : Nat
  /-- The documents of the service itself have their place: an array or object within an object. -/
  answer_least : 2 ≤ answer

/-- What surrounds an activity. -/
structure World where
  /-- The settings. -/
  settings : Settings
  /-- What answers each inquiry, counted from zero. -/
  transport : Nat → Delivery
  /-- How many enclosures of documents may lie in each other. -/
  room : Room
  /-- For how many hundredths of a second the service has been up. -/
  uptime : Nat
  /-- The working directory. -/
  directory : Text
  /-- Tells whether the file of a path can be opened for writing. -/
  opens : Text → Bool

end SolcRelease
