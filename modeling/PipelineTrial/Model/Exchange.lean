import PipelineTrial.Json.Reader
import PipelineTrial.Schema

/-! Exchanges with a language model: requests, replies, failures, and what a reply means. -/

namespace PipelineTrial

/-- A request to a language model. -/
structure ModelRequest where
  session : String
  model : String
  system : Option String
  prompt : String
  schema : Option OutputSchema
  deriving DecidableEq

/-- A reply of a language model. -/
inductive ModelReply where
  | text (content : String)
  | fields (content : Dictionary Json)
  deriving DecidableEq

/-- The failure of an exchange. -/
inductive ModelError where
  | request (message : String)
  | status (code : Nat) (body : String)
  | unexpectedReply (message : String)
  deriving DecidableEq

namespace ModelError

/-- The text of a failure. -/
def message : ModelError → String
  | .request message => "model request failed: " ++ message
  | .status code body => "model endpoint returned status " ++ toString code ++ ": " ++ body
  | .unexpectedReply message => "structured output did not match schema: " ++ message

/-- Whether there was a reply, but not one of the expected form. -/
def isUnexpectedReply : ModelError → Bool
  | .unexpectedReply _ => true
  | _ => false

end ModelError

/-- The end of a text after dropping all copies of a mark there, given both in reverse. -/
def dropMarks (mark : List Char) : Nat → List Char → List Char
  | 0, reversed => reversed
  | bound + 1, reversed =>
    if mark.isPrefixOf reversed then dropMarks mark bound (reversed.drop mark.length) else reversed

/-- The three characters that fence code off from prose. -/
def fence : List Char := ['\x60', '\x60', '\x60']

/-- A text without blanks at both ends. -/
def trimChars (chars : List Char) : List Char := trimRight (trimLeft chars)

/-- The content of fenced code, or the text itself when it starts without a fence. -/
def unfence (chars : List Char) : List Char :=
  -- The name of the language may follow the opening fence.
  if fence.isPrefixOf chars then
    let afterFence := chars.drop fence.length
    let content :=
      if ['j', 's', 'o', 'n'].isPrefixOf afterFence then afterFence.drop 4 else afterFence
    let reversed := (trimRight content).reverse
    trimChars (dropMarks fence reversed.length reversed).reverse
  else chars

/-- The part of a text from its first opening brace to its last closing one. -/
def braceSpan? (chars : List Char) : Option (List Char) :=
  -- The opening brace has to come first.
  let start := (chars.takeWhile (· != '{')).length
  let afterLast := (chars.reverse.dropWhile (· != '}')).length
  if start + 1 < afterLast then some ((chars.take afterLast).drop start) else none

/-- The text of the object in a reply, whatever prose or fence surrounds it. -/
def extractObject? (text : String) : Option String :=
  -- A reply that is all object is taken as it is.
  let body := unfence (trimChars text.toList)
  if body.head? == some '{' && body.getLast? == some '}' then some (String.ofList body)
  else (braceSpan? body).map String.ofList

/-- The declared fields in a text reply. -/
def parseStructured (text : String) (schema : OutputSchema) : Except ModelError (Dictionary Json) :=
  -- The object is found, read and checked in turn.
  match extractObject? text with
  | none => .error (.unexpectedReply "response does not contain a JSON object")
  | some candidate =>
    match Json.parse? candidate with
    | none => .error (.unexpectedReply "malformed JSON object: not a JSON value")
    | some (.object fields) =>
      (schema.validate fields).mapError fun fault => .unexpectedReply fault.message
    | some other =>
      .error (.unexpectedReply ("expected a JSON object but got " ++ other.typeName))

/-- The value that a reply stands for, which a schema restricts to its fields. -/
def interpretReply (reply : ModelReply) (schema : Option OutputSchema) : Except ModelError Json :=
  -- Without a schema a reply stands for itself.
  match reply, schema with
  | .text content, none => .ok (.text content)
  | .fields content, none => .ok (.ofDictionary content)
  | .text content, some schema => (parseStructured content schema).map Json.ofDictionary
  | .fields content, some schema =>
    match schema.validate content.entries with
    | .ok valid => .ok (.ofDictionary valid)
    | .error fault => .error (.unexpectedReply fault.message)

end PipelineTrial
