import PipelineTrial.Environment
import PipelineTrial.Json.Printer
import PipelineTrial.Json.Reader

/-! Sessions: short identifiers, snapshots of environments, and snapshots as stored text. -/

namespace PipelineTrial

/-- A suite run's identity with the environment that every pipeline in it reads. -/
structure Session where
  id : String
  environment : Environment
  deriving DecidableEq

/-- The identifier of a session drawn from 32 random bits: eight hexadecimal digits. -/
def Session.idOfBits (bits : UInt32) : String :=
  -- Leading zeros are kept.
  let digits := Nat.toDigits 16 bits.toNat
  String.ofList (List.replicate (8 - digits.length) '0' ++ digits)

namespace Environment

/-- The environment as a JSON object. -/
def toJson (environment : Environment) : Json :=
  -- The order of names carries over.
  .object (environment.entries.map fun entry => (entry.1, .text entry.2))

/-- The text under which a snapshot is stored. -/
def stored (environment : Environment) : String := environment.toJson.pretty

/-- The texts of fields, when all of them are texts. -/
def texts? : List (String × Json) → Option (List (String × String))
  | [] => some []
  | (name, .text value) :: rest => (texts? rest).map ((name, value) :: ·)
  | _ => none

/-- The snapshot in a stored text. -/
def ofStored? (text : String) : Option Environment := do
  -- The last value of a repeated name wins, but all of them have to be texts.
  let fields ← Json.parseFields? text
  let pairs ← texts? fields
  some (Dictionary.ofList pairs)

end Environment

end PipelineTrial
