import PipelineTrial.Pipeline.Document
import PipelineTrial.Pipeline.Substitution
import PipelineTrial.Yaml.Document

/-! Loading pipelines from document texts. -/

namespace PipelineTrial

/-- The tree of a document text. -/
def readDocument (document : String) : Converted Yaml :=
  -- A text that cannot be read is a fault of the whole document.
  match Yaml.parse document with
  | .ok tree => .ok tree
  | .error fault => (faultHere (.unreadable fault.message)).within (.field "document")

/-- The definition in a document whose texts stand for themselves. -/
def parsePipeline (document : String) : Converted Definition := do
  -- References to variables are ordinary text.
  let tree ← readDocument document
  convertDocument tree

/-- The definition in a document tree whose texts refer to an environment. -/
def loadTree (environment : Environment) (tree : Yaml) : Except PipelineError Definition :=
  -- All references are resolved before anything is converted.
  match substitute environment false tree with
  | .error missing => .error (.missingVariable missing.name)
  | .ok resolved => (convertDocument resolved).mapError DocumentError.toPipelineError

/-- The definition in a document whose texts refer to an environment. -/
def loadPipeline (document : String) (environment : Environment) :
    Except PipelineError Definition :=
  -- The document is read before its references are resolved.
  match readDocument document with
  | .error error => .error error.toPipelineError
  | .ok tree => loadTree environment tree

end PipelineTrial
