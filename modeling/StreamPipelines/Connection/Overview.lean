import StreamPipelines.Connection.Basic

/-!
The overview of connections for the user: a line for each stream with its pipelines.
-/

namespace StreamPipelines

/-- What stands in the place of something that has not arrived yet. -/
def loadingText : String :=
  "Loading..."

namespace Connection

def pipelinesText (c : Connection) : String :=
  if c.pipelineIds.items.isEmpty then "(none)" else ", ".intercalate c.pipelineIds.items

def overviewLine (c : Connection) : String :=
  c.streamId ++ " -> " ++ c.pipelinesText ++ "\n"

/-- Nothing is known of the connections until they have been listed. -/
def overview : Option (List Connection) → String
  | none => loadingText ++ "\n"
  | some [] => "No pipeline connections.\n"
  | some cs => String.join (cs.map overviewLine)

end Connection
end StreamPipelines
