/-!
The endpoints of the service, and where they are found below its base address. The endpoints for
pipelines belong to a plugin and share its path; stored messages are served by the core.
-/

namespace StreamPipelines

inductive Endpoint where
  | connections
  | assignStream
  | assignPipeline
  | simulate
  | message (index id : String)
  deriving DecidableEq

namespace Endpoint

def pluginPath : String :=
  "/plugins/org.graylog.plugins.pipelineprocessor"

/-- Index and message id are put in as they are. -/
def path : Endpoint → String
  | .connections => pluginPath ++ "/system/pipelines/connections"
  | .assignStream => pluginPath ++ "/system/pipelines/connections/to_stream"
  | .assignPipeline => pluginPath ++ "/system/pipelines/connections/to_pipeline"
  | .simulate => pluginPath ++ "/system/pipelines/simulate"
  | .message index id => "/messages/" ++ index ++ "/" ++ id

end Endpoint
end StreamPipelines
