import StreamPipelines.Wire.Decode
import StreamPipelines.Wire.Encode
import StreamPipelines.Wire.Read

/-!
Connections between streams and the pipelines that process them. The service keeps at most one
connection for a stream. Connections are changed by assignments: of pipelines to one stream, or
of one pipeline to streams; each replaces what was assigned before.
-/

namespace StreamPipelines

/-- The pipelines that are attached to one stream. -/
structure Connection where
  id : Option String
  streamId : String
  pipelineIds : TextSet
  deriving DecidableEq

def Connection.schema : Schema Connection :=
  .record "Connection"
    (.field "id" (.option .text) (some none) true
      (.required "stream_id" .text
        (.defaulted "pipeline_ids" .textSet .empty .nil)))
    (fun (id, streamId, pipelineIds, _) => ⟨id, streamId, pipelineIds⟩)
    (fun c => (c.id, c.streamId, c.pipelineIds, ()))

/-- The pipelines that a stream is to have. -/
structure StreamAssignment where
  streamId : String
  pipelineIds : List String
  deriving DecidableEq

def StreamAssignment.schema : Schema StreamAssignment :=
  .record "StreamConnectionRequest"
    (.required "stream_id" .text (.required "pipeline_ids" (.list .text) .nil))
    (fun (streamId, pipelineIds, _) => ⟨streamId, pipelineIds⟩)
    (fun a => (a.streamId, a.pipelineIds, ()))

/-- The streams that a pipeline is to have. -/
structure PipelineAssignment where
  pipelineId : String
  streamIds : List String
  deriving DecidableEq

def PipelineAssignment.schema : Schema PipelineAssignment :=
  .record "PipelineConnectionRequest"
    (.required "pipeline_id" .text (.required "stream_ids" (.list .text) .nil))
    (fun (pipelineId, streamIds, _) => ⟨pipelineId, streamIds⟩)
    (fun a => (a.pipelineId, a.streamIds, ()))

end StreamPipelines
