import StreamPipelines.Message.Basic

/-!
The summary of a message: everything that is known of it and derived from it, as one JSON object.
-/

namespace StreamPipelines
namespace Message

def optionalText : Option String → Json
  | none => .null
  | some s => .str s

def summary (m : Message) : Json :=
  .ofTable (.ofList [
    ("id", .str m.id),
    ("index", optionalText m.index),
    ("timestamp", optionalText m.timestamp),
    ("stream_ids", .ofStrings m.streamIds),
    ("source_node_id", optionalText m.sourceNode),
    ("source_input_id", optionalText m.sourceInput),
    ("fields", .ofTable m.fields),
    ("filtered_fields", .ofTable m.visibleFields),
    ("formatted_fields", .ofTable (m.visibleTexts.mapValues .str)),
    ("highlight_ranges", .ofTable m.highlights),
    ("decoration_stats", .ofOption m.decoration)])

end Message
end StreamPipelines
