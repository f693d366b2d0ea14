import StreamPipelines.Message.Basic

/-!
The preview of a message: a head line, the facts that the service knows of it, and a line for each
visible field. The timestamp has a line of its own.
-/

namespace StreamPipelines
namespace Message

def headLine (m : Message) : String :=
  "-- " ++ (if m.id.isEmpty then "(no id)" else m.id) ++
    (match m.index with
     | none => ""
     | some index => " [" ++ index ++ "]") ++ "\n"

def entryLine (name value : String) : String :=
  "   " ++ name ++ ": " ++ value ++ "\n"

def receivedLine (m : Message) : String :=
  match m.timestamp with
  | none => ""
  | some timestamp => entryLine "received" timestamp

def streamsLine (m : Message) : String :=
  if m.streamIds.isEmpty then "" else entryLine "streams" (", ".intercalate m.streamIds)

def fieldLines (m : Message) : List String :=
  (m.visibleTexts.entries.filter (·.1 ≠ "timestamp")).map fun e => entryLine e.1 e.2

def preview (m : Message) : String :=
  m.headLine ++ m.receivedLine ++ m.streamsLine ++ String.join m.fieldLines

end Message
end StreamPipelines
