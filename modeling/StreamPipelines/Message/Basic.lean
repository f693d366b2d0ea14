import StreamPipelines.Wire.Decode
import StreamPipelines.Wire.Encode
import StreamPipelines.Wire.Read

/-!
Messages as the service delivers them: a table of fields, and beside it what the service knows of
the message. Some fields are internal; the user sees the others, each with a text for its value.
-/

namespace StreamPipelines

structure Message where
  fields : Table Json
  index : Option String
  highlights : Table Json
  decoration : Option Json
  deriving DecidableEq

namespace Message

/-- Simulated messages have null where stored ones have a table of highlights. -/
def schema : Schema Message :=
  .record "RawMessage"
    (.required "message" .table
      (.defaulted "index" (.option .text) none
        (.defaulted "highlight_ranges" (.nullAs .empty .table) .empty
          (.defaulted "decoration_stats" (.option .any) none .nil))))
    (fun (fields, index, highlights, decoration, _) => ⟨fields, index, highlights, decoration⟩)
    (fun m => (m.fields, m.index, m.highlights, m.decoration, ()))

/-- The text of a field's value: nothing for null, a string as it is, else the JSON text. -/
def valueText : Json → String
  | .null => ""
  | .str s => s
  | v => v.text

/-- The text of a field that is there and not null. -/
def fieldText? (m : Message) (name : String) : Option String :=
  match m.fields.get? name with
  | none | some .null => none
  | some v => some (valueText v)

def id (m : Message) : String :=
  (m.fieldText? "_id").getD ""

def timestamp (m : Message) : Option String :=
  m.fieldText? "timestamp"

def sourceNode (m : Message) : Option String :=
  m.fieldText? "gl2_source_node"

def sourceInput (m : Message) : Option String :=
  m.fieldText? "gl2_source_input"

def stringItem? : Json → Option String
  | .str s => some s
  | _ => none

/-- The strings in the list of streams; without a list there are none. -/
def streamIds (m : Message) : List String :=
  match m.fields.get? "streams" with
  | some (.arr items) => items.filterMap stringItem?
  | _ => []

/-- Fields that are not shown to the user. -/
def isInternal (name : String) : Bool :=
  name == "_id" || name == "streams" || "gl2_".toList.isPrefixOf name.toList

def visibleFields (m : Message) : Table Json :=
  m.fields.filterNames (!isInternal ·)

def visibleTexts (m : Message) : Table String :=
  m.visibleFields.mapValues valueText

end Message
end StreamPipelines
