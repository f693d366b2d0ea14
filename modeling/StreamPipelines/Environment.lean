import StreamPipelines.Table
import StreamPipelines.Text.Blank
import StreamPipelines.Text.Utf8

/-!
The variables of a process. A value is a sequence of bytes and may be no text.
-/

namespace StreamPipelines

abbrev Environment : Type :=
  Table (List UInt8)

namespace Environment

def text? (env : Environment) (name : String) : Option String :=
  (env.get? name).bind Text.ofUtf8?

/-- The trimmed text of a variable; a blank one counts as unset. -/
def read (env : Environment) (name : String) : Option String :=
  (env.text? name).bind fun s =>
    let s := Text.trim s
    if s.isEmpty then none else some s

end Environment
end StreamPipelines
