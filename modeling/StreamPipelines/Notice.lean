/-!
Notices tell the user how a call has ended.
-/

namespace StreamPipelines

inductive Notice where
  | success (text : String)
  | failure (title text : String)
  deriving DecidableEq

/-- The lines in which a notice is shown. -/
def Notice.text : Notice → String
  | .success text => "ok: " ++ text ++ "\n"
  | .failure title text => "error: " ++ title ++ "\n  " ++ text ++ "\n"

end StreamPipelines
