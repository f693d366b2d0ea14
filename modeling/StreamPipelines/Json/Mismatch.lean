import StreamPipelines.Json.Printer
import StreamPipelines.Text.Quoted

/-!
What can be wrong with a JSON value that is to become a value of a given form, and the words for
it.
-/

namespace StreamPipelines
namespace Json

/-- The forms that a value may be wanted in. -/
inductive Form where
  | string
  | sequence
  | map
  | word
  | record (name : String)
  deriving DecidableEq

def Form.phrase : Form → String
  | .string => "a string"
  | .sequence => "a sequence"
  | .map => "a map"
  | .word => "u64"
  | .record name => "struct " ++ name

/-- A value as far as a mismatch names it: the inside of arrays and objects is left out. -/
inductive Found where
  | null
  | boolean (value : Bool)
  | number (value : Number)
  | string (value : String)
  | sequence
  | map
  deriving DecidableEq

def Found.ofJson : Json → Found
  | .null => .null
  | .bool b => .boolean b
  | .num n => .number n
  | .str s => .string s
  | .arr _ => .sequence
  | .obj _ => .map

def Number.phrase : Number → String
  | .int i h => "integer `" ++ (Number.int i h).text ++ "`"
  | .float x => "floating point `" ++ (Number.float x).text ++ "`"

def Found.phrase : Found → String
  | .null => "null"
  | .boolean true => "boolean `true`"
  | .boolean false => "boolean `false`"
  | .number n => n.phrase
  | .string s => "string " ++ Text.quoted s
  | .sequence => "sequence"
  | .map => "map"

inductive Mismatch where
  | wrongType (found : Found) (wanted : Form)
  | wrongValue (found : Number) (wanted : Form)
  /-- An array for a record ends before a field that has no default. -/
  | shortArray (length : Nat) (record : String) (fields : Nat)
  | longArray (length : Nat)
  | missingField (name : String)
  | repeatedField (name : String)
  deriving DecidableEq

def Mismatch.message : Mismatch → String
  | .wrongType found wanted =>
      "invalid type: " ++ found.phrase ++ ", expected " ++ wanted.phrase
  | .wrongValue found wanted =>
      "invalid value: " ++ found.phrase ++ ", expected " ++ wanted.phrase
  | .shortArray length record fields =>
      "invalid length " ++ Text.natText length ++ ", expected " ++
        (Form.record record).phrase ++ " with " ++ Text.natText fields ++
        (if fields = 1 then " element" else " elements")
  | .longArray length =>
      "invalid length " ++ Text.natText length ++ ", expected fewer elements in array"
  | .missingField name => "missing field `" ++ name ++ "`"
  | .repeatedField name => "duplicate field `" ++ name ++ "`"

/-- How a number fails to be an unsigned word: an integer has the wrong value, any other number
the wrong type. -/
def Mismatch.notWord : Number → Mismatch
  | .int i h => .wrongValue (.int i h) .word
  | .float x => .wrongType (.number (.float x)) .word

end Json
end StreamPipelines
