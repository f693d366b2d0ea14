import StreamPipelines.Binary64.Shortest
import StreamPipelines.Table

/-!
JSON values. Numbers are exact integers as long as they fit 64 bits, signed or unsigned, and
floating-point numbers otherwise; the two kinds never compare equal. The members of an object are
a list here, in the order in which they are read and written; values that come from text have
their members in the order of the names, without repetition (`Json.ofTable`).
-/

namespace StreamPipelines

/-- The range from −2⁶³, the least signed 64-bit word, up to below 2⁶⁴. -/
def IsWord (i : Int) : Prop :=
  -0x8000000000000000 ≤ i ∧ i < 0x10000000000000000

instance (i : Int) : Decidable (IsWord i) :=
  inferInstanceAs (Decidable (_ ∧ _))

theorem isWord_toNat (w : UInt64) : IsWord w.toNat := by
  have := w.toNat_lt
  constructor <;> omega

inductive Json.Number where
  | int (value : Int) (isWord : IsWord value)
  | float (value : Binary64)
  deriving DecidableEq

inductive Json where
  | null
  | bool (value : Bool)
  | num (value : Json.Number)
  | str (value : String)
  | arr (items : List Json)
  | obj (members : List (String × Json))

namespace Json

instance : Inhabited Json :=
  ⟨.null⟩

def Number.ofWord (w : UInt64) : Number :=
  .int w.toNat (isWord_toNat w)

/-- The number as an unsigned word, if it is one. -/
def Number.word? : Number → Option UInt64
  | .int i _ => if 0 ≤ i then some (UInt64.ofNat i.toNat) else none
  | .float _ => none

def ofTable (t : Table Json) : Json :=
  .obj t.entries

def ofStrings (ss : List String) : Json :=
  .arr (ss.map .str)

def ofOption : Option Json → Json
  | none => .null
  | some v => v

mutual

def decEq : (a b : Json) → Decidable (a = b)
  | .null, .null => isTrue rfl
  | .bool a, .bool b =>
      if h : a = b then isTrue (by rw [h]) else isFalse fun e => h (Json.bool.inj e)
  | .num a, .num b =>
      if h : a = b then isTrue (by rw [h]) else isFalse fun e => h (Json.num.inj e)
  | .str a, .str b =>
      if h : a = b then isTrue (by rw [h]) else isFalse fun e => h (Json.str.inj e)
  | .arr a, .arr b =>
      match decEqItems a b with
      | isTrue h => isTrue (by rw [h])
      | isFalse h => isFalse fun e => h (Json.arr.inj e)
  | .obj a, .obj b =>
      match decEqMembers a b with
      | isTrue h => isTrue (by rw [h])
      | isFalse h => isFalse fun e => h (Json.obj.inj e)
  | .null, .bool _ | .null, .num _ | .null, .str _ | .null, .arr _ | .null, .obj _
  | .bool _, .null | .bool _, .num _ | .bool _, .str _ | .bool _, .arr _ | .bool _, .obj _
  | .num _, .null | .num _, .bool _ | .num _, .str _ | .num _, .arr _ | .num _, .obj _
  | .str _, .null | .str _, .bool _ | .str _, .num _ | .str _, .arr _ | .str _, .obj _
  | .arr _, .null | .arr _, .bool _ | .arr _, .num _ | .arr _, .str _ | .arr _, .obj _
  | .obj _, .null | .obj _, .bool _ | .obj _, .num _ | .obj _, .str _ | .obj _, .arr _ =>
      isFalse nofun

def decEqItems : (a b : List Json) → Decidable (a = b)
  | [], [] => isTrue rfl
  | [], _ :: _ | _ :: _, [] => isFalse nofun
  | a :: as, b :: bs =>
      match decEq a b, decEqItems as bs with
      | isTrue h, isTrue t => isTrue (by rw [h, t])
      | isFalse h, _ => isFalse fun e => h (List.cons.inj e).1
      | _, isFalse t => isFalse fun e => t (List.cons.inj e).2

def decEqMembers : (a b : List (String × Json)) → Decidable (a = b)
  | [], [] => isTrue rfl
  | [], _ :: _ | _ :: _, [] => isFalse nofun
  | (k, a) :: as, (l, b) :: bs =>
      match decEq a b, decEqMembers as bs with
      | isTrue h, isTrue t =>
          if n : k = l then isTrue (by rw [h, t, n])
          else isFalse fun e => n (Prod.mk.inj (List.cons.inj e).1).1
      | isFalse h, _ => isFalse fun e => h (Prod.mk.inj (List.cons.inj e).1).2
      | _, isFalse t => isFalse fun e => t (List.cons.inj e).2

end

instance : DecidableEq Json :=
  decEq

end Json
end StreamPipelines
