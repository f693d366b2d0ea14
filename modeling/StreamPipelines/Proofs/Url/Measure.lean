import StreamPipelines.Proofs.Url.Escapes

/-!
How much of a path is left when it is read. Every segment is counted with its slash and the bytes
that it stands for. Reading never adds to the count of the text, and keeps it only where nothing
is left out, stands for something else or names a place.
-/

namespace StreamPipelines
namespace Url

theorem byteCount_le_of_sublist {cs ds : List Char} (h : cs.Sublist ds) :
    byteCount cs ≤ byteCount ds := by
  induction h with
  | slnil => exact Nat.le_refl _
  | cons d _ ih =>
      rw [byteCount_cons]
      omega
  | cons_cons d _ ih =>
      rw [byteCount_cons, byteCount_cons]
      omega

/-- A text of which characters were left out has fewer bytes. -/
theorem eq_of_sublist {cs ds : List Char} (h : cs.Sublist ds) (same : byteCount ds ≤ byteCount cs) :
    cs = ds := by
  induction h with
  | slnil => rfl
  | cons d sub _ =>
      have fewer := byteCount_le_of_sublist sub
      have present := length_utf8EncodeChar_pos d
      rw [byteCount_cons] at same
      omega
  | cons_cons d _ ih =>
      rw [byteCount_cons, byteCount_cons] at same
      rw [ih (by omega)]

/-- The count of segments: for each a slash and what is counted of it. -/
def total (count : List Char → Nat) : List (List Char) → Nat
  | [] => 0
  | s :: segments => 1 + count s + total count segments

/-- The count of segments by the bytes that they stand for. -/
def weight : List (List Char) → Nat :=
  total fun s => (partBytes s).length

@[simp] theorem weight_nil : weight [] = 0 :=
  rfl

@[simp] theorem weight_cons (s : List Char) (segments : List (List Char)) :
    weight (s :: segments) = 1 + (partBytes s).length + weight segments :=
  rfl

@[simp] theorem weight_append (segments more : List (List Char)) :
    weight (segments ++ more) = weight segments + weight more := by
  induction segments with
  | nil => rw [List.nil_append, weight_nil, Nat.zero_add]
  | cons s segments ih =>
      rw [List.cons_append, weight_cons, weight_cons, ih]
      omega

@[simp] theorem weight_reverse (segments : List (List Char)) :
    weight segments.reverse = weight segments := by
  induction segments with
  | nil => rfl
  | cons s segments ih =>
      rw [List.reverse_cons, weight_append, weight_cons, weight_cons, weight_nil, ih]
      omega

def namesPlace (segment : List Char) : Bool :=
  isHere segment || isAbove segment

theorem length_partBytes_pos {segment : List Char} (h : namesPlace segment = true) :
    0 < (partBytes segment).length := by
  simp only [namesPlace, isHere, isAbove, Bool.or_eq_true, decide_eq_true_eq] at h
  obtain h | h := h
  · rw [partBytes_of_decodeDots (n := 1) h]
    decide
  · rw [partBytes_of_decodeDots (n := 2) h]
    decide

theorem weight_above_le (place : List (List Char)) : weight (above place) ≤ weight place := by
  unfold above
  split
  · exact Nat.le_refl _
  · split
    · exact Nat.le_refl _
    · rw [weight_cons]
      omega

/-- Each segment that names a place makes the path shorter. -/
theorem weight_follow_le (place segments : List (List Char)) :
    weight (follow place segments) + segments.countP namesPlace ≤
      weight place + weight segments := by
  fun_induction follow place segments with
  | case1 place => simp
  | case2 place last isAbove =>
      have names : namesPlace last = true := by simp [namesPlace, isAbove]
      have present := length_partBytes_pos names
      have higher := weight_above_le place
      have empty : (partBytes []).length = 0 := rfl
      simp only [weight_reverse, weight_cons, weight_nil, empty, List.countP_singleton, names,
        if_true]
      omega
  | case3 place last _ isHere =>
      have names : namesPlace last = true := by simp [namesPlace, isHere]
      have present := length_partBytes_pos names
      have empty : (partBytes []).length = 0 := rfl
      simp only [weight_reverse, weight_cons, weight_nil, empty, List.countP_singleton, names,
        if_true]
      omega
  | case4 place last notAbove notHere =>
      have names : namesPlace last = false := by simp [namesPlace, notAbove, notHere]
      simp only [weight_reverse, weight_cons, weight_nil, List.countP_singleton, names,
        Bool.false_eq_true, if_false]
      omega
  | case5 place segment more _ isAbove ih =>
      have names : namesPlace segment = true := by simp [namesPlace, isAbove]
      have present := length_partBytes_pos names
      have higher := weight_above_le place
      rw [List.countP_cons_of_pos names, weight_cons]
      omega
  | case6 place segment more _ _ isHere ih =>
      have names : namesPlace segment = true := by simp [namesPlace, isHere]
      have present := length_partBytes_pos names
      rw [List.countP_cons_of_pos names, weight_cons]
      omega
  | case7 place segment more _ notAbove notHere ih =>
      have names : ¬namesPlace segment = true := by simp [namesPlace, notAbove, notHere]
      rw [List.countP_cons_of_neg names, weight_cons]
      rw [weight_cons] at ih
      omega

/-- Segments that name no place are passed over one by one. -/
theorem follow_of_namesPlace {place segments : List (List Char)}
    (h : ∀ s ∈ segments, namesPlace s = false) :
    follow place segments = place.reverse ++ segments := by
  have stays {s : List Char} (h : namesPlace s = false) : isAbove s = false ∧ isHere s = false :=
    (Bool.or_eq_false_iff.mp h).symm
  fun_induction follow place segments with
  | case1 place => rw [List.append_nil]
  | case2 place last isAbove => simp [(stays (h last (by simp))).1] at isAbove
  | case3 place last _ isHere => simp [(stays (h last (by simp))).2] at isHere
  | case4 place last _ _ => simp
  | case5 place segment more _ isAbove _ => simp [(stays (h segment (by simp))).1] at isAbove
  | case6 place segment more _ _ isHere _ => simp [(stays (h segment (by simp))).2] at isHere
  | case7 place segment more _ _ _ ih =>
      rw [ih fun s hs => h s (List.mem_cons_of_mem _ hs)]
      simp

theorem length_splitOnP (p : Char → Bool) (cs : List Char) :
    (cs.splitOnP p).length = cs.countP p + 1 := by
  induction cs with
  | nil => rfl
  | cons c cs ih =>
      rw [List.splitOnP_cons_eq_if_modifyHead]
      by_cases cut : p c = true
      · rw [if_pos cut, List.length_cons, ih, List.countP_cons_of_pos cut]
      · rw [if_neg cut, List.length_modifyHead, ih, List.countP_cons_of_neg cut]

theorem isSlash_ascii {c : Char} (h : isSlash c = true) :
    (String.utf8EncodeChar c).length = 1 := by
  simp only [isSlash, Bool.or_eq_true, decide_eq_true_eq] at h
  obtain rfl | rfl := h <;> decide

theorem total_byteCount_splitOnP (cs : List Char) :
    total byteCount (cs.splitOnP isSlash) = 1 + byteCount cs := by
  induction cs with
  | nil => rfl
  | cons c cs ih =>
      rw [List.splitOnP_cons_eq_if_modifyHead, byteCount_cons]
      split
      · rename_i slash
        rw [total, ih, byteCount_nil, isSlash_ascii slash]
      · cases parts : cs.splitOnP isSlash with
        | nil => exact absurd parts (List.splitOnP_ne_nil isSlash cs)
        | cons first more =>
            rw [parts] at ih
            simp only [List.modifyHead_cons, total, byteCount_cons] at ih ⊢
            omega

/-- Reading segments counts no more than was written. -/
theorem weight_percentEncode_le (parts : List (List Char)) :
    weight (parts.map (percentEncode inPathSet)) ≤ total byteCount parts := by
  induction parts with
  | nil => exact Nat.le_refl 0
  | cons part parts ih =>
      have fewer : (partBytes part).length ≤ byteCount part := length_partBytes_le part
      simp only [List.map_cons, weight_cons, partBytes_percentEncode, total]
      omega

/-- If it counts as much, no percent sign stands for anything but itself. -/
theorem hasNoEscape_of_weight {parts : List (List Char)}
    (same : total byteCount parts ≤ weight (parts.map (percentEncode inPathSet))) :
    ∀ part ∈ parts, HasNoEscape part := by
  induction parts with
  | nil => exact nofun
  | cons part parts ih =>
      have fewer : (partBytes part).length ≤ byteCount part := length_partBytes_le part
      have others := weight_percentEncode_le parts
      simp only [List.map_cons, weight_cons, partBytes_percentEncode, total] at same
      refine List.forall_mem_cons.mpr ⟨(hasNoEscape_iff part).mpr ?_, ih (by omega)⟩
      omega

end Url
end StreamPipelines
