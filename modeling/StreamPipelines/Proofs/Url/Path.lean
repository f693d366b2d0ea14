import Mathlib.Data.List.Induction
import StreamPipelines.Proofs.Url.Authority

/-!
Paths read back. The segments that reading a path gives stay as they are when the path is read
again: nothing in them is encoded once more or parts them, and none of them names a place. So a
path can be cut behind any of its segments and be gone on with from there.
-/

namespace StreamPipelines
namespace Url

/-- Reading the segment as part of a path gives this very segment. -/
structure IsCanonical (segment : List Char) : Prop where
  unescaped : ∀ c ∈ segment, Unescaped inPathSet c
  whole : ∀ c ∈ segment, isSlash c = false
  notHere : isHere segment = false
  notAbove : isAbove segment = false

theorem isCanonical_nil : IsCanonical [] :=
  ⟨nofun, nofun, rfl, rfl⟩

theorem isCanonical_iff {segment : List Char} :
    IsCanonical segment ↔
      segment.any (fun c => alwaysEncoded c || inPathSet c || isSlash c) = false ∧
        isHere segment = false ∧ isAbove segment = false := by
  simp only [List.any_eq_false, Bool.or_eq_true, not_or, Bool.not_eq_true]
  constructor
  · intro h
    exact ⟨fun c hc => ⟨⟨(h.unescaped c hc).plain, (h.unescaped c hc).outside⟩, h.whole c hc⟩,
      h.notHere, h.notAbove⟩
  · rintro ⟨chars, notHere, notAbove⟩
    exact ⟨fun c hc => ⟨(chars c hc).1.1, (chars c hc).1.2⟩, fun c hc => (chars c hc).2, notHere,
      notAbove⟩

instance (segment : List Char) : Decidable (IsCanonical segment) :=
  decidable_of_iff _ isCanonical_iff.symm

theorem inUserInfoSet_of_inPathSet (c : Char) (h : inPathSet c = true) :
    inUserInfoSet c = true := by
  simp [inUserInfoSet, h]

theorem Unescaped.ne_blank {c : Char} (h : Unescaped inPathSet c) :
    isOuterBlank c = false ∧ isDropped c = false := by
  have plain := h.plain
  have space := h.ne (d := ' ') (by decide)
  simp only [alwaysEncoded, Bool.or_eq_false_iff, decide_eq_false_iff_not] at plain
  have above : ¬c.toNat ≤ 0x20 := by
    intro below
    have code : c.toNat = 0x20 := by omega
    exact space (by rw [← Char.ofNat_toNat c, code])
  refine ⟨by simp [isOuterBlank, above], ?_⟩
  simp only [isDropped, Bool.or_eq_false_iff, decide_eq_false_iff_not]
  refine ⟨⟨?_, ?_⟩, ?_⟩ <;> rintro rfl <;> exact absurd plain.1 (by decide)

theorem notMem_of_mem_splitOnP {p : Char → Bool} {cs segment : List Char}
    (h : segment ∈ cs.splitOnP p) : ∀ c ∈ segment, p c = false := by
  induction cs generalizing segment with
  | nil =>
      rw [List.splitOnP_nil, List.mem_singleton] at h
      rw [h]
      exact nofun
  | cons c cs ih =>
      rw [List.splitOnP_cons_eq_if_modifyHead] at h
      split at h
      · obtain rfl | h := List.mem_cons.mp h
        · exact nofun
        · exact ih h
      · rename_i other
        cases parts : cs.splitOnP p with
        | nil => exact absurd parts (List.splitOnP_ne_nil p cs)
        | cons first more =>
            rw [parts, List.modifyHead_cons] at h
            obtain rfl | h := List.mem_cons.mp h
            · refine List.forall_mem_cons.mpr ⟨by simpa using other, ih ?_⟩
              rw [parts]
              exact List.mem_cons_self
            · refine ih ?_
              rw [parts]
              exact List.mem_cons_of_mem first h

theorem isSlash_of_mem_percentEncode {cs : List Char} (whole : ∀ c ∈ cs, isSlash c = false) :
    ∀ c ∈ percentEncode inPathSet cs, isSlash c = false := by
  intro c hc
  obtain ⟨d, hd, hc⟩ := List.mem_flatMap.mp hc
  unfold encodedChar at hc
  split at hc
  · obtain ⟨b, -, hc⟩ := List.mem_flatMap.mp hc
    simp only [encodedByte, List.mem_cons, List.not_mem_nil, or_false] at hc
    have digit (n : Nat) : isSlash (Text.hexDigitUpper n) = false := by
      have stays := (unescaped_hexDigitUpper n).inside.stays
      simp only [endsAuthority, Bool.or_eq_false_iff] at stays
      exact stays.1.1
    obtain rfl | rfl | rfl := hc
    · decide
    · exact digit _
    · exact digit _
  · cases List.mem_singleton.mp hc
    exact whole c hd

theorem mem_of_mem_above {place : List (List Char)} {s : List Char} (h : s ∈ above place) :
    s ∈ place := by
  unfold above at h
  split at h
  · exact h
  · split at h
    · exact h
    · exact List.mem_cons_of_mem _ h

theorem isCanonical_of_mem_follow {place segments : List (List Char)}
    (kept : ∀ s ∈ place, IsCanonical s)
    (written : ∀ s ∈ segments, ∀ c ∈ s, Unescaped inPathSet c ∧ isSlash c = false) :
    ∀ s ∈ follow place segments, IsCanonical s := by
  have higher {place : List (List Char)} (kept : ∀ s ∈ place, IsCanonical s) :
      ∀ s ∈ above place, IsCanonical s := fun s hs => kept s (mem_of_mem_above hs)
  have added {place : List (List Char)} {s : List Char} (first : IsCanonical s)
      (kept : ∀ s ∈ place, IsCanonical s) : ∀ t ∈ s :: place, IsCanonical t :=
    List.forall_mem_cons.mpr ⟨first, kept⟩
  have canonical {s : List Char} (written : ∀ c ∈ s, Unescaped inPathSet c ∧ isSlash c = false)
      (notAbove : ¬isAbove s = true) (notHere : ¬isHere s = true) : IsCanonical s :=
    ⟨fun c hc => (written c hc).1, fun c hc => (written c hc).2,
      Bool.eq_false_iff.mpr notHere, Bool.eq_false_iff.mpr notAbove⟩
  fun_induction follow place segments with
  | case1 place => exact fun s hs => kept s (List.mem_reverse.mp hs)
  | case2 place last _ =>
      exact fun s hs => added isCanonical_nil (higher kept) s (List.mem_reverse.mp hs)
  | case3 place last _ _ =>
      exact fun s hs => added isCanonical_nil kept s (List.mem_reverse.mp hs)
  | case4 place last notAbove notHere =>
      have final := canonical (written last (by simp)) notAbove notHere
      exact fun s hs => added final kept s (List.mem_reverse.mp hs)
  | case5 place segment more _ _ ih =>
      exact ih (higher kept) fun s hs => written s (List.mem_cons_of_mem _ hs)
  | case6 place segment more _ _ _ ih =>
      exact ih kept fun s hs => written s (List.mem_cons_of_mem _ hs)
  | case7 place segment more _ notAbove notHere ih =>
      exact ih (added (canonical (written segment (by simp)) notAbove notHere) kept)
        fun s hs => written s (List.mem_cons_of_mem _ hs)

theorem isCanonical_of_mem_pathSegments {cs segment : List Char}
    (h : segment ∈ pathSegments cs) : IsCanonical segment := by
  unfold pathSegments at h
  refine isCanonical_of_mem_follow (fun s hs => absurd hs List.not_mem_nil)
    (fun s hs c hc => ?_) segment h
  obtain ⟨part, parted, rfl⟩ := List.mem_map.mp hs
  exact ⟨unescaped_of_mem_percentEncode inUserInfoSet_of_inPathSet hc,
    isSlash_of_mem_percentEncode (notMem_of_mem_splitOnP parted) c hc⟩

/-- Segments that stay are passed over one by one. -/
theorem follow_append {place segments rest : List (List Char)}
    (h : ∀ s ∈ segments, IsCanonical s) (more : rest ≠ []) :
    follow place (segments ++ rest) = follow (segments.reverse ++ place) rest := by
  induction segments generalizing place with
  | nil => rfl
  | cons s segments ih =>
      obtain ⟨first, others⟩ := List.forall_mem_cons.mp h
      have further : follow (s :: place) (segments ++ rest) =
          follow (segments.reverse ++ s :: place) rest := ih others
      obtain ⟨t, ts, next⟩ : ∃ t ts, segments ++ rest = t :: ts :=
        List.exists_cons_of_ne_nil (List.append_ne_nil_of_right_ne_nil _ more)
      rw [next] at further
      rw [List.cons_append, next, follow, first.notAbove, first.notHere]
      · simpa using further
      · exact List.cons_ne_nil t ts

theorem follow_of_canonical {place segments : List (List Char)}
    (h : ∀ s ∈ segments, IsCanonical s) : follow place segments = place.reverse ++ segments := by
  induction segments using List.reverseRecOn with
  | nil => rw [List.append_nil, follow]
  | append_singleton segments last _ =>
      have before : ∀ s ∈ segments, IsCanonical s := fun s hs => h s (by simp [hs])
      have final : IsCanonical last := h last (by simp)
      rw [follow_append before (List.cons_ne_nil last []), follow, final.notAbove, final.notHere]
      simp

theorem splitOnP_slash (cs : List Char) :
    ('/' :: cs).splitOnP isSlash = [] :: cs.splitOnP isSlash := by
  rw [List.splitOnP_cons_eq_if_modifyHead, if_pos (by decide)]

theorem splitOnP_segments {segments : List (List Char)}
    (whole : ∀ s ∈ segments, ∀ c ∈ s, isSlash c = false) (rest : List Char) :
    (segments.flatMap ('/' :: ·) ++ '/' :: rest).splitOnP isSlash =
      [] :: segments ++ rest.splitOnP isSlash := by
  have slash : isSlash '/' = true := by decide
  induction segments with
  | nil => exact splitOnP_slash rest
  | cons s segments ih =>
      obtain ⟨first, others⟩ := List.forall_mem_cons.mp whole
      have more := ih others
      -- Behind a segment comes a slash, whether another segment follows or the rest.
      obtain ⟨tail, text⟩ : ∃ tail, segments.flatMap ('/' :: ·) ++ '/' :: rest = '/' :: tail := by
        cases segments with
        | nil => exact ⟨rest, rfl⟩
        | cons t segments => exact ⟨_, rfl⟩
      rw [text, splitOnP_slash, List.cons_append, List.cons_inj_right] at more
      rw [List.flatMap_cons, List.append_assoc, text, List.cons_append, splitOnP_slash,
        List.splitOnP_append_cons_of_forall_mem first '/' slash, more]
      rfl

/-- Behind segments that stay, a path goes on from their place. -/
theorem pathSegments_append {segments : List (List Char)} (h : ∀ s ∈ segments, IsCanonical s)
    (rest : List Char) :
    pathSegments (segments.flatMap ('/' :: ·) ++ '/' :: rest) =
      follow segments.reverse ((rest.splitOnP isSlash).map (percentEncode inPathSet)) := by
  have split := splitOnP_segments (fun s hs => (h s hs).whole) rest
  have encoded : segments.map (percentEncode inPathSet) = segments :=
    (List.map_congr_left fun s hs => percentEncode_of_unescaped (h s hs).unescaped).trans
      (List.map_id' segments)
  -- The first slash stands before the first segment and parts nothing.
  have parts : pathSegments (segments.flatMap ('/' :: ·) ++ '/' :: rest) =
      follow [] ((segments ++ rest.splitOnP isSlash).map (percentEncode inPathSet)) := by
    obtain ⟨tail, text⟩ : ∃ tail, segments.flatMap ('/' :: ·) ++ '/' :: rest = '/' :: tail := by
      cases segments with
      | nil => exact ⟨rest, rfl⟩
      | cons t segments => exact ⟨_, rfl⟩
    rw [text] at split ⊢
    rw [splitOnP_slash, List.cons_append, List.cons_inj_right] at split
    rw [← split]
    rfl
  rw [parts, List.map_append, encoded, follow_append h, List.append_nil]
  simp [List.splitOnP_ne_nil]

/-- A path of such segments is read back from its text. -/
theorem pathSegments_flatMap {segments : List (List Char)} (h : ∀ s ∈ segments, IsCanonical s)
    (present : segments ≠ []) : pathSegments (segments.flatMap ('/' :: ·)) = segments := by
  obtain rfl | ⟨front, last, rfl⟩ := List.eq_nil_or_concat segments
  · exact absurd rfl present
  · rw [List.concat_eq_append] at *
    have before : ∀ s ∈ front, IsCanonical s := fun s hs => h s (by simp [hs])
    have final : IsCanonical last := h last (by simp)
    have read := pathSegments_append before last
    rw [List.splitOnP_eq_singleton final.whole, List.map_singleton,
      percentEncode_of_unescaped final.unescaped, follow_of_canonical (by simpa using final),
      List.reverse_reverse] at read
    simpa using read

/-- The segments of the path up to the last one that is not empty. -/
def place (u : Url) : List (List Char) :=
  (u.path.reverse.dropWhile (·.isEmpty)).reverse

theorem mem_path_of_mem_place {u : Url} {s : List Char} (h : s ∈ u.place) : s ∈ u.path := by
  have kept := (List.dropWhile_suffix (fun t : List Char => t.isEmpty)).subset
    (List.mem_reverse.mp h)
  exact List.mem_reverse.mp kept

/-- The text of the path without its trailing slashes. -/
theorem trimEndOf_pathChars {u : Url} (h : ∀ s ∈ u.path, IsCanonical s) :
    Text.trimEndOf '/' u.pathChars = u.place.flatMap ('/' :: ·) := by
  unfold pathChars place
  generalize u.path = path at *
  induction path using List.reverseRecOn with
  | nil => rfl
  | append_singleton path last ih =>
      have before := ih fun s hs => h s (by simp [hs])
      obtain rfl | ⟨front, c, rfl⟩ := List.eq_nil_or_concat last
      · simpa [Text.trimEndOf] using before
      · have other : c ≠ '/' := by
          rintro rfl
          exact absurd ((h _ List.mem_concat_self).whole '/' (by simp)) (by decide)
        simp [Text.trimEndOf, other]

end Url
end StreamPipelines
