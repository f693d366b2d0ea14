import StreamPipelines.Proofs.Sequencer

/-!
Runs of a sequencer: any calls in any order. The tokens that it is asked about and told to commit
may be its own or those of another sequencer, and may come repeatedly. A run keeps the tokens that
were issued, those that were tried, and those that were committed.

The main statement reads the answers off this record. The latest token is the one that was issued
last, and a token commits exactly if it is above all that were tried before, whether these were
committed or refused.
-/

namespace StreamPipelines
namespace Sequencer

inductive Call where
  | issue
  | isLatest (t : Token)
  | tryCommit (t : Token)

structure Run where
  sequencer : Sequencer
  issued : List Token
  tried : List Token
  committed : List Token

namespace Run

def new : Run :=
  ⟨.new, [], [], []⟩

def step (r : Run) : Call → Run
  | .issue =>
      let (t, s) := r.sequencer.issue
      { r with sequencer := s, issued := r.issued ++ [t] }
  | .isLatest _ => r
  | .tryCommit t =>
      let (taken, s) := r.sequencer.tryCommit t
      ⟨s, r.issued, r.tried ++ [t], if taken then r.committed ++ [t] else r.committed⟩

end Run

def run (calls : List Call) : Run :=
  calls.foldl Run.step .new

theorem latest_tryCommit (s : Sequencer) (t : Token) : (s.tryCommit t).2.latest = s.latest := by
  unfold tryCommit
  split <;> rfl

theorem tryCommit_iff (s : Sequencer) (t : Token) :
    (s.tryCommit t).1 = true ↔ s.committed < t.value := by
  unfold tryCommit
  split <;> simp [*]

theorem isLatest_iff (s : Sequencer) (t : Token) :
    s.isLatest t = true ↔ s.latest.toNat = t.value.toNat := by
  rw [isLatest, beq_iff_eq, UInt64.toNat_inj]

namespace Run

variable {r : Run}

theorem length_issued_le (calls : List Call) (r : Run) :
    r.issued.length ≤ (calls.foldl step r).issued.length := by
  induction calls generalizing r with
  | nil => exact Nat.le_refl _
  | cons c calls ih =>
      refine Nat.le_trans ?_ (ih (r.step c))
      cases c with
      | issue => simp [step]
      | isLatest t | tryCommit t => exact Nat.le_refl _

/-- Each token is its own place among those that were issued, counted from one. -/
structure Numbered (r : Run) : Prop where
  latest : r.sequencer.latest.toNat = r.issued.length
  tokens : ∀ k t, r.issued[k]? = some t → t.value.toNat = k + 1

theorem numbered_new : Numbered .new :=
  ⟨rfl, fun k t ht => by simp [new] at ht⟩

theorem Numbered.issue (h : Numbered r) (few : (r.step .issue).issued.length < 2 ^ 64) :
    Numbered (r.step .issue) := by
  obtain ⟨value, latest⟩ := r.sequencer.toNat_issue _ h.latest (by simpa [step] using few)
  refine ⟨latest.trans (by simp [step]), fun k t ht => ?_⟩
  simp only [step, List.getElem?_append] at ht
  split at ht
  · exact h.tokens k t ht
  · obtain ⟨last, same⟩ := List.getElem?_eq_some_iff.mp ht
    rw [List.getElem_singleton] at same
    rw [List.length_singleton] at last
    rw [← same, value]
    omega

theorem Numbered.tryCommit (h : Numbered r) (t : Token) : Numbered (r.step (.tryCommit t)) :=
  ⟨(congrArg UInt64.toNat (r.sequencer.latest_tryCommit t)).trans h.latest, h.tokens⟩

theorem Numbered.foldl (h : Numbered r) (calls : List Call)
    (few : (calls.foldl step r).issued.length < 2 ^ 64) : Numbered (calls.foldl step r) := by
  induction calls generalizing r with
  | nil => exact h
  | cons c calls ih =>
      refine ih ?_ few
      cases c with
      | issue => exact h.issue (Nat.lt_of_le_of_lt (length_issued_le calls _) few)
      | isLatest t => exact h
      | tryCommit t => exact h.tryCommit t

theorem numbered_run {calls : List Call} (few : (run calls).issued.length < 2 ^ 64) :
    Numbered (run calls) :=
  numbered_new.foldl calls few

theorem Numbered.pos (h : Numbered r) {t : Token} (ht : t ∈ r.issued) : 0 < t.value.toNat := by
  obtain ⟨k, hk⟩ := List.mem_iff_getElem?.mp ht
  rw [h.tokens k t hk]
  exact Nat.succ_pos k

theorem Numbered.le (h : Numbered r) {t : Token} (ht : t ∈ r.issued) :
    t.value.toNat ≤ r.issued.length := by
  obtain ⟨k, hk⟩ := List.mem_iff_getElem?.mp ht
  rw [h.tokens k t hk]
  exact (List.getElem?_eq_some_iff.mp hk).1

theorem Numbered.rising (h : Numbered r) : r.issued.Pairwise (· < ·) := by
  refine List.pairwise_iff_getElem.mpr fun i j hi hj below => ?_
  have first := h.tokens i _ (List.getElem?_eq_getElem hi)
  have second := h.tokens j _ (List.getElem?_eq_getElem hj)
  rw [Token.lt_iff, first, second]
  exact Nat.succ_lt_succ below

/-- The last token is the number of those that were issued. -/
theorem Numbered.getLast?_iff (h : Numbered r) {t : Token} (pos : 0 < t.value.toNat) :
    r.issued.getLast? = some t ↔ t.value.toNat = r.issued.length := by
  rw [List.getLast?_eq_getElem?]
  constructor
  · intro last
    have place := (List.getElem?_eq_some_iff.mp last).1
    rw [h.tokens _ t last]
    omega
  · intro count
    have place : r.issued.length - 1 < r.issued.length := by omega
    have value := h.tokens _ _ (List.getElem?_eq_getElem place)
    rw [List.getElem?_eq_getElem place, Option.some.injEq]
    exact Token.ext_toNat (by omega)

/-- The mark of a sequencer is the highest token that was tried, and zero before the first one. -/
structure Marked (r : Run) : Prop where
  highest : ∀ t ∈ r.tried, t.value.toNat ≤ r.sequencer.committed.toNat
  reached : r.sequencer.committed = 0 ∨ ⟨r.sequencer.committed⟩ ∈ r.tried
  rising : r.committed.Pairwise (· < ·)
  tried : r.committed ⊆ r.tried

theorem marked_new : Marked .new :=
  ⟨fun _ ht => absurd ht List.not_mem_nil, .inl rfl, .nil, List.nil_subset _⟩

theorem Marked.tryCommit (h : Marked r) (t : Token) : Marked (r.step (.tryCommit t)) := by
  by_cases above : r.sequencer.committed < t.value
  · -- The token becomes the mark, above all that the mark was above.
    have higher : r.sequencer.committed.toNat < t.value.toNat := above
    have taken : r.sequencer.tryCommit t = (true, ⟨r.sequencer.latest, t.value⟩) := by
      rw [Sequencer.tryCommit, if_pos above]
    simp only [step, taken, if_true]
    refine ⟨fun u hu => ?_, .inr ?_, ?_, ?_⟩
    · obtain hu | hu := List.mem_append.mp hu
      · exact Nat.le_trans (h.highest u hu) (Nat.le_of_lt higher)
      · exact Nat.le_of_eq (by rw [List.mem_singleton.mp hu])
    · exact List.mem_append_right _ (List.mem_singleton_self t)
    · refine List.pairwise_append.mpr ⟨h.rising, List.pairwise_singleton _ _, fun u hu v hv => ?_⟩
      rw [List.mem_singleton.mp hv]
      exact Nat.lt_of_le_of_lt (h.highest u (h.tried hu)) higher
    · exact List.append_subset.mpr
        ⟨List.subset_append_of_subset_left _ h.tried, List.subset_append_right _ _⟩
  · have refused : r.sequencer.tryCommit t = (false, r.sequencer) := by
      rw [Sequencer.tryCommit, if_neg above]
    simp only [step, refused, Bool.false_eq_true, if_false]
    refine ⟨fun u hu => ?_, ?_, h.rising, List.subset_append_of_subset_left _ h.tried⟩
    · obtain hu | hu := List.mem_append.mp hu
      · exact h.highest u hu
      · rw [List.mem_singleton.mp hu]
        exact Nat.le_of_not_lt above
    · exact h.reached.imp_right fun reached => List.mem_append_left _ reached

theorem Marked.foldl (h : Marked r) (calls : List Call) : Marked (calls.foldl step r) := by
  induction calls generalizing r with
  | nil => exact h
  | cons c calls ih =>
      refine ih ?_
      cases c with
      | issue => exact ⟨h.highest, h.reached, h.rising, h.tried⟩
      | isLatest t => exact h
      | tryCommit t => exact h.tryCommit t

theorem marked_run (calls : List Call) : Marked (run calls) :=
  marked_new.foldl calls

theorem Marked.tryCommit_iff (h : Marked r) {t : Token} (pos : 0 < t.value.toNat) :
    (r.sequencer.tryCommit t).1 = true ↔ ∀ u ∈ r.tried, u < t := by
  rw [Sequencer.tryCommit_iff, UInt64.lt_iff_toNat_lt]
  constructor
  · exact fun above u hu => Nat.lt_of_le_of_lt (h.highest u hu) above
  · intro above
    obtain start | reached := h.reached
    · rwa [start]
    · exact above _ reached

end Run
end Sequencer

/-- Some sequencer issues the token before it runs out of tokens. -/
def Token.IsIssued (t : Token) : Prop :=
  ∃ calls, (Sequencer.run calls).issued.length < 2 ^ 64 ∧ t ∈ (Sequencer.run calls).issued

theorem Token.IsIssued.pos {t : Token} (h : t.IsIssued) : 0 < t.value.toNat := by
  obtain ⟨calls, few, issued⟩ := h
  exact (Sequencer.Run.numbered_run few).pos issued

namespace Sequencer

/-- The answers of a sequencer after any run. Issued tokens rise, from above zero. Of all tokens
that are issued, here or elsewhere, the latest is the one that was issued last, and those commit
that are above every token that was tried before. So committed tokens rise, and none of them comes
twice; and if no token of another sequencer was tried, the last one commits unless it was tried. -/
theorem answers_of_run (calls : List Call) (few : (run calls).issued.length < 2 ^ 64) :
    let r := run calls
    r.issued.Pairwise (· < ·) ∧ (∀ t ∈ r.issued, t.value ≠ 0) ∧
    (∀ t : Token, t.IsIssued →
      (r.sequencer.isLatest t = true ↔ r.issued.getLast? = some t) ∧
      ((r.sequencer.tryCommit t).1 = true ↔ ∀ u ∈ r.tried, u < t)) ∧
    r.committed.Pairwise (· < ·) ∧ r.committed.Nodup ∧
    (r.tried ⊆ r.issued → ∀ t, r.issued.getLast? = some t → t ∉ r.tried →
      (r.sequencer.tryCommit t).1 = true) := by
  intro r
  have numbered : r.Numbered := Run.numbered_run few
  have marked : r.Marked := Run.marked_run calls
  refine ⟨numbered.rising, fun t ht zero => ?_, fun t issued => ⟨?_, ?_⟩, marked.rising, ?_, ?_⟩
  · have pos := numbered.pos ht
    rw [zero] at pos
    exact Nat.lt_irrefl 0 pos
  · rw [isLatest_iff, numbered.latest, numbered.getLast?_iff issued.pos]
    exact eq_comm
  · exact marked.tryCommit_iff issued.pos
  · exact marked.rising.imp fun {t u} (below : t < u) (same : t = u) =>
      t.lt_irrefl (same ▸ below)
  · intro own t last untried
    have pos := numbered.pos (List.mem_of_getLast? last)
    refine (marked.tryCommit_iff pos).mpr fun u hu => ?_
    -- Own tokens are at most the last one, and this one is another.
    have other : u.value.toNat ≠ t.value.toNat := fun same => untried (Token.ext_toNat same ▸ hu)
    have below := numbered.le (own hu)
    rw [← (numbered.getLast?_iff pos).mp last] at below
    exact Nat.lt_of_le_of_ne below other

/-- Two tokens are committed in the wrong order, then one of another sequencer, which holds back
the last own token. -/
theorem answers_of_run_foreign :
    let r := run [.issue, .issue, .tryCommit ⟨2⟩, .isLatest ⟨1⟩, .tryCommit ⟨1⟩, .tryCommit ⟨7⟩,
      .issue]
    r.issued.length < 2 ^ 64 ∧ r.issued = [⟨1⟩, ⟨2⟩, ⟨3⟩] ∧ r.committed = [⟨2⟩, ⟨7⟩] ∧
      r.committed.Pairwise (· < ·) ∧ Token.IsIssued ⟨8⟩ ∧ Token.IsIssued ⟨3⟩ ∧
      r.sequencer.isLatest ⟨3⟩ = true ∧ (r.sequencer.tryCommit ⟨3⟩).1 = false ∧
      (r.sequencer.tryCommit ⟨8⟩).1 = true := by
  intro r
  have few : r.issued.length < 2 ^ 64 := by decide
  have eighth : Token.IsIssued ⟨8⟩ := ⟨List.replicate 8 .issue, by decide, by decide⟩
  have third : Token.IsIssued ⟨3⟩ := ⟨List.replicate 3 .issue, by decide, by decide⟩
  obtain ⟨-, -, answers, rising, -, -⟩ := answers_of_run _ few
  refine ⟨few, rfl, rfl, rising, eighth, third, (answers _ third).1.mpr rfl, ?_, ?_⟩
  · exact Bool.eq_false_iff.mpr (mt (answers _ third).2.mp (by decide))
  · exact (answers _ eighth).2.mpr (by decide)

end Sequencer
end StreamPipelines
