import StreamPipelines.Proofs.Connection.Merge
import StreamPipelines.Proofs.Connection.Run

/-!
What a store knows, told from the history of its calls alone: the answer of the list that began
last among the successful ones, with every update merged into it that was completed after that
list. The main statement is that every run of a store ends with just these connections, however
its calls overlap.
-/

namespace StreamPipelines
namespace Store

open Connection (merged merged_append)

def Success.updated : Success → List Connection
  | .list _ _ => []
  | .update cs => cs

def updates (xs : List Success) : List Connection :=
  xs.flatMap Success.updated

/-- The token is above those of all lists. -/
def Newest (token : Token) (xs : List Success) : Prop :=
  ∀ u ds, .list u ds ∈ xs → u < token

/-- What is known after these successes. -/
inductive Known : List Success → Option (List Connection) → Prop
  | nothing : Known [] none
  | updates {xs : List Success} (some : xs ≠ []) (noList : ∀ t cs, .list t cs ∉ xs) :
      Known xs (.some (merged [] (updates xs)))
  | base {before after : List Success} {token : Token} (cs : List Connection)
      (newest : Newest token (before ++ after)) :
      Known (before ++ .list token cs :: after) (some (merged cs (Store.updates after)))

theorem Newest.split {before after left right : List Success} {token other : Token}
    {cs ds : List Connection} (h : Newest token (before ++ after))
    (k : Newest other (left ++ right))
    (same : before ++ .list token cs :: after = left ++ .list other ds :: right) :
    before = left ∧ cs = ds ∧ after = right := by
  have clash (a : .list token cs ∈ left ++ right) (b : .list other ds ∈ before ++ after) : False :=
    Token.lt_irrefl _ (Token.lt_trans (k _ _ a) (h _ _ b))
  -- If the two bases were at different places, each would be above the other.
  obtain ⟨more, rfl, shifted⟩ | ⟨more, rfl, shifted⟩ := List.append_eq_append_iff.mp same
  · cases more with
    | nil =>
        cases shifted
        exact ⟨by simp, rfl, rfl⟩
    | cons x more =>
        cases shifted
        exact (clash (by simp) (by simp)).elim
  · cases more with
    | nil =>
        cases shifted
        exact ⟨by simp, rfl, rfl⟩
    | cons x more =>
        cases shifted
        exact (clash (by simp) (by simp)).elim

theorem Known.unique {xs : List Success} {a b : Option (List Connection)} (h : Known xs a)
    (k : Known xs b) : a = b := by
  generalize same : xs = ys at k
  cases h with
  | nothing =>
      cases k with
      | nothing => rfl
      | updates some _ => exact absurd same.symm some
      | base cs _ => simp at same
  | updates some noList =>
      cases k with
      | nothing => exact absurd same some
      | updates _ _ => rw [same]
      | @base _ _ token cs _ => exact absurd (by simp [same]) (noList token cs)
  | @base _ _ token cs newest =>
      cases k with
      | nothing => simp at same
      | updates _ noList => exact absurd (by simp [← same]) (noList token cs)
      | base ds other =>
          obtain ⟨-, rfl, rfl⟩ := newest.split other same
          rfl

theorem updates_append (xs ys : List Success) : updates (xs ++ ys) = updates xs ++ updates ys :=
  List.flatMap_append

theorem connections_applyUpdate (s : Store) (cs : List Connection) :
    (s.applyUpdate cs).connections = some (merged (s.connections.getD []) cs) := by
  simp only [applyUpdate, apply, Connection.snd_mergeAll_eq_merged]

theorem Known.update {xs : List Success} {k : Option (List Connection)} (h : Known xs k)
    (cs : List Connection) : Known (xs ++ [.update cs]) (some (merged (k.getD []) cs)) := by
  have last (ys : List Success) : Store.updates (ys ++ [.update cs]) = Store.updates ys ++ cs := by
    rw [updates_append]
    exact congrArg (Store.updates ys ++ ·) (List.append_nil cs)
  cases h with
  | nothing =>
      have first : Known [.update cs] (some (merged [] (Store.updates ([] ++ [.update cs])))) :=
        .updates (by simp) (by simp)
      rwa [last] at first
  | updates _ noList =>
      rw [Option.getD_some, ← merged_append, ← last]
      exact .updates (by simp) (by simpa using noList)
  | @base before after token ds newest =>
      rw [Option.getD_some, ← merged_append, ← last, List.append_assoc]
      refine Known.base ds fun u es h => newest u es ?_
      simpa [or_assoc] using h

/-- A list that began before the base does not change what is known. -/
theorem Known.older {xs : List Success} {k : Option (List Connection)} (h : Known xs k)
    {t u : Token} {ds : List Connection} (later : .list u ds ∈ xs) (older : t < u)
    (cs : List Connection) : Known (xs ++ [.list t cs]) k := by
  cases h with
  | nothing => cases later
  | updates _ noList => exact absurd later (noList u ds)
  | @base before after token es newest =>
      have same : Store.updates (after ++ [.list t cs]) = Store.updates after := by
        rw [updates_append]
        exact List.append_nil _
      rw [← same, List.append_assoc]
      refine .base es fun v fs h => ?_
      have below : t < token := by
        obtain h | ⟨rfl, -⟩ | h := (by simpa using later : _ ∨ _ ∨ _)
        · exact Token.lt_trans older (newest u ds (by simp [h]))
        · exact older
        · exact Token.lt_trans older (newest u ds (by simp [h]))
      obtain h | h | ⟨rfl, -⟩ := (by simpa using h : _ ∨ _ ∨ _)
      · exact newest v fs (by simp [h])
      · exact newest v fs (by simp [h])
      · exact below

/-- The connections are those that the history tells, and the committed token is the greatest of
its lists. -/
structure Tracks (past : List Success) (s : Store) : Prop where
  known : Known past s.connections
  above : ∀ u ds, .list u ds ∈ past → u.value.toNat ≤ s.lists.committed.toNat
  reached : s.lists.committed.toNat = 0 ∨ ∃ ds, .list ⟨s.lists.committed⟩ ds ∈ past

/-- A list is applied exactly if it began after all lists that have succeeded. -/
theorem Tracks.newest_iff {past : List Success} {s : Store} (h : Tracks past s) {t : Token}
    (pos : 0 < t.value.toNat) : s.lists.committed < t.value ↔ Newest t past := by
  constructor
  · intro newer u ds hu
    exact Nat.lt_of_le_of_lt (h.above u ds hu) newer
  · intro newest
    obtain zero | ⟨ds, hd⟩ := h.reached
    · rw [UInt64.lt_iff_toNat_lt]
      omega
    · exact newest _ ds hd

theorem exists_of_not_newest {past : List Success} {t : Token}
    (unseen : ∀ ds, .list t ds ∉ past) (h : ¬ Newest t past) :
    ∃ u ds, .list u ds ∈ past ∧ t < u := by
  simp only [Newest, Classical.not_forall] at h
  obtain ⟨u, ds, hu, notBelow⟩ := h
  refine ⟨u, ds, hu, Token.lt_of_not_lt notBelow ?_⟩
  rintro rfl
  exact unseen ds hu

theorem Tracks.take {past : List Success} {s : Store} (h : Tracks past s) (x : Success)
    (fresh : ∀ t cs, x = .list t cs → 0 < t.value.toNat ∧ ∀ ds, .list t ds ∉ past) :
    Tracks (past ++ [x]) (s.take x) := by
  cases x with
  | update cs =>
      refine ⟨connections_applyUpdate s cs ▸ h.known.update cs, fun u ds hu => ?_, ?_⟩
      · exact h.above u ds (by simpa using hu)
      · exact h.reached.imp_right fun ⟨ds, hd⟩ => ⟨ds, List.mem_append_left _ hd⟩
  | list t cs =>
      obtain ⟨pos, unseen⟩ := fresh t cs rfl
      rw [take_list]
      by_cases newer : s.lists.committed < t.value
      · rw [if_pos newer]
        have newest : Newest t past := (h.newest_iff pos).mp newer
        refine ⟨.base cs (by simpa using newest), fun u ds hu => ?_, .inr ⟨cs, by simp⟩⟩
        · obtain hu | ⟨rfl, -⟩ := (by simpa using hu : _ ∨ _ ∧ _)
          · exact Nat.le_of_lt (newest u ds hu)
          · exact Nat.le_refl _
      · rw [if_neg newer]
        -- As its own token is new, the list lies strictly below one that has succeeded.
        obtain ⟨u, ds, hu, older⟩ :=
          exists_of_not_newest unseen (mt (h.newest_iff pos).mpr newer)
        refine ⟨h.known.older hu older cs, fun v es hv => ?_, ?_⟩
        · obtain hv | ⟨rfl, -⟩ := (by simpa using hv : _ ∨ _ ∧ _)
          · exact h.above v es hv
          · exact Nat.le_trans (Nat.le_of_lt older) (h.above u ds hu)
        · exact h.reached.imp_right fun ⟨ds, hd⟩ => ⟨ds, List.mem_append_left _ hd⟩

namespace Run

variable {r : Run} {c : Begun} {name : String}

theorem tracks_beginCall (name : String) (a : Action) (h : Tracks r.successes r.store) :
    Tracks (r.beginCall name a).successes (r.beginCall name a).store := by
  refine ⟨?_, ?_, ?_⟩
  · rw [connections_beginCall]
    exact h.known
  · rw [committed_beginCall]
    exact h.above
  · rw [committed_beginCall]
    exact h.reached

theorem tracks_endCall (waits : r.waiting? name = some c) (reply : Reply) (ordered : Ordered r)
    (h : Tracks r.successes r.store) :
    Tracks (r.endCall c reply).successes (r.endCall c reply).store := by
  obtain ⟨-, store, successes⟩ | ⟨x, hx, store, successes⟩ := r.endCall_cases c reply
  · rwa [store, successes]
  · rw [store, successes]
    refine h.take x fun t cs hl => ordered.unseen waits ?_
    exact list_of_success? (hl ▸ hx)

theorem tracks_foldl (es : List Event) (few : (es.foldl step r).lists < 2 ^ 64)
    (h : Ordered r ∧ Tracks r.successes r.store) :
    Ordered (es.foldl step r) ∧ Tracks (es.foldl step r).successes (es.foldl step r).store := by
  refine foldl_induction (I := fun r => Ordered r ∧ Tracks r.successes r.store)
    (fun r name a fresh few h => ?_) (fun r c reply waits h => ?_) es r few h
  · exact ⟨ordered_beginCall fresh a few h.1, tracks_beginCall name a h.2⟩
  · exact ⟨ordered_endCall waits reply h.1, tracks_endCall waits reply h.1 h.2⟩

theorem tracks_run (es : List Event) (few : (run es).lists < 2 ^ 64) :
    Ordered (run es) ∧ Tracks (run es).successes (run es).store :=
  tracks_foldl es few ⟨ordered_new, .nothing, nofun, .inl rfl⟩

end Run

/-- After any run the store knows just what the history of the successful calls tells. The tokens
that decide which list is the base are in the order in which the lists began. A call that fails,
and a list that began before one that has succeeded already, leave the store as it is. -/
theorem known_of_run (es : List Event) (few : (run es).lists < 2 ^ 64) :
    (∀ known, Known (run es).successes known ↔ known = (run es).store.connections) ∧
    ((run es).begun.Pairwise fun c d =>
      ∀ t u, c.pending = .list t → d.pending = .list u → t < u) ∧
    (∀ e ∈ (run es).ended, e.call ∈ (run es).begun) ∧
    ∀ name c reply, (run es).waiting? name = some c →
      (c.pending.success? reply = none →
        (run (es ++ [.ends name reply])).store = (run es).store) ∧
      ∀ t cs u ds, c.pending.success? reply = some (.list t cs) →
        .list u ds ∈ (run es).successes → t < u →
        (run (es ++ [.ends name reply])).store = (run es).store := by
  obtain ⟨ordered, tracks⟩ := Run.tracks_run es few
  have known (k : Option (List Connection)) :
      Known (run es).successes k ↔ k = (run es).store.connections :=
    ⟨fun h => h.unique tracks.known, fun h => h ▸ tracks.known⟩
  refine ⟨known, ordered.tokens, ordered.ended, fun name c reply waits => ?_⟩
  rw [run_ends waits]
  obtain ⟨failed, store, -⟩ | ⟨x, succeeded, store, -⟩ := (run es).endCall_cases c reply
  · exact ⟨fun _ => store, fun _ _ _ _ _ _ _ => store⟩
  · refine ⟨fun failed => by simp [failed] at succeeded, fun t cs u ds hx hu older => ?_⟩
    cases succeeded.symm.trans hx
    obtain ⟨pos, -⟩ := ordered.unseen waits (list_of_success? hx)
    rw [store, take_list, if_neg]
    intro newer
    exact Token.lt_irrefl _ (Token.lt_trans older ((tracks.newest_iff pos).mp newer u ds hu))

/-- Of two lists that overlap, the one that began later is completed first: it is the base, and
the other changes nothing. -/
theorem known_of_run_overlapping :
    let es : List Event :=
      [.begins "old" .list, .begins "new" .list, .begins "update" (.assignStream ⟨"B", ["p"]⟩),
        .ends "new" (.ok (.arr [.obj [("stream_id", .str "A")]])),
        .ends "update" (.ok (.obj [("stream_id", .str "B"), ("pipeline_ids", .arr [.str "p"])])),
        .ends "old" (.ok (.arr []))]
    (run es).lists < 2 ^ 64 ∧ Known (run es).successes (run es).store.connections ∧
      (run es).store.connections =
        some [⟨none, "A", .empty⟩, ⟨none, "B", .ofList ["p"]⟩] := by
  intro es
  have few : (run es).lists < 2 ^ 64 := by decide
  exact ⟨few, ((known_of_run es few).1 _).mpr rfl, rfl⟩

end Store
end StreamPipelines
