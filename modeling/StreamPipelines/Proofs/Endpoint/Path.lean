import StreamPipelines.Proofs.Client

/-!
Where the endpoints are found. Below a base address that ends with its path, an endpoint has the
path of the base without trailing slashes, gone on with by its own path. The path is joined to
the whole text of the base, though: behind a query or a fragment it becomes a part of that, and
the request goes to the path of the base itself.
-/

namespace StreamPipelines
namespace Url

theorem staysInPath_of_plain {cs : List Char} (plain : ∀ c ∈ cs, c ≠ '?' ∧ c ≠ '#') :
    ∀ c ∈ cs, (c != '?' && c != '#') = true := by
  intro c hc
  simpa using plain c hc

theorem withTail_of_plain (u : Url) {cs : List Char} (plain : ∀ c ∈ cs, c ≠ '?' ∧ c ≠ '#') :
    u.withTail cs = { u with path := pathSegments cs, query := none, fragment := none } := by
  have inPath := staysInPath_of_plain plain
  rw [withTail, List.takeWhile_eq_self_iff.mpr inPath, List.dropWhile_eq_nil_iff.mpr inPath]
  rfl

/-- A question mark or number sign ends the path. -/
theorem path_withTail_append (u : Url) {cs : List Char} (plain : ∀ c ∈ cs, c ≠ '?' ∧ c ≠ '#')
    {mark : Char} (ends : mark = '?' ∨ mark = '#') (behind : List Char) :
    (u.withTail (cs ++ mark :: behind)).path = pathSegments cs := by
  have inPath := staysInPath_of_plain plain
  have stops : ¬(mark != '?' && mark != '#') = true := by
    obtain rfl | rfl := ends <;> decide
  rw [withTail]
  dsimp only
  rw [List.takeWhile_append_of_pos inPath, List.takeWhile_cons, if_neg stops, List.append_nil]

/-- A blank at the end of an address does not count. -/
def EndsVisibly (cs : List Char) : Prop :=
  ∀ c ∈ cs.getLast?, isOuterBlank c = false

instance (cs : List Char) : Decidable (EndsVisibly cs) :=
  decidable_of_iff (cs.getLast?.any isOuterBlank = false) (by
    rw [EndsVisibly]
    cases cs.getLast? <;> simp)

theorem cleanEnd_sublist (cs : List Char) : (cleanEnd cs).Sublist cs := by
  have front : (cs.reverse.dropWhile isOuterBlank).reverse.Sublist cs := by
    have reversed := (List.dropWhile_sublist (p := isOuterBlank) (l := cs.reverse)).reverse
    rwa [List.reverse_reverse] at reversed
  exact List.filter_sublist.trans front

theorem cleanEnd_eq_self_iff (cs : List Char) :
    cleanEnd cs = cs ↔ (∀ c ∈ cs, isDropped c = false) ∧ EndsVisibly cs := by
  have stays : cs.reverse.dropWhile isOuterBlank = cs.reverse ↔ EndsVisibly cs := by
    rw [EndsVisibly, ← List.head?_reverse]
    cases cs.reverse with
    | nil => simp
    | cons c more =>
        cases blank : isOuterBlank c with
        | true =>
            have shorter := (List.dropWhile_sublist isOuterBlank (l := more)).length_le
            simp only [List.dropWhile_cons_of_pos blank, List.head?_cons, Option.mem_some_iff,
              forall_eq', blank, Bool.true_eq_false, iff_false]
            intro same
            rw [same, List.length_cons] at shorter
            omega
        | false => simp [blank]
  constructor
  · intro same
    have kept : ∀ c ∈ cs, isDropped c = false := by
      intro c hc
      rw [← same] at hc
      simpa using (List.mem_filter.mp hc).2
    refine ⟨kept, stays.mp ?_⟩
    have all : (cs.reverse.dropWhile isOuterBlank).reverse.filter (!isDropped ·) =
        (cs.reverse.dropWhile isOuterBlank).reverse :=
      List.filter_eq_self.mpr fun c hc => by
        have inside := (List.dropWhile_sublist isOuterBlank).subset (List.mem_reverse.mp hc)
        simp [kept c (List.mem_reverse.mp inside)]
    rw [cleanEnd, all] at same
    exact List.reverse_eq_iff.mp same
  · rintro ⟨kept, visible⟩
    rw [cleanEnd, stays.mpr visible, List.reverse_reverse, List.filter_eq_self]
    exact fun c hc => by simp [kept c hc]

theorem cleanEnd_of_visible {cs : List Char}
    (visible : ∀ c ∈ cs, isOuterBlank c = false ∧ isDropped c = false) : cleanEnd cs = cs :=
  (cleanEnd_eq_self_iff cs).mpr
    ⟨fun c hc => (visible c hc).2, fun c hc => (visible c (List.mem_of_mem_getLast? hc)).1⟩

/-- What trimming takes off is nothing but copies of the character. -/
theorem eq_of_mem_trimmed {x : Char} {cs tail : List Char}
    (whole : cs = Text.trimEndOf x cs ++ tail) : ∀ c ∈ tail, c = x := by
  have parts : cs.reverse = tail.reverse ++ cs.reverse.dropWhile (· == x) := by
    conv => lhs; rw [whole, List.reverse_append, Text.trimEndOf, List.reverse_reverse]
  have taken : tail.reverse = cs.reverse.takeWhile (· == x) := by
    have both := List.takeWhile_append_dropWhile (p := (· == x)) (l := cs.reverse)
    exact List.append_cancel_right (both.trans parts).symm
  intro c hc
  have mem := List.mem_reverse.mpr hc
  rw [taken] at mem
  simpa using List.mem_takeWhile_imp mem

/-- The characters in the text of a path whose segments stay. -/
theorem mem_flatMap_segments {segments : List (List Char)} (h : ∀ s ∈ segments, IsCanonical s)
    {c : Char} (hc : c ∈ segments.flatMap ('/' :: ·)) : c = '/' ∨ Unescaped inPathSet c := by
  obtain ⟨s, hs, hc⟩ := List.mem_flatMap.mp hc
  exact (List.mem_cons.mp hc).imp_right ((h s hs).unescaped c)

theorem visible_segments {segments : List (List Char)} (h : ∀ s ∈ segments, IsCanonical s) :
    ∀ c ∈ segments.flatMap ('/' :: ·), isOuterBlank c = false ∧ isDropped c = false := by
  intro c hc
  obtain rfl | unescaped := mem_flatMap_segments h hc
  · exact ⟨by decide, by decide⟩
  · exact unescaped.ne_blank

theorem plain_segments {segments : List (List Char)} (h : ∀ s ∈ segments, IsCanonical s) :
    ∀ c ∈ segments.flatMap ('/' :: ·), c ≠ '?' ∧ c ≠ '#' := by
  intro c hc
  obtain rfl | unescaped := mem_flatMap_segments h hc
  · exact ⟨by decide, by decide⟩
  · exact ⟨unescaped.ne (by decide), unescaped.ne (by decide)⟩

section

variable {base : Url} (h : base.WellFormed)
include h

theorem canonical_place : ∀ s ∈ base.place, IsCanonical s :=
  fun s hs => h.segments s (mem_path_of_mem_place hs)

/-- A path that begins with one slash goes on from the place of the base. -/
theorem joinedTail_of_bare (noQuery : base.query = none) (noFragment : base.fragment = none)
    {c : Char} (one : c ≠ '/') (path : List Char) :
    base.joinedTail ('/' :: c :: path) = base.place.flatMap ('/' :: ·) ++ '/' :: c :: path := by
  have tail : base.tailChars = base.pathChars := by
    simp [tailChars, queryChars, fragmentChars, noQuery, noFragment]
  rw [joinedTail, tail, trimEndOf_pathChars h.segments]
  simp [Text.trimStartOf, one]

/-- Segments that stay are put behind the place of the base. -/
theorem qualify_segments (noQuery : base.query = none) (noFragment : base.fragment = none)
    {path : String} {c : Char} {front : List Char} {segments : List (List Char)} (one : c ≠ '/')
    (text : path.toList = ((c :: front) :: segments).flatMap ('/' :: ·))
    (canonical : ∀ s ∈ (c :: front) :: segments, IsCanonical s) :
    base.qualify path = .ok { base with
      path := base.place ++ (c :: front) :: segments, query := none, fragment := none } := by
  have relative : isAbsolutePath path.toList = false := by
    rw [text]
    rfl
  have all : ∀ s ∈ base.place ++ (c :: front) :: segments, IsCanonical s := by
    intro s hs
    exact (List.mem_append.mp hs).elim (canonical_place h s) (canonical s)
  have tail : base.joinedTail path.toList =
      (base.place ++ (c :: front) :: segments).flatMap ('/' :: ·) := by
    have joined := joinedTail_of_bare h noQuery noFragment one
      (front ++ segments.flatMap ('/' :: ·))
    rw [text, List.flatMap_append]
    simpa using joined
  rw [qualify_eq h relative, tail, cleanEnd_of_visible (visible_segments all),
    withTail_of_plain base (plain_segments all), pathSegments_flatMap all (by simp)]

/-- Behind a query or a fragment no path is joined to the path of the base. -/
theorem path_qualify_of_marked (marked : ¬(base.query = none ∧ base.fragment = none))
    {path : String} (relative : isAbsolutePath path.toList = false) {u : Url}
    (qualified : base.qualify path = .ok u) : u.path = base.path := by
  obtain ⟨mark, more, ends, tail⟩ : ∃ mark more, (mark = '?' ∨ mark = '#') ∧
      base.tailChars = base.pathChars ++ mark :: more := by
    cases query : base.query with
    | some q =>
        exact ⟨'?', q ++ base.fragmentChars, .inl rfl, by simp [tailChars, queryChars, query]⟩
    | none =>
        cases fragment : base.fragment with
        | some f =>
            refine ⟨'#', f, .inr rfl, ?_⟩
            simp [tailChars, queryChars, fragmentChars, query, fragment]
        | none => exact absurd ⟨query, fragment⟩ marked
  have other : (mark == '/') = false := by
    obtain rfl | rfl := ends <;> decide
  have visible : isOuterBlank mark = false := by
    obtain rfl | rfl := ends <;> decide
  have stays : isDropped mark = false := by
    obtain rfl | rfl := ends <;> decide
  -- Slashes and blanks at the end are taken from behind the mark.
  have joined : ∃ more, base.joinedTail path.toList = base.pathChars ++ mark :: more := by
    rw [joinedTail, tail, Text.trimEndOf, reverse_dropWhile_append (p := (· == '/')) other]
    exact ⟨_, by rw [List.append_assoc, List.cons_append]⟩
  obtain ⟨more, joined⟩ := joined
  have first := reverse_dropWhile_append visible [] more
  rw [List.nil_append, List.nil_append] at first
  have kept : ∀ c ∈ base.pathChars, isDropped c = false :=
    fun c hc => (visible_segments h.segments c hc).2
  rw [qualify_eq h relative, joined, cleanEnd_append visible kept, cleanEnd, first,
    List.filter_cons_of_pos (by simp [stays])] at qualified
  cases qualified
  have plain : ∀ c ∈ base.pathChars, c ≠ '?' ∧ c ≠ '#' := plain_segments h.segments
  rw [path_withTail_append base plain ends, pathChars, pathSegments_flatMap h.segments h.path]

end

/-- The address is found below the base address: it has the path of the base, without trailing
slashes, and then the given one, and nothing behind it. -/
structure IsBelow (u base : Url) (path : String) : Prop where
  path : u.pathChars = Text.trimEndOf '/' base.pathChars ++ path.toList
  query : u.query = none
  fragment : u.fragment = none

end Url

namespace Endpoint

/-- The endpoints whose paths hold nothing that is given by the user. -/
def fixed : List Endpoint :=
  [.connections, .assignStream, .assignPipeline, .simulate]

/-- The segments that the text of a path has, all of which stay when they are read. -/
def HasSegments (text : String) (segments : List (List Char)) : Prop :=
  text.toList = segments.flatMap ('/' :: ·) ∧ ∀ s ∈ segments, Url.IsCanonical s

instance (text : String) (segments : List (List Char)) : Decidable (HasSegments text segments) :=
  inferInstanceAs (Decidable (_ ∧ _))

theorem HasSegments.append {text more : String} {segments rest : List (List Char)}
    (h : HasSegments text segments) (hm : HasSegments more rest) :
    HasSegments (text ++ more) (segments ++ rest) := by
  refine ⟨by rw [String.toList_append, h.1, hm.1, List.flatMap_append], fun s hs => ?_⟩
  exact (List.mem_append.mp hs).elim (h.2 s) (hm.2 s)

theorem exists_segments {e : Endpoint} (h : e ∈ fixed) :
    ∃ front segments, HasSegments e.path (('p' :: front) :: segments) := by
  have plugin : HasSegments pluginPath [('p' :: "lugins".toList),
      "org.graylog.plugins.pipelineprocessor".toList] := by decide +kernel
  have below {more : String} {segments : List (List Char)} (h : HasSegments more segments) :
      ∃ front segments, HasSegments (pluginPath ++ more) (('p' :: front) :: segments) :=
    ⟨_, _, plugin.append h⟩
  have connections : HasSegments "/system/pipelines/connections"
      (["system", "pipelines", "connections"].map String.toList) := by decide +kernel
  have toStream : HasSegments "/system/pipelines/connections/to_stream"
      (["system", "pipelines", "connections", "to_stream"].map String.toList) := by decide +kernel
  have toPipeline : HasSegments "/system/pipelines/connections/to_pipeline"
      (["system", "pipelines", "connections", "to_pipeline"].map String.toList) := by
    decide +kernel
  have simulate : HasSegments "/system/pipelines/simulate"
      (["system", "pipelines", "simulate"].map String.toList) := by decide +kernel
  simp only [fixed, List.mem_cons, List.not_mem_nil, or_false] at h
  obtain rfl | rfl | rfl | rfl := h
  · exact below connections
  · exact below toStream
  · exact below toPipeline
  · exact below simulate

/-- With an accepted base address, the endpoints whose paths are fixed are found below it exactly
if the base address has neither a query nor a fragment; with one, each request goes to the path
of the base itself. -/
theorem isBelow_iff_of_parseBaseUrl {raw : String} {base : Url}
    (accepted : Config.parseBaseUrl raw = .ok base) {e : Endpoint} (he : e ∈ fixed) :
    ∃ u, base.qualify e.path = .ok u ∧
      (u.IsBelow base e.path ↔ base.query = none ∧ base.fragment = none) ∧
      (¬(base.query = none ∧ base.fragment = none) → u.path = base.path) := by
  have wellFormed := Config.wellFormed_of_parseBaseUrl accepted
  obtain ⟨front, segments, text, canonical⟩ := exists_segments he
  by_cases bare : base.query = none ∧ base.fragment = none
  · refine ⟨_, Url.qualify_segments wellFormed bare.1 bare.2 (by decide) text canonical,
      ⟨fun _ => bare, fun _ => ⟨?_, rfl, rfl⟩⟩, absurd bare⟩
    rw [Url.pathChars, List.flatMap_append, Url.trimEndOf_pathChars wellFormed.segments, text]
  · obtain ⟨u, qualified, -⟩ := Url.qualify_sameServer wellFormed e.isAbsolutePath_path
    have path := Url.path_qualify_of_marked wellFormed bare e.isAbsolutePath_path qualified
    refine ⟨u, qualified, ⟨fun below => ?_, fun both => absurd both bare⟩, fun _ => path⟩
    -- The path of the base would have to end with that of the endpoint in the place of slashes.
    have whole := below.path
    rw [Url.pathChars, path, ← Url.pathChars] at whole
    have letter : 'p' ∈ e.path.toList := by
      rw [text]
      exact List.mem_cons_of_mem _ List.mem_cons_self
    exact absurd (Url.eq_of_mem_trimmed whole 'p' letter) (by decide)

/-- The base address has credentials, a short IPv4 address, dot segments and trailing slashes. -/
theorem isBelow_of_parseBaseUrl_nested :
    let raw := " http://me:pw@127.1:8080/graylog/../a%2e/./api v2// "
    let base : Url :=
      ⟨.http, "me".toList, some "pw".toList, .ipv4 0x7f000001, some 8080,
        ["a%2e".toList, "api%20v2".toList, [], []], none, none⟩
    Config.parseBaseUrl raw = .ok base ∧ .assignStream ∈ fixed ∧
      ∃ u, base.qualify Endpoint.assignStream.path = .ok u ∧
        u.IsBelow base Endpoint.assignStream.path := by
  intro raw base
  have accepted : Config.parseBaseUrl raw = .ok base := by decide +kernel
  have listed : .assignStream ∈ fixed := by decide
  obtain ⟨u, qualified, below, -⟩ := isBelow_iff_of_parseBaseUrl accepted listed
  exact ⟨accepted, listed, u, qualified, below.mpr ⟨rfl, rfl⟩⟩

/-- Below a base address with a query, simulations are asked for at the path of the base. -/
theorem not_isBelow_of_query :
    ∃ base u, Config.parseBaseUrl "http://127.0.0.1:9000/api?x=1" = .ok base ∧
      base.qualify Endpoint.simulate.path = .ok u ∧
      u.pathChars = "/api".toList ∧
      u.pathChars ≠ Text.trimEndOf '/' base.pathChars ++ Endpoint.simulate.path.toList :=
  let base : Url := ⟨.http, [], none, .ipv4 0x7f000001, some 9000, ["api".toList],
    some "x=1".toList, none⟩
  let query := "x=1/plugins/org.graylog.plugins.pipelineprocessor/system/pipelines/simulate"
  ⟨base, { base with query := some query.toList }, by decide +kernel, by decide +kernel,
    by decide +kernel, by decide +kernel⟩

end Endpoint
end StreamPipelines
