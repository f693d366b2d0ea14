import StreamPipelines.Proofs.Endpoint.Path
import StreamPipelines.Proofs.Url.Measure
import StreamPipelines.Simulation.Basic

/-!
The address of a stored message. Index and message id are put into the path as they are, and the
address names the message exactly if each of them is a segment as it stands. Whatever else they
hold takes something away from the path: a slash parts them, a question mark or number sign ends
the path, tabs, line ends and blanks at the end are left out, an escape stands for another byte,
and dots name another place.
-/

namespace StreamPipelines
namespace Url

/-- The path is that of the base and three segments, which stand for the place of the messages,
the index and the id; nothing stands behind it. -/
structure Names (u base : Url) (index id : String) : Prop where
  path : ∃ messages inIndex ofMessage, u.path = base.place ++ [messages, inIndex, ofMessage] ∧
    partBytes messages = Text.utf8 "messages" ∧ partBytes inIndex = Text.utf8 index ∧
    partBytes ofMessage = Text.utf8 id
  query : u.query = none
  fragment : u.fragment = none

/-- The text is one segment of a path, and stands for itself there. -/
structure IsSegment (text : String) : Prop where
  whole : ∀ c ∈ text.toList, isSlash c = false
  inside : ∀ c ∈ text.toList, c ≠ '?' ∧ c ≠ '#'
  kept : ∀ c ∈ text.toList, isDropped c = false
  literal : HasNoEscape text.toList
  place : text ≠ "." ∧ text ≠ ".."

def messagesChars : List Char :=
  ['m', 'e', 's', 's', 'a', 'g', 'e', 's']

/-- What follows the first slash. -/
def messageTail (index id : String) : List Char :=
  messagesChars ++ '/' :: (index.toList ++ '/' :: id.toList)

theorem toList_path_message (index id : String) :
    (Endpoint.message index id).path.toList = '/' :: messageTail index id := by
  have front : "/messages/".toList = '/' :: (messagesChars ++ ['/']) := by decide
  have slash : "/".toList = ['/'] := by decide
  rw [Endpoint.path, String.toList_append, String.toList_append, String.toList_append, front,
    slash, messageTail]
  simp only [List.cons_append, List.append_assoc, List.nil_append]

theorem byteCount_messageTail (index id : String) :
    byteCount (messageTail index id) =
      10 + (Text.utf8 index).length + (Text.utf8 id).length := by
  have slash : (String.utf8EncodeChar '/').length = 1 := by decide
  have messages : byteCount messagesChars = 8 := by decide
  rw [messageTail, byteCount_append, byteCount_cons, byteCount_append, byteCount_cons, slash,
    messages, byteCount, byteCount, Text.utf8, Text.utf8]
  omega

theorem splitOnP_messageTail (index id : String) :
    (messageTail index id).splitOnP isSlash =
      messagesChars :: (index.toList.splitOnP isSlash ++ id.toList.splitOnP isSlash) := by
  rw [messageTail, List.splitOnP_append_cons_of_forall_mem
      (Text.forall_mem_of_all (by decide)) '/' (by decide),
    List.splitOnP_append_cons _ _ (by decide)]

theorem endsVisibly_append_cons {c : Char} (visible : isOuterBlank c = false)
    (front cs : List Char) : EndsVisibly (front ++ c :: cs) ↔ EndsVisibly cs := by
  rw [EndsVisibly, EndsVisibly, List.getLast?_append, List.getLast?_cons]
  cases cs.getLast? <;> simp [visible]

theorem endsVisibly_messageTail {index id : String} :
    EndsVisibly ('/' :: messageTail index id) ↔ EndsVisibly id.toList := by
  have slash : isOuterBlank '/' = false := by decide
  have whole : '/' :: messageTail index id =
      ('/' :: (messagesChars ++ '/' :: index.toList)) ++ '/' :: id.toList := by
    simp [messageTail]
  rw [whole, endsVisibly_append_cons slash]

theorem namesPlace_percentEncode {text : String} (segment : IsSegment text) :
    namesPlace (percentEncode inPathSet text.toList) = false := by
  have bytes : partBytes (percentEncode inPathSet text.toList) = Text.utf8 text := by
    rw [partBytes_percentEncode, partBytes_of_hasNoEscape segment.literal]
    rfl
  rw [namesPlace, Bool.or_eq_false_iff, isHere, isAbove, decide_eq_false_iff_not,
    decide_eq_false_iff_not]
  refine ⟨fun here => segment.place.1 (Text.utf8_inj ?_),
    fun above => segment.place.2 (Text.utf8_inj ?_)⟩
  · rw [← bytes, partBytes_of_decodeDots (n := 1) here]
    decide
  · rw [← bytes, partBytes_of_decodeDots (n := 2) above]
    decide

section

variable {base : Url} (h : base.WellFormed)
include h

theorem path_withTail_place (rest : List Char) :
    (base.withTail (base.place.flatMap ('/' :: ·) ++ '/' :: rest)).path =
      follow base.place.reverse (((rest.takeWhile fun c => c != '?' && c != '#').splitOnP
        isSlash).map (percentEncode inPathSet)) := by
  have canonical := canonical_place h
  have inPath := staysInPath_of_plain (plain_segments canonical)
  rw [withTail]
  dsimp only
  rw [List.takeWhile_append_of_pos inPath, List.takeWhile_cons_of_pos (by decide),
    pathSegments_append canonical]

theorem qualify_message (noQuery : base.query = none) (noFragment : base.fragment = none)
    (index id : String) :
    base.qualify (Endpoint.message index id).path =
      .ok (base.withTail
        (base.place.flatMap ('/' :: ·) ++ cleanEnd ('/' :: messageTail index id))) := by
  have canonical := canonical_place h
  have joined : base.joinedTail (Endpoint.message index id).path.toList =
      base.place.flatMap ('/' :: ·) ++ '/' :: messageTail index id := by
    rw [toList_path_message]
    exact joinedTail_of_bare h noQuery noFragment (by decide) _
  rw [qualify_eq h (Endpoint.isAbsolutePath_path _), joined,
    cleanEnd_append (by decide) fun c hc => (visible_segments canonical c hc).2]

/-- The three segments count as much as the text that was written, so no step of reading the path
has lost anything. -/
theorem intact_of_names {index id : String} {cleaned : List Char}
    (cut : cleanEnd ('/' :: messageTail index id) = '/' :: cleaned)
    (names : (base.withTail (base.place.flatMap ('/' :: ·) ++ '/' :: cleaned)).Names
      base index id) :
    cleaned = messageTail index id ∧ (∀ c ∈ messageTail index id, c ≠ '?' ∧ c ≠ '#') ∧
      (∀ part ∈ (messageTail index id).splitOnP isSlash,
        HasNoEscape part ∧ namesPlace (percentEncode inPathSet part) = false) ∧
      ((messageTail index id).splitOnP isSlash).length = 3 := by
  let inPath (c : Char) : Bool := c != '?' && c != '#'
  let parts := (cleaned.takeWhile inPath).splitOnP isSlash
  obtain ⟨a, b, c, path, ofMessages, ofIndex, ofId⟩ := names.path
  rw [path_withTail_place h] at path
  have sub : cleaned.Sublist (messageTail index id) := by
    rw [← List.cons_sublist_cons, ← cut]
    exact cleanEnd_sublist _
  have front : (cleaned.takeWhile inPath).Sublist cleaned := List.takeWhile_sublist _
  have counted := weight_follow_le base.place.reverse (parts.map (percentEncode inPathSet))
  have encoded := weight_percentEncode_le parts
  have parted : total byteCount parts = 1 + byteCount (cleaned.takeWhile inPath) :=
    total_byteCount_splitOnP _
  have fewer := byteCount_le_of_sublist (front.trans sub)
  have written := byteCount_messageTail index id
  have eight : (Text.utf8 "messages").length = 8 := by decide
  rw [path] at counted
  simp only [weight_append, weight_reverse, weight_cons, weight_nil, ofMessages, ofIndex, ofId,
    eight] at counted
  have same : cleaned.takeWhile inPath = messageTail index id :=
    eq_of_sublist (front.trans sub) (by omega)
  have all : cleaned = messageTail index id := sub.antisymm (same ▸ front)
  have literal : ∀ part ∈ parts, HasNoEscape part := hasNoEscape_of_weight (by omega)
  have noPlace : ∀ s ∈ parts.map (percentEncode inPathSet), namesPlace s = false := by
    have none : (parts.map (percentEncode inPathSet)).countP namesPlace = 0 := by omega
    simpa using List.countP_eq_zero.mp none
  have three : parts.map (percentEncode inPathSet) = [a, b, c] := by
    rw [follow_of_namesPlace noPlace, List.reverse_reverse] at path
    exact List.append_cancel_left path
  have plain := List.takeWhile_eq_self_iff.mp (all ▸ same)
  rw [← same]
  refine ⟨all.trans same.symm, fun c hc => ?_, fun part hp =>
    ⟨literal part hp, noPlace _ (List.mem_map_of_mem hp)⟩, ?_⟩
  · rw [same] at hc
    simpa [inPath] using plain c hc
  · rw [← List.length_map (f := percentEncode inPathSet)]
    exact congrArg List.length three

/-- If the address names the message, index and id are segments. -/
theorem isSegment_of_names {index id : String} {cleaned : List Char}
    (cut : cleanEnd ('/' :: messageTail index id) = '/' :: cleaned)
    (names : (base.withTail (base.place.flatMap ('/' :: ·) ++ '/' :: cleaned)).Names
      base index id) :
    IsSegment index ∧ IsSegment id ∧ EndsVisibly id.toList := by
  obtain ⟨all, plain, parts, count⟩ := intact_of_names h cut names
  rw [all] at cut
  obtain ⟨kept, visible⟩ := (cleanEnd_eq_self_iff _).mp cut
  -- The two slashes that part the segments leave none for index and id.
  rw [splitOnP_messageTail] at parts count
  rw [List.length_cons, List.length_append, length_splitOnP, length_splitOnP] at count
  have wholeIndex : ∀ c ∈ index.toList, isSlash c = false := by
    have none : index.toList.countP isSlash = 0 := by omega
    simpa using List.countP_eq_zero.mp none
  have wholeId : ∀ c ∈ id.toList, isSlash c = false := by
    have none : id.toList.countP isSlash = 0 := by omega
    simpa using List.countP_eq_zero.mp none
  rw [List.splitOnP_eq_singleton wholeIndex, List.splitOnP_eq_singleton wholeId] at parts
  have isSegment {text : String} (whole : ∀ c ∈ text.toList, isSlash c = false)
      (part : HasNoEscape text.toList ∧ namesPlace (percentEncode inPathSet text.toList) = false)
      (inside : ∀ c ∈ text.toList, c ∈ messageTail index id) : IsSegment text := by
    refine ⟨whole, fun c hc => plain c (inside c hc),
      fun c hc => kept c (List.mem_cons_of_mem _ (inside c hc)), part.1, ?_, ?_⟩
    · rintro rfl
      exact absurd part.2 (by decide)
    · rintro rfl
      exact absurd part.2 (by decide)
  exact ⟨isSegment wholeIndex (parts _ (by simp)) fun c hc => by simp [messageTail, hc],
    isSegment wholeId (parts _ (by simp)) fun c hc => by simp [messageTail, hc],
    endsVisibly_messageTail.mp visible⟩

/-- A message whose index and id are segments is named by its address. -/
theorem names_of_isSegment {index id : String} (inIndex : IsSegment index)
    (ofMessage : IsSegment id) (visible : EndsVisibly id.toList) :
    (base.withTail (base.place.flatMap ('/' :: ·) ++ cleanEnd ('/' :: messageTail index id))).Names
      base index id := by
  have canonical := canonical_place h
  have chars {c : Char} (hc : c ∈ '/' :: messageTail index id) :
      (c ≠ '?' ∧ c ≠ '#') ∧ isDropped c = false := by
    simp only [messageTail, List.mem_cons, List.mem_append] at hc
    have slash : ('/' ≠ '?' ∧ '/' ≠ '#') ∧ isDropped '/' = false := by decide
    have messages : ∀ c ∈ messagesChars, (c ≠ '?' ∧ c ≠ '#') ∧ isDropped c = false :=
      Text.forall_mem_of_all (by decide)
    obtain rfl | hc | rfl | hc | rfl | hc := hc
    · exact slash
    · exact messages c hc
    · exact slash
    · exact ⟨inIndex.inside c hc, inIndex.kept c hc⟩
    · exact slash
    · exact ⟨ofMessage.inside c hc, ofMessage.kept c hc⟩
  have all : cleanEnd ('/' :: messageTail index id) = '/' :: messageTail index id :=
    (cleanEnd_eq_self_iff _).mpr
      ⟨fun c hc => (chars hc).2, endsVisibly_messageTail.mpr visible⟩
  have plain : ∀ c ∈ base.place.flatMap ('/' :: ·) ++ '/' :: messageTail index id,
      c ≠ '?' ∧ c ≠ '#' := by
    intro c hc
    exact (List.mem_append.mp hc).elim (plain_segments canonical c) fun hc => (chars hc).1
  have noPlace : ∀ s ∈ [messagesChars, index.toList, id.toList].map (percentEncode inPathSet),
      namesPlace s = false := by
    have messages : namesPlace (percentEncode inPathSet messagesChars) = false := by decide
    simpa using ⟨messages, namesPlace_percentEncode inIndex, namesPlace_percentEncode ofMessage⟩
  have part {text : String} (segment : IsSegment text) :
      partBytes (percentEncode inPathSet text.toList) = Text.utf8 text := by
    rw [partBytes_percentEncode, partBytes_of_hasNoEscape segment.literal]
    rfl
  rw [all, withTail_of_plain base plain]
  refine ⟨⟨percentEncode inPathSet messagesChars, percentEncode inPathSet index.toList,
    percentEncode inPathSet id.toList, ?_, by decide, part inIndex, part ofMessage⟩, rfl, rfl⟩
  rw [pathSegments_append canonical, splitOnP_messageTail,
    List.splitOnP_eq_singleton inIndex.whole, List.splitOnP_eq_singleton ofMessage.whole]
  exact (follow_of_namesPlace noPlace).trans (by rw [List.reverse_reverse]; rfl)

end

/-- Index and id can stand in a path as they are. -/
structure FitPath (index id : String) : Prop where
  inIndex : IsSegment index
  ofMessage : IsSegment id
  visible : EndsVisibly id.toList

end Url

/-- The request for a message is sent, and its address names the message exactly if index and id
fit the path. -/
theorem Client.exists_prepare_message {client : Client} (h : client.baseUrl.WellFormed)
    (noQuery : client.baseUrl.query = none) (noFragment : client.baseUrl.fragment = none)
    (index id : String) :
    ∃ sent, client.prepare (Message.call index id).request = .ok sent ∧
      (sent.url.Names client.baseUrl index id ↔ Url.FitPath index id) := by
  have qualified := Url.qualify_message h noQuery noFragment index id
  obtain ⟨cleaned, cut⟩ := Url.cleanEnd_slash (Url.messageTail index id)
  generalize address : client.baseUrl.withTail (client.baseUrl.place.flatMap ('/' :: ·) ++
    Url.cleanEnd ('/' :: Url.messageTail index id)) = u at qualified
  refine ⟨client.requestAt (Message.call index id).request u, ?_, ?_⟩
  · rw [prepare, Call.request, Message.call, qualified]
    rfl
  · have names : u.Names client.baseUrl index id ↔ Url.FitPath index id := by
      rw [← address]
      constructor
      · intro names
        rw [cut] at names
        obtain ⟨inIndex, ofMessage, visible⟩ := Url.isSegment_of_names h cut names
        exact ⟨inIndex, ofMessage, visible⟩
      · exact fun fit => Url.names_of_isSegment h fit.inIndex fit.ofMessage fit.visible
    refine Iff.trans ?_ names
    obtain kept | kept := client.url_requestAt (Message.call index id).request u
    · rw [kept]
    · rw [kept]
      exact ⟨fun n => ⟨n.path, n.query, n.fragment⟩, fun n => ⟨n.path, n.query, n.fragment⟩⟩

/-- With an accepted base address that has neither a query nor a fragment, the address at which a
stored message is asked for names that message exactly if index and id fit the path; messages
that differ in either are then asked for at different paths. -/
theorem names_iff_of_parseBaseUrl {raw : String} {base : Url}
    (accepted : Config.parseBaseUrl raw = .ok base)
    (bare : base.query = none ∧ base.fragment = none) {client : Client}
    (configured : client.baseUrl = base) (index id : String) :
    ∃ sent, client.prepare (Message.call index id).request = .ok sent ∧
      (sent.url.Names base index id ↔ Url.FitPath index id) ∧
      (Url.FitPath index id → ∀ otherIndex otherId other, Url.FitPath otherIndex otherId →
        client.prepare (Message.call otherIndex otherId).request = .ok other →
        other.url.path = sent.url.path → otherIndex = index ∧ otherId = id) := by
  subst configured
  have wellFormed := Config.wellFormed_of_parseBaseUrl accepted
  have names := Client.exists_prepare_message wellFormed bare.1 bare.2
  obtain ⟨sent, prepared, here⟩ := names index id
  refine ⟨sent, prepared, here, fun fit otherIndex otherId other otherFit otherPrepared same => ?_⟩
  obtain ⟨found, foundPrepared, there⟩ := names otherIndex otherId
  cases otherPrepared.symm.trans foundPrepared
  obtain ⟨a, b, c, path, -, ofIndex, ofId⟩ := (here.mpr fit).path
  obtain ⟨d, e, f, otherPath, -, ofOtherIndex, ofOtherId⟩ := (there.mpr otherFit).path
  rw [path, otherPath] at same
  cases List.append_cancel_left same
  exact ⟨Text.utf8_inj (ofOtherIndex.symm.trans ofIndex), Text.utf8_inj (ofOtherId.symm.trans ofId)⟩

/-- The index has a letter outside ASCII, the id a blank, braces and a percent sign. -/
theorem names_of_parseBaseUrl_encoded :
    let raw := "https://me@logs.example.org/graylog//"
    let base : Url :=
      ⟨.https, "me".toList, none, .domain "logs.example.org", none, ["graylog".toList, [], []],
        none, none⟩
    let client : Client := ⟨base, none, 30⟩
    Config.parseBaseUrl raw = .ok base ∧ Url.FitPath "größe_7" "a {b} 5%zz" ∧
      ∃ sent, client.prepare (Message.call "größe_7" "a {b} 5%zz").request = .ok sent ∧
        sent.url.Names base "größe_7" "a {b} 5%zz" := by
  intro raw base client
  have accepted : Config.parseBaseUrl raw = .ok base := by decide +kernel
  have fit : Url.FitPath "größe_7" "a {b} 5%zz" :=
    ⟨⟨Text.forall_mem_of_all (by decide), Text.forall_mem_of_all (by decide),
        Text.forall_mem_of_all (by decide), by decide, by decide⟩,
      ⟨Text.forall_mem_of_all (by decide), Text.forall_mem_of_all (by decide),
        Text.forall_mem_of_all (by decide), by decide, by decide⟩, by decide⟩
  obtain ⟨sent, prepared, names, -⟩ :=
    names_iff_of_parseBaseUrl accepted ⟨rfl, rfl⟩ (show client.baseUrl = base from rfl) "größe_7"
      "a {b} 5%zz"
  exact ⟨accepted, fit, sent, prepared, names.mpr fit⟩

/-- A question mark in the message id begins a query, and another message is asked for. -/
theorem not_names_of_questionMark :
    ∃ base sent, Config.parseBaseUrl "http://127.0.0.1:9000/api" = .ok base ∧
      (⟨base, none, 30⟩ : Client).prepare (Message.call "graylog_0" "a?b").request = .ok sent ∧
      sent.url.query = some ['b'] ∧ ¬sent.url.Names base "graylog_0" "a?b" := by
  let base : Url := ⟨.http, [], none, .ipv4 0x7f000001, some 9000, ["api".toList], none, none⟩
  let client : Client := ⟨base, none, 30⟩
  let address : Url :=
    { base with
      path := ["api", "messages", "graylog_0", "a"].map String.toList
      query := some ['b'] }
  let sent := client.requestAt (Message.call "graylog_0" "a?b").request address
  have query : sent.url.query = some ['b'] := by decide +kernel
  refine ⟨base, sent, by decide +kernel, by decide +kernel, query, fun names => ?_⟩
  cases query.symm.trans names.query

end StreamPipelines
