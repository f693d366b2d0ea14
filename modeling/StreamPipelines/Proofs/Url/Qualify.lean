import Mathlib.Data.List.TakeWhile
import StreamPipelines.Proofs.Result
import StreamPipelines.Proofs.Url.Path

/-!
Addresses below a base address. The authority of an address that was read is read again from its
text, and so whatever path is put behind a base address, the whole is an address on the server of
the base: no path makes a request impossible or sends it elsewhere. What the address has behind
its authority is read from the text of the base behind its authority, with the path joined on.
-/

namespace StreamPipelines
namespace Url

/-- What holds of every address that was read. -/
structure WellFormed (u : Url) : Prop where
  username : ∀ c ∈ u.username, Unescaped inUserInfoSet c
  password : ∀ p, u.password = some p → p ≠ [] ∧ ∀ c ∈ p, Unescaped inUserInfoSet c
  readHost : Host.ofChars u.host.chars = .ok u.host
  host : u.host.Written
  port : ∀ p, u.port = some p → p < 65536 ∧ p ≠ u.scheme.defaultPort
  path : u.path ≠ []
  segments : ∀ s ∈ u.path, IsCanonical s

theorem encodedChar_ne_nil (set : Char → Bool) (c : Char) : encodedChar set c ≠ [] := by
  unfold encodedChar
  split
  · obtain ⟨b, bs, bytes⟩ := List.exists_cons_of_ne_nil (String.utf8EncodeChar_ne_nil (c := c))
    simp [bytes, encodedByte]
  · exact List.cons_ne_nil c []

theorem percentEncode_ne_nil (set : Char → Bool) {cs : List Char} (h : cs ≠ []) :
    percentEncode set cs ≠ [] := by
  obtain ⟨c, cs, rfl⟩ := List.exists_cons_of_ne_nil h
  unfold percentEncode
  rw [List.flatMap_cons]
  exact List.append_ne_nil_of_left_ne_nil (encodedChar_ne_nil set c) _

theorem follow_ne_nil {place segments : List (List Char)} (h : segments ≠ []) :
    follow place segments ≠ [] := by
  fun_induction follow place segments with
  | case1 place => exact absurd rfl h
  | case2 | case3 | case4 => simp
  | case5 place segment more nonempty _ ih => exact ih (by simpa using nonempty)
  | case6 place segment more nonempty _ _ ih => exact ih (by simpa using nonempty)
  | case7 place segment more nonempty _ _ ih => exact ih (by simpa using nonempty)

theorem pathSegments_ne_nil (cs : List Char) : pathSegments cs ≠ [] := by
  unfold pathSegments
  exact follow_ne_nil (by simp [List.splitOnP_ne_nil])

theorem lt_of_readPort {cs : List Char} {p : Nat} (h : readPort cs = .ok (some p)) :
    p < 65536 := by
  unfold readPort at h
  split at h
  · cases h
  · split at h
    · rename_i read
      cases h
      exact Text.lt_of_readDigits (by decide) read
    · cases h

theorem unescaped_readUserInfo (cs : List Char) :
    (∀ c ∈ (readUserInfo cs).1, Unescaped inUserInfoSet c) ∧
      ∀ p, (readUserInfo cs).2 = some p → p ≠ [] ∧ ∀ c ∈ p, Unescaped inUserInfoSet c := by
  refine ⟨fun c hc => unescaped_of_mem_percentEncode (fun _ => id) hc, fun p given => ?_⟩
  unfold readUserInfo at given
  simp only at given
  split at given
  · cases given
  · rename_i present
    cases given
    exact ⟨percentEncode_ne_nil _ (by simpa using present),
      fun c hc => unescaped_of_mem_percentEncode (fun _ => id) hc⟩

theorem wellFormed_of_readWeb {scheme : Scheme} {cs : List Char} {u : Url}
    (h : readWeb scheme scheme.defaultPort cs = .ok u) : u.WellFormed := by
  unfold readWeb at h
  simp only [bind, Except.bind, pure, Except.pure, throw, throwThe, MonadExceptOf.throw] at h
  split at h
  · cases h
  · split at h
    · cases h
    · rename_i host hostRead
      split at h
      · cases h
      · rename_i port portRead
        cases h
        obtain ⟨reread, written⟩ := Host.ofChars_chars hostRead
        exact {
          username := (unescaped_readUserInfo _).1
          password := (unescaped_readUserInfo _).2
          readHost := reread
          host := written
          port := fun p given => by
            obtain ⟨found, other⟩ := Option.filter_eq_some_iff.mp given
            subst found
            exact ⟨lt_of_readPort portRead, by simpa using other⟩
          path := pathSegments_ne_nil _
          segments := fun s hs => isCanonical_of_mem_pathSegments hs }

theorem wellFormed_of_parseChars {cs : List Char} {u : Url} (h : parseChars cs = .ok (.web u)) :
    u.WellFormed := by
  unfold parseChars at h
  split at h
  · cases h
  · split at h
    · obtain ⟨v, read, same⟩ := exists_of_map_eq_ok h
      cases same
      exact wellFormed_of_readWeb read
    · split at h
      · obtain ⟨v, read, same⟩ := exists_of_map_eq_ok h
        cases same
        exact wellFormed_of_readWeb read
      · obtain ⟨_, -, other⟩ := exists_of_map_eq_ok h
        cases other

def authorityChars (u : Url) : List Char :=
  u.userInfoChars ++ u.host.chars ++ u.portChars

/-- What stands behind the authority. -/
def tailChars (u : Url) : List Char :=
  u.pathChars ++ u.queryChars ++ u.fragmentChars

/-- The address with `cs` read as what stands behind its authority. -/
def withTail (u : Url) (cs : List Char) : Url :=
  let behindPath := cs.dropWhile fun c => c != '?' && c != '#'
  { u with
    path := pathSegments (cs.takeWhile fun c => c != '?' && c != '#')
    query :=
      match behindPath with
      | '?' :: cs => some (percentEncode inQuerySet (cs.takeWhile (· != '#')))
      | _ => none
    fragment :=
      match behindPath.dropWhile (· != '#') with
      | '#' :: cs => some (percentEncode inFragmentSet cs)
      | _ => none }

theorem chars_eq (u : Url) :
    u.chars = u.scheme.chars ++ ':' :: '/' :: '/' :: u.authorityChars ++ u.tailChars := by
  simp [chars, authorityChars, tailChars]

/-- The addresses are of one server, and name the same credentials. -/
structure SameServer (u v : Url) : Prop where
  scheme : u.scheme = v.scheme
  username : u.username = v.username
  password : u.password = v.password
  host : u.host = v.host
  port : u.port = v.port

theorem sameServer_withTail (u : Url) (cs : List Char) : (u.withTail cs).SameServer u :=
  ⟨rfl, rfl, rfl, rfl, rfl⟩

theorem splitUserInfo_append {info server : List Char} (h : ∀ c ∈ server, c ≠ '@') :
    splitUserInfo (info ++ '@' :: server) = some (info, server) := by
  have behind : ((info ++ '@' :: server).reverse.takeWhile (· != '@')).reverse = server := by
    rw [List.reverse_append, List.reverse_cons, List.append_assoc,
      List.takeWhile_append_of_pos (by simpa using h)]
    simp
  unfold splitUserInfo
  rw [if_pos (by simp)]
  simp only [behind]
  simp [show info.length + (server.length + 1) - server.length - 1 = info.length by omega]

theorem splitUserInfo_of_notMem {cs : List Char} (h : ∀ c ∈ cs, c ≠ '@') :
    splitUserInfo cs = none := by
  unfold splitUserInfo
  rw [if_neg]
  simpa using fun at_mem => h '@' at_mem rfl

theorem readUserInfo_append {username password : List Char} (present : password ≠ [])
    (hu : ∀ c ∈ username, Unescaped inUserInfoSet c)
    (hp : ∀ c ∈ password, Unescaped inUserInfoSet c) :
    readUserInfo (username ++ ':' :: password) = (username, some password) := by
  have noColon : ∀ c ∈ username, (c != ':') = true := by
    intro c hc
    simpa using (hu c hc).ne (by decide)
  unfold readUserInfo
  rw [List.takeWhile_append_of_pos noColon, List.dropWhile_append_of_pos noColon]
  simp [percentEncode_of_unescaped hu, percentEncode_of_unescaped hp, present]

theorem readUserInfo_of_unescaped {username : List Char}
    (hu : ∀ c ∈ username, Unescaped inUserInfoSet c) :
    readUserInfo username = (username, none) := by
  have noColon : ∀ c ∈ username, (c != ':') = true := by
    intro c hc
    simpa using (hu c hc).ne (by decide)
  unfold readUserInfo
  rw [List.takeWhile_eq_self_iff.mpr noColon, List.dropWhile_eq_nil_iff.mpr noColon]
  simp [percentEncode_of_unescaped hu]

theorem mem_portChars {u : Url} {c : Char} (hc : c ∈ u.portChars) :
    c = ':' ∨ Text.IsDecimal c := by
  unfold portChars at hc
  split at hc
  · cases hc
  · exact (List.mem_cons.mp hc).imp_right Text.isDecimal_of_mem_digits

theorem splitHost_portChars (u : Url) :
    splitHost false u.portChars = ([], u.port.map Text.digits) := by
  unfold portChars
  cases u.port with
  | none => rfl
  | some p => simp [splitHost]

theorem readPort_digits {port : Option Nat} (h : ∀ p, port = some p → p < 65536) :
    readPort ((port.map Text.digits).getD []) = .ok port := by
  cases port with
  | none => rfl
  | some p =>
      have read := Text.readDigits_digits (h p rfl) []
      rw [List.append_nil] at read
      simp [readPort, Text.digits_ne_nil, read, Text.readDigits]

section

variable {u : Url} (h : u.WellFormed)
include h

theorem inside_of_mem_server {c : Char} (hc : c ∈ u.host.chars ++ u.portChars) :
    Inside c ∧ c ≠ '@' := by
  obtain hc | hc := List.mem_append.mp hc
  · exact Host.inside_of_mem_chars h.host hc
  · obtain rfl | digit := mem_portChars hc
    · exact ⟨⟨by decide, by decide⟩, by decide⟩
    · have name := Host.isNameChar_of_ipv4 (.inl digit)
      refine ⟨name.inside, ?_⟩
      rintro rfl
      exact absurd name.allowed (by decide)

theorem inside_of_mem_userInfo {c : Char} (hc : c ∈ u.userInfoChars) : Inside c := by
  have colon : Inside ':' := ⟨by decide, by decide⟩
  have at_sign : Inside '@' := ⟨by decide, by decide⟩
  unfold userInfoChars at hc
  split at hc
  · split at hc
    · cases hc
    · obtain hc | hc := List.mem_append.mp hc
      · exact (h.username c hc).inside
      · cases List.mem_singleton.mp hc
        exact at_sign
  · rename_i p given
    simp only [List.mem_append, List.mem_cons, List.not_mem_nil, or_false] at hc
    obtain (hc | rfl | hc) | rfl := hc
    · exact (h.username c hc).inside
    · exact colon
    · exact ((h.password p given).2 c hc).inside
    · exact at_sign

theorem inside_of_mem_authority {c : Char} (hc : c ∈ u.authorityChars) : Inside c := by
  unfold authorityChars at hc
  rw [List.append_assoc] at hc
  obtain hc | hc := List.mem_append.mp hc
  · exact inside_of_mem_userInfo h hc
  · exact (inside_of_mem_server h hc).1

theorem authorityChars_ne_nil : u.authorityChars ≠ [] := by
  simp [authorityChars, Host.chars_ne_nil h.host]

/-- User name and password are parted from the server again. -/
theorem splitUserInfo_authority :
    ∃ info, (splitUserInfo u.authorityChars).getD ([], u.authorityChars) =
        (info, u.host.chars ++ u.portChars) ∧
      readUserInfo info = (u.username, u.password) := by
  have server : ∀ c ∈ u.host.chars ++ u.portChars, c ≠ '@' :=
    fun c hc => (inside_of_mem_server h hc).2
  cases given : u.password with
  | none =>
      by_cases anonymous : u.username = []
      · refine ⟨[], ?_, ?_⟩
        · simp [authorityChars, userInfoChars, given, anonymous, splitUserInfo_of_notMem server]
        · rw [anonymous]
          rfl
      · refine ⟨u.username, ?_, readUserInfo_of_unescaped h.username⟩
        simp [authorityChars, userInfoChars, given, anonymous, splitUserInfo_append server]
  | some p =>
      obtain ⟨present, written⟩ := h.password p given
      refine ⟨u.username ++ ':' :: p, ?_, readUserInfo_append present h.username written⟩
      have split : splitUserInfo ((u.username ++ ':' :: p) ++ '@' :: (u.host.chars ++
          u.portChars)) = some (u.username ++ ':' :: p, u.host.chars ++ u.portChars) :=
        splitUserInfo_append server
      simp only [List.append_assoc, List.cons_append] at split
      simp [authorityChars, userInfoChars, given, split]

/-- The authority is read again, and what stands behind it as the tail of the address. -/
theorem readWeb_authority (tail : List Char) :
    readWeb u.scheme u.scheme.defaultPort ('/' :: '/' :: u.authorityChars ++ '/' :: tail) =
      .ok (u.withTail ('/' :: tail)) := by
  -- Each part is cut where it was put together, since no character inside it ends it.
  obtain ⟨info, split, userInfo⟩ := splitUserInfo_authority h
  have stays : ∀ c ∈ u.authorityChars, (!endsAuthority c) = true := by
    intro c hc
    simp [(inside_of_mem_authority h hc).stays]
  have front : ('/' :: '/' :: u.authorityChars ++ '/' :: tail).dropWhile isSlash =
      u.authorityChars ++ '/' :: tail := by
    obtain ⟨c, cs, authority⟩ := List.exists_cons_of_ne_nil (authorityChars_ne_nil h)
    have stays := (inside_of_mem_authority h (c := c) (by simp [authority])).stays
    have first : ¬isSlash c = true := by
      intro slash
      simp [endsAuthority, slash] at stays
    rw [authority]
    exact List.dropWhile_cons_of_neg first
  have server := splitHost_chars h.host u.portChars
  rw [splitHost_portChars, List.append_nil] at server
  have port := readPort_digits fun p given => (h.port p given).1
  have kept : u.port.filter (· != u.scheme.defaultPort) = u.port := by
    cases given : u.port with
    | none => rfl
    | some p => simp [(h.port p given).2]
  have present : u.host.chars.isEmpty = false := by simp [Host.chars_ne_nil h.host]
  have authority : (u.authorityChars ++ '/' :: tail).takeWhile (!endsAuthority ·) =
      u.authorityChars := by
    rw [List.takeWhile_append_of_pos stays, List.takeWhile_cons_of_neg (by decide),
      List.append_nil]
  have behind : (u.authorityChars ++ '/' :: tail).dropWhile (!endsAuthority ·) = '/' :: tail := by
    rw [List.dropWhile_append_of_pos stays, List.dropWhile_cons_of_neg (by decide)]
  unfold readWeb
  simp only [front, authority, behind, split, userInfo, server, present, h.readHost, port,
    Bool.false_eq_true, if_false, bind, Except.bind, pure, Except.pure, kept]
  rfl

end

theorem reverse_dropWhile_append {p : Char → Bool} {c : Char} (h : p c = false)
    (front tail : List Char) :
    ((front ++ c :: tail).reverse.dropWhile p).reverse =
      front ++ c :: (tail.reverse.dropWhile p).reverse := by
  rw [List.reverse_append, List.reverse_cons, List.append_assoc, List.dropWhile_append]
  split
  · rename_i gone
    simp [List.isEmpty_iff.mp gone, h]
  · simp

/-- The text behind the authority when a path is put below the base address. -/
def joinedTail (base : Url) (path : List Char) : List Char :=
  Text.trimEndOf '/' base.tailChars ++ '/' :: Text.trimStartOf '/' path

/-- Whatever stays of the text behind the authority, a slash comes first. -/
theorem exists_joinedTail {u : Url} (h : u.path ≠ []) (path : List Char) :
    ∃ tail, u.joinedTail path = '/' :: tail := by
  obtain ⟨segment, segments, segmented⟩ := List.exists_cons_of_ne_nil h
  have shorter : Text.trimEndOf '/' u.tailChars <+: u.tailChars := by
    rw [Text.trimEndOf, ← List.reverse_suffix, List.reverse_reverse]
    exact List.dropWhile_suffix _
  cases trimmed : Text.trimEndOf '/' u.tailChars with
  | nil => exact ⟨Text.trimStartOf '/' path, by rw [joinedTail, trimmed]; rfl⟩
  | cons c cs =>
      obtain ⟨more, whole⟩ := trimmed ▸ shorter
      have first : c = '/' := by
        simp only [tailChars, pathChars, segmented, List.flatMap_cons, List.cons_append,
          List.cons.injEq] at whole
        exact whole.1
      exact ⟨cs ++ '/' :: Text.trimStartOf '/' path, by rw [joinedTail, trimmed, first]; rfl⟩

theorem splitScheme_chars (scheme : Scheme) (rest : List Char) :
    splitScheme (scheme.chars ++ ':' :: rest) = some (scheme.chars, rest) := by
  cases scheme <;> rfl

theorem Scheme.chars_clean (scheme : Scheme) :
    scheme.chars.filter (!isDropped ·) = scheme.chars ∧
      ∀ rest, (scheme.chars ++ rest).dropWhile isOuterBlank = scheme.chars ++ rest := by
  cases scheme <;> exact ⟨rfl, fun rest => rfl⟩

/-- The text without the blanks at its end and without line ends and tabs. -/
def cleanEnd (cs : List Char) : List Char :=
  (cs.reverse.dropWhile isOuterBlank).reverse.filter (!isDropped ·)

theorem cleanEnd_append {c : Char} (visible : isOuterBlank c = false) {front : List Char}
    (kept : ∀ c ∈ front, isDropped c = false) (tail : List Char) :
    cleanEnd (front ++ c :: tail) = front ++ cleanEnd (c :: tail) := by
  have cut := reverse_dropWhile_append visible front tail
  have first := reverse_dropWhile_append visible [] tail
  rw [List.nil_append, List.nil_append] at first
  rw [cleanEnd, cut, List.filter_append, List.filter_eq_self.mpr (by simpa using kept), cleanEnd,
    first]

theorem cleanEnd_slash (tail : List Char) :
    ∃ cleaned, cleanEnd ('/' :: tail) = '/' :: cleaned := by
  have cut := reverse_dropWhile_append (p := isOuterBlank) (c := '/') (by decide) [] tail
  rw [List.nil_append, List.nil_append] at cut
  exact ⟨_, by rw [cleanEnd, cut, List.filter_cons_of_pos (by decide)]⟩

section

variable {base : Url} (h : base.WellFormed)
include h

theorem joinedChars_eq {path : List Char} (relative : isAbsolutePath path = false) :
    joinedChars base path =
      base.scheme.chars ++ ':' :: ('/' :: '/' :: base.authorityChars ++ base.joinedTail path) := by
  -- The last character of the authority is no slash, so slashes are taken from the path alone.
  obtain empty | ⟨front, last, authority⟩ := List.eq_nil_or_concat base.authorityChars
  · exact absurd empty (authorityChars_ne_nil h)
  · have other : (last == '/') = false := by
      have stays := (inside_of_mem_authority h (c := last) (by simp [authority])).stays
      simp only [beq_eq_false_iff_ne, ne_eq]
      rintro rfl
      exact absurd stays (by decide)
    have trimmed : Text.trimEndOf '/' base.chars =
        base.scheme.chars ++ ':' :: '/' :: '/' :: base.authorityChars ++
          Text.trimEndOf '/' base.tailChars := by
      have cut := reverse_dropWhile_append (p := (· == '/')) other
        (base.scheme.chars ++ ':' :: '/' :: '/' :: front) base.tailChars
      simpa [chars_eq, authority, Text.trimEndOf] using cut
    rw [joinedChars, relative, if_neg Bool.false_ne_true, trimmed, joinedTail]
    simp

/-- Blanks and line ends are taken from what stands behind the authority alone. -/
theorem clean_joined (tail : List Char) :
    clean (base.scheme.chars ++ ':' :: ('/' :: '/' :: base.authorityChars ++ '/' :: tail)) =
      base.scheme.chars ++ ':' :: ('/' :: '/' :: base.authorityChars ++
        cleanEnd ('/' :: tail)) := by
  have kept : ∀ c ∈ base.scheme.chars ++ ':' :: ('/' :: '/' :: base.authorityChars),
      isDropped c = false := by
    intro c hc
    obtain hc | hc := List.mem_append.mp hc
    · have scheme := List.filter_eq_self.mp base.scheme.chars_clean.1 c hc
      simpa using scheme
    · simp only [List.mem_cons] at hc
      obtain rfl | rfl | rfl | hc := hc
      · decide
      · decide
      · decide
      · exact (inside_of_mem_authority h hc).kept
  have cut := cleanEnd_append (c := '/') (by decide) kept tail
  simp only [List.append_assoc, List.cons_append] at cut ⊢
  rw [clean, Text.stripChars, (base.scheme.chars_clean).2]
  exact cut

/-- What an address below a base address is: all but the authority is read from the text behind
the authority of the base, with the path joined on. -/
theorem qualify_eq {path : String} (relative : isAbsolutePath path.toList = false) :
    base.qualify path = .ok (base.withTail (cleanEnd (base.joinedTail path.toList))) := by
  obtain ⟨tail, below⟩ := exists_joinedTail h.path path.toList
  obtain ⟨cleaned, ending⟩ := cleanEnd_slash tail
  have read := readWeb_authority h cleaned
  have parsed : parseChars (joinedChars base path.toList) =
      .ok (.web (base.withTail ('/' :: cleaned))) := by
    rw [joinedChars_eq h relative, below, parseChars, clean_joined h, ending, splitScheme_chars]
    cases scheme : base.scheme with
    | http =>
        rw [scheme] at read
        simp only [if_true, read]
        rfl
    | https =>
        rw [scheme] at read
        simp only [if_neg (show Scheme.https.chars ≠ Scheme.http.chars by decide), if_true, read]
        rfl
  rw [qualify, parseWeb, parsed, below, ending]
  rfl

/-- Every path below a base address gives an address on the server of the base. -/
theorem qualify_sameServer {path : String} (relative : isAbsolutePath path.toList = false) :
    ∃ u, base.qualify path = .ok u ∧ u.SameServer base :=
  ⟨_, qualify_eq h relative, sameServer_withTail base _⟩

end

end Url
end StreamPipelines
