import StreamPipelines.Proofs.Url.Ipv6

/-!
The text of a host reads back as that host, whether it is a name or an address of either kind.
-/

namespace StreamPipelines
namespace Url

theorem percentDecode_of_noPercent {bs : List UInt8} (h : ∀ b ∈ bs, b.toNat ≠ 0x25) :
    percentDecode bs = bs := by
  fun_induction percentDecode bs with
  | case1 | case2 | case3 => rfl
  | case4 b c d rest percent => exact absurd percent (h b (by simp))
  | case5 b c d rest percent => exact absurd percent (h b (by simp))
  | case6 b c d rest _ ih => rw [ih fun e he => h e (List.mem_cons_of_mem _ he)]

theorem utf8EncodeChar_of_ascii {c : Char} (h : c.toNat < 0x80) :
    String.utf8EncodeChar c = [UInt8.ofNat c.toNat] := by
  unfold String.utf8EncodeChar
  exact if_pos (Nat.le_of_lt_succ h)

theorem toNat_ofNat_of_ascii {c : Char} (h : c.toNat < 0x80) :
    (UInt8.ofNat c.toNat).toNat = c.toNat := by
  rw [UInt8.toNat_ofNat']
  exact Nat.mod_eq_of_lt (Nat.lt_trans h (by decide))

theorem flatMap_utf8EncodeChar_of_ascii {cs : List Char} (h : ∀ c ∈ cs, c.toNat < 0x80) :
    cs.flatMap String.utf8EncodeChar = cs.map fun c => UInt8.ofNat c.toNat := by
  induction cs with
  | nil => rfl
  | cons c cs ih =>
      obtain ⟨first, rest⟩ := List.forall_mem_cons.mp h
      rw [List.flatMap_cons, utf8EncodeChar_of_ascii first, ih rest]
      rfl

namespace Host

/-- A character that stands in the name of a host. -/
structure IsNameChar (c : Char) : Prop where
  above : 0x20 < c.toNat
  below : c.toNat < 0x7f
  lower : c.toLower = c
  allowed : forbiddenInDomain c = false

theorem IsNameChar.ne_percent {c : Char} (h : IsNameChar c) : c.toNat ≠ 0x25 := by
  intro percent
  have same : c = '%' := by rw [← Char.ofNat_toNat c, percent]
  have allowed := h.allowed
  rw [same] at allowed
  exact absurd allowed (by decide)

theorem isNameChar_of_readDomain {cs name : List Char} (h : readDomain cs = .ok name) :
    (∀ c ∈ name, IsNameChar c) ∧ isDomainName name = true := by
  unfold readDomain at h
  simp only at h
  split at h
  · cases h
  · rename_i allowed
    split at h
    · rename_i valid
      cases h
      refine ⟨fun c hc => ?_, valid⟩
      obtain ⟨b, hb, rfl⟩ := List.mem_map.mp hc
      simp only [Bool.or_eq_true, not_or, List.any_eq_true, not_exists, not_and,
        decide_eq_true_eq] at allowed
      have printable := allowed.1 b hb
      have folded : ∀ n < 0x7f, 0x20 < n →
          0x20 < (Char.ofNat n).toLower.toNat ∧ (Char.ofNat n).toLower.toNat < 0x7f ∧
            (Char.ofNat n).toLower.toLower = (Char.ofNat n).toLower := by decide
      obtain ⟨above, below, lower⟩ := folded b.toNat (by omega) (by omega)
      exact ⟨above, below, lower, by simpa using allowed.2 _ hc⟩
    · cases h

theorem readDomain_of_name {name : List Char} (h : ∀ c ∈ name, IsNameChar c)
    (valid : isDomainName name = true) : readDomain name = .ok name := by
  have ascii (c : Char) (hc : c ∈ name) : c.toNat < 0x80 :=
    Nat.lt_trans (h c hc).below (by decide)
  have bytes : percentDecode (name.flatMap String.utf8EncodeChar) =
      name.map fun c => UInt8.ofNat c.toNat := by
    rw [flatMap_utf8EncodeChar_of_ascii ascii]
    refine percentDecode_of_noPercent fun b hb => ?_
    obtain ⟨c, hc, rfl⟩ := List.mem_map.mp hb
    rw [toNat_ofNat_of_ascii (ascii c hc)]
    exact (h c hc).ne_percent
  have same : (name.map fun c => UInt8.ofNat c.toNat).map
      (fun b => (Char.ofNat b.toNat).toLower) = name := by
    rw [List.map_map]
    refine (List.map_congr_left fun c hc => ?_).trans (List.map_id name)
    simp only [Function.comp, toNat_ofNat_of_ascii (ascii c hc), Char.ofNat_toNat, id,
      (h c hc).lower]
  have printable : (name.map fun c => UInt8.ofNat c.toNat).any
      (fun b => b.toNat ≤ 0x20 || 0x7f ≤ b.toNat) = false := by
    rw [List.any_eq_false]
    intro b hb
    obtain ⟨c, hc, rfl⟩ := List.mem_map.mp hb
    have above := (h c hc).above
    have below := (h c hc).below
    simp only [toNat_ofNat_of_ascii (ascii c hc), Bool.or_eq_true, decide_eq_true_eq]
    omega
  have allowed : name.any forbiddenInDomain = false := by
    rw [List.any_eq_false]
    intro c hc
    simp [(h c hc).allowed]
  unfold readDomain
  simp only [bytes, same, printable, allowed, valid, Bool.or_self, Bool.false_eq_true, if_false,
    if_true]

open Text (digits IsDecimal)

theorem readRadix_digits (n : Nat) : readIpv4Part.readRadix 10 (digits n) = some n := by
  unfold readIpv4Part.readRadix
  induction n using Nat.strongRecOn with
  | ind n ih =>
      by_cases small : n < 10
      · simp [Text.digits_of_lt small, Text.hexValue?_digitChar, Nat.mod_eq_of_lt small, small]
      · have value : n / 10 * 10 + n % 10 = n := by omega
        rw [Text.digits_of_le (by omega), List.foldlM_append, ih (n / 10) (by omega)]
        simp [Text.hexValue?_digitChar, Nat.mod_lt, value]

theorem readIpv4Part_digits (n : Nat) : readIpv4Part (digits n) = some n := by
  cases n with
  | zero =>
      rw [Text.digits_of_lt (by decide)]
      rfl
  | succ n =>
      have read := readRadix_digits (n + 1)
      obtain ⟨c, cs, split⟩ := List.exists_cons_of_ne_nil (Text.digits_ne_nil (n + 1))
      have other : c ≠ '0' := Text.head_digits_ne_zero (by omega) split
      rw [split] at read ⊢
      simp [readIpv4Part, other, read]

/-- The bytes of an address. -/
def ipv4Bytes (address : UInt32) : List Nat :=
  [address.toNat >>> 24, (address.toNat >>> 16) % 256, (address.toNat >>> 8) % 256,
    address.toNat % 256]

theorem ipv4Chars_eq_intercalate (address : UInt32) :
    ipv4Chars address = ['.'].intercalate ((ipv4Bytes address).map digits) := by
  simp [ipv4Chars, ipv4Bytes, List.intercalate]

theorem splitOn_ipv4Chars (address : UInt32) :
    (ipv4Chars address).splitOn '.' = (ipv4Bytes address).map digits := by
  rw [ipv4Chars_eq_intercalate]
  refine List.splitOn_intercalate '.' (fun part hp dot => ?_) (by simp [ipv4Bytes])
  obtain ⟨n, -, rfl⟩ := List.mem_map.mp hp
  exact absurd (Text.isDecimal_of_mem_digits dot).toNat_le (by decide)

theorem labels_ipv4Chars (address : UInt32) :
    labels (ipv4Chars address) = (ipv4Bytes address).map digits := by
  unfold labels
  simp only [splitOn_ipv4Chars]
  rw [if_neg]
  simp [ipv4Bytes, Text.digits_ne_nil]

theorem endsInNumber_ipv4Chars (address : UInt32) : endsInNumber (ipv4Chars address) = true := by
  have last : (labels (ipv4Chars address)).getLast? = some (digits (address.toNat % 256)) := by
    rw [labels_ipv4Chars]
    rfl
  simp [endsInNumber, last, readIpv4Part_digits]

theorem joinIpv4_ipv4Bytes (address : UInt32) :
    joinIpv4 4 (ipv4Bytes address) = some address.toNat := by
  have bound := address.toNat_lt
  have first : address.toNat / 16777216 < 256 := by omega
  have value : address.toNat / 16777216 * 16777216 + (address.toNat / 65536 % 256 * 65536 +
      (address.toNat / 256 % 256 * 256 + address.toNat % 256)) = address.toNat := by omega
  simp only [ipv4Bytes, joinIpv4, Nat.shiftRight_eq_div_pow, Nat.shiftLeft_eq, first, Nat.mod_lt,
    Nat.reduceMul, Nat.reduceSub, Nat.reduceLT, Nat.reducePow, Nat.one_mul, and_self, if_true,
    Option.map_some, value]

theorem readIpv4_ipv4Chars (address : UInt32) : readIpv4 (ipv4Chars address) = some address := by
  have parts : (labels (ipv4Chars address)).mapM readIpv4Part = some (ipv4Bytes address) := by
    rw [labels_ipv4Chars]
    simp [ipv4Bytes, readIpv4Part_digits]
  simp only [readIpv4, parts, Option.bind_some, joinIpv4_ipv4Bytes, Option.map_some,
    UInt32.ofNat_toNat]

theorem isDecimal_or_dot_of_mem_ipv4Chars {address : UInt32} {c : Char}
    (h : c ∈ ipv4Chars address) : IsDecimal c ∨ c = '.' := by
  simp only [ipv4Chars, List.mem_append, List.mem_cons, or_assoc] at h
  obtain h | rfl | h | rfl | h | rfl | h := h
  all_goals first
    | exact .inr rfl
    | exact .inl (Text.isDecimal_of_mem_digits h)

theorem isNameChar_of_ipv4 {c : Char} (h : IsDecimal c ∨ c = '.') : IsNameChar c := by
  have ascii : c.toNat < 128 := by
    obtain h | rfl := h
    · exact Nat.lt_of_le_of_lt h.toNat_le.2 (by decide)
    · decide
  have all : ∀ n < 128, ('0' ≤ Char.ofNat n ∧ Char.ofNat n ≤ '9') ∨ Char.ofNat n = '.' →
      0x20 < (Char.ofNat n).toNat ∧ (Char.ofNat n).toNat < 0x7f ∧
        (Char.ofNat n).toLower = Char.ofNat n ∧ forbiddenInDomain (Char.ofNat n) = false := by
    decide
  obtain ⟨above, below, lower, allowed⟩ := Text.of_ascii (P := fun c =>
    IsDecimal c ∨ c = '.' → 0x20 < c.toNat ∧ c.toNat < 0x7f ∧ c.toLower = c ∧
      forbiddenInDomain c = false) all ascii h
  exact ⟨above, below, lower, allowed⟩

theorem isRightward_direction_of_ascii {n : Nat} (h : n < 0x80) :
    isRightward (Text.direction n) = false := by
  simp only [Text.direction, h, if_true]
  split
  · rfl
  · split <;> rfl

theorem areLaidOut_of_ascii {labels : List (List Char)}
    (h : ∀ label ∈ labels, ∀ c ∈ label, c.toNat < 0x80) : areLaidOut labels = true := by
  have none : ((labels.map (·.map fun c => Text.direction c.toNat)).any (·.any isRightward)) =
      false := by
    rw [List.any_eq_false]
    intro label hl
    obtain ⟨letters, known, rfl⟩ := List.mem_map.mp hl
    rw [Bool.not_eq_true, List.any_eq_false]
    intro d hd
    obtain ⟨c, hc, rfl⟩ := List.mem_map.mp hd
    simp [isRightward_direction_of_ascii (h letters known c hc)]
  simp [areLaidOut, none]

/-- Labels of digits stand for themselves, and have one direction. -/
theorem isDomainName_ipv4Chars (address : UInt32) :
    isDomainName (ipv4Chars address) = true := by
  have read (n : Nat) : readLabel (digits n) = some (digits n) := by
    obtain ⟨c, cs, front⟩ := List.exists_cons_of_ne_nil (Text.digits_ne_nil n)
    have other : 'x' ≠ c := by
      rintro rfl
      exact absurd (Text.isDecimal_of_mem_digits (c := 'x') (n := n) (by simp [front])).toNat_le
        (by decide)
    rw [readLabel, front, if_neg (by simp [encodedLabelMark, other])]
  have labels : ((ipv4Bytes address).map digits).mapM readLabel =
      some ((ipv4Bytes address).map digits) := by
    simp [ipv4Bytes, read]
  simp only [isDomainName, splitOn_ipv4Chars, labels]
  refine areLaidOut_of_ascii fun label hl c hc => ?_
  obtain ⟨n, -, rfl⟩ := List.mem_map.mp hl
  exact Nat.lt_of_le_of_lt (Text.isDecimal_of_mem_digits hc).toNat_le.2 (by decide)

theorem ofChars_of_name {name : List Char} (chars : ∀ c ∈ name, IsNameChar c)
    (valid : isDomainName name = true) (present : name ≠ []) :
    (∀ address, endsInNumber name = true → readIpv4 name = some address →
      ofChars name = .ok (.ipv4 address)) ∧
    (endsInNumber name = false → ofChars name = .ok (.domain (String.ofList name))) := by
  have unbracketed : name.head? ≠ some '[' := by
    intro bracket
    exact absurd (chars '[' (List.mem_of_head? bracket)).allowed (by decide)
  simp only [ofChars, if_neg unbracketed, readDomain_of_name chars valid,
    List.isEmpty_eq_false_iff.mpr present, Bool.false_eq_true, if_false]
  refine ⟨fun address number read => ?_, fun noNumber => ?_⟩
  · rw [if_pos number, read]
  · rw [if_neg (by simp [noNumber])]

theorem ofChars_ipv4Chars (address : UInt32) :
    ofChars (ipv4Chars address) = .ok (.ipv4 address) := by
  have present : ipv4Chars address ≠ [] := by simp [ipv4Chars]
  exact (ofChars_of_name
    (fun c hc => isNameChar_of_ipv4 (isDecimal_or_dot_of_mem_ipv4Chars hc))
    (isDomainName_ipv4Chars address) present).1 address (endsInNumber_ipv4Chars address)
    (readIpv4_ipv4Chars address)

theorem ofChars_ipv6Chars (pieces : Vector UInt16 8) :
    ofChars ('[' :: ipv6Chars pieces ++ [']']) = .ok (.ipv6 pieces) := by
  have last : ('[' :: ipv6Chars pieces ++ [']']).getLast? = some ']' := List.getLast?_concat
  have inner : (('[' :: ipv6Chars pieces ++ [']']).drop 1).dropLast = ipv6Chars pieces := by simp
  unfold ofChars readBracketed
  rw [if_pos (by rfl), if_pos last, inner, readIpv6_ipv6Chars]

/-- What a host is made of. -/
inductive Written : Host → Prop
  | domain (name : List Char) (present : name ≠ []) (chars : ∀ c ∈ name, IsNameChar c) :
      Written (.domain (String.ofList name))
  | ipv4 (address : UInt32) : Written (.ipv4 address)
  | ipv6 (pieces : Vector UInt16 8) : Written (.ipv6 pieces)

/-- A host that was read is read again from its text. -/
theorem ofChars_chars {cs : List Char} {h : Host} (read : ofChars cs = .ok h) :
    ofChars h.chars = .ok h ∧ Written h := by
  unfold ofChars at read
  split at read
  · unfold readBracketed at read
    split at read
    · split at read
      · cases read
        exact ⟨ofChars_ipv6Chars _, .ipv6 _⟩
      · cases read
    · cases read
  · split at read
    · cases read
    · rename_i name found
      obtain ⟨chars, valid⟩ := isNameChar_of_readDomain found
      split at read
      · cases read
      · rename_i nonempty
        have present : name ≠ [] := by simpa using nonempty
        split at read
        · split at read
          · cases read
            exact ⟨ofChars_ipv4Chars _, .ipv4 _⟩
          · cases read
        · rename_i noNumber
          cases read
          refine ⟨?_, .domain name present chars⟩
          rw [Host.chars, String.toList_ofList]
          exact (ofChars_of_name chars valid present).2 (by simpa using noNumber)

end Host
end Url
end StreamPipelines
