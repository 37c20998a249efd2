import Specfile.Text.Utf8

/-! Decoding and encoding. Every text can be read back from its bytes. Every character has one byte
form only, so the bytes that decode to a text are the ones that encoding the text gives. -/

set_option autoImplicit false

namespace Specfile.Utf8

@[simp] theorem encode_nil : encode [] = [] := rfl

@[simp] theorem encode_append (first rest : Text) :
    encode (first ++ rest) = encode first ++ encode rest := List.flatMap_append

/-- The leading bytes of characters of one, two, three and four bytes. The bounds of the second
byte keep overlong forms, surrogates and numbers beyond the last code point out. -/
inductive Lead.Opens (byte : Nat) (lead : Lead) : Prop where
  | one (following : lead.following = 0) (bits : byte = lead.bits) (small : lead.bits < 0x80)
  | two (following : lead.following = 1) (bits : byte = 0xc0 + lead.bits)
      (second : 0x80 ≤ lead.low ∧ lead.high ≤ 0xbf) (small : lead.bits < 0x20)
      (overlong : 2 ≤ lead.bits)
  | three (following : lead.following = 2) (bits : byte = 0xe0 + lead.bits)
      (second : 0x80 ≤ lead.low ∧ lead.high ≤ 0xbf) (small : lead.bits < 0x10)
      (overlong : lead.bits = 0 → 0xa0 ≤ lead.low) (surrogate : lead.bits = 0xd → lead.high ≤ 0x9f)
  | four (following : lead.following = 3) (bits : byte = 0xf0 + lead.bits)
      (second : 0x80 ≤ lead.low ∧ lead.high ≤ 0xbf) (small : lead.bits ≤ 4)
      (overlong : lead.bits = 0 → 0x90 ≤ lead.low) (beyond : lead.bits = 4 → lead.high ≤ 0x8f)

theorem opens_of_lead? {byte : Nat} {lead : Lead} (found : lead? byte = some lead) :
    lead.Opens byte := by
  unfold lead? at found
  -- Down the table of ranges; where a lead is found its fields are known.
  split at found
  · obtain rfl := Option.some.inj found
    apply Lead.Opens.one <;> dsimp only
    assumption
  split at found
  · cases found
  split at found
  · obtain rfl := Option.some.inj found
    apply Lead.Opens.two <;> dsimp only <;> omega
  split at found
  · obtain rfl := Option.some.inj found
    apply Lead.Opens.three <;> dsimp only <;> omega
  split at found
  · obtain rfl := Option.some.inj found
    apply Lead.Opens.three <;> dsimp only <;> omega
  split at found
  · obtain rfl := Option.some.inj found
    apply Lead.Opens.three <;> dsimp only <;> omega
  split at found
  · obtain rfl := Option.some.inj found
    apply Lead.Opens.four <;> dsimp only <;> omega
  split at found
  · obtain rfl := Option.some.inj found
    apply Lead.Opens.four <;> dsimp only <;> omega
  split at found
  · obtain rfl := Option.some.inj found
    apply Lead.Opens.four <;> dsimp only <;> omega
  · cases found

theorem follow_zero_eq_ok_iff {low high value seen : Nat} {bytes : Bytes} {result : Nat × Bytes} :
    follow 0 low high value seen bytes = .ok result ↔ result = (value, bytes) := by
  simp [follow, eq_comm]

theorem exists_of_follow_succ {count low high value seen : Nat} {bytes : Bytes}
    {result : Nat × Bytes} (taken : follow (count + 1) low high value seen bytes = .ok result) :
    ∃ byte rest, bytes = byte :: rest ∧ (low ≤ byte.toNat ∧ byte.toNat ≤ high) ∧
      follow count 0x80 0xbf (0x40 * value + byte.toNat % 0x40) (seen + 1) rest = .ok result := by
  cases bytes with
  | nil => cases taken
  | cons byte rest =>
    rw [follow] at taken
    split at taken
    · rename_i bounds
      exact ⟨byte, rest, rfl, bounds, taken⟩
    · cases taken

theorem ofNat_eq_of_toNat {n : Nat} (byte : UInt8) (same : n = byte.toNat) : UInt8.ofNat n = byte := by
  rw [same, UInt8.ofNat_toNat]

theorem toNat_ofNat_of_isValidChar {n : Nat} (valid : n.isValidChar) : (Char.ofNat n).toNat = n := by
  rw [Char.ofNat, dif_pos valid]
  rfl

section
variable {n : Nat}

theorem encodeChar_ofNat_one (high : n < 0x80) : encodeChar (Char.ofNat n) = [.ofNat n] := by
  have valid : n.isValidChar := .inl (by omega)
  simp only [encodeChar, toNat_ofNat_of_isValidChar valid, if_pos high]

theorem encodeChar_ofNat_two (low : 0x80 ≤ n) (high : n < 0x800) :
    encodeChar (Char.ofNat n) = [.ofNat (0xc0 + n / 0x40), .ofNat (0x80 + n % 0x40)] := by
  have valid : n.isValidChar := .inl (by omega)
  simp only [encodeChar, toNat_ofNat_of_isValidChar valid, if_neg (Nat.not_lt.2 low), if_pos high]

theorem encodeChar_ofNat_three (low : 0x800 ≤ n) (high : n < 0x10000) (valid : n.isValidChar) :
    encodeChar (Char.ofNat n) =
      [.ofNat (0xe0 + n / 0x1000), .ofNat (0x80 + n / 0x40 % 0x40), .ofNat (0x80 + n % 0x40)] := by
  have large : ¬ n < 0x80 := by omega
  simp only [encodeChar, toNat_ofNat_of_isValidChar valid, if_neg large, if_neg (Nat.not_lt.2 low),
    if_pos high]

theorem encodeChar_ofNat_four (low : 0x10000 ≤ n) (valid : n.isValidChar) :
    encodeChar (Char.ofNat n) =
      [.ofNat (0xf0 + n / 0x40000), .ofNat (0x80 + n / 0x1000 % 0x40),
        .ofNat (0x80 + n / 0x40 % 0x40), .ofNat (0x80 + n % 0x40)] := by
  have large : ¬ n < 0x80 := by omega
  have larger : ¬ n < 0x800 := by omega
  simp only [encodeChar, toNat_ofNat_of_isValidChar valid, if_neg large, if_neg larger,
    if_neg (Nat.not_lt.2 low)]

end

/-- The character that a leading byte and the bytes behind it make up has these very bytes. -/
theorem encodeChar_of_follow {byte : UInt8} {lead : Lead} {bytes rest : Bytes} {value : Nat}
    (opens : lead.Opens byte.toNat)
    (taken : follow lead.following lead.low lead.high lead.bits 1 bytes = .ok (value, rest)) :
    encodeChar (Char.ofNat value) ++ rest = byte :: bytes := by
  -- The bounds put the value where characters have as many bytes as were taken.
  cases opens with
  | one following bits small =>
    rw [following] at taken
    cases follow_zero_eq_ok_iff.1 taken
    rw [encodeChar_ofNat_one small, ← bits, UInt8.ofNat_toNat, List.singleton_append]
  | two following bits second small overlong =>
    rw [following] at taken
    obtain ⟨b, _, rfl, bounds, taken⟩ := exists_of_follow_succ taken
    cases follow_zero_eq_ok_iff.1 taken
    rw [encodeChar_ofNat_two (by omega) (by omega), ofNat_eq_of_toNat byte (by omega),
      ofNat_eq_of_toNat b (by omega)]
    rfl
  | three following bits second small overlong surrogate =>
    rw [following] at taken
    obtain ⟨b, _, rfl, bounds, taken⟩ := exists_of_follow_succ taken
    obtain ⟨c, _, rfl, cTail, taken⟩ := exists_of_follow_succ taken
    cases follow_zero_eq_ok_iff.1 taken
    have valid : (0x40 * (0x40 * lead.bits + b.toNat % 0x40) + c.toNat % 0x40).isValidChar := by
      unfold Nat.isValidChar
      omega
    rw [encodeChar_ofNat_three (by omega) (by omega) valid,
      ofNat_eq_of_toNat byte (by omega), ofNat_eq_of_toNat b (by omega),
      ofNat_eq_of_toNat c (by omega)]
    rfl
  | four following bits second small overlong beyond =>
    rw [following] at taken
    obtain ⟨b, _, rfl, bounds, taken⟩ := exists_of_follow_succ taken
    obtain ⟨c, _, rfl, cTail, taken⟩ := exists_of_follow_succ taken
    obtain ⟨d, _, rfl, dTail, taken⟩ := exists_of_follow_succ taken
    cases follow_zero_eq_ok_iff.1 taken
    have valid : (0x40 * (0x40 * (0x40 * lead.bits + b.toNat % 0x40) + c.toNat % 0x40)
        + d.toNat % 0x40).isValidChar := by
      unfold Nat.isValidChar
      omega
    rw [encodeChar_ofNat_four (by omega) valid, ofNat_eq_of_toNat byte (by omega),
      ofNat_eq_of_toNat b (by omega), ofNat_eq_of_toNat c (by omega),
      ofNat_eq_of_toNat d (by omega)]
    rfl

theorem encode_of_decodeFrom {offset : Nat} {bytes : Bytes} {done text : Text}
    (decoded : decodeFrom offset bytes done = .ok text) :
    encode text = encode done.reverse ++ bytes := by
  -- What is done is kept in reverse, and with the bytes that are left it is the whole at every
  -- step.
  fun_induction decodeFrom offset bytes done with
  | case1 => cases decoded; simp
  | case2 => cases decoded
  | case3 => cases decoded
  | case4 offset done byte bytes lead found value rest taken ih =>
    have first := encodeChar_of_follow (opens_of_lead? found) taken
    rw [ih decoded, ← first]
    simp [encode]

/-- Decoding loses nothing: the text that it gives has the decoded bytes as its form. -/
theorem encode_of_decode {bytes : Bytes} {text : Text} (decoded : decode bytes = .ok text) :
    encode text = bytes := encode_of_decodeFrom decoded

theorem lead?_one {bits : Nat} (small : bits < 0x80) :
    lead? bits = some { bits, following := 0 } := if_pos small

theorem lead?_two : ∀ bits < 0x20, 2 ≤ bits →
    lead? (0xc0 + bits) = some { bits, following := 1 } := by
  decide

theorem lead?_three : ∀ bits < 0x10,
    lead? (0xe0 + bits) = some {
      bits, following := 2
      low := if bits = 0 then 0xa0 else 0x80
      high := if bits = 0xd then 0x9f else 0xbf } := by
  decide

theorem lead?_four : ∀ bits ≤ 4,
    lead? (0xf0 + bits) = some {
      bits, following := 3
      low := if bits = 0 then 0x90 else 0x80
      high := if bits = 4 then 0x8f else 0xbf } := by
  decide

theorem lead?_ofNat {n : Nat} {lead : Lead} (small : n < 0x100) (found : lead? n = some lead) :
    lead? (UInt8.ofNat n).toNat = some lead := by
  rw [UInt8.toNat_ofNat_of_lt' small, found]

theorem follow_cons {count low high value seen m : Nat} (small : m < 0x40)
    (bounds : low ≤ 0x80 + m ∧ 0x80 + m ≤ high) (bytes : Bytes) :
    follow (count + 1) low high value seen (.ofNat (0x80 + m) :: bytes) =
      follow count 0x80 0xbf (0x40 * value + m) (seen + 1) bytes := by
  have fits : 0x80 + m < 0x100 := by omega
  have byte : (UInt8.ofNat (0x80 + m)).toNat = 0x80 + m := UInt8.toNat_ofNat_of_lt' fits
  have bits : (0x80 + m) % 0x40 = m := by omega
  rw [follow, byte, if_pos bounds, bits]

theorem exists_lead_of_isValidChar {n : Nat} (valid : n.isValidChar) :
    ∃ byte tail lead, encodeChar (Char.ofNat n) = byte :: tail ∧ lead? byte.toNat = some lead ∧
      ∀ rest, follow lead.following lead.low lead.high lead.bits 1 (tail ++ rest) =
        .ok (n, rest) := by
  have range : n < 0xd800 ∨ 0xdfff < n ∧ n < 0x110000 := valid
  -- The bits of the number, six to a byte from the last one on; the lead has those that are left.
  by_cases one : n < 0x80
  · have found := lead?_ofNat (by omega) (lead?_one one)
    refine ⟨_, _, _, encodeChar_ofNat_one one, found, fun rest => ?_⟩
    rfl
  by_cases two : n < 0x800
  · have found := lead?_ofNat (by omega) (lead?_two (n / 0x40) (by omega) (by omega))
    refine ⟨_, _, _, encodeChar_ofNat_two (by omega) two, found, fun rest => ?_⟩
    have value : 0x40 * (n / 0x40) + n % 0x40 = n := Nat.div_add_mod n 0x40
    simp only [List.cons_append, List.nil_append]
    rw [follow_cons (by omega) (by omega), value]
    rfl
  by_cases three : n < 0x10000
  · have found := lead?_ofNat (by omega) (lead?_three (n / 0x1000) (by omega))
    refine ⟨_, _, _, encodeChar_ofNat_three (by omega) three valid, found, fun rest => ?_⟩
    have value : 0x40 * (0x40 * (n / 0x1000) + n / 0x40 % 0x40) + n % 0x40 = n := by omega
    simp only [List.cons_append, List.nil_append]
    rw [follow_cons (by omega) (by split <;> split <;> omega),
      follow_cons (by omega) (by omega), value]
    rfl
  · have found := lead?_ofNat (by omega) (lead?_four (n / 0x40000) (by omega))
    refine ⟨_, _, _, encodeChar_ofNat_four (by omega) valid, found, fun rest => ?_⟩
    have value : 0x40 * (0x40 * (0x40 * (n / 0x40000) + n / 0x1000 % 0x40) + n / 0x40 % 0x40)
        + n % 0x40 = n := by omega
    simp only [List.cons_append, List.nil_append]
    rw [follow_cons (by omega) (by split <;> split <;> omega),
      follow_cons (by omega) (by omega), follow_cons (by omega) (by omega), value]
    rfl

theorem exists_decodeFrom_encodeChar_append (offset : Nat) (c : Char) (rest : Bytes) (done : Text) :
    ∃ next, decodeFrom offset (encodeChar c ++ rest) done = decodeFrom next rest (c :: done) := by
  obtain ⟨byte, tail, lead, whole, found, taken⟩ := exists_lead_of_isValidChar c.valid
  have same : Char.ofNat c.val.toNat = c := Char.ofNat_toNat c
  rw [same] at whole
  refine ⟨offset + 1 + lead.following, ?_⟩
  rw [whole, List.cons_append, decodeFrom]
  simp only [found]
  -- The tail is taken whatever stands behind it, so the character is not refused.
  split
  · rename_i reason span refused
    cases (taken rest).symm.trans refused
  · rename_i value left read
    cases (taken rest).symm.trans read
    rw [same]

theorem decodeFrom_encode (offset : Nat) (text done : Text) :
    decodeFrom offset (encode text) done = .ok (done.reverse ++ text) := by
  -- Only a refusal would tell the offset, and there is none.
  induction text generalizing offset done with
  | nil => simp [decodeFrom]
  | cons c text ih =>
    obtain ⟨next, read⟩ := exists_decodeFrom_encodeChar_append offset c (encode text) done
    have whole : encode (c :: text) = encodeChar c ++ encode text := rfl
    rw [whole, read, ih]
    simp

theorem decode_encode (text : Text) : decode (encode text) = .ok text := by
  rw [decode, decodeFrom_encode]
  rfl

end Specfile.Utf8
