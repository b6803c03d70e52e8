import WebrtcDoctor.StunCodec

/-!
# The address attributes

`buildXorAddress` and `parseXorAddress` are inverse, and the XOR form is the plain form
under a mask from offset 2 on : the port is XORed with the top half of the cookie, and the
address with the cookie and the transaction ID (`addressCodec`).
-/

open BigEndian Checked NetAddr

namespace WebrtcDoctor

/-- `bs` XORed with `mask` for as long as both last. -/
def xorBytes : List UInt8 → List UInt8 → List UInt8
  | m :: mask, b :: bs => (b ^^^ m) :: xorBytes mask bs
  | _, bs => bs

/-- The mask of the port and of the address. -/
def addressMask (txid : TxId) : List UInt8 :=
  ofU16 (magicCookie >>> 16).toUInt16 ++ ofU32 magicCookie ++ txid.toList

/-- An attribute value with its bytes from offset 2 on under the mask. -/
def maskValue (value : List UInt8) (txid : TxId) : List UInt8 :=
  value.take 2 ++ xorBytes (addressMask txid) (value.drop 2)

/-- The body of a `MAPPED-ADDRESS`-style attribute. -/
def plainAddress (addr : SocketAddr) : List UInt8 :=
  match addr.ip with
  | .v4 raw => 0 :: 0x01 :: ofU16 addr.port ++ ofU32 raw
  | .v6 raw => 0 :: 0x02 :: ofU16 addr.port ++ raw.toList

/-- The length of an encoded address. -/
def addressLen (addr : SocketAddr) : ℕ :=
  match addr.ip with
  | .v4 _ => 8
  | .v6 _ => 20

@[simp] theorem length_xorBytes : ∀ mask bs : List UInt8, (xorBytes mask bs).length = bs.length
  | [], _ => by rw [xorBytes]; simp
  | _ :: _, [] => rfl
  | _ :: mask, _ :: bs => congrArg (· + 1) (length_xorBytes mask bs)

/-- Under the mask, the bytes are XORed one by one. -/
theorem take_xorBytes : ∀ mask bs : List UInt8, mask.length ≤ bs.length →
    (xorBytes mask bs).take mask.length = List.zipWith (· ^^^ ·) bs mask
  | [], _, _ => by simp
  | _ :: _, [], h => absurd h (by simp)
  | _ :: mask, _ :: bs, h =>
    congrArg (_ :: ·) (take_xorBytes mask bs (Nat.le_of_succ_le_succ h))

/-- Masking twice changes nothing. -/
theorem xorBytes_xorBytes : ∀ mask bs : List UInt8, xorBytes mask (xorBytes mask bs) = bs
  | [], _ => by rw [xorBytes, xorBytes] <;> simp
  | _ :: _, [] => rfl
  | m :: mask, b :: bs => by
    rw [xorBytes, xorBytes, xorBytes_xorBytes mask bs, UInt8.xor_assoc, UInt8.xor_self,
      UInt8.xor_zero]

theorem xorBytes_take : ∀ (mask bs : List UInt8) (n : ℕ),
    xorBytes mask (bs.take n) = (xorBytes mask bs).take n
  | [], _, _ => by rw [xorBytes, xorBytes] <;> simp
  | _ :: _, [], n => by simp [xorBytes]
  | _ :: _, _ :: _, 0 => rfl
  | _ :: mask, _ :: bs, n + 1 => congrArg (_ :: ·) (xorBytes_take mask bs n)

/-- Masking two bytes is masking their number. -/
theorem xorBytes_ofU16 (m x : UInt16) (mask bs : List UInt8) :
    xorBytes (ofU16 m ++ mask) (ofU16 x ++ bs) = ofU16 (x ^^^ m) ++ xorBytes mask bs := by
  have h := ofU16_toU16 (UInt8.ofNat (x.toNat / 256) ^^^ UInt8.ofNat (m.toNat / 256))
    (UInt8.ofNat x.toNat ^^^ UInt8.ofNat m.toNat)
  rw [toU16_xor, toU16_ofU16, toU16_ofU16] at h
  rw [h]
  rfl

/-- Masking four bytes is masking their number. -/
theorem xorBytes_ofU32 (m x : UInt32) (mask bs : List UInt8) :
    xorBytes (ofU32 m ++ mask) (ofU32 x ++ bs) = ofU32 (x ^^^ m) ++ xorBytes mask bs := by
  have h := ofU32_toU32 (UInt8.ofNat (x.toNat / 16777216) ^^^ UInt8.ofNat (m.toNat / 16777216))
    (UInt8.ofNat (x.toNat / 65536) ^^^ UInt8.ofNat (m.toNat / 65536))
    (UInt8.ofNat (x.toNat / 256) ^^^ UInt8.ofNat (m.toNat / 256))
    (UInt8.ofNat x.toNat ^^^ UInt8.ofNat m.toNat)
  rw [toU32_xor, toU32_ofU32, toU32_ofU32] at h
  rw [h]
  rfl

@[simp] theorem length_maskValue (value : List UInt8) (txid : TxId) :
    (maskValue value txid).length = value.length := by
  rw [maskValue, List.length_append, length_xorBytes, List.length_take, List.length_drop]
  omega

/-- The mask of an address value is its own inverse. -/
theorem maskValue_maskValue (value : List UInt8) (txid : TxId) :
    maskValue (maskValue value txid) txid = value := by
  rcases value with _ | ⟨r, _ | ⟨family, rest⟩⟩
  · rfl
  · rfl
  · show r :: family :: xorBytes (addressMask txid) (xorBytes (addressMask txid) rest) = _
    rw [xorBytes_xorBytes]

theorem maskValue_take (value : List UInt8) (txid : TxId) (n : ℕ) :
    maskValue (value.take n) txid = (maskValue value txid).take n := by
  rcases value with _ | ⟨r, _ | ⟨family, rest⟩⟩
  · rcases n with _ | n <;> rfl
  · rcases n with _ | _ | n <;> rfl
  · rcases n with _ | _ | n
    · rfl
    · rfl
    · exact congrArg (fun bs => r :: family :: bs) (xorBytes_take (addressMask txid) rest n)

/-- The reserved byte is not masked and masks nothing. -/
theorem tail_maskValue {v w : List UInt8} (txid : TxId) (h : v.tail = w.tail) :
    (maskValue v txid).tail = (maskValue w txid).tail := by
  have htail : ∀ v : List UInt8, (maskValue v txid).tail =
      v.tail.take 1 ++ xorBytes (addressMask txid) (v.tail.drop 1) := by
    rintro (_ | ⟨r, rest⟩)
    · rfl
    · rcases rest with _ | ⟨family, rest⟩ <;> rfl
  rw [htail, htail, h]

/-- The mask leaves the first two bytes of a value as they are. -/
theorem maskValue_cons (r family p₀ p₁ : UInt8) (rest : List UInt8) (txid : TxId) :
    ∃ p₀' p₁', maskValue (r :: family :: p₀ :: p₁ :: rest) txid =
        r :: family :: p₀' :: p₁' :: xorBytes (xorMask txid) rest ∧
      toU16 p₀' p₁' = toU16 p₀ p₁ ^^^ (magicCookie >>> 16).toUInt16 :=
  ⟨_, _, rfl, by rw [toU16_xor, toU16_ofU16]⟩

theorem xorBytes_xorMask_cons (a b c d : UInt8) (rest : List UInt8) (txid : TxId) :
    ∃ a' b' c' d' rest', xorBytes (xorMask txid) (a :: b :: c :: d :: rest) =
        a' :: b' :: c' :: d' :: rest' ∧
      toU32 a' b' c' d' = toU32 a b c d ^^^ magicCookie :=
  ⟨_, _, _, _, _, rfl, by rw [toU32_xor, toU32_ofU32]⟩

/-- The XOR form is the plain form under the mask, errors included. -/
theorem parseXorAddress_eq_parseMappedAddress (value : List UInt8) (txid : TxId) :
    parseXorAddress value txid = parseMappedAddress (maskValue value txid) := by
  by_cases hlen : value.length < 4
  · rw [parseXorAddress, parseMappedAddress, if_pos hlen, if_pos (by rwa [length_maskValue])]
  rcases value with _ | ⟨r, _ | ⟨family, _ | ⟨p₀, _ | ⟨p₁, rest⟩⟩⟩⟩
  iterate 4 · simp at hlen
  obtain ⟨p₀', p₁', hmask, hport⟩ := maskValue_cons r family p₀ p₁ rest txid
  rw [parseXorAddress, parseMappedAddress, if_neg hlen, if_neg (by rwa [length_maskValue]),
    length_maskValue, hmask]
  simp only [Checked.get, List.getElem?_cons_zero, List.getElem?_cons_succ, ok_bind]
  rw [hport]
  by_cases h4 : family = 0x01
  · rw [if_pos h4, if_pos h4]
    by_cases h8 : (r :: family :: p₀ :: p₁ :: rest).length < 8
    · rw [if_pos h8, if_pos h8]
    rcases rest with _ | ⟨a, _ | ⟨b, _ | ⟨c, _ | ⟨d, rest⟩⟩⟩⟩
    iterate 4 · simp at h8
    obtain ⟨a', b', c', d', rest', hrest, haddr⟩ := xorBytes_xorMask_cons a b c d rest txid
    rw [if_neg h8, if_neg h8, hrest]
    simp only [List.getElem?_cons_zero, List.getElem?_cons_succ, ok_bind]
    rw [haddr]
  rw [if_neg h4, if_neg h4]
  by_cases h6 : family = 0x02
  · rw [if_pos h6, if_pos h6]
    by_cases h20 : (r :: family :: p₀ :: p₁ :: rest).length < 20
    · rw [if_pos h20, if_pos h20]
    have hmaskLen := xorMask_length txid
    simp only [List.length_cons] at h20
    have hloop := @xorLoop_eq (r :: family :: p₀ :: p₁ :: rest) _ hmaskLen
      (by simp only [List.length_cons]; omega)
    simp only [Checked.get] at hloop
    have hslice : (slice (r :: family :: p₀' :: p₁' :: xorBytes (xorMask txid) rest) 4 20 :
        Checked CodecError (List UInt8)) = .ok (List.zipWith (· ^^^ ·) rest (xorMask txid)) := by
      rw [slice_of_le (by omega) (by simp only [List.length_cons, length_xorBytes]; omega),
        ← take_xorBytes _ _ (by omega), hmaskLen]
      rfl
    rw [if_neg (by simpa using h20), if_neg (by simpa using h20), hloop, hslice]
    rfl
  · rw [if_neg h6, if_neg h6]

/-! ## The plain form -/

/-- The plain form of an address reads back. -/
theorem parseMappedAddress_plainAddress (addr : SocketAddr) :
    parseMappedAddress (plainAddress addr) = .ok addr := by
  obtain ⟨raw | raw, port⟩ := addr
  · simp only [plainAddress, parseMappedAddress, ofU16, ofU32, List.cons_append, List.nil_append,
      Checked.get, List.getElem?_cons_zero, List.getElem?_cons_succ, ok_bind, toU16_ofU16,
      toU32_ofU32]
    rfl
  · have hslice : (slice (plainAddress ⟨.v6 raw, port⟩) 4 20 : Checked CodecError (List UInt8)) =
        .ok raw.toList := by
      rw [slice_of_le (by omega) (by simp [plainAddress])]
      exact congrArg Checked.ok (List.take_of_length_le (by simp [plainAddress]))
    have hvec : (toVector 16 raw.toList : Checked CodecError (Vector UInt8 16)) = .ok raw :=
      toVector_of_length (by simp)
    have hlen : (plainAddress ⟨.v6 raw, port⟩).length = 20 := by simp [plainAddress]
    rw [parseMappedAddress, hlen, hslice]
    simp only [plainAddress, ofU16, List.cons_append, List.nil_append, Checked.get,
      List.getElem?_cons_zero, List.getElem?_cons_succ, ok_bind, toU16_ofU16, hvec]
    rfl

/-- An accepted plain value is the encoding of its address, except for the reserved byte and
what follows the address. -/
theorem tail_of_parseMappedAddress {value : List UInt8} {addr : SocketAddr}
    (h : parseMappedAddress value = .ok addr) : addressLen addr ≤ value.length ∧
      (value.take (addressLen addr)).tail = (plainAddress addr).tail := by
  unfold parseMappedAddress at h
  by_cases hlen : value.length < 4
  · rw [if_pos hlen] at h
    cases h
  rw [if_neg hlen] at h
  rcases value with _ | ⟨r, _ | ⟨family, _ | ⟨p₀, _ | ⟨p₁, rest⟩⟩⟩⟩
  iterate 4 · simp at hlen
  simp only [Checked.get, List.getElem?_cons_zero, List.getElem?_cons_succ, ok_bind] at h
  by_cases h4 : family = 0x01
  · rw [if_pos h4] at h
    by_cases h8 : (r :: family :: p₀ :: p₁ :: rest).length < 8
    · rw [if_pos h8] at h
      cases h
    rw [if_neg h8] at h
    rcases rest with _ | ⟨a, _ | ⟨b, _ | ⟨c, _ | ⟨d, rest⟩⟩⟩⟩
    iterate 4 · simp at h8
    cases h
    refine ⟨Nat.not_lt.1 h8, ?_⟩
    simp only [addressLen, plainAddress, ofU16_toU16, ofU32_toU32, h4]
    rfl
  rw [if_neg h4] at h
  by_cases h6 : family = 0x02
  · rw [if_pos h6] at h
    by_cases h20 : (r :: family :: p₀ :: p₁ :: rest).length < 20
    · rw [if_pos h20] at h
      cases h
    rw [if_neg h20, slice_of_le (by omega) (Nat.not_lt.1 h20), ok_bind] at h
    obtain ⟨raw, hraw, h⟩ := bind_eq_ok.1 h
    cases h
    have hlist : raw.toList = rest.take 16 := by
      unfold toVector at hraw
      split_ifs at hraw
      cases hraw
      rfl
    refine ⟨Nat.not_lt.1 h20, ?_⟩
    simp only [addressLen, plainAddress, ofU16_toU16, hlist, h6]
    rfl
  · rw [if_neg h6] at h
    cases h

/-- The XOR form is the masked plain form. -/
theorem maskValue_plainAddress (addr : SocketAddr) (txid : TxId) :
    maskValue (plainAddress addr) txid = buildXorAddress addr txid := by
  obtain ⟨raw | raw, port⟩ := addr
  · show 0 :: 0x01 :: xorBytes (addressMask txid) (ofU16 port ++ ofU32 raw) = _
    rw [addressMask, List.append_assoc, xorBytes_ofU16, ← List.append_nil (ofU32 raw),
      xorBytes_ofU32]
    cases txid.toList <;> rfl
  · show 0 :: 0x02 :: xorBytes (addressMask txid) (ofU16 port ++ raw.toList) = _
    have hmask := take_xorBytes (xorMask txid) raw.toList (by simp [xorMask_length])
    rw [List.take_of_length_le (by simp [xorMask_length])] at hmask
    rw [addressMask, List.append_assoc, xorBytes_ofU16, ← xorMask, hmask]
    rfl

/-! ## The codec -/

/-- The XOR form of an address reads back under its transaction ID. -/
theorem parseXorAddress_buildXorAddress (addr : SocketAddr) (txid : TxId) :
    parseXorAddress (buildXorAddress addr txid) txid = .ok addr := by
  rw [parseXorAddress_eq_parseMappedAddress, ← maskValue_plainAddress, maskValue_maskValue,
    parseMappedAddress_plainAddress]

/-- What is encoded is decoded. An accepted value is the encoding of what it decodes to, except
for the reserved byte and what follows the address. The XOR form of a value decodes as the
plain form of the value under the mask, errors included. -/
theorem addressCodec :
    (∀ (addr : SocketAddr) (txid : TxId),
      parseXorAddress (buildXorAddress addr txid) txid = .ok addr) ∧
    (∀ (value : List UInt8) (txid : TxId) (addr : SocketAddr),
      parseXorAddress value txid = .ok addr →
        (buildXorAddress addr txid).length = addressLen addr ∧
        addressLen addr ≤ value.length ∧
        (value.take (addressLen addr)).tail = (buildXorAddress addr txid).tail) ∧
    ∀ (value : List UInt8) (txid : TxId),
      parseXorAddress value txid = parseMappedAddress (maskValue value txid) := by
  refine ⟨parseXorAddress_buildXorAddress, fun value txid addr h => ?_,
    parseXorAddress_eq_parseMappedAddress⟩
  rw [parseXorAddress_eq_parseMappedAddress] at h
  obtain ⟨hle, htail⟩ := tail_of_parseMappedAddress h
  rw [length_maskValue] at hle
  refine ⟨?_, hle, ?_⟩
  · rw [← maskValue_plainAddress, length_maskValue, addressLen, plainAddress]
    obtain ⟨raw | raw, port⟩ := addr <;> simp
  · rw [← maskValue_take] at htail
    rw [← maskValue_plainAddress, ← tail_maskValue txid htail, maskValue_maskValue]

end WebrtcDoctor
