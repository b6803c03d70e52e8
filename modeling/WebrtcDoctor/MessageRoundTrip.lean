import WebrtcDoctor.TurnCodec

/-!
# Round trip of built messages

A message built from a header and attributes reads back as the same header and the same
attributes, in order, exactly if its attributes and their padding fit the 16-bit length
of the header (`message_roundTrip_iff`). Both lengths the builders write are cut to 16
bits, the attribute's and the message's. A section within the bound holds no longer
value, so within the bound nothing is cut.
-/

open Checked

namespace WebrtcDoctor

/-- The bytes `attrs` take in a message : for each its type, its length, its value and
its padding to four bytes. -/
def sectionLen (attrs : List Attr) : ℕ :=
  (attrs.map fun a => 4 + a.value.length + (4 - a.value.length % 4) % 4).sum

theorem sectionLen_eq_size (attrs : List Attr) : sectionLen attrs = attrFormat.size attrs := rfl

/-- A message is its header and its section. -/
theorem length_message (method : UInt16) (txid : TxId) (attrs : List Attr) :
    (message method txid attrs).length = 20 + sectionLen attrs := by
  rw [message_eq, List.length_append, Header.length_bytes, attrFormat.length_encode,
    sectionLen_eq_size]

/-- What the header of a built message is when the section fits its length field. -/
theorem parse_message (method : UInt16) (txid : TxId) {attrs : List Attr}
    (h : sectionLen attrs ≤ 65535) :
    parseHeader (message method txid attrs) txid =
        .ok ⟨method, UInt16.ofNat (sectionLen attrs), txid⟩ ∧
      walkAttrs (message method txid attrs) (UInt16.ofNat (sectionLen attrs)) = .ok attrs := by
  have hlen : (UInt16.ofNat (sectionLen attrs)).toNat = attrFormat.size attrs :=
    BigEndian.toNat_cast_of_lt (by omega)
  rw [message_eq, ← sectionLen_eq_size]
  exact parse_bytes_encode (h := ⟨method, UInt16.ofNat (sectionLen attrs), txid⟩) hlen

/-- A built message reads back as what it was built from, with every attribute in its
place, exactly if its attributes take at most 65535 bytes. -/
theorem message_roundTrip_iff (method : UInt16) (txid : TxId) (attrs : List Attr) :
    (∃ h, parseHeader (message method txid attrs) txid = .ok h ∧
        h.msgType = method ∧ h.txid = txid ∧
        h.attrsLen.toNat = (message method txid attrs).length - 20 ∧
        walkAttrs (message method txid attrs) h.attrsLen = .ok attrs) ↔
      sectionLen attrs ≤ 65535 := by
  rw [length_message, Nat.add_sub_cancel_left]
  constructor
  · rintro ⟨h, -, -, -, hlen, -⟩
    have hlt := h.attrsLen.toNat_lt
    omega
  · intro hfit
    obtain ⟨hheader, hwalk⟩ := parse_message method txid hfit
    exact ⟨_, hheader, rfl, rfl, BigEndian.toNat_cast_of_lt (by omega), hwalk⟩

end WebrtcDoctor
