import NXCast.Discovery.DnsNames

/-!
# The meaning of an mDNS response

`dnsDecode` reads a response as its records, every name as its labels and through the
compression pointers.  It is what a querier makes of the packet, and follows no function of the
source.  `RecordLayout` says that a record lies at a place of a packet; what it is decoded to,
and what the loop of `airplay_dns_packet_conflicts` does there, follow from it.
-/

namespace NXCast

open DomainName List BigEndian Option

/-! ## Decoding -/

/-- What record data says. -/
inductive DnsRdata where
  | ptr (target : List DomainName.Label)
  | srv (priority weight port : ℕ) (target : List DomainName.Label)
  | txt (bytes : List UInt8)
  | a (address : List UInt8)
  | other (bytes : List UInt8)
deriving DecidableEq

/-- A resource record. -/
structure DnsRecord where
  owner : List DomainName.Label
  type : ℕ
  dnsClass : ℕ
  ttl : ℕ
  rdata : DnsRdata
deriving DecidableEq

/-- A response: its records by section. -/
structure DnsMessage where
  id : ℕ
  flags : ℕ
  answers : List DnsRecord
  authorities : List DnsRecord
  additionals : List DnsRecord
deriving DecidableEq

variable (packet : List UInt8)

/-- The bytes at a place, if they are all there. -/
def bytesAt (offset size : ℕ) : Option (List UInt8) :=
  if offset + size ≤ packet.length then some ((packet.drop offset).take size) else none

/-- The number at a place. -/
def uintAt (offset width : ℕ) : Option ℕ :=
  (bytesAt packet offset width).map BigEndian.value

/-- A name that fills the bytes up to a place. -/
def nameUpTo (offset behind : ℕ) : Option (List DomainName.Label) :=
  match labelsAt dnsMaxCompressionJumps packet 0 offset with
  | some (labels, place) => if place = behind then some labels else none
  | none => none

/-- The record data of a type. -/
def rdataAt (type offset size : ℕ) : Option DnsRdata :=
  if type = airplayDnsTypePtr then (nameUpTo packet offset (offset + size)).map .ptr
  else if type = airplayDnsTypeSrv then do
    let priority ← uintAt packet offset 2
    let weight ← uintAt packet (offset + 2) 2
    let port ← uintAt packet (offset + 4) 2
    let target ← nameUpTo packet (offset + 6) (offset + size)
    return .srv priority weight port target
  else if type = airplayDnsTypeTxt then (bytesAt packet offset size).map .txt
  else if type = airplayDnsTypeA then
    if size = 4 then (bytesAt packet offset size).map .a else none
  else (bytesAt packet offset size).map .other

/-- The record at a place, and the place behind it. -/
def recordAt (offset : ℕ) : Option (DnsRecord × ℕ) := do
  let (owner, place) ← labelsAt dnsMaxCompressionJumps packet 0 offset
  let type ← uintAt packet place 2
  let dnsClass ← uintAt packet (place + 2) 2
  let ttl ← uintAt packet (place + 4) 4
  let size ← uintAt packet (place + 8) 2
  let rdata ← rdataAt packet type (place + 10) size
  return (⟨owner, type, dnsClass, ttl, rdata⟩, place + 10 + size)

/-- Some records in a row. -/
def recordsAt (packet : List UInt8) : ℕ → ℕ → Option (List DnsRecord × ℕ)
  | 0, offset => some ([], offset)
  | count + 1, offset => do
    let (record, offset) ← recordAt packet offset
    let (records, offset) ← recordsAt packet count offset
    return (record :: records, offset)

/-- A response without questions, to its last byte. -/
def dnsDecode : Option DnsMessage := do
  let id ← uintAt packet 0 2
  let flags ← uintAt packet 2 2
  let questionCount ← uintAt packet 4 2
  let answerCount ← uintAt packet 6 2
  let authorityCount ← uintAt packet 8 2
  let additionalCount ← uintAt packet 10 2
  let (answers, offset) ← recordsAt packet answerCount dnsHeaderSize
  let (authorities, offset) ← recordsAt packet authorityCount offset
  let (additionals, offset) ← recordsAt packet additionalCount offset
  if questionCount = 0 ∧ offset = packet.length then
    some ⟨id, flags, answers, authorities, additionals⟩
  else none

/-! ## Bytes in their place -/

section Places

variable {packet chunk rest : List UInt8} {offset : ℕ}

lemma add_length_le_of_drop (hpos : 0 < chunk.length) (h : packet.drop offset = chunk ++ rest) :
    offset + chunk.length ≤ packet.length := by
  have hlen := congrArg length h
  rw [length_drop, length_append] at hlen
  omega

lemma bytesAt_of_drop (hpos : 0 < chunk.length) (h : packet.drop offset = chunk ++ rest) :
    bytesAt packet offset chunk.length = some chunk := by
  rw [bytesAt, if_pos (add_length_le_of_drop hpos h), h, take_left]

lemma packetBytes_of_drop (hpos : 0 < chunk.length) (h : packet.drop offset = chunk ++ rest) :
    packetBytes packet offset chunk.length = .ok chunk := by
  rw [packetBytes, if_pos (add_length_le_of_drop hpos h), h, take_left]

lemma uintAt_of_drop {width value : ℕ} (hwidth : 0 < width) (hvalue : value < 256 ^ width)
    (h : packet.drop offset = encode width value ++ rest) :
    uintAt packet offset width = some value := by
  have hbytes := bytesAt_of_drop (by rwa [length_encode]) h
  rw [length_encode] at hbytes
  rw [uintAt, hbytes, map_some, value_encode hvalue]

lemma readU16_of_drop {value : ℕ} (hvalue : value < 256 ^ 2)
    (h : packet.drop offset = encode 2 value ++ rest) : readU16 packet offset = .ok value := by
  have hbytes := packetBytes_of_drop (by rw [length_encode]; decide) h
  rw [length_encode] at hbytes
  rw [readU16, hbytes]
  exact congrArg Except.ok (value_encode hvalue)

end Places

/-! ## Records in their place -/

/-- A record behind the name of its owner. -/
def recordBody (type dnsClass ttl : ℕ) (rdata : List UInt8) : List UInt8 :=
  BigEndian.encode 2 type ++ (BigEndian.encode 2 dnsClass ++ (BigEndian.encode 4 ttl ++
    (BigEndian.encode 2 rdata.length ++ rdata)))

@[simp] lemma length_recordBody (type dnsClass ttl : ℕ) (rdata : List UInt8) :
    (recordBody type dnsClass ttl rdata).length = 10 + rdata.length := by
  simp only [recordBody, length_append, length_encode]
  omega

/-- A record lies at a place: its owner's name there, and its body at `place`. -/
structure RecordLayout (packet : List UInt8) (offset : ℕ) (owner : List DomainName.Label)
    (place type dnsClass ttl : ℕ) (rdata rest : List UInt8) : Prop where
  owner : labelsAt dnsMaxCompressionJumps packet 0 offset = some (owner, place)
  body : packet.drop place = recordBody type dnsClass ttl rdata ++ rest
  type_lt : type < 256 ^ 2
  dnsClass_lt : dnsClass < 256 ^ 2
  ttl_lt : ttl < 256 ^ 4
  size_lt : rdata.length < 256 ^ 2

namespace RecordLayout

variable {packet : List UInt8} {offset place type dnsClass ttl : ℕ}
  {owner : List DomainName.Label} {rdata rest : List UInt8}

variable (h : RecordLayout packet offset owner place type dnsClass ttl rdata rest)

include h

lemma drop_type :
    packet.drop place = encode 2 type ++ (encode 2 dnsClass ++
      (encode 4 ttl ++ (encode 2 rdata.length ++ (rdata ++ rest)))) := by
  rw [h.body, recordBody]
  simp only [append_assoc]

lemma drop_dnsClass :
    packet.drop (place + 2) = encode 2 dnsClass ++
      (encode 4 ttl ++ (encode 2 rdata.length ++ (rdata ++ rest))) := by
  have hnext := drop_add_of_drop h.drop_type
  rwa [length_encode] at hnext

lemma drop_ttl :
    packet.drop (place + 4) = encode 4 ttl ++
      (encode 2 rdata.length ++ (rdata ++ rest)) := by
  have hnext := drop_add_of_drop h.drop_dnsClass
  rwa [length_encode] at hnext

lemma drop_size : packet.drop (place + 8) = encode 2 rdata.length ++ (rdata ++ rest) := by
  have hnext := drop_add_of_drop h.drop_ttl
  rwa [length_encode] at hnext

lemma drop_rdata : packet.drop (place + 10) = rdata ++ rest := by
  have hnext := drop_add_of_drop h.drop_size
  rwa [length_encode] at hnext

lemma drop_rest : packet.drop (place + 10 + rdata.length) = rest :=
  drop_add_of_drop h.drop_rdata

lemma length_eq : packet.length = place + 10 + rdata.length + rest.length := by
  have hlen := congrArg length h.body
  rw [length_drop, length_append, length_recordBody] at hlen
  omega

/-- **Decoding a record.** -/
lemma recordAt_eq {meaning : DnsRdata}
    (hmeaning : rdataAt packet type (place + 10) rdata.length = some meaning) :
    recordAt packet offset =
      some (⟨owner, type, dnsClass, ttl, meaning⟩, place + 10 + rdata.length) := by
  simp only [recordAt, h.owner, uintAt_of_drop (by decide) h.type_lt h.drop_type,
    uintAt_of_drop (by decide) h.dnsClass_lt h.drop_dnsClass,
    uintAt_of_drop (by decide) h.ttl_lt h.drop_ttl,
    uintAt_of_drop (by decide) h.size_lt h.drop_size, hmeaning, bind_eq_bind,
    bind_some]
  rfl

/-- **One turn of the conflict loop.** -/
lemma conflictsLoop_eq (hfits : (extend [] owner).length ≤ airplayDnsNameMax) (service : AirPlayDnsService)
    (instanceFull hostFull : CString) (count : ℕ)
    (hown : recordConflicts service packet instanceFull hostFull
      (CString.ofBuffer (extend [] owner)) type (place + 10) rdata.length = .ok false) :
    conflictsLoop service packet instanceFull hostFull (count + 1) offset =
      conflictsLoop service packet instanceFull hostFull count (place + 10 + rdata.length) := by
  have hlen := h.length_eq
  have hhead : readIf (place ≤ packet.length ∧ packet.length - place ≥ 10) = .ok () :=
    if_pos ⟨by omega, by omega⟩
  have hrdata : readIf (rdata.length ≤ packet.length - (place + 10)) = .ok () :=
    if_pos (by omega)
  rw [conflictsLoop, readName_of_labelsAt h.owner hfits]
  show (readIf (place ≤ packet.length ∧ packet.length - place ≥ 10) >>= _) = _
  rw [hhead]
  show (readU16 packet place >>= _) = _
  rw [readU16_of_drop h.type_lt h.drop_type]
  show (readU16 packet (place + 8) >>= _) = _
  rw [readU16_of_drop h.size_lt h.drop_size]
  show (readIf (rdata.length ≤ packet.length - (place + 10)) >>= _) = _
  rw [hrdata]
  show (recordConflicts service packet instanceFull hostFull _ type (place + 10) rdata.length
    >>= _) = _
  rw [hown]
  rfl

end RecordLayout

lemma nameUpTo_eq {packet : List UInt8} {offset behind : ℕ} {labels : List DomainName.Label}
    (h : labelsAt dnsMaxCompressionJumps packet 0 offset = some (labels, behind)) :
    nameUpTo packet offset behind = some labels := by
  rw [nameUpTo, h]
  exact if_pos rfl

end NXCast
