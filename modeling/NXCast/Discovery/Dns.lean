import NXCast.Framework.BigEndian
import NXCast.Framework.BoundedWriter
import NXCast.Framework.DomainName
import NXCast.Rtsp.Text

/-!
# The mDNS packets

`dns.c`.  A writer is a program on the bytes written so far, and its offset is their number.
A reader that returns false is `refused`; it would be `outsidePacket` or `outsideName` if it
touched a byte that is not there.
-/

namespace NXCast

open DomainName (dot)

/-! ## Data -/

/-- `AIRPLAY_DNS_PACKET_MAX` -/
def airplayDnsPacketMax : ℕ := 1500
/-- `AIRPLAY_DNS_NAME_MAX` -/
def airplayDnsNameMax : ℕ := 255
/-- `AIRPLAY_DNS_TXT_MAX` -/
def airplayDnsTxtMax : ℕ := 512

/-- `AIRPLAY_DNS_TYPE_A` -/
def airplayDnsTypeA : ℕ := 1
/-- `AIRPLAY_DNS_TYPE_PTR` -/
def airplayDnsTypePtr : ℕ := 12
/-- `AIRPLAY_DNS_TYPE_TXT` -/
def airplayDnsTypeTxt : ℕ := 16
/-- `AIRPLAY_DNS_TYPE_SRV` -/
def airplayDnsTypeSrv : ℕ := 33
/-- `AIRPLAY_DNS_TYPE_ANY` -/
def airplayDnsTypeAny : ℕ := 255

/-- `DNS_HEADER_SIZE` -/
def dnsHeaderSize : ℕ := 12
/-- `DNS_CLASS_IN` -/
def dnsClassIn : ℕ := 1
/-- `DNS_CLASS_CACHE_FLUSH` -/
def dnsClassCacheFlush : ℕ := 0x8000
/-- `DNS_CLASS_UNICAST_RESPONSE` -/
def dnsClassUnicastResponse : ℕ := 0x8000
/-- `DNS_FLAGS_RESPONSE_AUTHORITATIVE` -/
def dnsFlagsResponseAuthoritative : ℕ := 0x8400
/-- `DNS_POINTER_MASK` -/
def dnsPointerMask : ℕ := 0xc000
/-- `DNS_MAX_QUESTIONS` -/
def dnsMaxQuestions : ℕ := 32
/-- `DNS_MAX_RECORDS` -/
def dnsMaxRecords : ℕ := 64
/-- `DNS_MAX_COMPRESSION_JUMPS` -/
def dnsMaxCompressionJumps : ℕ := 16

/-- `g_default_service_name` -/
def defaultServiceName : CString := cstring "_airplay._tcp.local"

/-- `AirPlayDnsService`.  The address is its four bytes in memory, which are in network order;
`txt` is the first `txt_size` bytes of its array. -/
structure AirPlayDnsService where
  serviceName : CString
  instanceName : CString
  hostName : CString
  port : UInt16
  ipv4Address : Vector UInt8 4
  txt : List UInt8
deriving DecidableEq

/-! ## Writing -/

/-- A `DnsWriter` at work: the bytes before its offset. -/
abbrev DnsWriterM := StateT (List UInt8) Option

/-- `writer->offset` -/
def writerOffset : DnsWriterM ℕ := do return (← get).length

/-- `write_bytes` -/
def writeBytes (data : List UInt8) : DnsWriterM Unit := fun written =>
  if written.length > airplayDnsPacketMax ∨
      data.length > airplayDnsPacketMax - written.length then none
  else some ((), written ++ data)

/-- `write_u8` -/
def writeU8 (value : ℕ) : DnsWriterM Unit := writeBytes [UInt8.ofNat value]

/-- `write_u16` -/
def writeU16 (value : ℕ) : DnsWriterM Unit := writeBytes (BigEndian.encode 2 value)

/-- `write_u32` -/
def writeU32 (value : ℕ) : DnsWriterM Unit := writeBytes (BigEndian.encode 4 value)

/-- `patch_u16` -/
def patchU16 (offset value : ℕ) : DnsWriterM Unit := fun written =>
  if offset > airplayDnsPacketMax ∨ offset > written.length ∨ airplayDnsPacketMax - offset < 2 ∨
      written.length - offset < 2 then none
  else some ((), written.take offset ++ BigEndian.encode 2 value ++ written.drop (offset + 2))

/-- `write_label` -/
def writeLabel (label : List UInt8) : DnsWriterM Unit :=
  if label.length > 0 ∧ label.length ≤ 63 then do
    writeU8 label.length
    writeBytes label
  else failure

/-- The loop of `write_name`, inside a label. -/
def writeNameLoop : List UInt8 → List UInt8 → ℕ → DnsWriterM Unit
  | [], label, total => do
    writeLabel label
    if total + (label.length + 1) > airplayDnsNameMax then failure else writeU8 0
  | byte :: name, label, total =>
    if byte = dot then do
      writeLabel label
      if total + (label.length + 1) > airplayDnsNameMax then failure
      else writeNameLoop name [] (total + (label.length + 1))
    else writeNameLoop name (label ++ [byte]) total

/-- `write_name` -/
def writeName (name : CString) : DnsWriterM Unit :=
  if name.bytes = [] then failure else writeNameLoop name.bytes [] 1

/-- `write_pointer` -/
def writePointer (offset : ℕ) : DnsWriterM Unit :=
  if offset < dnsPointerMask then writeU16 (dnsPointerMask ||| offset) else failure

/-! ## The names of a service -/

variable (service : AirPlayDnsService)

/-- `service_valid` -/
def serviceValid : Bool :=
  decide (service.instanceName.bytes ≠ [] ∧ service.hostName.bytes ≠ [] ∧ service.port ≠ 0 ∧
    service.ipv4Address ≠ Vector.replicate 4 0 ∧ service.txt.length > 0 ∧
    service.txt.length ≤ airplayDnsTxtMax)

/-- `service_name` -/
def AirPlayDnsService.fullName : CString :=
  if service.serviceName.bytes ≠ [] then service.serviceName else defaultServiceName

/-- Two strings with a dot between them. -/
def dottedPair (left right : CString) : CString where
  bytes := left.bytes ++ dot :: right.bytes
  nul_free := by
    have hleft := left.nul_free
    have hright := right.nul_free
    simp [dot, hleft, hright]

/-- `make_instance_full` -/
def makeInstanceFull : Option CString :=
  if service.instanceName.strlen = 0 ∨ service.instanceName.strlen > 63 ∨
      service.instanceName.strlen + 1 + service.fullName.strlen > airplayDnsNameMax then none
  else some (dottedPair service.instanceName service.fullName)

/-- `make_host_full` -/
def makeHostFull : Option CString :=
  if service.hostName.strlen = 0 ∨ service.hostName.strlen > 63 ∨
      service.hostName.strlen + 6 > airplayDnsNameMax then none
  else some (dottedPair service.hostName (cstring "local"))

/-! ## The records of a service -/

/-- The record data that `body` writes, with its length in front: `build_record_set` leaves two
bytes for it and patches them afterwards. -/
def writeRdata {α : Type} (body : DnsWriterM α) : DnsWriterM α := do
  let lengthOffset ← writerOffset
  writeU16 0
  let rdataOffset ← writerOffset
  let answer ← body
  let endOffset ← writerOffset
  patchU16 lengthOffset (endOffset - rdataOffset)
  return answer

/-- `write_record_header`, up to the length; every record that uses it is unique. -/
def writeRecordHeader (ownerOffset type ttl : ℕ) : DnsWriterM Unit := do
  writePointer ownerOffset
  writeU16 type
  writeU16 (dnsClassIn ||| dnsClassCacheFlush)
  writeU32 ttl

/-- The header of the packet, for four answers. -/
def writeHeader (id : ℕ) : DnsWriterM Unit := do
  writeU16 id
  writeU16 dnsFlagsResponseAuthoritative
  writeU16 0
  writeU16 4
  writeU16 0
  writeU16 0

/-- The PTR record: where the name of the instance is. -/
def writePtrRecord (ttl : ℕ) : DnsWriterM ℕ := do
  let serviceOffset ← writerOffset
  writeName service.fullName
  writeU16 airplayDnsTypePtr
  writeU16 dnsClassIn
  writeU32 ttl
  writeRdata do
    let instanceOffset ← writerOffset
    writeLabel service.instanceName.bytes
    writePointer serviceOffset
    return instanceOffset

/-- The SRV record: where the name of the host is. -/
def writeSrvRecord (hostFull : CString) (instanceOffset ttl : ℕ) :
    DnsWriterM ℕ := do
  writeRecordHeader instanceOffset airplayDnsTypeSrv ttl
  writeRdata do
    writeU16 0
    writeU16 0
    writeU16 service.port.toNat
    let hostOffset ← writerOffset
    writeName hostFull
    return hostOffset

/-- The TXT record. -/
def writeTxtRecord (instanceOffset ttl : ℕ) : DnsWriterM Unit := do
  writeRecordHeader instanceOffset airplayDnsTypeTxt ttl
  writeRdata (writeBytes service.txt)

/-- The A record. -/
def writeARecord (hostOffset ttl : ℕ) : DnsWriterM Unit := do
  writeRecordHeader hostOffset airplayDnsTypeA ttl
  writeRdata (writeBytes service.ipv4Address.toList)

/-- The writing part of `build_record_set`. -/
def writeRecordSet (hostFull : CString) (id ttl : ℕ) :
    DnsWriterM Unit := do
  writeHeader id
  let instanceOffset ← writePtrRecord service ttl
  let hostOffset ← writeSrvRecord service hostFull instanceOffset ttl
  writeTxtRecord service instanceOffset ttl
  writeARecord service hostOffset ttl

/-- `build_record_set` -/
def buildRecordSet (id : UInt16) (ttl : UInt32) :
    Option (List UInt8) :=
  if serviceValid service = false then none
  else
    match makeInstanceFull service, makeHostFull service with
    | some _, some hostFull =>
      (writeRecordSet service hostFull id.toNat ttl.toNat []).map (·.2)
    | _, _ => none

/-- `airplay_dns_build_announcement` -/
def airplayDnsBuildAnnouncement (ttl : UInt32) :
    Option (List UInt8) :=
  buildRecordSet service 0 ttl

/-! ## Reading -/

/-- Why a reader stops. -/
inductive DnsStop where
  | refused
  | outsidePacket
  | outsideName
deriving DecidableEq, Repr

/-- A reader of a packet. -/
abbrev DnsRead := Except DnsStop

variable (packet : List UInt8)

/-- `packet[index]` -/
def packetByte (index : ℕ) : DnsRead UInt8 :=
  match packet[index]? with
  | some byte => .ok byte
  | none => .error .outsidePacket

/-- The bytes a `memcpy` or a `memcmp` reads. -/
def packetBytes (start size : ℕ) : DnsRead (List UInt8) :=
  if start + size ≤ packet.length then .ok ((packet.drop start).take size)
  else .error .outsidePacket

/-- Write into the array of a name, which has room for the name and its terminator. -/
def nameAppend (output bytes : List UInt8) : DnsRead (List UInt8) :=
  if output.length + bytes.length ≤ airplayDnsNameMax + 1 then .ok (output ++ bytes)
  else .error .outsideName

/-- `read_u16` -/
def readU16 (offset : ℕ) : DnsRead ℕ := do
  let bytes ← packetBytes packet offset 2
  return BigEndian.value bytes

/-- `return condition`, for a reader that goes on when it holds. -/
def readIf (condition : Prop) [Decidable condition] : DnsRead Unit :=
  if condition then .ok () else .error .refused

/-- A label, appended to the name: the separator, and then the bytes. -/
def readLabel (output : List UInt8) (cursor size : ℕ) : DnsRead (List UInt8) := do
  let output ← (
    if output.length ≠ 0 then do
      readIf (output.length < airplayDnsNameMax)
      nameAppend output [dot]
    else pure output)
  readIf (size ≤ airplayDnsNameMax - output.length)
  let label ← packetBytes packet cursor size
  nameAppend output label

/-- The loop of `read_name`: `next` is its `next_offset`, once it has jumped. -/
def readNameLoop (packet : List UInt8) (jumps cursor : ℕ) (next : Option ℕ)
    (output : List UInt8) : DnsRead (CString × ℕ) :=
  if _hcursor : cursor < packet.length then
    match packetByte packet cursor with
    | .error stop => .error stop
    | .ok length =>
      if length &&& 0xc0 = 0xc0 then
        if cursor + 1 ≥ packet.length then .error .refused
        else if _hjumps : jumps + 1 > dnsMaxCompressionJumps then .error .refused
        else
          match packetByte packet (cursor + 1) with
          | .error stop => .error stop
          | .ok low =>
            let pointer := (length &&& 0x3f).toNat * 256 + low.toNat
            if pointer ≥ packet.length ∨ pointer ≥ cursor then .error .refused
            else readNameLoop packet (jumps + 1) pointer (next <|> some (cursor + 2)) output
      else if length &&& 0xc0 ≠ 0 ∨ length > 63 ∨
          length.toNat > packet.length - (cursor + 1) then .error .refused
      else if length = 0 then
        match nameAppend output [0] with
        | .error stop => .error stop
        | .ok _ => .ok (CString.ofBuffer output, next.getD (cursor + 1))
      else
        match readLabel packet output (cursor + 1) length.toNat with
        | .error stop => .error stop
        | .ok output => readNameLoop packet jumps (cursor + 1 + length.toNat) next output
  else .error .refused
termination_by (dnsMaxCompressionJumps + 1 - jumps, packet.length - cursor)
decreasing_by
  · exact Prod.Lex.left _ _ (by omega)
  · exact Prod.Lex.right _ (by omega)

/-- `read_name`: the name and the offset behind it. -/
def readName (offset : ℕ) : DnsRead (CString × ℕ) :=
  if offset ≥ packet.length then .error .refused
  else readNameLoop packet 0 offset none []

/-- `name_matches`, by `strcasecmp`. -/
def nameMatches (left right : CString) : Bool :=
  decide (left.bytes.map tolower = right.bytes.map tolower)

/-! ## Queries -/

/-- Whether a question asks for a record of the service. -/
def questionRelevant (instanceFull hostFull name : CString)
    (type : ℕ) : Bool :=
  if nameMatches name service.fullName ∧
      (type = airplayDnsTypePtr ∨ type = airplayDnsTypeAny) then true
  else if nameMatches name instanceFull ∧
      (type = airplayDnsTypeSrv ∨ type = airplayDnsTypeTxt ∨ type = airplayDnsTypeAny) then true
  else if nameMatches name hostFull ∧
      (type = airplayDnsTypeA ∨ type = airplayDnsTypeAny) then true
  else false

/-- The question loop of `airplay_dns_build_query_response`: `relevant` and `unicast` behind the
last question. -/
def queryLoop (service : AirPlayDnsService) (query : List UInt8)
    (instanceFull hostFull : CString) : ℕ → ℕ → Bool → Bool → DnsRead (Bool × Bool)
  | 0, _, relevant, unicast => pure (relevant, unicast)
  | count + 1, offset, relevant, unicast => do
    let (name, offset) ← readName query offset
    readIf (offset ≤ query.length ∧ query.length - offset ≥ 4)
    let type ← readU16 query offset
    let dnsClass ← readU16 query (offset + 2)
    if dnsClass &&& 0x7fff ≠ dnsClassIn then
      queryLoop service query instanceFull hostFull count (offset + 4) relevant unicast
    else
      let asked := questionRelevant service instanceFull hostFull name type
      queryLoop service query instanceFull hostFull count (offset + 4) (relevant || asked)
        (unicast || (asked && decide (dnsClass &&& dnsClassUnicastResponse ≠ 0)))

/-- `airplay_dns_build_query_response`: the packet, and `unicast_response`; false is `refused`. -/
def airplayDnsBuildQueryResponse (query : List UInt8)
    (ttl : UInt32) : DnsRead (List UInt8 × Bool) :=
  if serviceValid service = false ∨ query.length < dnsHeaderSize ∨
      query.length > airplayDnsPacketMax then .error .refused
  else
    match makeInstanceFull service, makeHostFull service with
    | some instanceFull, some hostFull => do
      let id ← readU16 query 0
      let flags ← readU16 query 2
      let questionCount ← readU16 query 4
      readIf (flags &&& 0x8000 = 0 ∧ questionCount ≠ 0 ∧ questionCount ≤ dnsMaxQuestions)
      let (relevant, unicast) ← queryLoop service query instanceFull hostFull questionCount
        dnsHeaderSize false false
      readIf relevant
      match buildRecordSet service (if unicast then UInt16.ofNat id else 0) ttl with
      | some packet => pure (packet, unicast)
      | none => .error .refused
    | _, _ => .error .refused

/-! ## Conflicts -/

/-- The loop of `skip_questions`. -/
def skipQuestionsLoop (packet : List UInt8) : ℕ → ℕ → DnsRead ℕ
  | 0, offset => .ok offset
  | count + 1, offset => do
    let (_, offset) ← readName packet offset
    readIf (offset ≤ packet.length ∧ packet.length - offset ≥ 4)
    skipQuestionsLoop packet count (offset + 4)

/-- `skip_questions` -/
def skipQuestions (count offset : ℕ) : DnsRead ℕ := do
  readIf (count ≤ dnsMaxQuestions)
  skipQuestionsLoop packet count offset

/-- A reader whose refusal is the answer false. -/
def refusedAsFalse (reader : DnsRead Bool) : DnsRead Bool :=
  match reader with
  | .error .refused => .ok false
  | answer => answer

/-- `srv_rdata_matches` -/
def srvRdataMatches
    (rdataOffset rdataSize : ℕ) : DnsRead Bool := refusedAsFalse do
  readIf (rdataSize ≥ 7 ∧ rdataOffset ≤ packet.length ∧
    rdataSize ≤ packet.length - rdataOffset)
  let priority ← readU16 packet rdataOffset
  readIf (priority = 0)
  let weight ← readU16 packet (rdataOffset + 2)
  readIf (weight = 0)
  let port ← readU16 packet (rdataOffset + 4)
  readIf (port = service.port.toNat)
  match makeHostFull service with
  | none => .error .refused
  | some hostFull => do
    let (target, targetOffset) ← readName packet (rdataOffset + 6)
    return decide (targetOffset = rdataOffset + rdataSize) && nameMatches target hostFull

/-- Whether record data differs from what the service would say: the size first, and then the
bytes by `memcmp`. -/
def rdataDiffers (rdataOffset rdataSize : ℕ) (own : List UInt8) :
    DnsRead Bool :=
  if rdataSize ≠ own.length then .ok true
  else do
    let bytes ← packetBytes packet rdataOffset own.length
    return decide (bytes ≠ own)

/-- Whether one record conflicts with the service. -/
def recordConflicts
    (instanceFull hostFull owner : CString) (type rdataOffset rdataSize : ℕ) : DnsRead Bool := do
  let addressDiffers ← (
    if nameMatches owner hostFull ∧ type = airplayDnsTypeA then
      rdataDiffers packet rdataOffset rdataSize service.ipv4Address.toList
    else pure false)
  if addressDiffers then pure true
  else do
    let txtDiffers ← (
      if nameMatches owner instanceFull ∧ type = airplayDnsTypeTxt then
        rdataDiffers packet rdataOffset rdataSize service.txt
      else pure false)
    if txtDiffers then pure true
    else if nameMatches owner instanceFull ∧ type = airplayDnsTypeSrv then do
      let own ← srvRdataMatches service packet rdataOffset rdataSize
      return !own
    else pure false

/-- The record loop of `airplay_dns_packet_conflicts`. -/
def conflictsLoop (service : AirPlayDnsService) (packet : List UInt8)
    (instanceFull hostFull : CString) : ℕ → ℕ → DnsRead Bool
  | 0, _ => pure false
  | count + 1, offset => do
    let (owner, offset) ← readName packet offset
    readIf (offset ≤ packet.length ∧ packet.length - offset ≥ 10)
    let type ← readU16 packet offset
    let rdataSize ← readU16 packet (offset + 8)
    readIf (rdataSize ≤ packet.length - (offset + 10))
    let conflict ← recordConflicts service packet instanceFull hostFull owner type (offset + 10)
      rdataSize
    if conflict then pure true
    else conflictsLoop service packet instanceFull hostFull count (offset + 10 + rdataSize)

/-- `airplay_dns_packet_conflicts` -/
def airplayDnsPacketConflicts :
    DnsRead Bool :=
  if serviceValid service = false ∨ packet.length < dnsHeaderSize ∨
      packet.length > airplayDnsPacketMax then .ok false
  else
    match makeInstanceFull service, makeHostFull service with
    | some instanceFull, some hostFull => refusedAsFalse do
      let questions ← readU16 packet 4
      let answers ← readU16 packet 6
      let authorities ← readU16 packet 8
      let additionals ← readU16 packet 10
      readIf (answers + authorities + additionals ≤ dnsMaxRecords)
      let offset ← skipQuestions packet questions dnsHeaderSize
      conflictsLoop service packet instanceFull hostFull (answers + authorities + additionals)
        offset
    | _, _ => .ok false

end NXCast
