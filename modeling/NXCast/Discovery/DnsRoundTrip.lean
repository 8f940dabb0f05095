import NXCast.Discovery.DnsAnnouncement

/-!
# Announcements read back

An announcement decodes to the records of its service, and the service does not conflict with
it.  Both go through the layout of the four records; what lies behind a pointer is known from
the record that was written first.
-/

namespace NXCast

open DomainName List CString

namespace AirPlayDnsService

/-! ## The names as texts -/

section Texts

variable {service : AirPlayDnsService}

variable (h : service.Announceable)

include h

lemma Announceable.instanceLabels_valid : ∀ label ∈ service.instanceLabels, Label.Valid label :=
  forall_mem_cons.mpr ⟨h.instanceLabel, h.typeLabels⟩

lemma Announceable.extend_typeLabels : extend [] service.typeLabels = service.fullName.bytes := by
  rw [extend_empty h.typeLabels]
  exact dotted_splitOn _

lemma Announceable.extend_instanceLabels :
    extend [] service.instanceLabels =
      (dottedPair service.instanceName service.fullName).bytes := by
  have hmore : service.typeLabels ≠ [] := splitOn_ne_nil _ _
  have htype : dotted service.typeLabels = service.fullName.bytes := dotted_splitOn _
  rw [extend_empty h.instanceLabels_valid, AirPlayDnsService.instanceLabels,
    dotted_cons _ hmore, htype]
  rfl

lemma Announceable.extend_hostLabels :
    extend [] service.hostLabels = (dottedPair service.hostName (cstring "local")).bytes := by
  rw [extend_empty h.hostLabels]
  exact dotted_splitOn _

lemma Announceable.typeText_le : (extend [] service.typeLabels).length ≤ airplayDnsNameMax := by
  have hle := h.instance_le
  rw [h.extend_typeLabels]
  simp only [strlen] at hle
  omega

lemma Announceable.instanceText_le :
    (extend [] service.instanceLabels).length ≤ airplayDnsNameMax := by
  have hle := h.instance_le
  rw [h.extend_instanceLabels]
  simp only [strlen] at hle
  simp only [dottedPair, length_append, length_cons]
  omega

lemma Announceable.hostText_le : (extend [] service.hostLabels).length ≤ airplayDnsNameMax := by
  have hle := h.host_le
  have hlocal : (cstring "local").bytes.length = 5 := by decide
  rw [h.extend_hostLabels]
  simp only [strlen] at hle
  simp only [dottedPair, length_append, length_cons, hlocal]
  omega

end Texts

/-! ## The records in their place -/

/-- The names and records of an announcement, at their places. -/
structure Layout (service : AirPlayDnsService) (ttl : ℕ) (packet : List UInt8) : Prop where
  type : ∀ jumps, labelsAt dnsMaxCompressionJumps packet jumps dnsHeaderSize =
    some (service.typeLabels, dnsHeaderSize + (encode service.typeLabels).length)
  ptr : RecordLayout packet dnsHeaderSize service.typeLabels
    (dnsHeaderSize + (encode service.typeLabels).length) airplayDnsTypePtr dnsClassIn ttl
    service.ptrRdata (service.srvBytes ttl ++ (service.txtBytes ttl ++ service.aBytes ttl))
  instanceName : ∀ jumps < dnsMaxCompressionJumps,
    labelsAt dnsMaxCompressionJumps packet jumps service.instancePlace =
      some (service.instanceLabels, service.instancePlace + service.ptrRdata.length)
  srv : RecordLayout packet (service.instancePlace + service.ptrRdata.length)
    service.instanceLabels (service.instancePlace + service.ptrRdata.length + 2)
    airplayDnsTypeSrv uniqueClass ttl service.srvRdata
    (service.txtBytes ttl ++ service.aBytes ttl)
  host : ∀ jumps, labelsAt dnsMaxCompressionJumps packet jumps service.hostPlace =
    some (service.hostLabels, service.hostPlace + (encode service.hostLabels).length)
  txt : RecordLayout packet (service.hostPlace + (encode service.hostLabels).length)
    service.instanceLabels (service.hostPlace + (encode service.hostLabels).length + 2)
    airplayDnsTypeTxt uniqueClass ttl service.txt (service.aBytes ttl)
  a : RecordLayout packet
    (service.hostPlace + (encode service.hostLabels).length + 2 + 10 + service.txt.length)
    service.hostLabels
    (service.hostPlace + (encode service.hostLabels).length + 2 + 10 + service.txt.length + 2)
    airplayDnsTypeA uniqueClass ttl service.ipv4Address.toList []

variable {service : AirPlayDnsService} {ttl : ℕ}

section

variable (h : service.Announceable)

include h

lemma Announceable.txt_le : 0 < service.txt.length ∧ service.txt.length ≤ airplayDnsTxtMax := by
  have hvalid := h.valid
  simp only [serviceValid, decide_eq_true_eq] at hvalid
  exact ⟨hvalid.2.2.2.2.1, hvalid.2.2.2.2.2⟩

lemma Announceable.instancePlace_lt : service.instancePlace < 0x4000 := by
  have hle := h.typeLength
  simp only [instancePlace, dnsHeaderSize, airplayDnsNameMax] at hle ⊢
  omega

lemma Announceable.instanceSize : (encodeLabel service.instanceName.bytes).length ≤ 64 := by
  have hle := h.instanceLabel.2
  simp only [encodeLabel, length_cons]
  omega

lemma Announceable.hostPlace_lt : service.hostPlace < 0x4000 := by
  have hle := h.typeLength
  have hsize := h.instanceSize
  simp only [hostPlace, instancePlace, dnsHeaderSize, airplayDnsNameMax] at hle ⊢
  omega

end

lemma hostPlace_eq :
    service.instancePlace + service.ptrRdata.length + 2 + 10 + 6 = service.hostPlace := by
  simp only [ptrRdata, encodePointer, length_append, length_cons, length_nil, hostPlace]
  omega

lemma srv_behind :
    service.hostPlace + (encode service.hostLabels).length =
      service.instancePlace + service.ptrRdata.length + 2 + 10 + service.srvRdata.length := by
  rw [← hostPlace_eq]
  simp only [srvRdata, length_append, BigEndian.length_encode]
  omega

/-- **The layout of an announcement.** -/
lemma Announceable.layout (h : service.Announceable) {id : ℕ} (httl : ttl < 256 ^ 4)
    {packet : List UInt8} (hpacket : packet = service.announcement id ttl) :
    service.Layout ttl packet := by
  have hstart : packet.drop dnsHeaderSize = service.ptrBytes ttl ++ (service.srvBytes ttl ++
      (service.txtBytes ttl ++ service.aBytes ttl)) := by
    have hhead : (headerBytes id).length = dnsHeaderSize := rfl
    rw [hpacket, announcement, ← hhead, drop_left]
  have htype (jumps : ℕ) : labelsAt dnsMaxCompressionJumps packet jumps dnsHeaderSize =
      some (service.typeLabels, dnsHeaderSize + (encode service.typeLabels).length) := by
    rw [ptrBytes, append_assoc] at hstart
    exact labelsAt_encode h.typeLabels hstart
  have hsize := h.instanceSize
  have hptr : RecordLayout packet dnsHeaderSize service.typeLabels
      (dnsHeaderSize + (encode service.typeLabels).length) airplayDnsTypePtr dnsClassIn ttl
      service.ptrRdata (service.srvBytes ttl ++ (service.txtBytes ttl ++ service.aBytes ttl)) := by
    refine ⟨htype 0, ?_, by decide, by decide, httl, ?_⟩
    · rw [ptrBytes, append_assoc] at hstart
      exact drop_add_of_drop hstart
    · simp only [ptrRdata, encodePointer, length_append, length_cons, length_nil]
      omega
  have hinst (jumps : ℕ) (hjumps : jumps < dnsMaxCompressionJumps) :
      labelsAt dnsMaxCompressionJumps packet jumps service.instancePlace =
        some (service.instanceLabels, service.instancePlace + service.ptrRdata.length) := by
    have hrdata : packet.drop service.instancePlace = encodeLabel service.instanceName.bytes ++
        (encodePointer dnsHeaderSize ++ (service.srvBytes ttl ++
          (service.txtBytes ttl ++ service.aBytes ttl))) := by
      have hdrop := hptr.drop_rdata
      rwa [ptrRdata, append_assoc] at hdrop
    rw [labelsAt_label h.instanceLabel hrdata, labelsAt_pointer hjumps ?_ (by decide)
      (drop_add_of_drop hrdata), htype]
    · simp only [Option.map_some, ptrRdata, length_append, encodePointer, length_cons,
        length_nil, instanceLabels, Nat.add_assoc]
    · simp only [instancePlace]
      omega
  -- a later owner is a pointer to the name of the instance
  have howner {place : ℕ} {rest : List UInt8} (hlater : service.instancePlace < place)
      (hdrop : packet.drop place = encodePointer service.instancePlace ++ rest) :
      labelsAt dnsMaxCompressionJumps packet 0 place =
        some (service.instanceLabels, place + 2) := by
    rw [labelsAt_pointer (by decide) hlater h.instancePlace_lt hdrop, hinst 1 (by decide),
      Option.map_some]
  have hsrv : RecordLayout packet (service.instancePlace + service.ptrRdata.length)
      service.instanceLabels (service.instancePlace + service.ptrRdata.length + 2)
      airplayDnsTypeSrv uniqueClass ttl service.srvRdata
      (service.txtBytes ttl ++ service.aBytes ttl) := by
    have hdrop := hptr.drop_rest
    rw [srvBytes, append_assoc] at hdrop
    have hbody := drop_add_of_drop hdrop
    refine ⟨howner ?_ hdrop, hbody, by decide, by decide, httl, ?_⟩
    · simp only [ptrRdata, encodePointer, length_append, length_cons]
      omega
    · have hle := h.hostLength
      simp only [srvRdata, length_append, BigEndian.length_encode, airplayDnsNameMax] at hle ⊢
      omega
  have hhostDrop : packet.drop service.hostPlace = encode service.hostLabels ++
      (service.txtBytes ttl ++ service.aBytes ttl) := by
    have hdrop := hsrv.drop_rdata
    simp only [srvRdata, append_assoc] at hdrop
    have hnext := drop_add_of_drop (drop_add_of_drop (drop_add_of_drop hdrop))
    rwa [← hostPlace_eq]
  have hhost (jumps : ℕ) : labelsAt dnsMaxCompressionJumps packet jumps service.hostPlace =
      some (service.hostLabels, service.hostPlace + (encode service.hostLabels).length) :=
    labelsAt_encode h.hostLabels hhostDrop
  have htxtSize := h.txt_le
  have htxt : RecordLayout packet (service.hostPlace + (encode service.hostLabels).length)
      service.instanceLabels (service.hostPlace + (encode service.hostLabels).length + 2)
      airplayDnsTypeTxt uniqueClass ttl service.txt (service.aBytes ttl) := by
    have hdrop := drop_add_of_drop hhostDrop
    rw [txtBytes, append_assoc] at hdrop
    have hbody := drop_add_of_drop hdrop
    refine ⟨howner ?_ hdrop, hbody, by decide, by decide, httl, ?_⟩
    · simp only [hostPlace]
      omega
    · simp only [airplayDnsTxtMax] at htxtSize
      omega
  refine ⟨htype, hptr, hinst, hsrv, hhost, htxt, ?_, ?_, by decide, by decide, httl, ?_⟩
  · have hdrop := htxt.drop_rest
    rw [labelsAt_pointer (by decide) ?_ h.hostPlace_lt hdrop, hhost, Option.map_some]
    omega
  · have hdrop := htxt.drop_rest
    have hbody := drop_add_of_drop hdrop
    rw [append_nil]
    exact hbody
  · rw [Vector.length_toList]
    decide

/-! ## Decoding it -/

section Reading

variable {id : ℕ} {packet : List UInt8}

variable {offset : ℕ}

lemma recordsAt_succ {count place behind : ℕ} {record : DnsRecord}
    {records : List DnsRecord} (hrecord : recordAt packet offset = some (record, place))
    (hrecords : recordsAt packet count place = some (records, behind)) :
    recordsAt packet (count + 1) offset = some (record :: records, behind) := by
  rw [recordsAt, hrecord]
  show (recordsAt packet count place >>= _) = _
  rw [hrecords]
  rfl

/-- The numbers of the header. -/
structure Header (id : ℕ) (packet : List UInt8) : Prop where
  id : packet.drop 0 = BigEndian.encode 2 id ++ packet.drop 2
  flags : packet.drop 2 = BigEndian.encode 2 dnsFlagsResponseAuthoritative ++ packet.drop 4
  questions : packet.drop 4 = BigEndian.encode 2 0 ++ packet.drop 6
  answers : packet.drop 6 = BigEndian.encode 2 4 ++ packet.drop 8
  authorities : packet.drop 8 = BigEndian.encode 2 0 ++ packet.drop 10
  additionals : packet.drop 10 = BigEndian.encode 2 0 ++ packet.drop 12

lemma header_announcement (hpacket : packet = service.announcement id ttl) : Header id packet := by
  subst hpacket
  exact ⟨rfl, rfl, rfl, rfl, rfl, rfl⟩

section

variable (h : service.Layout ttl packet)

include h

lemma Layout.length_eq :
    packet.length = service.hostPlace + (encode service.hostLabels).length + 2 + 10 +
      service.txt.length + 2 + 10 + 4 := by
  have hlen := h.a.length_eq
  rwa [Vector.length_toList, length_nil] at hlen

lemma Layout.rdataAt_ptr :
    rdataAt packet airplayDnsTypePtr (dnsHeaderSize + (encode service.typeLabels).length + 10)
      service.ptrRdata.length = some (.ptr service.instanceLabels) := by
  exact congrArg (Option.map DnsRdata.ptr) (nameUpTo_eq (h.instanceName 0 (by decide)))

lemma Layout.rdataAt_srv :
    rdataAt packet airplayDnsTypeSrv (service.instancePlace + service.ptrRdata.length + 2 + 10)
      service.srvRdata.length = some (.srv 0 0 service.port.toNat service.hostLabels) := by
  have hpriority := h.srv.drop_rdata
  simp only [srvRdata, append_assoc] at hpriority
  have hweight := drop_add_of_drop hpriority
  have hport := drop_add_of_drop hweight
  rw [BigEndian.length_encode] at hweight hport
  have htgt := nameUpTo_eq (h.host 0)
  rw [srv_behind, ← hostPlace_eq] at htgt
  rw [rdataAt, if_neg (by decide), if_pos rfl, uintAt_of_drop (by decide) (by decide) hpriority,
    uintAt_of_drop (by decide) (by decide) hweight,
    uintAt_of_drop (by decide) service.port.toNat_lt hport, htgt]
  rfl

lemma Layout.rdataAt_txt (htxt : 0 < service.txt.length) :
    rdataAt packet airplayDnsTypeTxt (service.hostPlace + (encode service.hostLabels).length + 2
      + 10) service.txt.length = some (.txt service.txt) := by
  rw [rdataAt, if_neg (by decide), if_neg (by decide), if_pos rfl,
    bytesAt_of_drop htxt h.txt.drop_rdata]
  rfl

lemma Layout.rdataAt_a :
    rdataAt packet airplayDnsTypeA (service.hostPlace + (encode service.hostLabels).length + 2 + 10
      + service.txt.length + 2 + 10) service.ipv4Address.toList.length =
        some (.a service.ipv4Address.toList) := by
  have hlen : service.ipv4Address.toList.length = 4 := Vector.length_toList
  rw [rdataAt, if_neg (by decide), if_neg (by decide), if_neg (by decide), if_pos rfl,
    if_pos hlen, bytesAt_of_drop (by omega) h.a.drop_rdata]
  rfl

end

/-- **Decoding an announcement.** -/
lemma Announceable.dnsDecode_announcement (h : service.Announceable) (hid : id < 256 ^ 2)
    (httl : ttl < 256 ^ 4) (hpacket : packet = service.announcement id ttl) :
    dnsDecode packet = some ⟨id, dnsFlagsResponseAuthoritative, service.records ttl, [], []⟩ := by
  have hhead := header_announcement hpacket
  have hlayout := h.layout httl hpacket
  have hptr := hlayout.ptr.recordAt_eq hlayout.rdataAt_ptr
  have hsrv := hlayout.srv.recordAt_eq hlayout.rdataAt_srv
  have htxt := hlayout.txt.recordAt_eq (hlayout.rdataAt_txt h.txt_le.1)
  have ha := hlayout.a.recordAt_eq hlayout.rdataAt_a
  rw [← srv_behind] at hsrv
  have hend : service.hostPlace + (encode service.hostLabels).length + 2 + 10 +
      service.txt.length + 2 + 10 + service.ipv4Address.toList.length = packet.length := by
    rw [hlayout.length_eq, Vector.length_toList]
  rw [hend] at ha
  have hrecords : recordsAt packet 4 dnsHeaderSize =
      some (service.records ttl, packet.length) :=
    recordsAt_succ hptr (recordsAt_succ hsrv (recordsAt_succ htxt (recordsAt_succ ha rfl)))
  have hnone : recordsAt packet 0 packet.length = some ([], packet.length) := rfl
  simp only [dnsDecode, uintAt_of_drop (by decide) hid hhead.id,
    uintAt_of_drop (by decide) (by decide) hhead.flags,
    uintAt_of_drop (by decide) (by decide) hhead.questions,
    uintAt_of_drop (by decide) (by decide) hhead.answers,
    uintAt_of_drop (by decide) (by decide) hhead.authorities,
    uintAt_of_drop (by decide) (by decide) hhead.additionals, hrecords, hnone,
    Option.bind_eq_bind, Option.bind_some]
  exact if_pos ⟨trivial, trivial⟩

/-! ## No conflict with it -/

lemma recordConflicts_ptr (instanceFull hostFull owner : CString) (rdataOffset rdataSize : ℕ) :
    recordConflicts service packet instanceFull hostFull owner airplayDnsTypePtr rdataOffset
      rdataSize = .ok false := by
  have ha : airplayDnsTypePtr ≠ airplayDnsTypeA := by decide
  have htxt : airplayDnsTypePtr ≠ airplayDnsTypeTxt := by decide
  have hsrv : airplayDnsTypePtr ≠ airplayDnsTypeSrv := by decide
  simp only [recordConflicts, ha, htxt, hsrv, and_false, if_false]
  rfl

variable {rest : List UInt8}

lemma rdataDiffers_own {own : List UInt8} (hpos : 0 < own.length)
    (h : packet.drop offset = own ++ rest) :
    rdataDiffers packet offset own.length own = .ok false := by
  rw [rdataDiffers, if_neg (fun h => h rfl), packetBytes_of_drop hpos h]
  show Except.ok (decide (own ≠ own)) = _
  simp

variable {instanceFull hostFull owner : CString}

lemma recordConflicts_txt
    (hpos : 0 < service.txt.length) (h : packet.drop offset = service.txt ++ rest) :
    recordConflicts service packet instanceFull hostFull owner airplayDnsTypeTxt offset
      service.txt.length = .ok false := by
  have ha : airplayDnsTypeTxt ≠ airplayDnsTypeA := by decide
  have hsrv : airplayDnsTypeTxt ≠ airplayDnsTypeSrv := by decide
  simp only [recordConflicts, ha, hsrv, and_false, if_false, rdataDiffers_own hpos h]
  split <;> rfl

lemma recordConflicts_a (h : packet.drop offset = service.ipv4Address.toList ++ rest) :
    recordConflicts service packet instanceFull hostFull owner airplayDnsTypeA offset
      service.ipv4Address.toList.length = .ok false := by
  have htxt : airplayDnsTypeA ≠ airplayDnsTypeTxt := by decide
  have hsrv : airplayDnsTypeA ≠ airplayDnsTypeSrv := by decide
  have hpos : 0 < service.ipv4Address.toList.length := by
    rw [Vector.length_toList]
    decide
  simp only [recordConflicts, htxt, hsrv, and_false, if_false, rdataDiffers_own hpos h]
  split <;> rfl

lemma Layout.srvRdataMatches_own (h : service.Layout ttl packet) (hsvc : service.Announceable)
    (hhost : makeHostFull service = some (dottedPair service.hostName (cstring "local"))) :
    srvRdataMatches service packet (service.instancePlace + service.ptrRdata.length + 2 + 10)
      service.srvRdata.length = .ok true := by
  set place := service.instancePlace + service.ptrRdata.length + 2 + 10 with hplace
  have hpriority := h.srv.drop_rdata
  simp only [srvRdata, append_assoc, ← hplace] at hpriority
  have hweight := drop_add_of_drop hpriority
  have hport := drop_add_of_drop hweight
  rw [BigEndian.length_encode] at hweight hport
  have hsize : service.srvRdata.length ≥ 7 := by
    simp only [srvRdata, length_append, BigEndian.length_encode, encode, length_cons]
    omega
  have hinside := h.srv.length_eq
  have hguard : readIf (service.srvRdata.length ≥ 7 ∧ place ≤ packet.length ∧
      service.srvRdata.length ≤ packet.length - place) = .ok () :=
    if_pos ⟨hsize, by omega, by omega⟩
  have hname : readName packet (place + 6) = .ok (dottedPair service.hostName (cstring "local"),
      place + service.srvRdata.length) := by
    have hread := readName_of_labelsAt (h.host 0) hsvc.hostText_le
    rwa [hsvc.extend_hostLabels, ofBuffer_bytes, srv_behind, ← hostPlace_eq, ← hplace] at hread
  unfold srvRdataMatches
  rw [hguard, readU16_of_drop (by decide) hpriority, readU16_of_drop (by decide) hweight,
    readU16_of_drop service.port.toNat_lt hport, hhost]
  show refusedAsFalse (readIf (0 = 0) >>= fun _ => readIf (0 = 0) >>= fun _ =>
    readIf (service.port.toNat = service.port.toNat) >>= fun _ => readName packet (place + 6) >>=
      fun found => pure (decide (found.2 = place + service.srvRdata.length) &&
        nameMatches found.1 (dottedPair service.hostName (cstring "local")))) = _
  rw [hname]
  simp only [readIf, if_true]
  show Except.ok (decide (place + service.srvRdata.length = place + service.srvRdata.length) &&
    nameMatches (dottedPair service.hostName (cstring "local"))
      (dottedPair service.hostName (cstring "local"))) = _
  simp [nameMatches]

lemma recordConflicts_srv {size : ℕ}
    (h : srvRdataMatches service packet offset size = .ok true) :
    recordConflicts service packet instanceFull hostFull owner airplayDnsTypeSrv offset size =
      .ok false := by
  have ha : airplayDnsTypeSrv ≠ airplayDnsTypeA := by decide
  have htxt : airplayDnsTypeSrv ≠ airplayDnsTypeTxt := by decide
  simp only [recordConflicts, ha, htxt, and_false, if_false, h]
  cases nameMatches owner instanceFull with
  | true | false => rfl

/-- **No conflict** of a service with its own announcement. -/
lemma Announceable.packetConflicts_announcement (h : service.Announceable) (httl : ttl < 256 ^ 4)
    (hpacket : packet = service.announcement id ttl)
    (hinst : makeInstanceFull service = some (dottedPair service.instanceName service.fullName))
    (hhost : makeHostFull service = some (dottedPair service.hostName (cstring "local"))) :
    airplayDnsPacketConflicts service packet = .ok false := by
  have hhead := header_announcement hpacket
  have hlayout := h.layout httl hpacket
  have hlen := hlayout.length_eq
  have hsize : packet.length ≤ airplayDnsPacketMax := by
    have htype := h.typeLength
    have hhostLength := h.hostLength
    have htxt := h.txt_le.2
    have hlabel := h.instanceSize
    simp only [hostPlace, instancePlace, dnsHeaderSize, airplayDnsNameMax, airplayDnsTxtMax,
      airplayDnsPacketMax] at *
    omega
  have hguard : ¬(serviceValid service = false ∨ packet.length < dnsHeaderSize ∨
      packet.length > airplayDnsPacketMax) := by
    rintro (hinvalid | hshort | hlong)
    · rw [h.valid] at hinvalid
      cases hinvalid
    · simp only [dnsHeaderSize] at hshort
      omega
    · omega
  unfold airplayDnsPacketConflicts
  rw [if_neg hguard, hinst, hhost]
  rw [readU16_of_drop (by decide) hhead.questions, readU16_of_drop (by decide) hhead.answers,
    readU16_of_drop (by decide) hhead.authorities,
    readU16_of_drop (by decide) hhead.additionals]
  show refusedAsFalse (conflictsLoop service packet
    (dottedPair service.instanceName service.fullName)
    (dottedPair service.hostName (cstring "local")) 4 dnsHeaderSize) = _
  rw [hlayout.ptr.conflictsLoop_eq h.typeText_le service _ _ 3 (recordConflicts_ptr _ _ _ _ _)]
  have hsrv := hlayout.srv.conflictsLoop_eq h.instanceText_le service
    (dottedPair service.instanceName service.fullName)
    (dottedPair service.hostName (cstring "local")) 2
    (recordConflicts_srv (hlayout.srvRdataMatches_own h hhost))
  rw [← srv_behind] at hsrv
  have htxt := hlayout.txt.conflictsLoop_eq h.instanceText_le service
    (dottedPair service.instanceName service.fullName)
    (dottedPair service.hostName (cstring "local")) 1
    (recordConflicts_txt h.txt_le.1 hlayout.txt.drop_rdata)
  have ha := hlayout.a.conflictsLoop_eq h.hostText_le service
    (dottedPair service.instanceName service.fullName)
    (dottedPair service.hostName (cstring "local")) 0 (recordConflicts_a hlayout.a.drop_rdata)
  exact congrArg refusedAsFalse ((hsrv.trans htxt).trans ha)

end Reading

end AirPlayDnsService

/-- **Announcements round-trip.**  An announcement decodes to exactly the records of its service,
and the service does not take it for a conflict. -/
theorem dnsDecode_of_announcement (service : AirPlayDnsService) (ttl : UInt32)
    (packet : List UInt8) (h : airplayDnsBuildAnnouncement service ttl = some packet) :
    dnsDecode packet = some ⟨0, dnsFlagsResponseAuthoritative, service.records ttl.toNat, [], []⟩ ∧
      airplayDnsPacketConflicts service packet = .ok false := by
  obtain ⟨hservice, hpacket, hinstance, hhost⟩ := buildRecordSet_eq_some h
  exact ⟨hservice.dnsDecode_announcement (by decide) ttl.toNat_lt hpacket,
    hservice.packetConflicts_announcement ttl.toNat_lt hpacket hinstance hhost⟩

/-- A service with dots in the names of its instance and its host. -/
def dottedService : AirPlayDnsService :=
  ⟨cstring "_raop._tcp.local", cstring "Living.Room", cstring "nx.cast", 7000,
    #v[192, 168, 1, 7], asciiBytes "\x07pw=true"⟩

/-- The instance stays one label, and the host is two. -/
theorem dnsDecode_of_announcement_dots :
    ∃ packet, airplayDnsBuildAnnouncement dottedService 120 = some packet ∧
      dnsDecode packet = some ⟨0, 0x8400, [
        ⟨[asciiBytes "_raop", asciiBytes "_tcp", asciiBytes "local"], 12, 1, 120,
          .ptr [asciiBytes "Living.Room", asciiBytes "_raop", asciiBytes "_tcp",
            asciiBytes "local"]⟩,
        ⟨[asciiBytes "Living.Room", asciiBytes "_raop", asciiBytes "_tcp", asciiBytes "local"],
          33, 0x8001, 120, .srv 0 0 7000 [asciiBytes "nx", asciiBytes "cast",
            asciiBytes "local"]⟩,
        ⟨[asciiBytes "Living.Room", asciiBytes "_raop", asciiBytes "_tcp", asciiBytes "local"],
          16, 0x8001, 120, .txt (asciiBytes "\x07pw=true")⟩,
        ⟨[asciiBytes "nx", asciiBytes "cast", asciiBytes "local"], 1, 0x8001, 120,
          .a [192, 168, 1, 7]⟩], [], []⟩ ∧
      airplayDnsPacketConflicts dottedService packet = .ok false := by
  have hbuilt : (airplayDnsBuildAnnouncement dottedService 120).isSome = true := by
    decide +kernel
  obtain ⟨packet, hpacket⟩ := Option.isSome_iff_exists.mp hbuilt
  obtain ⟨hdecoded, hquiet⟩ := dnsDecode_of_announcement dottedService 120 packet hpacket
  refine ⟨packet, hpacket, hdecoded.trans ?_, hquiet⟩
  decide +kernel

end NXCast
