import NXCast.Discovery.DnsMessage

/-!
# The announcement of a service

`build_record_set` emits four records that share their names through pointers
(`announcement`); decoded, they are the records of the service, and
`airplay_dns_packet_conflicts` finds none of them different from its own.
-/

namespace NXCast

open DomainName BoundedWriter List AirPlayDnsService Option

/-! ## What the writers emit -/

section Writers

variable {written : List UInt8}

lemma emits_writeBytes (data : List UInt8) :
    Emits (writeBytes data) written fun _ chunk => chunk = data := by
  intro _ result hrun
  unfold writeBytes at hrun
  split at hrun
  · cases hrun
  · obtain ⟨-, rfl⟩ := Prod.mk.inj (some.inj hrun)
    exact ⟨data, rfl, rfl⟩

lemma emits_writeU16 (value : ℕ) :
    Emits (writeU16 value) written fun _ chunk => chunk = BigEndian.encode 2 value :=
  emits_writeBytes _

lemma emits_writeU32 (value : ℕ) :
    Emits (writeU32 value) written fun _ chunk => chunk = BigEndian.encode 4 value :=
  emits_writeBytes _

lemma emits_writeLabel (label : List UInt8) :
    Emits (writeLabel label) written fun _ chunk =>
      chunk = encodeLabel label ∧ Label.Valid label := by
  refine .ite (fun hsize => ?_) fun _ => .failure
  refine .bind (emits_writeBytes _) fun _ chunk hchunk => ?_
  refine (emits_writeBytes label).mono fun _ more hmore => ?_
  rw [hchunk, hmore]
  exact ⟨rfl, length_pos_iff.mp hsize.1, hsize.2⟩

lemma emits_writePointer {offset : ℕ} (h : offset < 0x4000) :
    Emits (writePointer offset) written fun _ chunk => chunk = encodePointer offset := by
  refine .ite (fun _ => (emits_writeU16 _).mono fun _ chunk hchunk => ?_) fun _ => .failure
  have hmask : dnsPointerMask ||| offset = 0xc000 + offset :=
    (Nat.two_pow_add_eq_or_of_lt (i := 14) h 3).symm
  have hhigh : (0xc000 + offset) / 256 = 0xc0 + offset / 256 := by omega
  have hlow : UInt8.ofNat (0xc000 + offset) = UInt8.ofNat offset := by
    apply UInt8.toNat_inj.mp
    rw [UInt8.toNat_ofNat', UInt8.toNat_ofNat']
    omega
  rw [hchunk, hmask, encodePointer, BigEndian.encode, BigEndian.encode, BigEndian.encode, hhigh,
    hlow]
  rfl

/-- **The labels of a name.** -/
lemma emits_writeNameLoop (name label : List UInt8) (total : ℕ) (hlabel : dot ∉ label) :
    Emits (writeNameLoop name label total) written fun _ chunk =>
      chunk = encode ((label ++ name).splitOn dot) ∧
        (∀ other ∈ (label ++ name).splitOn dot, Label.Valid other) ∧
        total + chunk.length ≤ airplayDnsNameMax + 1 := by
  induction name generalizing label total written with
  | nil =>
    rw [append_nil, splitOn_eq_singleton hlabel]
    refine .bind (emits_writeLabel label) fun _ chunk hchunk => ?_
    refine .ite (fun _ => .failure) fun htotal => ?_
    refine (emits_writeBytes _).mono fun _ more hmore => ?_
    obtain ⟨rfl, hvalid⟩ := hchunk
    subst hmore
    refine ⟨by simp [encode], fun other hother => ?_, ?_⟩
    · rw [mem_singleton.mp hother]
      exact hvalid
    · simp only [encodeLabel, length_append, length_cons, length_nil]
      omega
  | cons byte name ih =>
    refine .ite (fun hdot => ?_) fun hdot => ?_
    · subst hdot
      rw [splitOn_append_cons_self_of_not_mem hlabel]
      refine .bind (emits_writeLabel label) fun _ chunk hchunk => ?_
      refine .ite (fun _ => .failure) fun htotal => ?_
      refine (ih [] _ not_mem_nil).mono fun _ more hmore => ?_
      obtain ⟨rfl, hvalid⟩ := hchunk
      obtain ⟨rfl, hvalidMore, hlen⟩ := hmore
      refine ⟨by simp [encode], ?_, ?_⟩
      · exact forall_mem_cons.mpr ⟨hvalid, hvalidMore⟩
      · simp only [encodeLabel, length_append, length_cons]
        omega
    · have hnext : label ++ byte :: name = label ++ [byte] ++ name := by simp
      rw [hnext]
      refine ih (label ++ [byte]) total fun hmem => ?_
      rcases mem_append.mp hmem with hmem | hmem
      · exact hlabel hmem
      · exact hdot (mem_singleton.mp hmem).symm

/-- **`write_name`** emits the labels between the dots. -/
lemma emits_writeName (name : CString) :
    Emits (writeName name) written fun _ chunk =>
      chunk = encode (name.bytes.splitOn dot) ∧
        (∀ label ∈ name.bytes.splitOn dot, Label.Valid label) ∧
        chunk.length ≤ airplayDnsNameMax := by
  refine .ite (fun _ => .failure) fun _ => ?_
  refine (emits_writeNameLoop name.bytes [] 1 not_mem_nil).mono fun _ chunk hchunk => ?_
  obtain ⟨hchunk, hvalid, hlen⟩ := hchunk
  exact ⟨hchunk, hvalid, by omega⟩

/-- **Record data** is emitted behind its length. -/
lemma emits_writeRdata {α : Type} {body : DnsWriterM α} {Q : α → List UInt8 → Prop}
    (h : Emits body (written ++ BigEndian.encode 2 0) Q) :
    Emits (writeRdata body) written fun answer chunk =>
      ∃ rdata, chunk = BigEndian.encode 2 rdata.length ++ rdata ∧ Q answer rdata := by
  intro answer result hrun
  unfold writeRdata at hrun
  obtain ⟨⟨⟨⟩, first⟩, hfirst, hrun⟩ := bind_eq_some_iff.mp hrun
  obtain ⟨-, rfl, rfl⟩ := emits_writeU16 0 _ _ hfirst
  dsimp only at hrun
  obtain ⟨⟨given, filled⟩, hbody, hrun⟩ := bind_eq_some_iff.mp hrun
  obtain ⟨rdata, rfl, hrdata⟩ := h given filled hbody
  dsimp only at hrun
  obtain ⟨⟨⟨⟩, patched⟩, hpatch, hrun⟩ := bind_eq_some_iff.mp hrun
  obtain ⟨rfl, rfl⟩ := Prod.mk.inj (some.inj hrun)
  unfold patchU16 at hpatch
  split at hpatch
  · cases hpatch
  obtain ⟨-, rfl⟩ := Prod.mk.inj (some.inj hpatch)
  refine ⟨BigEndian.encode 2 rdata.length ++ rdata, ?_, rdata, rfl, hrdata⟩
  have hsize : (written ++ BigEndian.encode 2 0 ++ rdata).length -
      (written ++ BigEndian.encode 2 0).length = rdata.length := by
    rw [length_append]
    omega
  have hbehind : (written ++ BigEndian.encode 2 0 ++ rdata).drop (written.length + 2) =
      rdata := by
    rw [show written.length + 2 = (written ++ BigEndian.encode 2 0).length by
      rw [length_append, BigEndian.length_encode], drop_left]
  have hpre : (written ++ BigEndian.encode 2 0 ++ rdata).take written.length = written := by
    rw [append_assoc, take_left]
  rw [hsize, hbehind, hpre, append_assoc]

lemma emits_record {α : Type} {body : DnsWriterM α} {Q : α → List UInt8 → Prop}
    {ownerOffset type ttl : ℕ} (howner : ownerOffset < 0x4000)
    (h : ∀ header : List UInt8, header.length = 10 →
      Emits body (written ++ header ++ BigEndian.encode 2 0) Q) :
    Emits (writeRecordHeader ownerOffset type ttl >>= fun _ => writeRdata body) written
      fun answer chunk => ∃ rdata, chunk = encodePointer ownerOffset ++
        recordBody type (dnsClassIn ||| dnsClassCacheFlush) ttl rdata ∧ Q answer rdata := by
  have hhead : Emits (writeRecordHeader ownerOffset type ttl) written fun _ chunk =>
      chunk = encodePointer ownerOffset ++ (BigEndian.encode 2 type ++
        (BigEndian.encode 2 (dnsClassIn ||| dnsClassCacheFlush) ++ BigEndian.encode 4 ttl)) := by
    refine .bind (emits_writePointer howner) fun _ chunk hchunk => ?_
    refine .bind (emits_writeU16 _) fun _ chunk' hchunk' => ?_
    refine .bind (emits_writeU16 _) fun _ chunk3 hchunk3 => ?_
    refine (emits_writeU32 _).mono fun _ chunk4 hchunk4 => ?_
    rw [hchunk, hchunk', hchunk3, hchunk4]
  refine .bind hhead fun _ chunk hchunk => ?_
  have hlen : chunk.length = 10 := by
    rw [hchunk]
    simp only [encodePointer, length_append, length_cons, length_nil, BigEndian.length_encode]
  refine (emits_writeRdata (h chunk hlen)).mono fun answer more hmore => ?_
  obtain ⟨rdata, rfl, hrdata⟩ := hmore
  refine ⟨rdata, ?_, hrdata⟩
  rw [hchunk, recordBody]
  simp only [append_assoc]

end Writers

/-! ## The layout of an announcement -/

namespace AirPlayDnsService

variable (service : AirPlayDnsService)

/-- The labels of the service type. -/
def typeLabels : List DomainName.Label := service.fullName.bytes.splitOn dot

/-- The labels of the instance: its name is one label, whatever is in it. -/
def instanceLabels : List DomainName.Label := service.instanceName.bytes :: service.typeLabels

/-- The labels of the host. -/
def hostLabels : List DomainName.Label :=
  (service.hostName.bytes ++ dot :: (cstring "local").bytes).splitOn dot

/-- The class of a record that replaces what was known. -/
def uniqueClass : ℕ := dnsClassIn ||| dnsClassCacheFlush

/-- **The records of a service.** -/
def records (ttl : ℕ) : List DnsRecord :=
  [⟨service.typeLabels, airplayDnsTypePtr, dnsClassIn, ttl, .ptr service.instanceLabels⟩,
    ⟨service.instanceLabels, airplayDnsTypeSrv, uniqueClass, ttl,
      .srv 0 0 service.port.toNat service.hostLabels⟩,
    ⟨service.instanceLabels, airplayDnsTypeTxt, uniqueClass, ttl, .txt service.txt⟩,
    ⟨service.hostLabels, airplayDnsTypeA, uniqueClass, ttl, .a service.ipv4Address.toList⟩]

/-- Where the name of the instance is: behind the header, the service type, and the fixed part of
its record. -/
def instancePlace : ℕ := dnsHeaderSize + (encode service.typeLabels).length + 10

/-- Where the name of the host is. -/
def hostPlace : ℕ :=
  service.instancePlace + (encodeLabel service.instanceName.bytes).length + 2 + 12 + 6

/-- The data of the PTR record. -/
def ptrRdata : List UInt8 :=
  encodeLabel service.instanceName.bytes ++ encodePointer dnsHeaderSize

/-- The data of the SRV record. -/
def srvRdata : List UInt8 :=
  BigEndian.encode 2 0 ++ (BigEndian.encode 2 0 ++ (BigEndian.encode 2 service.port.toNat ++
    encode service.hostLabels))

/-- The PTR record. -/
def ptrBytes (ttl : ℕ) : List UInt8 :=
  encode service.typeLabels ++ recordBody airplayDnsTypePtr dnsClassIn ttl service.ptrRdata

/-- The SRV record. -/
def srvBytes (ttl : ℕ) : List UInt8 :=
  encodePointer service.instancePlace ++
    recordBody airplayDnsTypeSrv uniqueClass ttl service.srvRdata

/-- The TXT record. -/
def txtBytes (ttl : ℕ) : List UInt8 :=
  encodePointer service.instancePlace ++ recordBody airplayDnsTypeTxt uniqueClass ttl service.txt

/-- The A record. -/
def aBytes (ttl : ℕ) : List UInt8 :=
  encodePointer service.hostPlace ++
    recordBody airplayDnsTypeA uniqueClass ttl service.ipv4Address.toList

/-- The header of a packet with four answers. -/
def headerBytes (id : ℕ) : List UInt8 :=
  BigEndian.encode 2 id ++ (BigEndian.encode 2 dnsFlagsResponseAuthoritative ++
    (BigEndian.encode 2 0 ++ (BigEndian.encode 2 4 ++
      (BigEndian.encode 2 0 ++ BigEndian.encode 2 0))))

/-- **The announcement.** -/
def announcement (id ttl : ℕ) : List UInt8 :=
  headerBytes id ++ (service.ptrBytes ttl ++ (service.srvBytes ttl ++
    (service.txtBytes ttl ++ service.aBytes ttl)))

/-- What a successful build has checked. -/
structure Announceable : Prop where
  valid : serviceValid service = true
  instance_le : service.instanceName.strlen + 1 + service.fullName.strlen ≤ airplayDnsNameMax
  host_le : service.hostName.strlen + 6 ≤ airplayDnsNameMax
  instanceLabel : Label.Valid service.instanceName.bytes
  typeLabels : ∀ label ∈ service.typeLabels, Label.Valid label
  typeLength : (encode service.typeLabels).length ≤ airplayDnsNameMax
  hostLabels : ∀ label ∈ service.hostLabels, Label.Valid label
  hostLength : (encode service.hostLabels).length ≤ airplayDnsNameMax

end AirPlayDnsService

section Layout

variable {service : AirPlayDnsService} {written : List UInt8} {ttl : ℕ}

lemma emits_writeHeader (id : ℕ) :
    Emits (writeHeader id) written fun _ chunk => chunk = headerBytes id := by
  refine .bind (emits_writeU16 _) fun _ _ h => ?_
  refine .bind (emits_writeU16 _) fun _ _ h' => ?_
  refine .bind (emits_writeU16 _) fun _ _ h3 => ?_
  refine .bind (emits_writeU16 _) fun _ _ h4 => ?_
  refine .bind (emits_writeU16 _) fun _ _ h5 => ?_
  refine (emits_writeU16 _).mono fun _ _ h6 => ?_
  rw [h, h', h3, h4, h5, h6]
  rfl

lemma emits_writePtrRecord (hplace : written.length = dnsHeaderSize) :
    Emits (writePtrRecord service ttl) written fun instanceOffset chunk =>
      chunk = service.ptrBytes ttl ∧ instanceOffset = service.instancePlace ∧
        Label.Valid service.instanceName.bytes ∧
        (∀ label ∈ service.typeLabels, Label.Valid label) ∧
        (encode service.typeLabels).length ≤ airplayDnsNameMax := by
  refine .bind (Emits.place (Q := fun place chunk => place = dnsHeaderSize ∧ chunk = [])
    ⟨hplace, rfl⟩) fun place none hstart => ?_
  obtain ⟨rfl, rfl⟩ := hstart
  rw [append_nil]
  refine .bind (emits_writeName _) fun _ name hname => ?_
  refine .bind (emits_writeU16 _) fun _ type htype => ?_
  refine .bind (emits_writeU16 _) fun _ dnsClass hclass => ?_
  refine .bind (emits_writeU32 _) fun _ lifetime hlifetime => ?_
  obtain ⟨hname, hvalid, hlen⟩ := hname
  have hrdata : Emits (do
      let instanceOffset ← writerOffset
      writeLabel service.instanceName.bytes
      writePointer dnsHeaderSize
      return instanceOffset)
      (written ++ name ++ type ++ dnsClass ++ lifetime ++ BigEndian.encode 2 0)
      fun instanceOffset rdata => rdata = service.ptrRdata ∧
        instanceOffset = service.instancePlace ∧ Label.Valid service.instanceName.bytes := by
    refine .bind (Emits.place (Q := fun place chunk => place = service.instancePlace ∧
      chunk = []) ⟨?_, rfl⟩) fun place none hstart => ?_
    · rw [htype, hclass, hlifetime, hname]
      simp only [length_append, BigEndian.length_encode, hplace]
      rfl
    obtain ⟨rfl, rfl⟩ := hstart
    refine .bind (emits_writeLabel _) fun _ label hlabel => ?_
    refine .bind (emits_writePointer (by decide)) fun _ pointer hpointer => .pure ?_
    obtain ⟨hlabel, hlabelValid⟩ := hlabel
    refine ⟨?_, rfl, hlabelValid⟩
    rw [hlabel, hpointer, nil_append, append_nil, ptrRdata]
  refine (emits_writeRdata hrdata).mono fun instanceOffset chunk hchunk => ?_
  obtain ⟨rdata, rfl, rfl, hplaced, hlabel⟩ := hchunk
  refine ⟨?_, hplaced, hlabel, hvalid, by rwa [hname] at hlen⟩
  rw [hname, htype, hclass, hlifetime, ptrBytes, recordBody]
  rfl

lemma emits_writeSrvRecord {hostFull : CString}
    (hhost : hostFull.bytes.splitOn dot = service.hostLabels)
    (hplace : written.length = service.instancePlace +
      (encodeLabel service.instanceName.bytes).length + 2)
    (hreach : service.instancePlace < 0x4000) :
    Emits (writeSrvRecord service hostFull service.instancePlace ttl) written
      fun hostOffset chunk => chunk = service.srvBytes ttl ∧ hostOffset = service.hostPlace ∧
        (∀ label ∈ service.hostLabels, Label.Valid label) ∧
        (encode service.hostLabels).length ≤ airplayDnsNameMax := by
  refine (emits_record hreach (Q := fun hostOffset rdata => rdata = service.srvRdata ∧
    hostOffset = service.hostPlace ∧ (∀ label ∈ service.hostLabels, Label.Valid label) ∧
    (encode service.hostLabels).length ≤ airplayDnsNameMax) fun header hhead => ?_).mono
      fun hostOffset chunk hchunk => ?_
  · refine .bind (emits_writeU16 _) fun _ priority hpriority => ?_
    refine .bind (emits_writeU16 _) fun _ weight hweight => ?_
    refine .bind (emits_writeU16 _) fun _ port hport => ?_
    refine .bind (Emits.place (Q := fun place chunk => place = service.hostPlace ∧
      chunk = []) ⟨?_, rfl⟩) fun place none hstart => ?_
    · rw [hpriority, hweight, hport]
      simp only [length_append, BigEndian.length_encode, hhead, hplace]
      rfl
    obtain ⟨rfl, rfl⟩ := hstart
    refine .bind (emits_writeName _) fun _ name hname => .pure ?_
    rw [hhost] at hname
    obtain ⟨hname, hvalid, hlen⟩ := hname
    refine ⟨?_, rfl, hvalid, by rwa [hname] at hlen⟩
    rw [hpriority, hweight, hport, hname, nil_append, append_nil, srvRdata]
  · obtain ⟨rdata, rfl, rfl, hrest⟩ := hchunk
    exact ⟨rfl, hrest⟩

lemma emits_writeTxtRecord (hreach : service.instancePlace < 0x4000) :
    Emits (writeTxtRecord service service.instancePlace ttl) written
      fun _ chunk => chunk = service.txtBytes ttl := by
  refine (emits_record hreach fun _ _ => emits_writeBytes _).mono fun _ chunk hchunk => ?_
  obtain ⟨rdata, rfl, rfl⟩ := hchunk
  rfl

lemma emits_writeARecord (hreach : service.hostPlace < 0x4000) :
    Emits (writeARecord service service.hostPlace ttl) written
      fun _ chunk => chunk = service.aBytes ttl := by
  refine (emits_record hreach fun _ _ => emits_writeBytes _).mono fun _ chunk hchunk => ?_
  obtain ⟨rdata, rfl, rfl⟩ := hchunk
  rfl

/-- **`build_record_set`** emits the announcement. -/
lemma emits_writeRecordSet {hostFull : CString}
    (hhost : hostFull.bytes.splitOn dot = service.hostLabels) (id : ℕ) :
    Emits (writeRecordSet service hostFull id ttl) [] fun _ chunk =>
      chunk = service.announcement id ttl ∧ Label.Valid service.instanceName.bytes ∧
        (∀ label ∈ service.typeLabels, Label.Valid label) ∧
        (encode service.typeLabels).length ≤ airplayDnsNameMax ∧
        (∀ label ∈ service.hostLabels, Label.Valid label) ∧
        (encode service.hostLabels).length ≤ airplayDnsNameMax := by
  refine .bind (emits_writeHeader id) fun _ header hhead => ?_
  have hstart : ([] ++ header).length = dnsHeaderSize := by
    rw [hhead]
    rfl
  refine .bind (emits_writePtrRecord hstart) fun instanceOffset ptr hptr => ?_
  obtain ⟨hptr, rfl, hinst, htype, htypeLength⟩ := hptr
  have hsize : (encodeLabel service.instanceName.bytes).length ≤ 64 := by
    have hle := hinst.2
    simp only [encodeLabel, length_cons]
    omega
  have hreach : service.instancePlace < 0x4000 := by
    simp only [instancePlace, dnsHeaderSize, airplayDnsNameMax] at htypeLength ⊢
    omega
  have hhostReach : service.hostPlace < 0x4000 := by
    simp only [hostPlace, instancePlace, dnsHeaderSize, airplayDnsNameMax] at htypeLength ⊢
    omega
  have hsnd : ([] ++ header ++ ptr).length = service.instancePlace +
      (encodeLabel service.instanceName.bytes).length + 2 := by
    rw [length_append, hstart, hptr]
    simp only [ptrBytes, ptrRdata, length_append,
      length_recordBody, encodePointer, length_cons, length_nil,
      instancePlace]
    omega
  refine .bind (emits_writeSrvRecord hhost hsnd hreach) fun hostOffset srv hsrv => ?_
  obtain ⟨hsrv, rfl, hhostValid, hhostLength⟩ := hsrv
  refine .bind (emits_writeTxtRecord hreach) fun _ txt htxt => ?_
  refine (emits_writeARecord hhostReach).mono fun _ a ha => ?_
  refine ⟨?_, hinst, htype, htypeLength, hhostValid, hhostLength⟩
  rw [hhead, hptr, hsrv, htxt, ha]
  rfl

/-- **What a successful build returns.** -/
lemma buildRecordSet_eq_some {id : UInt16} {lifetime : UInt32} {packet : List UInt8}
    (h : buildRecordSet service id lifetime = some packet) :
    service.Announceable ∧ packet = service.announcement id.toNat lifetime.toNat ∧
      makeInstanceFull service = some (dottedPair service.instanceName service.fullName) ∧
      makeHostFull service = some (dottedPair service.hostName (cstring "local")) := by
  unfold buildRecordSet at h
  split at h
  · cases h
  rename_i hvalid
  rw [Bool.not_eq_false] at hvalid
  split at h
  · rename_i instanceFull hostFull hinst hhost
    have hinstanceCopy := hinst
    have hhostCopy := hhost
    unfold makeInstanceFull at hinst
    unfold makeHostFull at hhost
    split at hinst
    · cases hinst
    rename_i hinstanceSize
    split at hhost
    · cases hhost
    rename_i hhostSize
    obtain rfl := some.inj hinst
    obtain rfl := some.inj hhost
    obtain ⟨⟨⟨⟩, result⟩, hrun, rfl⟩ := map_eq_some_iff.mp h
    have hhost : (dottedPair service.hostName (cstring "local")).bytes.splitOn dot =
        service.hostLabels := rfl
    obtain ⟨chunk, hres, hchunk, hlabel, htype, htypeLength, hhostValid, hhostLength⟩ :=
      emits_writeRecordSet hhost id.toNat _ _ hrun
    exact ⟨⟨hvalid, by omega, by omega, hlabel, htype, htypeLength, hhostValid,
      hhostLength⟩, hres.trans hchunk, hinstanceCopy, hhostCopy⟩
  · cases h

end Layout

end NXCast
