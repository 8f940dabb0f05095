import NXCast.Discovery.DnsNames
import NXCast.Framework.Checked

/-!
# The readers stay inside the packet

`read_name` ends on every packet: a turn of its loop follows a pointer, of which there are at most
`DNS_MAX_COMPRESSION_JUMPS`, or leaves less of the packet.  On the way it reads no byte outside
the packet and fills at most the array of a name.  `airplay_dns_build_query_response` and
`airplay_dns_packet_conflicts` check what is left before each of their own reads.
-/

namespace NXCast

open Checked

/-- A stop at a byte that is not there. -/
def DnsStop.Fault (stop : DnsStop) : Prop := stop ≠ .refused

/-- The reader touches only what is there, and returns what `Q` says. -/
abbrev DnsEnsures {α : Type} (reader : DnsRead α) (Q : α → Prop) : Prop :=
  Ensures DnsStop.Fault reader Q

lemma not_fault_refused : ¬ DnsStop.Fault .refused := fun h => h rfl

lemma refused_or_ok {α : Type} {reader : DnsRead α} {Q : α → Prop} (h : DnsEnsures reader Q) :
    reader = .error .refused ∨ ∃ answer, reader = .ok answer ∧ Q answer := by
  cases reader with
  | ok answer => exact .inr ⟨answer, rfl, h⟩
  | error stop =>
    have href : stop = .refused := not_not.mp h
    exact .inl (congrArg _ href)

section Readers

variable {packet : List UInt8} {offset size : ℕ}

lemma ensures_readIf (condition : Prop) [Decidable condition] :
    DnsEnsures (readIf condition) fun _ => condition := by
  exact .ite (fun h => .ok h) fun _ => .error not_fault_refused

lemma ensures_packetBytes (h : offset + size ≤ packet.length) :
    DnsEnsures (packetBytes packet offset size) fun _ => True := by
  unfold packetBytes
  rw [if_pos h]
  exact .ok trivial

lemma ensures_readU16 (h : offset + 2 ≤ packet.length) :
    DnsEnsures (readU16 packet offset) fun _ => True :=
  (ensures_packetBytes h).bind fun _ _ => .ok trivial

lemma labelsAt_behind_le {limit jumps cursor behind : ℕ} {labels : List DomainName.Label}
    (h : DomainName.labelsAt limit packet jumps cursor = some (labels, behind)) :
    behind ≤ packet.length := by
  fun_induction DomainName.labelsAt limit packet jumps cursor generalizing labels behind with
  | case1 jumps cursor hbyte => cases h
  | case2 jumps cursor byte hbyte hkind =>
    obtain ⟨hcursor, -⟩ := List.getElem?_eq_some_iff.mp hbyte
    cases h
    omega
  | case3 jumps cursor byte hbyte hkind => cases h
  | case4 jumps cursor byte hbyte size hkind hsize ih =>
    obtain ⟨name, hname, heq⟩ := Option.map_eq_some_iff.mp h
    cases heq
    exact ih hname
  | case5 jumps cursor byte hbyte size hkind hsize => cases h
  | case6 jumps cursor byte hbyte high hkind hsnd => cases h
  | case7 jumps cursor byte hbyte high hkind low hsnd hjump ih =>
    obtain ⟨hcursor, -⟩ := List.getElem?_eq_some_iff.mp hsnd
    obtain ⟨name, hname, heq⟩ := Option.map_eq_some_iff.mp h
    cases heq
    omega
  | case8 jumps cursor byte hbyte high hkind low hsnd hjump => cases h

lemma strlen_ofBuffer_le (buffer : List UInt8) : (CString.ofBuffer buffer).strlen ≤ buffer.length :=
  List.Sublist.length_le (List.takeWhile_sublist _)

/-- **`read_name`** stays inside the packet and inside the array of the name. -/
lemma ensures_readName (packet : List UInt8) (offset : ℕ) :
    DnsEnsures (readName packet offset) fun name =>
      name.1.strlen ≤ airplayDnsNameMax ∧ name.2 ≤ packet.length := by
  refine .ite (fun _ => .error not_fault_refused) fun _ => ?_
  rw [readNameLoop_eq _ _ _ _ _ (Nat.zero_le _)]
  cases hlabs : DomainName.labelsAt dnsMaxCompressionJumps packet 0 offset with
  | none => exact .error not_fault_refused
  | some name =>
    obtain ⟨labels, behind⟩ := name
    refine .ite (fun hfits => .ok ⟨?_, labelsAt_behind_le hlabs⟩) fun _ => .error not_fault_refused
    exact (strlen_ofBuffer_le _).trans hfits

lemma ensures_refusedAsFalse {reader : DnsRead Bool} (h : DnsEnsures reader fun _ => True) :
    DnsEnsures (refusedAsFalse reader) fun _ => True := by
  unfold refusedAsFalse
  split
  · exact .ok trivial
  · exact h

lemma ensures_skipQuestionsLoop (packet : List UInt8) (count offset : ℕ) :
    DnsEnsures (skipQuestionsLoop packet count offset) fun _ => True := by
  induction count generalizing offset with
  | zero => exact .ok trivial
  | succ count ih =>
    refine (ensures_readName packet offset).bind fun name _ => ?_
    exact (ensures_readIf _).bind fun _ _ => ih _

lemma ensures_skipQuestions (packet : List UInt8) (count offset : ℕ) :
    DnsEnsures (skipQuestions packet count offset) fun _ => True :=
  (ensures_readIf _).bind fun _ _ => ensures_skipQuestionsLoop packet count offset

lemma ensures_queryLoop (service : AirPlayDnsService) (query : List UInt8)
    (instanceFull hostFull : CString) (count offset : ℕ) (relevant unicast : Bool) :
    DnsEnsures (queryLoop service query instanceFull hostFull count offset relevant unicast)
      fun _ => True := by
  induction count generalizing offset relevant unicast with
  | zero => exact .ok trivial
  | succ count ih =>
    refine (ensures_readName query offset).bind fun name _ => ?_
    refine (ensures_readIf _).bind fun _ hleft => ?_
    refine (ensures_readU16 (by omega)).bind fun type _ => ?_
    refine (ensures_readU16 (by omega)).bind fun dnsClass _ => ?_
    exact .ite (fun _ => ih _ _ _) fun _ => ih _ _ _

end Readers

section Records

variable {service : AirPlayDnsService} {packet : List UInt8} {rdataOffset rdataSize : ℕ}

lemma ensures_srvRdataMatches :
    DnsEnsures (srvRdataMatches service packet rdataOffset rdataSize) fun _ => True := by
  refine ensures_refusedAsFalse ?_
  refine (ensures_readIf _).bind fun _ hsize => ?_
  refine (ensures_readU16 (by omega)).bind fun priority _ => ?_
  refine (ensures_readIf _).bind fun _ _ => ?_
  refine (ensures_readU16 (by omega)).bind fun weight _ => ?_
  refine (ensures_readIf _).bind fun _ _ => ?_
  refine (ensures_readU16 (by omega)).bind fun port _ => ?_
  refine (ensures_readIf _).bind fun _ _ => ?_
  split
  · exact .error not_fault_refused
  · exact (ensures_readName packet _).bind fun target _ => .ok trivial

lemma ensures_rdataDiffers {own : List UInt8} (h : rdataOffset + rdataSize ≤ packet.length) :
    DnsEnsures (rdataDiffers packet rdataOffset rdataSize own) fun _ => True := by
  refine .ite (fun _ => .ok trivial) fun hsize => ?_
  exact (ensures_packetBytes (by omega)).bind fun _ _ => .ok trivial

lemma ensures_recordConflicts (instanceFull hostFull owner : CString) (type : ℕ)
    (h : rdataOffset + rdataSize ≤ packet.length) :
    DnsEnsures (recordConflicts service packet instanceFull hostFull owner type rdataOffset
      rdataSize) fun _ => True := by
  have hpure : ∀ answer : Bool, DnsEnsures (pure answer) fun _ => True := fun _ => .ok trivial
  refine Ensures.bind (.ite (fun _ => ensures_rdataDiffers h) fun _ => hpure false)
    fun addressDiffers _ => ?_
  refine .ite (fun _ => hpure true) fun _ => ?_
  refine Ensures.bind (.ite (fun _ => ensures_rdataDiffers h) fun _ => hpure false)
    fun txtDiffers _ => ?_
  refine .ite (fun _ => hpure true) fun _ => ?_
  refine .ite (fun _ => ?_) fun _ => hpure false
  exact ensures_srvRdataMatches.bind fun own _ => hpure _

lemma ensures_conflictsLoop (instanceFull hostFull : CString) (count offset : ℕ) :
    DnsEnsures (conflictsLoop service packet instanceFull hostFull count offset)
      fun _ => True := by
  induction count generalizing offset with
  | zero => exact .ok trivial
  | succ count ih =>
    refine (ensures_readName packet offset).bind fun owner _ => ?_
    refine (ensures_readIf _).bind fun _ hleft => ?_
    refine (ensures_readU16 (by omega)).bind fun type _ => ?_
    refine (ensures_readU16 (by omega)).bind fun rdataSize _ => ?_
    refine (ensures_readIf _).bind fun _ hrdata => ?_
    refine (ensures_recordConflicts _ _ _ _ (by omega)).bind fun conflict _ => ?_
    exact .ite (fun _ => .ok trivial) fun _ => ih _

end Records

/-- **`airplay_dns_build_query_response`** stays inside the packet. -/
lemma ensures_airplayDnsBuildQueryResponse (service : AirPlayDnsService) (query : List UInt8)
    (ttl : UInt32) : DnsEnsures (airplayDnsBuildQueryResponse service query ttl) fun _ => True := by
  refine .ite (fun _ => .error not_fault_refused) fun hsize => ?_
  have hhead : dnsHeaderSize ≤ query.length := by omega
  unfold dnsHeaderSize at hhead
  split
  · refine (ensures_readU16 (by omega)).bind fun id _ => ?_
    refine (ensures_readU16 (by omega)).bind fun flags _ => ?_
    refine (ensures_readU16 (by omega)).bind fun questionCount _ => ?_
    refine (ensures_readIf _).bind fun _ _ => ?_
    refine (ensures_queryLoop service query _ _ questionCount _ _ _).bind fun found _ => ?_
    refine (ensures_readIf _).bind fun _ _ => ?_
    split
    · exact .ok trivial
    · exact .error not_fault_refused
  · exact .error not_fault_refused

/-- **`airplay_dns_packet_conflicts`** stays inside the packet. -/
lemma ensures_airplayDnsPacketConflicts (service : AirPlayDnsService) (packet : List UInt8) :
    DnsEnsures (airplayDnsPacketConflicts service packet) fun _ => True := by
  refine .ite (fun _ => .ok trivial) fun hsize => ?_
  have hhead : dnsHeaderSize ≤ packet.length := by omega
  unfold dnsHeaderSize at hhead
  split
  · refine ensures_refusedAsFalse ?_
    refine (ensures_readU16 (by omega)).bind fun questions _ => ?_
    refine (ensures_readU16 (by omega)).bind fun answers _ => ?_
    refine (ensures_readU16 (by omega)).bind fun authorities _ => ?_
    refine (ensures_readU16 (by omega)).bind fun additionals _ => ?_
    refine (ensures_readIf _).bind fun _ _ => ?_
    refine (ensures_skipQuestions packet questions _).bind fun offset _ => ?_
    exact ensures_conflictsLoop _ _ _ _
  · exact .ok trivial

/-- **Reading names and packets.**  On every packet, from every place, `read_name` refuses or
returns a name of at most `AIRPLAY_DNS_NAME_MAX` bytes that ends inside the packet, and touches no
byte outside the packet or the array of the name; and neither do the reader of queries and the
reader of conflicts, for any service. -/
theorem dnsReaders_inside (packet : List UInt8) :
    (∀ offset, readName packet offset = .error .refused ∨
      ∃ name behind, readName packet offset = .ok (name, behind) ∧
        name.strlen ≤ airplayDnsNameMax ∧ behind ≤ packet.length) ∧
    ∀ service, ∀ stop ∈ [DnsStop.outsidePacket, DnsStop.outsideName],
      (∀ ttl, airplayDnsBuildQueryResponse service packet ttl ≠ .error stop) ∧
        airplayDnsPacketConflicts service packet ≠ .error stop := by
  refine ⟨fun offset => ?_, fun service stop hstop => ?_⟩
  · rcases refused_or_ok (ensures_readName packet offset) with hrefused | ⟨name, hname, hbounds⟩
    · exact .inl hrefused
    · exact .inr ⟨name.1, name.2, hname, hbounds⟩
  have hfault : stop.Fault := by
    rintro rfl
    simp at hstop
  exact ⟨fun ttl => (ensures_airplayDnsBuildQueryResponse service packet ttl).ne_error hfault,
    (ensures_airplayDnsPacketConflicts service packet).ne_error hfault⟩

end NXCast
