import NXCast.Discovery.DnsRoundTrip

/-!
# Which queries are answered

A query is a list of questions, read from the wire label by label (`queryQuestions`).  The
responder compares the dotted texts of names, up to the first NUL: a name whose labels spell the
same text is taken for one of the service's own although it is another one (`Collides`).  What it
answers is what is asked for, or confused with it (`Answers.iff`).
-/

namespace NXCast

open Option hiding or_assoc

open DomainName BoundedWriter List SameShape AirPlayDnsService CString BigEndian

/-! ## Questions -/

/-- A question of a query. -/
structure DnsQuestion where
  labels : List DomainName.Label
  type : ℕ
  dnsClass : ℕ
deriving DecidableEq

/-- The question at a place, and the place behind it.  Its name takes at most
`DNS_MAX_COMPRESSION_JUMPS` pointers and `AIRPLAY_DNS_NAME_MAX` characters. -/
def questionAt (packet : List UInt8) (offset : ℕ) : Option (DnsQuestion × ℕ) := do
  let (labels, place) ← labelsAt dnsMaxCompressionJumps packet 0 offset
  let type ← uintAt packet place 2
  let dnsClass ← uintAt packet (place + 2) 2
  if (dotted labels).length ≤ airplayDnsNameMax then some (⟨labels, type, dnsClass⟩, place + 4)
  else none

/-- Some questions in a row. -/
def questionsAt (packet : List UInt8) : ℕ → ℕ → Option (List DnsQuestion)
  | 0, _ => some []
  | count + 1, offset => do
    let (question, offset) ← questionAt packet offset
    let questions ← questionsAt packet count offset
    return question :: questions

/-- The questions of a well-formed query: a packet of the size that is received, no response, with
1 to `DNS_MAX_QUESTIONS` questions. -/
def queryQuestions (query : List UInt8) : Option (List DnsQuestion) := do
  let flags ← uintAt query 2 2
  let count ← uintAt query 4 2
  if dnsHeaderSize ≤ query.length ∧ query.length ≤ airplayDnsPacketMax ∧ flags &&& 0x8000 = 0 ∧
      count ≠ 0 ∧ count ≤ dnsMaxQuestions then questionsAt query count dnsHeaderSize
  else none

/-- Two names, label for label and without regard to ASCII case. -/
def SameName (labels own : List DomainName.Label) : Prop :=
  labels.map (·.map tolower) = own.map (·.map tolower)

instance (labels own : List DomainName.Label) : Decidable (SameName labels own) :=
  inferInstanceAs (Decidable (_ = _))

/-- The text that `read_name` makes of a name. -/
def textOf (labels : List DomainName.Label) : CString := CString.ofBuffer (dotted labels)

/-- A name that is another one and has the same text. -/
def Collides (labels own : List DomainName.Label) : Prop :=
  ¬ SameName labels own ∧ nameMatches (textOf labels) (textOf own) = true

instance (labels own : List DomainName.Label) : Decidable (Collides labels own) :=
  inferInstanceAs (Decidable (_ ∧ _))

/-- The names of a service, each with the types of the queries for it. -/
def AirPlayDnsService.askable (service : AirPlayDnsService) :
    List (List DomainName.Label × List ℕ) :=
  [(service.typeLabels, [airplayDnsTypePtr, airplayDnsTypeAny]),
    (service.instanceLabels, [airplayDnsTypeSrv, airplayDnsTypeTxt, airplayDnsTypeAny]),
    (service.hostLabels, [airplayDnsTypeA, airplayDnsTypeAny])]

namespace DnsQuestion

/-- A question of class IN, whatever its unicast bit. -/
def IsIn (question : DnsQuestion) : Prop := question.dnsClass &&& 0x7fff = dnsClassIn

/-- A question with the unicast bit. -/
def Unicast (question : DnsQuestion) : Prop :=
  question.dnsClass &&& dnsClassUnicastResponse ≠ 0

/-- An IN question for a name of the service, with a type that belongs to it. -/
def Asks (service : AirPlayDnsService) (question : DnsQuestion) : Prop :=
  question.IsIn ∧ ∃ own ∈ service.askable, SameName question.labels own.1 ∧ question.type ∈ own.2

/-- An IN question for another name with the text of a name of the service, with a type that
belongs to that one. -/
def Confused (service : AirPlayDnsService) (question : DnsQuestion) : Prop :=
  question.IsIn ∧ ∃ own ∈ service.askable, Collides question.labels own.1 ∧ question.type ∈ own.2

end DnsQuestion

/-! ## Texts -/

section Texts

lemma tolower_eq (byte : UInt8) : (tolower byte = 0 ↔ byte = 0) ∧ (tolower byte = dot ↔ byte = dot) := by
  have hall : ∀ n : Fin 256, (tolower (UInt8.ofNat n) = 0 ↔ UInt8.ofNat n = 0) ∧
      (tolower (UInt8.ofNat n) = dot ↔ UInt8.ofNat n = dot) := by
    decide +kernel
  have hbyte := hall ⟨byte.toNat, byte.toNat_lt⟩
  rwa [UInt8.ofNat_toNat] at hbyte

lemma map_tolower_dotted (labels : List DomainName.Label) :
    (dotted labels).map tolower = dotted (labels.map (·.map tolower)) := by
  induction labels with
  | nil => rfl
  | cons label labels ih =>
    cases labels with
    | nil => simp [dotted]
    | cons other labels =>
      have hdot : tolower dot = dot := (tolower_eq dot).2.mpr rfl
      have hmap : (label :: other :: labels).map (·.map tolower) =
          label.map tolower :: (other :: labels).map (·.map tolower) := rfl
      rw [dotted_cons label (cons_ne_nil _ _), map_append, map_cons, ih, hdot, hmap,
        dotted_cons (label.map tolower) (by rw [map_cons]; exact cons_ne_nil _ _)]

variable {labels own : List DomainName.Label}

lemma SameName.nameMatches (h : SameName labels own) (hown : (0 : UInt8) ∉ dotted own) :
    nameMatches (textOf labels) (textOf own) := by
  have htext : (dotted labels).map tolower = (dotted own).map tolower := by
    rw [map_tolower_dotted, map_tolower_dotted, h]
  have hlabs : (0 : UInt8) ∉ dotted labels := by
    intro hmem
    have hzero : tolower 0 ∈ (dotted own).map tolower := htext ▸ mem_map_of_mem hmem
    obtain ⟨byte, hbyte, heq⟩ := mem_map.mp hzero
    rw [(tolower_eq 0).1.mpr rfl, (tolower_eq byte).1] at heq
    exact hown (heq ▸ hbyte)
  unfold NXCast.nameMatches textOf
  rw [bytes_ofBuffer hlabs, bytes_ofBuffer hown]
  exact decide_eq_true htext

lemma nameMatches_iff (hown : (0 : UInt8) ∉ dotted own) :
    nameMatches (textOf labels) (textOf own) ↔ SameName labels own ∨ Collides labels own := by
  constructor
  · intro h
    by_cases hsame : SameName labels own
    · exact .inl hsame
    · exact .inr ⟨hsame, h⟩
  · rintro (h | h)
    · exact h.nameMatches hown
    · exact h.2

lemma notMem_dotted {byte : UInt8} (hbyte : byte ≠ dot) (h : ∀ label ∈ labels, byte ∉ label) :
    byte ∉ dotted labels := by
  induction labels with
  | nil => exact not_mem_nil
  | cons label labels ih =>
    obtain ⟨hlabel, hlabs⟩ := forall_mem_cons.mp h
    by_cases hne : labels = []
    · subst hne
      simpa [dotted] using hlabel
    rw [dotted_cons label hne, mem_append, mem_cons]
    rintro (hmem | heq | hmem)
    · exact hlabel hmem
    · exact hbyte heq
    · exact ih hlabs hmem

lemma dot_notMem_map_tolower {label : DomainName.Label} (h : dot ∉ label) :
    dot ∉ label.map tolower := by
  intro hmem
  obtain ⟨byte, hbyte, heq⟩ := mem_map.mp hmem
  exact h ((tolower_eq byte).2.mp heq ▸ hbyte)

/-- Labels without dots and NUL do not spell the text of other labels without them. -/
lemma not_collides_of_plain (hown : dotted own ≠ [])
    (hlabs : ∀ label ∈ labels, dot ∉ label ∧ (0 : UInt8) ∉ label)
    (hownPlain : ∀ label ∈ own, dot ∉ label ∧ (0 : UInt8) ∉ label) : ¬ Collides labels own := by
  rintro ⟨hother, hmatch⟩
  have hzero : (0 : UInt8) ≠ dot := by decide
  unfold nameMatches textOf at hmatch
  rw [bytes_ofBuffer (notMem_dotted hzero fun label hmem => (hlabs label hmem).2),
    bytes_ofBuffer (notMem_dotted hzero fun label hmem => (hownPlain label hmem).2),
    decide_eq_true_iff] at hmatch
  have hne : labels ≠ [] := by
    rintro rfl
    exact hown (map_eq_nil_iff.mp hmatch.symm)
  have hownNe : own ≠ [] := by
    rintro rfl
    exact hown rfl
  rw [map_tolower_dotted, map_tolower_dotted] at hmatch
  have hsplit : ∀ {names : List DomainName.Label}, names ≠ [] → (∀ label ∈ names, dot ∉ label) →
      (dotted (names.map (·.map tolower))).splitOn dot = names.map (·.map tolower) := by
    intro names hnames hplain
    refine splitOn_intercalate dot (fun label hmem => ?_) (by simpa using hnames)
    obtain ⟨name, hname, rfl⟩ := mem_map.mp hmem
    exact dot_notMem_map_tolower (hplain name hname)
  apply hother
  unfold SameName
  rw [← hsplit hne fun label hmem => (hlabs label hmem).1, hmatch,
    hsplit hownNe fun label hmem => (hownPlain label hmem).1]

lemma dot_notMem_of_mem_splitOn {text piece : List UInt8} (h : piece ∈ text.splitOn dot) :
    dot ∉ piece := by
  induction text generalizing piece with
  | nil =>
    rw [splitOn_nil, mem_singleton] at h
    rw [h]
    exact not_mem_nil
  | cons byte text ih =>
    rw [splitOn_cons_eq_if_modifyHead] at h
    split_ifs at h with hbyte
    · rcases mem_cons.mp h with rfl | hmem
      · exact not_mem_nil
      · exact ih hmem
    cases hpieces : text.splitOn dot with
    | nil => exact absurd hpieces (splitOn_ne_nil dot text)
    | cons first rest =>
      rw [hpieces, modifyHead_cons] at h
      rcases mem_cons.mp h with rfl | hmem
      · rintro hdot
        rcases mem_cons.mp hdot with rfl | hdot
        · exact hbyte (beq_self_eq_true _)
        · exact ih (hpieces ▸ mem_cons_self) hdot
      · exact ih (hpieces ▸ .tail _ hmem)

lemma mem_dotted_of_mem {label : DomainName.Label} {byte : UInt8} (hlabel : label ∈ labels)
    (hbyte : byte ∈ label) : byte ∈ dotted labels := by
  induction labels with
  | nil => cases hlabel
  | cons first labels ih =>
    by_cases hne : labels = []
    · subst hne
      rw [mem_singleton] at hlabel
      subst hlabel
      simpa [dotted] using hbyte
    · rw [dotted_cons first hne, mem_append, mem_cons]
      rcases mem_cons.mp hlabel with rfl | hmem
      · exact .inl hbyte
      · exact .inr (.inr (ih hmem))

end Texts

/-! ## Reading the questions -/

section Reading

variable {packet : List UInt8} {offset behind value : ℕ} {question : DnsQuestion}

lemma readU16_of_uintAt (h : uintAt packet offset 2 = some value) :
    readU16 packet offset = .ok value ∧ offset + 2 ≤ packet.length := by
  unfold uintAt bytesAt at h
  split_ifs at h with hinside
  · obtain rfl := some.inj h
    refine ⟨?_, hinside⟩
    rw [readU16, packetBytes, if_pos hinside]
    rfl
  · cases h

lemma questionAt_eq_some (h : questionAt packet offset = some (question, behind)) :
    ∃ place, labelsAt dnsMaxCompressionJumps packet 0 offset = some (question.labels, place) ∧
      uintAt packet place 2 = some question.type ∧
      uintAt packet (place + 2) 2 = some question.dnsClass ∧
      (dotted question.labels).length ≤ airplayDnsNameMax ∧ behind = place + 4 := by
  obtain ⟨⟨labels, place⟩, hlabs, h⟩ := bind_eq_some_iff.mp h
  obtain ⟨type, htype, h⟩ := bind_eq_some_iff.mp h
  obtain ⟨dnsClass, hclass, h⟩ := bind_eq_some_iff.mp h
  split at h
  · rename_i hfits
    cases h
    exact ⟨place, hlabs, htype, hclass, hfits, rfl⟩
  · cases h

lemma readName_of_question {place : ℕ}
    (h : labelsAt dnsMaxCompressionJumps packet 0 offset = some (question.labels, place))
    (hfits : (dotted question.labels).length ≤ airplayDnsNameMax) :
    readName packet offset = .ok (textOf question.labels, place) := by
  have htext := extend_empty (labelsAt_valid h)
  have hname := readName_of_labelsAt h (htext ▸ hfits)
  rwa [htext] at hname

/-- A question is relevant to the responder. -/
def DnsQuestion.Relevant (service : AirPlayDnsService) (instanceFull hostFull : CString)
    (question : DnsQuestion) : Prop :=
  question.IsIn ∧
    questionRelevant service instanceFull hostFull (textOf question.labels) question.type = true

/-- **The question loop** finds a relevant question, and one of these with the unicast bit. -/
lemma queryLoop_eq (service : AirPlayDnsService) (instanceFull hostFull : CString) {count : ℕ}
    {questions : List DnsQuestion} (h : questionsAt packet count offset = some questions)
    (relevant unicast : Bool) :
    ∃ found foundUnicast, queryLoop service packet instanceFull hostFull count offset relevant
        unicast = .ok (found, foundUnicast) ∧
      (found ↔ relevant ∨
        ∃ question ∈ questions, question.Relevant service instanceFull hostFull) ∧
      (foundUnicast ↔ unicast ∨
        ∃ question ∈ questions, question.Relevant service instanceFull hostFull ∧
          question.Unicast) := by
  induction count generalizing offset questions relevant unicast with
  | zero =>
    obtain rfl := some.inj h
    exact ⟨relevant, unicast, rfl, by simp, by simp⟩
  | succ count ih =>
    obtain ⟨⟨question, behind⟩, hquestion, h⟩ := Option.bind_eq_some_iff.mp h
    obtain ⟨rest, hrest, h⟩ := Option.bind_eq_some_iff.mp h
    obtain rfl := some.inj h
    obtain ⟨place, hlabs, htype, hclass, hfits, rfl⟩ := questionAt_eq_some hquestion
    obtain ⟨htype, -⟩ := readU16_of_uintAt htype
    obtain ⟨hclass, hinside⟩ := readU16_of_uintAt hclass
    have hturn : queryLoop service packet instanceFull hostFull (count + 1) offset relevant unicast =
        if question.dnsClass &&& 0x7fff ≠ dnsClassIn then
          queryLoop service packet instanceFull hostFull count (place + 4) relevant unicast
        else
          queryLoop service packet instanceFull hostFull count (place + 4)
            (relevant || questionRelevant service instanceFull hostFull (textOf question.labels)
              question.type)
            (unicast || (questionRelevant service instanceFull hostFull (textOf question.labels)
              question.type && decide (question.dnsClass &&& dnsClassUnicastResponse ≠ 0))) := by
      have hleft : readIf (place ≤ packet.length ∧ packet.length - place ≥ 4) = .ok () :=
        if_pos (by omega)
      rw [queryLoop, readName_of_question hlabs hfits]
      show (readIf _ >>= fun _ => readU16 packet place >>= fun type =>
        readU16 packet (place + 2) >>= fun dnsClass => _) = _
      rw [hleft, htype, hclass]
      rfl
    rw [hturn]
    by_cases hin : question.dnsClass &&& 0x7fff = dnsClassIn
    · rw [if_neg (not_not.mpr hin)]
      obtain ⟨found, foundUnicast, heq, hfound, hfoundUnicast⟩ := ih hrest
        (relevant || questionRelevant service instanceFull hostFull (textOf question.labels)
          question.type)
        (unicast || (questionRelevant service instanceFull hostFull (textOf question.labels)
          question.type && decide (question.dnsClass &&& dnsClassUnicastResponse ≠ 0)))
      refine ⟨found, foundUnicast, heq, ?_, ?_⟩
      · rw [hfound, exists_mem_cons_iff, Bool.or_eq_true, or_assoc]
        simp only [DnsQuestion.Relevant, DnsQuestion.IsIn, hin, true_and]
      · rw [hfoundUnicast, exists_mem_cons_iff, Bool.or_eq_true, Bool.and_eq_true,
          decide_eq_true_iff, or_assoc]
        simp only [DnsQuestion.Relevant, DnsQuestion.IsIn, DnsQuestion.Unicast, hin, true_and]
    · rw [if_pos hin]
      obtain ⟨found, foundUnicast, heq, hfound, hfoundUnicast⟩ := ih hrest relevant unicast
      refine ⟨found, foundUnicast, heq, ?_, ?_⟩
      · rw [hfound, exists_mem_cons_iff]
        simp only [DnsQuestion.Relevant, DnsQuestion.IsIn, hin, false_and, false_or]
      · rw [hfoundUnicast, exists_mem_cons_iff]
        simp only [DnsQuestion.Relevant, DnsQuestion.IsIn, hin, false_and, false_or]

end Reading

/-! ## The answer -/

section Answer

lemma sameShape_writeBytes {data data' : List UInt8} (h : data.length = data'.length) :
    SameShape (writeBytes data) (writeBytes data') := by
  intro written written' hwrote
  unfold writeBytes
  rw [hwrote, h]
  split
  · rfl
  · simp only [map_some, length_append, hwrote, h]

lemma sameShape_writeU16 (value value' : ℕ) : SameShape (writeU16 value) (writeU16 value') :=
  sameShape_writeBytes (by rw [length_encode, length_encode])

lemma sameShape_patchU16 (offset value : ℕ) :
    SameShape (patchU16 offset value) (patchU16 offset value) := by
  intro written written' hwrote
  unfold patchU16
  rw [hwrote]
  split
  · rfl
  · simp only [map_some, length_append, length_take, length_drop, hwrote]

lemma sameShape_writeLabel (label : List UInt8) :
    SameShape (writeLabel label) (writeLabel label) := by
  unfold writeLabel
  split
  · exact (sameShape_writeBytes rfl).bind fun _ => sameShape_writeBytes rfl
  · exact .failure

lemma sameShape_writeNameLoop (name label : List UInt8) (total : ℕ) :
    SameShape (writeNameLoop name label total) (writeNameLoop name label total) := by
  induction name generalizing label total with
  | nil =>
    refine (sameShape_writeLabel label).bind fun _ => ?_
    split
    · exact .failure
    · exact sameShape_writeBytes rfl
  | cons byte name ih =>
    unfold writeNameLoop
    split
    · refine (sameShape_writeLabel label).bind fun _ => ?_
      split
      · exact .failure
      · exact ih _ _
    · exact ih _ _

lemma sameShape_writeName (name : CString) : SameShape (writeName name) (writeName name) := by
  unfold writeName
  split
  · exact .failure
  · exact sameShape_writeNameLoop _ _ _

lemma sameShape_writePointer (offset : ℕ) :
    SameShape (writePointer offset) (writePointer offset) := by
  unfold writePointer
  split
  · exact sameShape_writeU16 _ _
  · exact .failure

lemma sameShape_writeRdata {α : Type} {body : DnsWriterM α} (h : SameShape body body) :
    SameShape (writeRdata body) (writeRdata body) := by
  refine place.bind fun lengthOffset => ?_
  refine (sameShape_writeU16 _ _).bind fun _ => ?_
  refine place.bind fun rdataOffset => h.bind fun answer => ?_
  refine place.bind fun endOffset => ?_
  exact (sameShape_patchU16 _ _).bind fun _ => .pure answer

lemma sameShape_writeRecordHeader (ownerOffset type ttl : ℕ) :
    SameShape (writeRecordHeader ownerOffset type ttl) (writeRecordHeader ownerOffset type ttl) := by
  refine (sameShape_writePointer _).bind fun _ => ?_
  refine (sameShape_writeU16 _ _).bind fun _ => ?_
  exact (sameShape_writeU16 _ _).bind fun _ => sameShape_writeBytes rfl

lemma sameShape_writeRecordSet (service : AirPlayDnsService) (hostFull : CString) (id id' ttl : ℕ) :
    SameShape (writeRecordSet service hostFull id ttl)
      (writeRecordSet service hostFull id' ttl) := by
  have hhead : SameShape (writeHeader id) (writeHeader id') := by
    refine (sameShape_writeU16 _ _).bind fun _ => ?_
    refine (sameShape_writeU16 _ _).bind fun _ => ?_
    refine (sameShape_writeU16 _ _).bind fun _ => ?_
    refine (sameShape_writeU16 _ _).bind fun _ => ?_
    exact (sameShape_writeU16 _ _).bind fun _ => sameShape_writeU16 _ _
  refine hhead.bind fun _ => ?_
  refine bind (m := writePtrRecord service ttl) ?_ fun instanceOffset => ?_
  · refine place.bind fun serviceOffset => ?_
    refine (sameShape_writeName _).bind fun _ => ?_
    refine (sameShape_writeU16 _ _).bind fun _ => ?_
    refine (sameShape_writeU16 _ _).bind fun _ => ?_
    refine (sameShape_writeBytes rfl).bind fun _ => sameShape_writeRdata ?_
    refine place.bind fun instanceOffset => ?_
    refine (sameShape_writeLabel _).bind fun _ => ?_
    exact (sameShape_writePointer _).bind fun _ => .pure instanceOffset
  refine bind (m := writeSrvRecord service hostFull instanceOffset ttl) ?_ fun hostOffset => ?_
  · refine (sameShape_writeRecordHeader _ _ _).bind fun _ => sameShape_writeRdata ?_
    refine (sameShape_writeU16 _ _).bind fun _ => ?_
    refine (sameShape_writeU16 _ _).bind fun _ => ?_
    refine (sameShape_writeU16 _ _).bind fun _ => ?_
    refine place.bind fun hostOffset => ?_
    exact (sameShape_writeName _).bind fun _ => .pure hostOffset
  refine bind (m := writeTxtRecord service instanceOffset ttl) ?_ fun _ => ?_
  all_goals
    exact (sameShape_writeRecordHeader _ _ _).bind fun _ =>
      sameShape_writeRdata (sameShape_writeBytes rfl)

lemma buildRecordSet_isSome {service : AirPlayDnsService} {ttl : UInt32} {id : UInt16}
    {packet : List UInt8} (h : buildRecordSet service id ttl = some packet) (id' : UInt16) :
    ∃ packet', buildRecordSet service id' ttl = some packet' := by
  apply isSome_iff_exists.mp
  have hsome : (buildRecordSet service id ttl).isSome := by
    rw [h]
    rfl
  obtain ⟨hsvc, -, hinst, hhost⟩ := buildRecordSet_eq_some h
  unfold buildRecordSet at hsome ⊢
  have hvalid : ¬ serviceValid service = false := by
    rw [hsvc.valid]
    exact Bool.noConfusion
  rw [if_neg hvalid, hinst, hhost] at hsome ⊢
  rw [isSome_map] at hsome ⊢
  rwa [← (sameShape_writeRecordSet service _ id.toNat id'.toNat ttl.toNat).isSome rfl]

end Answer

/-! ## The law of queries -/

section Law

variable {service : AirPlayDnsService} {ttl : UInt32} {query : List UInt8}
  {questions : List DnsQuestion}

/-- The responder answers. -/
def Answered (service : AirPlayDnsService) (query : List UInt8) (ttl : UInt32) : Prop :=
  ∃ answer, airplayDnsBuildQueryResponse service query ttl = .ok answer

/-- The responder answers by unicast. -/
def AnsweredUnicast (service : AirPlayDnsService) (query : List UInt8) (ttl : UInt32) : Prop :=
  ∃ packet, airplayDnsBuildQueryResponse service query ttl = .ok (packet, true)

/-- An answer to exactly the queries that ask for the service, by unicast exactly where one of the
questions that do has the unicast bit. -/
def AnsweredAsAsked (service : AirPlayDnsService) (query : List UInt8) (ttl : UInt32)
    (questions : List DnsQuestion) : Prop :=
  (Answered service query ttl ↔ ∃ question ∈ questions, question.Asks service) ∧
    (AnsweredUnicast service query ttl ↔
      ∃ question ∈ questions, question.Asks service ∧ question.Unicast)

/-- No name in the questions is taken for another one of the service. -/
def NamesTold (service : AirPlayDnsService) (questions : List DnsQuestion) : Prop :=
  ∀ question ∈ questions, ∀ own ∈ service.askable,
    nameMatches (textOf question.labels) (textOf own.1) = true ↔ SameName question.labels own.1

lemma AirPlayDnsService.Announceable.textOf_askable (h : service.Announceable) :
    textOf service.typeLabels = service.fullName ∧
      textOf service.instanceLabels = dottedPair service.instanceName service.fullName ∧
      textOf service.hostLabels = dottedPair service.hostName (cstring "local") := by
  refine ⟨?_, ?_, ?_⟩
  · rw [textOf, ← extend_empty h.typeLabels, h.extend_typeLabels, ofBuffer_bytes]
  · rw [textOf, ← extend_empty h.instanceLabels_valid, h.extend_instanceLabels, ofBuffer_bytes]
  · rw [textOf, ← extend_empty h.hostLabels, h.extend_hostLabels, ofBuffer_bytes]

lemma AirPlayDnsService.Announceable.nul_free (h : service.Announceable) :
    ∀ own ∈ service.askable, (0 : UInt8) ∉ dotted own.1 := by
  intro own hmem
  simp only [askable, mem_cons, not_mem_nil, or_false] at hmem
  rcases hmem with rfl | rfl | rfl
  · rw [← extend_empty h.typeLabels, h.extend_typeLabels]
    exact service.fullName.nul_free
  · rw [← extend_empty h.instanceLabels_valid, h.extend_instanceLabels]
    exact (dottedPair _ _).nul_free
  · rw [← extend_empty h.hostLabels, h.extend_hostLabels]
    exact (dottedPair _ _).nul_free

lemma AirPlayDnsService.exists_askable {P : List DomainName.Label × List ℕ → Prop} :
    (∃ own ∈ service.askable, P own) ↔
      P (service.typeLabels, [airplayDnsTypePtr, airplayDnsTypeAny]) ∨
        P (service.instanceLabels, [airplayDnsTypeSrv, airplayDnsTypeTxt, airplayDnsTypeAny]) ∨
        P (service.hostLabels, [airplayDnsTypeA, airplayDnsTypeAny]) := by
  simp [askable]

/-- A question is relevant where it asks for the service, or is confused with one that does. -/
lemma relevant_iff (h : service.Announceable) (question : DnsQuestion) :
    question.Relevant service (dottedPair service.instanceName service.fullName)
        (dottedPair service.hostName (cstring "local")) ↔
      question.Asks service ∨ question.Confused service := by
  obtain ⟨htype, hinst, hhost⟩ := h.textOf_askable
  have hmatch : ∀ own ∈ service.askable, (nameMatches (textOf question.labels) (textOf own.1) ↔
      SameName question.labels own.1 ∨ Collides question.labels own.1) :=
    fun own hmem => nameMatches_iff (h.nul_free own hmem)
  have hall : questionRelevant service (dottedPair service.instanceName service.fullName)
      (dottedPair service.hostName (cstring "local")) (textOf question.labels) question.type ↔
      ∃ own ∈ service.askable, nameMatches (textOf question.labels) (textOf own.1) ∧
        question.type ∈ own.2 := by
    rw [exists_askable]
    simp only [htype, hinst, hhost, mem_cons, not_mem_nil, or_false]
    unfold questionRelevant
    split_ifs with hfirst hsnd hthird
    · exact iff_of_true rfl (.inl hfirst)
    · exact iff_of_true rfl (.inr (.inl hsnd))
    · exact iff_of_true rfl (.inr (.inr hthird))
    refine iff_of_false (nofun) ?_
    rintro (hown | hown | hown)
    · exact hfirst hown
    · exact hsnd hown
    · exact hthird hown
  unfold DnsQuestion.Relevant DnsQuestion.Asks DnsQuestion.Confused
  rw [hall, ← and_or_left]
  refine and_congr_right fun _ => ?_
  constructor
  · rintro ⟨own, hmem, htext, hkind⟩
    rcases (hmatch own hmem).mp htext with hsame | hcollides
    · exact .inl ⟨own, hmem, hsame, hkind⟩
    · exact .inr ⟨own, hmem, hcollides, hkind⟩
  · rintro (⟨own, hmem, hname, hkind⟩ | ⟨own, hmem, hname, hkind⟩)
    · exact ⟨own, hmem, (hmatch own hmem).mpr (.inl hname), hkind⟩
    · exact ⟨own, hmem, (hmatch own hmem).mpr (.inr hname), hkind⟩

lemma queryResponse_eq {announcement : List UInt8}
    (hsvc : airplayDnsBuildAnnouncement service ttl = some announcement)
    (hquery : queryQuestions query = some questions) :
    ∃ found unicast packet, airplayDnsBuildQueryResponse service query ttl =
        (if found = true then .ok (packet, unicast) else .error .refused) ∧
      (found ↔
        ∃ question ∈ questions, question.Asks service ∨ question.Confused service) ∧
      (unicast ↔ ∃ question ∈ questions,
        (question.Asks service ∨ question.Confused service) ∧ question.Unicast) := by
  obtain ⟨hannounceable, -, hinst, hhost⟩ := buildRecordSet_eq_some hsvc
  obtain ⟨flags, hflags, hquery⟩ := bind_eq_some_iff.mp hquery
  obtain ⟨count, hcount, hquery⟩ := bind_eq_some_iff.mp hquery
  split at hquery
  swap
  · cases hquery
  rename_i hshape
  obtain ⟨hlow, hhigh, hresp, hpos, hmax⟩ := hshape
  obtain ⟨hflags, -⟩ := readU16_of_uintAt hflags
  obtain ⟨hcount, -⟩ := readU16_of_uintAt hcount
  obtain ⟨id, hid⟩ : ∃ id, readU16 query 0 = .ok id := by
    unfold dnsHeaderSize at hlow
    rw [readU16, packetBytes, if_pos (by omega)]
    exact ⟨_, rfl⟩
  obtain ⟨found, unicast, hloop, hfound, hunicast⟩ := queryLoop_eq service
    (dottedPair service.instanceName service.fullName)
    (dottedPair service.hostName (cstring "local")) hquery false false
  simp only [Bool.false_eq_true, false_or, relevant_iff hannounceable] at hfound hunicast
  obtain ⟨packet, hpacket⟩ := buildRecordSet_isSome hsvc (if unicast then UInt16.ofNat id else 0)
  refine ⟨found, unicast, packet, ?_, hfound, hunicast⟩
  have hgood : ¬ (serviceValid service = false ∨ query.length < dnsHeaderSize ∨
      query.length > airplayDnsPacketMax) := by
    rw [hannounceable.valid]
    simp only [Bool.true_eq_false, false_or, not_or, not_lt]
    exact ⟨hlow, hhigh⟩
  have hcheck : readIf (flags &&& 0x8000 = 0 ∧ count ≠ 0 ∧ count ≤ dnsMaxQuestions) = .ok () :=
    if_pos ⟨hresp, hpos, hmax⟩
  unfold airplayDnsBuildQueryResponse
  rw [if_neg hgood, hinst, hhost]
  rw [hid, hflags, hcount]
  show (readIf _ >>= fun _ => queryLoop _ _ _ _ _ _ _ _ >>= fun result => _) = _
  rw [hcheck, hloop]
  show (readIf (found) >>= fun _ => _) = _
  rw [hpacket]
  cases found with
  | true | false => rfl

/-- **What is answered**: the queries with a question that asks for the service or is confused with
one that does; by unicast where such a question has the unicast bit. -/
lemma answered_iff {announcement : List UInt8}
    (hsvc : airplayDnsBuildAnnouncement service ttl = some announcement)
    (hquery : queryQuestions query = some questions) :
    (Answered service query ttl ↔
        ∃ question ∈ questions, question.Asks service ∨ question.Confused service) ∧
      (AnsweredUnicast service query ttl ↔
        ∃ question ∈ questions, (question.Asks service ∨ question.Confused service) ∧
          question.Unicast) := by
  obtain ⟨found, unicast, packet, hrun, hfound, hunicast⟩ := queryResponse_eq hsvc hquery
  unfold Answered AnsweredUnicast
  rw [hrun, ← hfound, ← hunicast]
  cases hanswer : found with
  | false =>
    have hnone : unicast ≠ true := by
      intro htrue
      obtain ⟨question, hmem, hname, -⟩ := hunicast.mp htrue
      have htold := hfound.mpr ⟨question, hmem, hname⟩
      rw [hanswer] at htold
      cases htold
    refine ⟨iff_of_false ?_ Bool.false_ne_true, iff_of_false ?_ hnone⟩
    · rintro ⟨answer, heq⟩
      cases heq
    · rintro ⟨packet, heq⟩
      cases heq
  | true =>
    refine ⟨⟨fun _ => rfl, fun _ => ⟨(packet, unicast), rfl⟩⟩, ⟨?_, ?_⟩⟩
    · rintro ⟨other, heq⟩
      exact (Prod.mk.inj (Except.ok.inj heq)).2
    · rintro rfl
      exact ⟨packet, rfl⟩

end Law

/-! ## Where the law holds -/

/-- A query with one question, its name written in full. -/
def oneQuestion (question : DnsQuestion) : List UInt8 :=
  BigEndian.encode 2 7 ++ (BigEndian.encode 2 0 ++ (BigEndian.encode 2 1 ++
    (BigEndian.encode 2 0 ++ (BigEndian.encode 2 0 ++ (BigEndian.encode 2 0 ++
      (encode question.labels ++ (BigEndian.encode 2 question.type ++
        (BigEndian.encode 2 question.dnsClass ++ []))))))))

lemma queryQuestions_oneQuestion {question : DnsQuestion}
    (hvalid : ∀ label ∈ question.labels, DomainName.Label.Valid label)
    (hfits : (dotted question.labels).length ≤ airplayDnsNameMax)
    (hsize : (encode question.labels).length ≤ 1000) (htype : question.type < 256 ^ 2)
    (hclass : question.dnsClass < 256 ^ 2) :
    queryQuestions (oneQuestion question) = some [question] := by
  have hlen : (oneQuestion question).length = 16 + (encode question.labels).length := by
    simp only [oneQuestion, length_append, length_encode, length_nil]
    omega
  have hname : (oneQuestion question).drop 12 = encode question.labels ++
      (encode 2 question.type ++ (encode 2 question.dnsClass ++ [])) := by
    rfl
  have hbehind := drop_add_of_drop hname
  have hlast := drop_add_of_drop hbehind
  rw [length_encode] at hlast
  have hquestion : questionAt (oneQuestion question) 12 =
      some (question, 12 + (encode question.labels).length + 4) := by
    unfold questionAt
    rw [labelsAt_encode hvalid hname]
    show ((uintAt _ _ 2).bind fun type => (uintAt _ _ 2).bind fun dnsClass => _) = _
    rw [uintAt_of_drop (by decide) htype hbehind, uintAt_of_drop (by decide) hclass hlast]
    exact if_pos hfits
  have hflags : uintAt (oneQuestion question) 2 2 = some 0 :=
    uintAt_of_drop (by decide) (by decide) rfl
  have hcount : uintAt (oneQuestion question) 4 2 = some 1 :=
    uintAt_of_drop (by decide) (by decide) rfl
  unfold queryQuestions
  rw [hflags, hcount]
  show (if _ then questionsAt (oneQuestion question) 1 12 else none) = _
  rw [if_pos]
  · show ((questionAt (oneQuestion question) 12).bind fun _ => _) = _
    rw [hquestion]
    rfl
  · unfold dnsHeaderSize airplayDnsPacketMax dnsMaxQuestions
    exact ⟨by omega, by omega, by decide, by decide, by decide⟩

lemma AirPlayDnsService.Announceable.plain {service : AirPlayDnsService} (h : service.Announceable)
    (hinst : dot ∉ service.instanceName.bytes) :
    ∀ own ∈ service.askable, dotted own.1 ≠ [] ∧
      ∀ label ∈ own.1, dot ∉ label ∧ (0 : UInt8) ∉ label := by
  intro own hmem
  have hzero := h.nul_free own hmem
  have hvalid : own.1 ≠ [] ∧ (∀ label ∈ own.1, DomainName.Label.Valid label) ∧
      ∀ label ∈ own.1, dot ∉ label := by
    simp only [askable, mem_cons, not_mem_nil, or_false] at hmem
    rcases hmem with rfl | rfl | rfl
    · exact ⟨splitOn_ne_nil _ _, h.typeLabels, fun _ => dot_notMem_of_mem_splitOn⟩
    · exact ⟨cons_ne_nil _ _, h.instanceLabels_valid,
        forall_mem_cons.mpr ⟨hinst, fun _ => dot_notMem_of_mem_splitOn⟩⟩
    · exact ⟨splitOn_ne_nil _ _, h.hostLabels, fun _ => dot_notMem_of_mem_splitOn⟩
  obtain ⟨hne, hvalid, hdot⟩ := hvalid
  refine ⟨?_, fun label hlabel => ⟨hdot label hlabel, fun hbyte =>
    hzero (mem_dotted_of_mem hlabel hbyte)⟩⟩
  obtain ⟨first, hfirst⟩ := exists_mem_of_ne_nil _ hne
  obtain ⟨byte, hbyte⟩ := exists_mem_of_ne_nil _ (hvalid first hfirst).1
  exact ne_nil_of_mem (mem_dotted_of_mem hfirst hbyte)

/-- The service type of `dottedService`, asked for as a single label. -/
def singleLabelQuestion : DnsQuestion := ⟨[asciiBytes "_raop._tcp.local"], airplayDnsTypePtr, 0x8001⟩

/-- It is answered, by unicast, although no question asks for the service. -/
theorem queryResponse_confused :
    (airplayDnsBuildAnnouncement dottedService 120).isSome = true ∧
      queryQuestions (oneQuestion singleLabelQuestion) = some [singleLabelQuestion] ∧
      AnsweredUnicast dottedService (oneQuestion singleLabelQuestion) 120 ∧
      ¬ singleLabelQuestion.Asks dottedService ∧
      ¬ AnsweredAsAsked dottedService (oneQuestion singleLabelQuestion) 120
        [singleLabelQuestion] := by
  have hbuilt : (airplayDnsBuildAnnouncement dottedService 120).isSome = true := by
    decide +kernel
  obtain ⟨packet, hpacket⟩ := Option.isSome_iff_exists.mp hbuilt
  have hquery : queryQuestions (oneQuestion singleLabelQuestion) = some [singleLabelQuestion] := by
    refine queryQuestions_oneQuestion ?_ (by decide) (by decide) (by decide) (by decide)
    unfold DomainName.Label.Valid
    decide
  have hother : ¬ singleLabelQuestion.Asks dottedService := by
    rintro ⟨-, hasks⟩
    revert hasks
    decide +kernel
  have hconfused : singleLabelQuestion.Confused dottedService ∧ singleLabelQuestion.Unicast := by
    unfold DnsQuestion.Confused DnsQuestion.IsIn DnsQuestion.Unicast
    decide +kernel
  have hunicast : AnsweredUnicast dottedService (oneQuestion singleLabelQuestion) 120 :=
    (answered_iff hpacket hquery).2.mpr ⟨_, List.mem_singleton_self _, .inr hconfused.1, hconfused.2⟩
  refine ⟨hbuilt, hquery, hunicast, hother, fun hlaw => ?_⟩
  obtain ⟨question, hmem, hasks, -⟩ := hlaw.2.mp hunicast
  rw [List.mem_singleton.mp hmem] at hasks
  exact hother hasks

/-- **The law of queries.**  For a service that can be announced and every well-formed query: the
responder answers exactly what is asked, and tells the names in the questions from its own, exactly
if no name in them collides with one of its own.  What it answers is what is asked exactly if a
confused question never stands alone, and likewise for unicast.  No name collides where neither the
labels of the questions nor the name of the instance hold a dot, and the labels no NUL. -/
theorem queryResponse_law (service : AirPlayDnsService) (ttl : UInt32)
    (announcement query : List UInt8) (questions : List DnsQuestion)
    (hservice : airplayDnsBuildAnnouncement service ttl = some announcement)
    (hquery : queryQuestions query = some questions) :
    (AnsweredAsAsked service query ttl questions ∧ NamesTold service questions ↔
      ∀ question ∈ questions, ∀ own ∈ service.askable, ¬ Collides question.labels own.1) ∧
    (AnsweredAsAsked service query ttl questions ↔
      ((∃ question ∈ questions, question.Confused service) →
          ∃ question ∈ questions, question.Asks service) ∧
        ((∃ question ∈ questions, question.Confused service ∧ question.Unicast) →
          ∃ question ∈ questions, question.Asks service ∧ question.Unicast)) ∧
    (dot ∉ service.instanceName.bytes →
      (∀ question ∈ questions, ∀ label ∈ question.labels, dot ∉ label ∧ (0 : UInt8) ∉ label) →
      AnsweredAsAsked service query ttl questions ∧ NamesTold service questions) := by
  obtain ⟨hannounceable, -⟩ := buildRecordSet_eq_some hservice
  obtain ⟨hanswered, hunicast⟩ := answered_iff hservice hquery
  have hasked : AnsweredAsAsked service query ttl questions ↔
      ((∃ question ∈ questions, question.Confused service) →
          ∃ question ∈ questions, question.Asks service) ∧
        ((∃ question ∈ questions, question.Confused service ∧ question.Unicast) →
          ∃ question ∈ questions, question.Asks service ∧ question.Unicast) := by
    unfold AnsweredAsAsked
    rw [hanswered, hunicast]
    simp only [and_or_left, or_and_right, exists_or, or_iff_left_iff_imp]
  have hlaw : AnsweredAsAsked service query ttl questions ∧ NamesTold service questions ↔
      ∀ question ∈ questions, ∀ own ∈ service.askable, ¬ Collides question.labels own.1 := by
    constructor
    · rintro ⟨-, htold⟩ question hmem own hown hcollides
      exact hcollides.1 ((htold question hmem own hown).mp hcollides.2)
    intro hnone
    have hconfused : ∀ question ∈ questions, ¬ question.Confused service := by
      rintro question hmem ⟨-, own, hown, hcollides, -⟩
      exact hnone question hmem own hown hcollides
    refine ⟨hasked.mpr ⟨?_, ?_⟩, fun question hmem own hown => ?_⟩
    · rintro ⟨question, hmem, h⟩
      exact absurd h (hconfused question hmem)
    · rintro ⟨question, hmem, h, -⟩
      exact absurd h (hconfused question hmem)
    · rw [nameMatches_iff (hannounceable.nul_free own hown)]
      exact or_iff_left (hnone question hmem own hown)
  refine ⟨hlaw, hasked, fun hinstance hlabels => hlaw.mpr fun question hmem own hown => ?_⟩
  obtain ⟨hne, hplain⟩ := hannounceable.plain hinstance own hown
  exact not_collides_of_plain hne (hlabels question hmem) hplain

/-- The instance of `dottedService`, asked for as the label that it is. -/
def instanceQuestion : DnsQuestion := ⟨dottedService.instanceLabels, airplayDnsTypeSrv, 1⟩

theorem queryResponse_law_instance :
    AnsweredAsAsked dottedService (oneQuestion instanceQuestion) 120 [instanceQuestion] ∧
      NamesTold dottedService [instanceQuestion] := by
  have hbuilt : (airplayDnsBuildAnnouncement dottedService 120).isSome = true := by
    decide +kernel
  obtain ⟨packet, hpacket⟩ := Option.isSome_iff_exists.mp hbuilt
  have hquery : queryQuestions (oneQuestion instanceQuestion) = some [instanceQuestion] := by
    refine queryQuestions_oneQuestion ?_ (by decide) (by decide) (by decide) (by decide)
    unfold DomainName.Label.Valid
    decide
  refine (queryResponse_law dottedService 120 packet _ _ hpacket hquery).1.mpr ?_
  decide +kernel

end NXCast
