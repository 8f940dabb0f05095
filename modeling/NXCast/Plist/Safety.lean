import NXCast.Plist.Readers

/-!
# Safety of the property-list decoder

`Counts n s` is the invariant of the walk through the object graph: `n` objects have been
entered so far, at most 4096, none of them deeper than 32 levels.  `Fits depth v` is what a
decoded value satisfies.  Every function of the decoder has one specification in these terms:
the readers as `Quiet` programs, the loops and `plistDecodeObject` as triples, and every
postcondition for a stop says that the stop is one the source reports, never a fault.

The recursion of `plistDecodeObject` follows the depth, not the references, so cycles and
shared objects need no argument of their own; the number of entered objects is what bounds
the breadth.
-/

namespace NXCast

open Program AirPlayPlistValue List Triple Option

/-- The walk has entered `nodes` objects, within the limits. -/
structure Counts (nodes : ℕ) (state : PlistDecodeState) : Prop where
  nodes_eq : state.decodedNodes = nodes
  nodes_le : nodes ≤ airplayPlistMaxNodes
  entered_length : state.entered.length = nodes
  depth_le : ∀ entry ∈ state.entered, entry.2 ≤ airplayPlistMaxDepth

/-- A value decoded at a depth respects every limit of the module. -/
structure Fits (depth : ℕ) (value : AirPlayPlistValue) : Prop where
  wellFormed : value.WellFormed
  height_le : depth + value.height ≤ airplayPlistMaxDepth

lemma Fits.arrayAppend {depth : ℕ} {items : List AirPlayPlistValue} {item : AirPlayPlistValue}
    (hvalue : Fits depth (.array items)) (hitem : Fits (depth + 1) item)
    (h : airplayPlistArrayAppend (.array items) item = some (.array (items ++ [item]))) :
    Fits depth (.array (items ++ [item])) where
  wellFormed := hvalue.wellFormed.arrayAppend hitem.wellFormed h
  height_le := by
    have hdepth := hvalue.height_le
    have hchild := hitem.height_le
    have hheight : (array (items ++ [item])).height ≤ airplayPlistMaxDepth - depth := by
      rw [height_array_le_iff]
      intro other hother
      rcases mem_append.mp hother with hother | hother
      · have := height_item_lt hother
        omega
      · rw [mem_singleton.mp hother]
        omega
    omega

variable {entries : List (CString × AirPlayPlistValue)}

lemma Fits.dictSet {depth : ℕ} {key : CString}
    {item : AirPlayPlistValue} (hvalue : Fits depth (.dict entries))
    (hitem : Fits (depth + 1) item)
    (h : airplayPlistDictSet (.dict entries) key item = some (.dict (entries ++ [(key, item)]))) :
    Fits depth (.dict (entries ++ [(key, item)])) where
  wellFormed := hvalue.wellFormed.dictSet hitem.wellFormed h
  height_le := by
    have hdepth := hvalue.height_le
    have hchild := hitem.height_le
    have hheight : (dict (entries ++ [(key, item)])).height ≤ airplayPlistMaxDepth - depth := by
      rw [height_dict_le_iff]
      intro other hother
      rcases mem_append.mp hother with hother | hother
      · have := height_entry_lt hother
        omega
      · rw [mem_singleton.mp hother]
        show item.height + 1 ≤ _
        omega
    omega

/-- A stop that the source reports, with the walk still within its limits. -/
def Stopped (stop : PlistStop) (state : PlistDecodeState) : Prop :=
  Reported stop ∧ ∃ nodes, Counts nodes state

variable {nodes : ℕ} {state : PlistDecodeState}

lemma Counts.stopped {stop : PlistStop} (hstop : Reported stop) (h : Counts nodes state) :
    Stopped stop state :=
  ⟨hstop, nodes, h⟩

lemma counts_initial : Counts 0 .initial where
  nodes_eq := rfl
  nodes_le := Nat.zero_le _
  entered_length := rfl
  depth_le := by simp [PlistDecodeState.initial]

lemma Counts.enter (h : Counts nodes state) {objectId depth : ℕ}
    (hdepth : depth ≤ airplayPlistMaxDepth) (hnodes : state.decodedNodes < airplayPlistMaxNodes) :
    Counts (nodes + 1) (state.enter objectId depth) where
  nodes_eq := by simp [PlistDecodeState.enter, h.nodes_eq]
  nodes_le := h.nodes_eq ▸ hnodes
  entered_length := by simp [PlistDecodeState.enter, h.entered_length]
  depth_le := by
    intro entry hentry
    rcases mem_cons.mp hentry with rfl | hentry
    · exact hdepth
    · exact h.depth_le entry hentry

lemma Counts.leave (h : Counts nodes state) (objectId : ℕ) : Counts nodes (state.leave objectId) :=
  ⟨h.nodes_eq, h.nodes_le, h.entered_length, h.depth_le⟩

/-! ## Leaves -/

/-- A value without children. -/
structure Leaf (value : AirPlayPlistValue) : Prop where
  wellFormed : value.WellFormed
  nodeCount_eq : value.nodeCount = 1
  height_eq : value.height = 0

lemma leaf_bool (value : Bool) : Leaf (.bool value) :=
  ⟨.bool value, by simp [nodeCount], by simp [height]⟩

lemma leaf_uint (value : UInt64) : Leaf (.uint value) :=
  ⟨.uint value, by simp [nodeCount], by simp [height]⟩

lemma leaf_real (bits : UInt64) : Leaf (.real bits) :=
  ⟨.real bits, by simp [nodeCount], by simp [height]⟩

lemma leaf_newString {text : CString} {node : AirPlayPlistValue}
    (h : airplayPlistNewString text = some node) : Leaf node := by
  obtain ⟨hmeas, rfl⟩ := airplayPlistNewString_eq_some_iff.mp h
  exact ⟨.string hmeas, by simp [nodeCount], by simp [height]⟩

variable {bytes : List UInt8}

lemma leaf_newData {node : AirPlayPlistValue} (h : airplayPlistNewData bytes = some node) :
    Leaf node := by
  unfold airplayPlistNewData at h
  split at h
  · cases h
  rename_i hlen
  simp only [some.injEq] at h
  subst h
  exact ⟨.data (Nat.le_of_not_lt hlen), by simp [nodeCount], by simp [height]⟩

lemma quiet_fail {α : Type} {q : α → Prop} (error : AirPlayPlistError) :
    Quiet Reported (plistDecodeFail error : PlistDecodeM α) q :=
  .throw (reported_error error)

/-! ## Strings, data and numbers -/

variable {remaining : ℕ}

variable {start : ℕ}

lemma quiet_plistDecodeAsciiLoop (h : start + remaining ≤ bytes.length) :
    Quiet Reported (plistDecodeAsciiLoop bytes start remaining) fun _ => True := by
  induction remaining generalizing start with
  | zero => exact .pure trivial
  | succ remaining ih =>
    rw [plistDecodeAsciiLoop, plistReadByte_eq (by omega), pure_bind]
    refine .ite (fun _ => quiet_fail _) fun _ => ?_
    exact (ih (by omega)).bind fun _ _ => .pure trivial

lemma quiet_plistDecodeAsciiString {length : ℕ} (h : start + length ≤ bytes.length) :
    Quiet Reported (plistDecodeAsciiString bytes start length) Leaf := by
  refine .ite (fun _ => quiet_fail _) fun hlimit => ?_
  simp only [airplayPlistMaxStringBytes] at hlimit
  rw [checkedAdd_eq (by simp only [sizeMax]; omega), pure_bind]
  refine (quiet_plistDecodeAsciiLoop h).bind fun text _ => ?_
  split
  · exact quiet_fail _
  · rename_i hnew
    exact .pure (leaf_newString hnew)

variable {offset : ℕ}

lemma quiet_plistReadUnit (h : offset + 2 ≤ bytes.length) :
    Quiet Reported (plistReadUnit bytes offset) fun _ => True := by
  rw [plistReadUnit, plistReadByte_eq (by omega), pure_bind, plistReadByte_eq (by omega),
    pure_bind]
  exact .pure trivial

lemma quiet_plistReadCodepoint (h : offset + 2 * (remaining + 1) ≤ bytes.length) :
    Quiet Reported (plistReadCodepoint bytes offset remaining)
      fun result => result.2 ≤ remaining := by
  refine (quiet_plistReadUnit (by omega)).bind fun first _ => ?_
  refine .ite (fun _ => ?_) fun _ => .ite (fun _ => quiet_fail _) fun _ => .pure (Nat.zero_le _)
  refine .ite (fun _ => quiet_fail _) fun hremaining => ?_
  refine (quiet_plistReadUnit (by omega)).bind fun second _ => ?_
  exact .ite (fun _ => quiet_fail _) fun _ => .pure (Nat.one_le_iff_ne_zero.mpr hremaining)

lemma quiet_plistDecodeUtf16Loop {maximumBytes : ℕ} {text : List UInt8}
    (h : offset + 2 * remaining ≤ bytes.length) :
    Quiet Reported (plistDecodeUtf16Loop bytes maximumBytes offset text remaining)
      fun _ => True := by
  induction remaining using Nat.strong_induction_on generalizing offset text with
  | _ remaining ih =>
    cases remaining with
    | zero =>
      rw [plistDecodeUtf16Loop]
      exact .pure trivial
    | succ remaining =>
      rw [plistDecodeUtf16Loop]
      refine (quiet_plistReadCodepoint h).bind fun result hextra => ?_
      obtain ⟨codepoint, extra⟩ := result
      refine .ite (fun _ => quiet_fail _) fun _ => ?_
      split
      · exact quiet_fail _
      · exact ih (remaining - extra) (by omega) (by omega)

lemma quiet_plistDecodeUtf16String {unitCount : ℕ} (h : start + 2 * unitCount ≤ bytes.length)
      :
    Quiet Reported (plistDecodeUtf16String bytes start unitCount) Leaf := by
  refine .ite (fun _ => quiet_fail _) fun hlimit => ?_
  simp only [airplayPlistMaxStringBytes] at hlimit
  simp only [plistSizeMultiply_eq_some (show unitCount * 3 ≤ sizeMax by
    simp only [sizeMax]; omega)]
  rw [checkedAdd_eq (by simp only [sizeMax, airplayPlistMaxStringBytes]; omega), pure_bind]
  refine (quiet_plistDecodeUtf16Loop h).bind fun text _ => ?_
  split
  · exact quiet_fail _
  · rename_i hnew
    exact .pure (leaf_newString hnew)

lemma width_of_exponent {exponent : ℕ} (h : exponent ≤ 3) :
    0 < 1 <<< exponent ∧ 1 <<< exponent ≤ 8 := by
  obtain rfl | rfl | rfl | rfl : exponent = 0 ∨ exponent = 1 ∨ exponent = 2 ∨ exponent = 3 := by
    omega
  all_goals decide

lemma triple_leaf {m : PlistDecodeM AirPlayPlistValue} {depth : ℕ} (hm : Quiet Reported m Leaf)
    (hdepth : depth ≤ airplayPlistMaxDepth) :
    Triple (Counts (nodes + 1)) m
      (fun value state => Fits depth value ∧ Counts (nodes + value.nodeCount) state) Stopped := by
  refine (hm.triple fun _ _ hstop hstate => hstate.stopped hstop).conseq (fun _ => id)
    (fun value state h => ?_) fun _ _ h => h
  obtain ⟨⟨hwell, hcount, hheight⟩, hstate⟩ := h
  exact ⟨⟨hwell, by omega⟩, hcount ▸ hstate⟩

variable {q : AirPlayPlistValue → PlistDecodeState → Prop}

lemma triple_fail (error : AirPlayPlistError) :
    Triple (Counts nodes) (plistDecodeFail error : PlistDecodeM AirPlayPlistValue) q Stopped :=
  .throw fun _ hstate => hstate.stopped (reported_error error)

lemma triple_plistSizeMultiply {left right : ℕ} {error : AirPlayPlistError}
    {next : ℕ → PlistDecodeM AirPlayPlistValue}
    (h : left * right ≤ sizeMax → Triple (Counts nodes) (next (left * right)) q Stopped) :
    Triple (Counts nodes)
      (match plistSizeMultiply left right with
        | none => plistDecodeFail error
        | some product => next product) q Stopped := by
  split
  · exact triple_fail _
  · rename_i product hproduct
    obtain ⟨rfl, hle⟩ := plistSizeMultiply_some hproduct
    exact h hle

section Context

variable {context : PlistDecodeContext} (hvalid : context.Valid)
include hvalid

variable {objectOffset : ℕ}

lemma quiet_plistDecodeNumber {width : ℕ} (hpos : 0 < width) (hwidth : width ≤ 8)
    (hoff : objectOffset < context.objectTableEnd) :
    Quiet Reported (plistDecodeNumber context objectOffset width) fun _ => True := by
  have hend := hvalid.table_end_lt
  have hmax := hvalid.table_end_le
  simp only [airplayPlistMaxBytes] at hmax
  rw [plistDecodeNumber, checkedSub_eq (by omega), pure_bind, checkedSub_eq (by omega), pure_bind]
  refine .ite (fun _ => quiet_fail _) fun hroom => ?_
  rw [checkedAdd_eq (by simp only [sizeMax]; omega), pure_bind,
    plistReadUint_eq hpos hwidth (by omega) (by omega), pure_bind]
  exact .pure trivial

lemma quiet_plistDecodeLength {marker : ℕ}
    (hoff : objectOffset < context.objectTableEnd) :
    Quiet Reported (plistDecodeLength context objectOffset marker)
      fun result => objectOffset + result.2 ≤ context.objectTableEnd := by
  have hend := hvalid.table_end_lt
  have hmax := hvalid.table_end_le
  simp only [airplayPlistMaxBytes] at hmax
  refine .ite (fun _ => .pure hoff) fun _ => ?_
  simp only [plistSizeAdd_eq_some (show objectOffset + 1 ≤ sizeMax by simp only [sizeMax]; omega)]
  refine .ite (fun _ => quiet_fail _) fun hinside => ?_
  rw [plistReadByte_eq (by omega), pure_bind]
  refine .ite (fun _ => quiet_fail _) fun _ => .ite (fun _ => quiet_fail _) fun hexponent => ?_
  generalize context.bytes[objectOffset + 1].toNat &&& 0x0f = exponent at hexponent ⊢
  have hwidth := width_of_exponent (Nat.le_of_not_lt hexponent)
  simp only [plistSizeAdd_eq_some (show 2 + 1 <<< exponent ≤ sizeMax by
    simp only [sizeMax]; omega)]
  rw [checkedSub_eq (by omega), pure_bind]
  refine .ite (fun _ => quiet_fail _) fun hroom => ?_
  rw [checkedAdd_eq (by simp only [sizeMax]; omega), pure_bind, checkedSub_eq (by omega),
    pure_bind, checkedSub_eq (by omega), pure_bind,
    plistReadUint_eq hwidth.1 hwidth.2 (by omega) (by omega), pure_bind]
  refine .ite (fun _ => quiet_fail _) fun _ => .pure ?_
  show objectOffset + (2 + 1 <<< exponent) ≤ context.objectTableEnd
  omega

lemma quiet_plistDecodeReference
    (hoff : offset + context.referenceSize ≤ context.objectTableEnd) :
    Quiet Reported (plistDecodeReference context offset) fun _ => True := by
  rw [plistDecodeReference_eq hvalid hoff]
  exact .ite (fun _ => quiet_fail _) fun _ => .pure trivial

/-! ## Containers

`decode` stands for the decoding of a child, one level further down. -/

section Containers

variable {decode : ℕ → PlistDecodeM AirPlayPlistValue} {depth : ℕ}
  (hdecode : ∀ reference nodes, Triple (Counts nodes) (decode reference)
    (fun item state => Fits (depth + 1) item ∧ Counts (nodes + item.nodeCount) state) Stopped)
include hdecode

variable {payloadOffset : ℕ}

variable {value : AirPlayPlistValue}

lemma triple_plistDecodeItems {remaining index nodes : ℕ}
    (hvalue : Fits depth value)
    (hroom : payloadOffset + (index + remaining) * context.referenceSize ≤ context.objectTableEnd) :
    Triple (Counts (nodes + value.nodeCount))
      (plistDecodeItems context decode payloadOffset remaining index value)
      (fun result state => Fits depth result ∧ Counts (nodes + result.nodeCount) state)
      Stopped := by
  have hmax := hvalid.table_end_le
  simp only [airplayPlistMaxBytes] at hmax
  induction remaining generalizing index value with
  | zero => exact .pure fun _ hstate => ⟨hvalue, hstate⟩
  | succ remaining ih =>
    have hstep : (index + 1) * context.referenceSize ≤
        (index + (remaining + 1)) * context.referenceSize :=
      Nat.mul_le_mul_right _ (by omega)
    rw [Nat.add_mul, Nat.one_mul] at hstep
    rw [plistDecodeItems, checkedMul_eq (by simp only [sizeMax]; omega), pure_bind,
      checkedAdd_eq (by simp only [sizeMax]; omega), pure_bind]
    refine .bind_quiet (quiet_plistDecodeReference hvalid (by omega))
      (fun _ _ hstop hstate => hstate.stopped hstop) fun reference _ => ?_
    refine (hdecode reference _).bind fun item => ?_
    refine .of_pre (fun _ hstate => hstate.1) fun hitem => ?_
    split
    · exact .throw fun _ hstate => hstate.2.stopped (reported_error _)
    rename_i next hnext
    obtain ⟨items, rfl, -, rfl⟩ := airplayPlistArrayAppend_eq_some hnext
    have hcount : (array (items ++ [item])).nodeCount =
        (array items).nodeCount + item.nodeCount := by
      simp [nodeCount, Nat.add_assoc]
    refine (ih (hvalue.arrayAppend hitem hnext) (by rwa [Nat.add_assoc, Nat.add_comm 1])).conseq
      (fun _ hstate => ?_) (fun _ _ h => h) fun _ _ h => h
    rw [hcount, ← Nat.add_assoc]
    exact hstate.2

lemma triple_plistDecodeEntries {referencesBytes remaining index nodes : ℕ}
        (hdict : value = .dict entries) (hvalue : Fits depth value)
    (hroom : (index + remaining) * context.referenceSize ≤ referencesBytes)
    (hbytes : payloadOffset + referencesBytes * 2 ≤ context.objectTableEnd) :
    Triple (Counts (nodes + value.nodeCount))
      (plistDecodeEntries context decode payloadOffset referencesBytes remaining index value)
      (fun result state => Fits depth result ∧ Counts (nodes + result.nodeCount) state)
      Stopped := by
  have hmax := hvalid.table_end_le
  simp only [airplayPlistMaxBytes] at hmax
  induction remaining generalizing index value entries with
  | zero => exact .pure fun _ hstate => ⟨hvalue, hstate⟩
  | succ remaining ih =>
    have hstep : (index + 1) * context.referenceSize ≤
        (index + (remaining + 1)) * context.referenceSize :=
      Nat.mul_le_mul_right _ (by omega)
    rw [Nat.add_mul, Nat.one_mul] at hstep
    rw [plistDecodeEntries, checkedMul_eq (by simp only [sizeMax]; omega), pure_bind,
      checkedAdd_eq (by simp only [sizeMax]; omega), pure_bind]
    refine .bind_quiet (quiet_plistDecodeReference hvalid (by omega))
      (fun _ _ hstop hstate => hstate.stopped hstop) fun keyReference _ => ?_
    rw [checkedAdd_eq (by simp only [sizeMax]; omega), pure_bind,
      checkedAdd_eq (by simp only [sizeMax]; omega), pure_bind]
    refine .bind_quiet (quiet_plistDecodeReference hvalid (by omega))
      (fun _ _ hstop hstate => hstate.stopped hstop) fun valueReference _ => ?_
    refine (hdecode keyReference _).bind fun keyNode => ?_
    split
    · exact .throw fun _ hstate => hstate.2.stopped (reported_error _)
    rename_i key hkey
    have hkeyNode : keyNode.nodeCount = 1 := by
      cases keyNode with
      | string text => simp [nodeCount]
      | _ => simp [airplayPlistGetString] at hkey
    refine .ite (fun _ => .throw fun _ hstate => hstate.2.stopped (reported_error _))
      fun habsent => ?_
    refine bind (Q := fun item state => Fits (depth + 1) item ∧
      Counts (nodes + value.nodeCount + 1 + item.nodeCount) state) ?_ fun item => ?_
    · refine (hdecode valueReference _).conseq (fun _ hstate => ?_) (fun _ _ h => h) fun _ _ h => h
      rw [← hkeyNode]
      exact hstate.2
    refine .of_pre (fun _ hstate => hstate.1) fun hitem => ?_
    subst hdict
    split
    · exact .throw fun _ hstate => hstate.2.stopped (reported_error _)
    rename_i next hnext
    obtain ⟨_, heq, _, ⟨found, hfound, -⟩ | ⟨_, _, rfl⟩⟩ := airplayPlistDictSet_eq_some hnext
    all_goals
      simp only [dict.injEq] at heq
      subst heq
    · -- the key was looked up before its value was decoded
      rw [Bool.not_eq_true, isSome_eq_false_iff, isNone_iff_eq_none,
        airplayPlistDictGet_eq_none_iff, ← plistDictFind_eq_none_iff, hfound] at habsent
      cases habsent
    have hcount : (dict (entries ++ [(key, item)])).nodeCount =
        (dict entries).nodeCount + 1 + item.nodeCount := by
      simp only [nodeCount, length_append, length_singleton, map_append,
        map_cons, map_nil, sum_append, sum_cons, sum_nil]
      omega
    refine (ih rfl (hvalue.dictSet hitem hnext)
      (by rwa [Nat.add_assoc, Nat.add_comm 1])).conseq
      (fun _ hstate => ?_) (fun _ _ h => h) fun _ _ h => h
    rw [hcount, ← Nat.add_assoc, ← Nat.add_assoc]
    exact hstate.2

lemma triple_plistDecodeSized {high itemLength nodes : ℕ} (hdepth : depth ≤ airplayPlistMaxDepth)
    (hpayload : payloadOffset ≤ context.objectTableEnd) :
    Triple (Counts (nodes + 1)) (plistDecodeSized context decode payloadOffset high itemLength)
      (fun value state => Fits depth value ∧ Counts (nodes + value.nodeCount) state) Stopped := by
  have hend := hvalid.table_end_lt
  have harray : Fits depth airplayPlistNewArray :=
    ⟨Built.newArray.wellFormed, by simpa [airplayPlistNewArray, height] using hdepth⟩
  have hdict : Fits depth airplayPlistNewDict :=
    ⟨Built.newDict.wellFormed, by simpa [airplayPlistNewDict, height] using hdepth⟩
  refine .ite (fun _ => .ite (fun _ => triple_fail _) fun _ => ?_) fun _ =>
    .ite (fun _ => ?_) fun _ => .ite (fun _ => triple_plistSizeMultiply fun _ => ?_) fun _ =>
    .ite (fun _ => .ite (fun _ => triple_fail _) fun _ => triple_plistSizeMultiply fun _ => ?_)
    fun _ => .ite (fun _ => triple_fail _) fun _ =>
      triple_plistSizeMultiply fun _ => triple_plistSizeMultiply fun _ => ?_
  all_goals
    rw [checkedSub_eq hpayload, pure_bind]
    refine .ite (fun _ => triple_fail _) fun hroom => ?_
  · -- data
    rw [plistReadBytes_eq (by omega), pure_bind]
    refine triple_leaf ?_ hdepth
    split
    · exact quiet_fail _
    · rename_i hnew
      exact .pure (leaf_newData hnew)
  · exact triple_leaf (quiet_plistDecodeAsciiString (by omega)) hdepth
  · exact triple_leaf (quiet_plistDecodeUtf16String (by omega)) hdepth
  · -- the empty array is the node that was entered
    have hcount : airplayPlistNewArray.nodeCount = 1 := by simp [airplayPlistNewArray, nodeCount]
    rw [← hcount]
    exact triple_plistDecodeItems hvalid hdecode harray (by rw [Nat.zero_add]; omega)
  · have hcount : airplayPlistNewDict.nodeCount = 1 := by simp [airplayPlistNewDict, nodeCount]
    rw [← hcount]
    exact triple_plistDecodeEntries hvalid hdecode rfl hdict (by rw [Nat.zero_add]) (by omega)

lemma triple_plistDecodeMarked {marker nodes : ℕ}
    (hdepth : depth ≤ airplayPlistMaxDepth) (hoff : objectOffset < context.objectTableEnd) :
    Triple (Counts (nodes + 1)) (plistDecodeMarked context decode objectOffset marker)
      (fun value state => Fits depth value ∧ Counts (nodes + value.nodeCount) state) Stopped := by
  have hmax := hvalid.table_end_le
  simp only [airplayPlistMaxBytes] at hmax
  refine .ite (fun _ => triple_leaf (.pure (leaf_bool _)) hdepth) fun _ =>
    .ite (fun _ => .ite (fun _ => triple_fail _) fun hlow => ?_) fun _ =>
    .ite (fun _ => .ite (fun _ => ?_) fun _ => .ite (fun _ => ?_) fun _ => triple_fail _) fun _ =>
    .ite (fun _ => ?_) fun _ => triple_fail _
  · obtain ⟨hpos, hwidth⟩ := width_of_exponent (Nat.le_of_not_lt hlow)
    refine triple_leaf ?_ hdepth
    exact (quiet_plistDecodeNumber hvalid hpos hwidth hoff).bind fun _ _ => .pure (leaf_uint _)
  · refine triple_leaf ?_ hdepth
    exact (quiet_plistDecodeNumber hvalid (by decide) (by decide) hoff).bind
      fun _ _ => .pure (leaf_real _)
  · refine triple_leaf ?_ hdepth
    exact (quiet_plistDecodeNumber hvalid (by decide) (by decide) hoff).bind
      fun _ _ => .pure (leaf_real _)
  refine .bind_quiet (quiet_plistDecodeLength hvalid hoff)
    (fun _ _ hstop hstate => hstate.stopped hstop) fun result hhead => ?_
  obtain ⟨itemLength, headerSize⟩ := result
  simp only [plistSizeAdd_eq_some (show objectOffset + headerSize ≤ sizeMax by
    simp only [sizeMax]; omega)]
  exact triple_plistDecodeSized hvalid hdecode hdepth hhead

end Containers

/-- **The walk below one object.**  By induction on the levels that are left. -/
theorem triple_plistDecodeObject (objectId depth nodes : ℕ) :
    Triple (Counts nodes) (plistDecodeObject context objectId depth)
      (fun value state => Fits depth value ∧ Counts (nodes + value.nodeCount) state)
      Stopped := by
  induction hlevels : airplayPlistMaxDepth + 1 - depth using Nat.strong_induction_on
    generalizing objectId depth nodes with
  | _ levels ih =>
    rw [plistDecodeObject]
    refine get.bind fun state => ?_
    refine .of_pre (fun s hs => hs.1 ▸ hs.2) fun hstate => ?_
    refine .ite (fun _ => ?_) fun hlimit => .ite (fun _ => ?_) fun _ => ?_
    · exact .throw fun _ hs => hs.2.stopped (reported_error _)
    · exact .throw fun _ hs => hs.2.stopped (reported_error _)
    have hdepth : depth ≤ airplayPlistMaxDepth := by omega
    rw [plistDecodeOffset_eq hvalid, pure_bind]
    split
    · exact .throw fun _ hs => hs.2.stopped (reported_error _)
    rename_i objectOffset hoff
    have hinside : objectOffset < context.objectTableEnd := by
      split at hoff
      · rename_i hannounced
        simp only [some.injEq] at hoff
        exact hoff ▸ hannounced.2.2
      · cases hoff
    have hend := hvalid.table_end_lt
    refine bind (Q := fun _ => Counts (nodes + 1))
      (.modify fun s hs => hs.2.enter hdepth (hs.1 ▸ by omega)) fun _ => ?_
    rw [plistReadByte_eq (by omega), pure_bind]
    refine (triple_plistDecodeMarked hvalid (fun reference nodes => ?_) hdepth
      hinside).bind fun value => ?_
    · exact ih _ (by omega) reference (depth + 1) nodes rfl
    · refine bind (Q := fun _ s => Fits depth value ∧ Counts (nodes + value.nodeCount) s)
        (.modify fun s hs => ⟨hs.1, hs.2.leave objectId⟩) fun _ => ?_
      exact .pure fun _ hs => hs

end Context

/-! ## The whole document -/

lemma quiet_plistCheckZeros (h : start + remaining ≤ bytes.length) :
    Quiet Reported (plistCheckZeros bytes start remaining) fun _ => True := by
  induction remaining generalizing start with
  | zero => exact .pure trivial
  | succ remaining ih =>
    rw [plistCheckZeros, plistReadByte_eq (by omega), pure_bind]
    exact .ite (fun _ => quiet_fail _) fun _ => ih (by omega)

lemma quiet_plistCheckOffsets {context : PlistDecodeContext} (hvalid : context.Valid)
    (remaining index : ℕ) :
    Quiet Reported (plistCheckOffsets context remaining index) fun _ => True := by
  induction remaining generalizing index with
  | zero => exact .pure trivial
  | succ remaining ih =>
    rw [plistCheckOffsets, plistDecodeOffset_eq hvalid, pure_bind]
    split
    · exact quiet_fail _
    · exact ih (index + 1)

lemma quiet_plistDecodeTrailer (hlow : 40 ≤ bytes.length)
    (hhigh : bytes.length ≤ airplayPlistMaxBytes) :
    Quiet Reported (plistDecodeTrailer bytes) fun context => context.Valid := by
  simp only [plistDecodeTrailer]
  rw [checkedSub_eq (by omega), pure_bind]
  refine (quiet_plistCheckZeros (by omega)).bind fun _ _ => ?_
  rw [plistReadByte_eq (by omega), pure_bind, plistReadByte_eq (by omega), pure_bind,
    plistReadUint_eq (by decide) (by decide) (by decide) (by omega), pure_bind]
  dsimp only
  rw [plistReadUint_eq (by decide) (by decide) (by decide) (by omega), pure_bind]
  dsimp only
  rw [plistReadUint_eq (by decide) (by decide) (by decide) (by omega), pure_bind]
  refine .ite (fun _ => quiet_fail _) fun hchecks => ?_
  push Not at hchecks
  obtain ⟨hoff, hreference, -, hcount, -, -, -, htable, -⟩ := hchecks
  rw [Bool.ne_false_iff] at hoff hreference
  generalize BigEndian.value (slice bytes (bytes.length - 32 + 8) 8) = objectCount at *
  generalize BigEndian.value (slice bytes (bytes.length - 32 + 24) 8) = offsetTableOffset at *
  generalize bytes[bytes.length - 32 + 6].toNat = offsetSize at *
  obtain ⟨-, hwidth⟩ := plistWidthValid_bounds hoff
  have hproduct : objectCount * offsetSize ≤ airplayPlistMaxNodes * 8 :=
    Nat.mul_le_mul hcount hwidth
  simp only [airplayPlistMaxNodes] at hproduct
  simp only [airplayPlistMaxBytes] at hhigh
  rw [checkedMul_eq (by simp only [sizeMax]; omega), pure_bind,
    checkedAdd_eq (by simp only [sizeMax]; omega), pure_bind]
  refine .ite (fun _ => quiet_fail _) fun hfits => .pure ?_
  exact {
    length_eq := rfl
    length_le := hhigh
    table_end := rfl
    offset_width := hoff
    reference_width := hreference
    count_le := hcount
    table_fits := by show offsetTableOffset + objectCount * offsetSize + 32 ≤ bytes.length; omega }

/-- **Every run of the decoder.**  A value that comes back respects every limit and was counted
node by node; a run that stops reports an error. -/
theorem triple_airplayPlistDecode (bytes : List UInt8) :
    Triple (Counts 0) (airplayPlistDecodeM bytes)
      (fun value state => Fits 0 value ∧ Counts value.nodeCount state) Stopped := by
  have hstop : ∀ {nodes : ℕ} (stop : PlistStop) (state : PlistDecodeState), Reported stop →
      Counts nodes state → Stopped stop state :=
    fun _ _ hreported hstate => hstate.stopped hreported
  refine .ite (fun _ => triple_fail _) fun hhigh => .ite (fun _ => triple_fail _) fun hlow => ?_
  rw [plistReadBytes_eq (by omega), pure_bind]
  refine .ite (fun _ => triple_fail _) fun _ => ?_
  refine .bind_quiet (quiet_plistDecodeTrailer (by omega) (by omega)) hstop
    fun context hvalid => ?_
  refine .bind_quiet (quiet_plistCheckOffsets hvalid _ _) hstop fun _ _ => ?_
  refine (triple_plistDecodeObject hvalid context.topObject 0 0).conseq (fun _ => id)
    (fun value state h => ?_) fun _ _ h => h
  rwa [Nat.zero_add] at h

/-- **Decoder safety.**  On every byte string the decoder ends with a value or a reported error,
never with a read outside the input or a wrapped size, and the walk through the objects has
entered at most 4096 of them, none deeper than 32 levels. -/
theorem airplayPlistDecode_safe (bytes : List UInt8) :
    ∃ (outcome : Except AirPlayPlistError AirPlayPlistValue) (state : PlistDecodeState),
      (airplayPlistDecodeM bytes .initial =
        match outcome with
        | .ok value => .ok value state
        | .error error => .error (.error error) state) ∧
      state.decodedNodes ≤ airplayPlistMaxNodes ∧
      state.entered.length = state.decodedNodes ∧
      ∀ entry ∈ state.entered, entry.2 ≤ airplayPlistMaxDepth := by
  have hrun := triple_airplayPlistDecode bytes .initial counts_initial
  cases hresult : airplayPlistDecodeM bytes .initial with
  | ok value state =>
    rw [hresult] at hrun
    obtain ⟨-, hstate⟩ := hrun
    exact ⟨.ok value, state, rfl, hstate.nodes_eq ▸ hstate.nodes_le,
      hstate.nodes_eq ▸ hstate.entered_length, hstate.depth_le⟩
  | error stop state =>
    rw [hresult] at hrun
    obtain ⟨⟨error, rfl⟩, nodes, hstate⟩ := hrun
    exact ⟨.error error, state, rfl, hstate.nodes_eq ▸ hstate.nodes_le,
      hstate.nodes_eq ▸ hstate.entered_length, hstate.depth_le⟩

end NXCast
