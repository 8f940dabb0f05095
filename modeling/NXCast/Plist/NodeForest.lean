import NXCast.Plist.Nodes

/-!
# The forest of property-list nodes

A container only tests that an item has no parent and is not the container itself.  As long as no item is
put under a container that is below it, the nodes form a forest, and freeing the roots frees each node
once (`plist_forest`).  Two arrays put into each other pass both tests, and close a circle
(`plist_circle`).
-/

namespace NXCast

open Function Option List

namespace PlistHeap

open Relation

/-! ## What is kept -/

/-- The nodes form a forest, each points back at its holder, and the others have been freed. -/
structure Sound (heap : PlistHeap) : Prop where
  acyclic : ∀ key, ¬TransGen heap.Holds key key
  held : ∀ {holder child}, heap.Holds holder child →
    ∃ node, heap.nodes child = some node ∧ node.parent = some holder
  pointed : ∀ {holder child node}, heap.nodes child = some node → node.parent = some holder →
    heap.Holds holder child
  nodup : ∀ {key node}, heap.nodes key = some node → node.contents.children.Nodup
  dead : ∀ key, heap.nodes key = none ↔ heap.created ≤ key ∨ key ∈ heap.freed
  freed_lt : ∀ key ∈ heap.freed, key < heap.created
  freed_nodup : heap.freed.Nodup
  calm : heap.fault = false ∧ heap.hung = false

variable {heap base mid next : PlistHeap}

lemma Sound.forest (h : heap.Sound) : Forest.IsForest heap.Holds := by
  refine ⟨h.acyclic, fun {a b c} hleft hright => ?_⟩
  obtain ⟨node, hnode, hpar⟩ := h.held hleft
  obtain ⟨other, hother, hpar'⟩ := h.held hright
  rw [hnode] at hother
  cases hother
  exact some.inj (hpar.symm.trans hpar')

lemma Sound.lt_created (h : heap.Sound) {key : ℕ} (hlive : heap.nodes key ≠ none) :
    key < heap.created := by
  by_contra hle
  exact hlive ((h.dead key).mpr (.inl (not_lt.mp hle)))

variable {item : ℕ}

variable {node : PlistNode}

lemma Sound.not_held (h : heap.Sound) (hnode : heap.nodes item = some node)
    (hpar : node.parent = none) (key : ℕ) : ¬heap.Holds key item := by
  intro hholds
  obtain ⟨other, hother, hpointed⟩ := h.held hholds
  obtain rfl := some.inj (hnode.symm.trans hother)
  cases hpar.symm.trans hpointed

/-- Each holder ranks above what it holds, and no rank is above the number of nodes. -/
lemma Sound.exists_rank (h : heap.Sound) :
    ∃ rank : ℕ → ℕ, (∀ key, rank key ≤ heap.created) ∧
      ∀ holder child, heap.Holds holder child → rank child < rank holder := by
  have hitems : ∀ holder child, heap.Holds holder child → child ∈ Finset.range heap.created := by
    intro holder child hholds
    obtain ⟨node, hnode, -⟩ := h.held hholds
    rw [Finset.mem_range]
    exact h.lt_created (by rw [hnode]; exact nofun)
  obtain ⟨rank, hle, hrank⟩ := h.forest.exists_rank hitems
  exact ⟨rank, fun key => (hle key).trans (le_of_eq (Finset.card_range _)), hrank⟩

lemma sound_initial : initial.Sound where
  acyclic := fun key hcycle => by
    obtain ⟨-, ⟨node, hnode, -⟩, -⟩ := TransGen.head'_iff.mp hcycle
    cases hnode
  held := fun ⟨_, hnode, _⟩ => nomatch hnode
  pointed := nofun
  nodup := nofun
  dead := fun key => iff_of_true rfl (.inl (Nat.zero_le key))
  freed_lt := nofun
  freed_nodup := nodup_nil
  calm := ⟨rfl, rfl⟩

/-! ## Freeing -/

/-- Some nodes have been freed, each of them once. -/
structure Frees (heap next : PlistHeap) (doomed : ℕ → Prop) : Prop where
  created : next.created = heap.created
  fault : next.fault = heap.fault
  hung : next.hung = heap.hung
  gone : ∀ key, doomed key → next.nodes key = none
  kept : ∀ key, ¬doomed key → next.nodes key = heap.nodes key
  freed : ∃ list, next.freed = list ++ heap.freed ∧ list.Nodup ∧ ∀ key, key ∈ list ↔ doomed key

lemma Frees.refl (heap : PlistHeap) : heap.Frees heap fun _ => False :=
  ⟨rfl, rfl, rfl, fun _ hnot => hnot.elim, fun _ _ => rfl, [], rfl, nodup_nil,
    fun _ => iff_of_false not_mem_nil id⟩

lemma Frees.trans {first second : ℕ → Prop} (h : heap.Frees mid first) (h' : mid.Frees next second)
    (hdisjoint : ∀ key, first key → ¬second key) :
    heap.Frees next fun key => first key ∨ second key := by
  obtain ⟨early, hearly, hnodup, hmem⟩ := h.freed
  obtain ⟨late, hlate, hnodup', hmem'⟩ := h'.freed
  refine ⟨h'.created.trans h.created, h'.fault.trans h.fault, h'.hung.trans h.hung, ?_, ?_,
    late ++ early, ?_, ?_, fun key => ?_⟩
  · rintro key (hfirst | hsnd)
    · rw [h'.kept key (hdisjoint key hfirst)]
      exact h.gone key hfirst
    · exact h'.gone key hsnd
  · intro key hnot
    rw [not_or] at hnot
    rw [h'.kept key hnot.2, h.kept key hnot.1]
  · rw [hlate, hearly, append_assoc]
  · rw [nodup_append']
    refine ⟨hnodup', hnodup, fun key hkey hother => ?_⟩
    exact hdisjoint key ((hmem key).mp hother) ((hmem' key).mp hkey)
  · rw [mem_append, hmem, hmem', or_comm]

lemma Frees.congr {first second : ℕ → Prop} (h : heap.Frees next first)
    (hiff : ∀ key, first key ↔ second key) : heap.Frees next second := by
  have heq : first = second := funext fun key => propext (hiff key)
  rwa [heq] at h

/-- Freeing nodes with nothing in common below them, one after the other: `below` is what goes with
each. -/
lemma foldlM_free (base heap : PlistHeap) (depth : ℕ) (below : ℕ → ℕ → Prop) (keys : List ℕ)
    (hfree : ∀ key ∈ keys, ∀ heap : PlistHeap,
      (∀ other, below key other → heap.nodes other = base.nodes other) →
        ∃ next, free depth key heap = some next ∧ heap.Frees next (below key))
    (hdisjoint : keys.Pairwise fun key other => ∀ low, below key low → ¬below other low)
    (hheap : ∀ key ∈ keys, ∀ other, below key other → heap.nodes other = base.nodes other) :
    ∃ next, keys.foldlM (fun heap child => free depth child heap) heap = some next ∧
      heap.Frees next fun low => ∃ key ∈ keys, below key low := by
  induction keys generalizing heap with
  | nil => exact ⟨heap, rfl, (Frees.refl heap).congr fun low => by simp⟩
  | cons key keys ih =>
    rw [pairwise_cons] at hdisjoint
    obtain ⟨mid, hmid, hfrees⟩ := hfree key mem_cons_self heap (hheap key mem_cons_self)
    obtain ⟨next, hnext, hrest⟩ := ih mid
      (fun other hother => hfree other (.tail _ hother)) hdisjoint.2 fun other hother low hlow => by
        rw [hfrees.kept low fun hboth => hdisjoint.1 other hother low hboth hlow]
        exact hheap other (.tail _ hother) low hlow
    refine ⟨next, ?_, (hfrees.trans hrest ?_).congr fun low => by simp⟩
    · rw [foldlM_cons, hmid]
      exact hnext
    · rintro low hlow ⟨other, hother, hlow'⟩
      exact hdisjoint.1 other hother low hlow hlow'

/-- **`airplay_plist_free`** in a forest: it comes to an end, and the node and what is below it are freed. -/
lemma free_spec (h : base.Sound) {rank : ℕ → ℕ}
    (hrank : ∀ holder child, base.Holds holder child → rank child < rank holder) {depth key : ℕ}
    (hdepth : rank key < depth) (hlive : base.nodes key ≠ none)
    (hheap : ∀ low, ReflTransGen base.Holds key low → heap.nodes low = base.nodes low) :
    ∃ next, free depth key heap = some next ∧ heap.Frees next (ReflTransGen base.Holds key) := by
  induction depth generalizing key heap with
  | zero => exact absurd hdepth (Nat.not_lt_zero _)
  | succ depth ih =>
    obtain ⟨node, hnode⟩ := ne_none_iff_exists'.mp hlive
    have hholds : ∀ child ∈ node.contents.children, base.Holds key child :=
      fun child hchild => ⟨node, hnode, hchild⟩
    have hbelow : ∀ child ∈ node.contents.children, ∀ low, ReflTransGen base.Holds child low →
        ReflTransGen base.Holds key low := fun child hchild low hlow => hlow.head (hholds child hchild)
    obtain ⟨mid, hmid, hfrees⟩ := foldlM_free base heap depth (ReflTransGen base.Holds)
      node.contents.children
      (fun child hchild heap hsame => by
        obtain ⟨childNode, hchildNode, -⟩ := h.held (hholds child hchild)
        refine ih ?_ (by rw [hchildNode]; exact nofun) hsame
        have hlt := hrank key child (hholds child hchild)
        omega)
      ((h.nodup hnode).imp_of_mem fun hleft hright hne low hlow hlow' =>
        h.forest.siblings (hholds _ hleft) (hholds _ hright) hne hlow hlow')
      fun child hchild low hlow => hheap low (hbelow child hchild low hlow)
    refine ⟨{ mid.setNode key none with freed := key :: mid.freed }, ?_, ?_⟩
    · rw [free, hheap key .refl, hnode]
      dsimp only
      rw [hmid]
      rfl
    have hlast : mid.Frees { mid.setNode key none with freed := key :: mid.freed }
        fun low => low = key := by
      refine ⟨rfl, rfl, rfl, ?_, ?_, [key], rfl, nodup_singleton key, fun low => ?_⟩
      · rintro low rfl
        exact update_self _ _ _
      · intro low hne
        exact update_of_ne hne _ _
      · rw [mem_singleton]
    refine (hfrees.trans hlast ?_).congr fun low => ?_
    · rintro low ⟨child, hchild, hlow⟩ rfl
      exact h.acyclic low (TransGen.head' (hholds child hchild) hlow)
    rw [ReflTransGen.cases_head_iff]
    constructor
    · rintro (⟨child, hchild, hlow⟩ | rfl)
      · exact .inr ⟨child, hholds child hchild, hlow⟩
      · exact .inl rfl
    rintro (rfl | ⟨child, ⟨other, hother, hchild⟩, hlow⟩)
    · exact .inr rfl
    rw [hnode] at hother
    cases hother
    exact .inl ⟨child, hchild, hlow⟩

/-! ## Inserting -/

/-- What a successful insertion leaves: the item points at its container, which holds it beside what it
held of the nodes that were not freed on the way. -/
structure Inserted (heap next : PlistHeap) (container item : ℕ) (doomed : ℕ → Prop) : Prop where
  created : next.created = heap.created
  fault : next.fault = heap.fault
  hung : next.hung = heap.hung
  freed : ∃ list, next.freed = list ++ heap.freed ∧ list.Nodup ∧ ∀ key, key ∈ list ↔ doomed key
  gone : ∀ key, doomed key → next.nodes key = none
  kept : ∀ key, ¬doomed key → key ≠ container → key ≠ item → next.nodes key = heap.nodes key
  itemNode : ∃ node, heap.nodes item = some node ∧
    next.nodes item = some { node with parent := some container }
  holderNode : ∃ holder contents, heap.nodes container = some holder ∧
    next.nodes container = some { holder with contents } ∧ contents.children.Nodup ∧
      ∀ child, child ∈ contents.children ↔
        child = item ∨ (child ∈ holder.contents.children ∧ ¬doomed child)

variable {contents : PlistContents} {doomed : ℕ → Prop}

variable {container : ℕ}

lemma inserted_adopt {holder : PlistNode} (hfrees : heap.Frees mid doomed)
    (hcontainer : heap.nodes container = some holder) (hitem : heap.nodes item = some node)
    (hne : item ≠ container) (hlive : ¬doomed container ∧ ¬doomed item)
    (hnodup : contents.children.Nodup)
    (hchildren : ∀ child, child ∈ contents.children ↔ child = item ∨
      (child ∈ holder.contents.children ∧ ¬doomed child)) :
    heap.Inserted (mid.adopt container contents item) container item doomed := by
  have hhold : mid.nodes container = some holder := (hfrees.kept container hlive.1).trans hcontainer
  have hnode : mid.nodes item = some node := (hfrees.kept item hlive.2).trans hitem
  have hadopt : mid.adopt container contents item =
      (mid.setNode container (some { holder with contents })).setNode item
        (some { node with parent := some container }) := by
    unfold adopt
    rw [hhold, hnode]
  have hother : ∀ key, key ≠ container → key ≠ item →
      (mid.adopt container contents item).nodes key = mid.nodes key := by
    intro key hcont hit
    rw [hadopt]
    change update (update mid.nodes container _) item _ key = _
    rw [update_of_ne hit, update_of_ne hcont]
  rw [hadopt] at hother ⊢
  refine ⟨hfrees.created, hfrees.fault, hfrees.hung, hfrees.freed, fun key hdoomed => ?_,
    fun key hdoomed hcont hit => ?_, ⟨node, hitem, update_self _ _ _⟩,
    holder, contents, hcontainer, ?_, hnodup, hchildren⟩
  · rw [hother key (fun heq => hlive.1 (heq ▸ hdoomed)) fun heq => hlive.2 (heq ▸ hdoomed)]
    exact hfrees.gone key hdoomed
  · rw [hother key hcont hit]
    exact hfrees.kept key hdoomed
  · change update (update mid.nodes container _) item _ container = _
    rw [update_of_ne (Ne.symm hne), update_self]

lemma Inserted.holds (h : heap.Inserted next container item doomed)
    (hne : item ≠ container) {holder child : ℕ} (hholds : next.Holds holder child) :
    (heap.Holds holder child ∧ ¬doomed holder ∧ (holder = container → ¬doomed child)) ∨
      (holder = container ∧ child = item) := by
  obtain ⟨node, hnode, hchild⟩ := hholds
  have hdoomed : ¬doomed holder := fun hdoomed => by
    rw [h.gone holder hdoomed] at hnode
    cases hnode
  by_cases hcont : holder = container
  · obtain ⟨old, contents, hold, hnew, -, hmem⟩ := h.holderNode
    rw [hcont, hnew] at hnode
    cases hnode
    rcases (hmem child).mp hchild with rfl | ⟨hchild, hlive⟩
    · exact .inr ⟨hcont, rfl⟩
    · exact .inl ⟨⟨old, hcont ▸ hold, hchild⟩, hdoomed, fun _ => hlive⟩
  · by_cases hit : holder = item
    · obtain ⟨old, hold, hnew⟩ := h.itemNode
      rw [hit, hnew] at hnode
      cases hnode
      exact .inl ⟨⟨old, hit ▸ hold, hchild⟩, hdoomed, fun heq => absurd heq hcont⟩
    · rw [h.kept holder hdoomed hcont hit] at hnode
      exact .inl ⟨⟨node, hnode, hchild⟩, hdoomed, fun heq => absurd heq hcont⟩

/-- **An insertion keeps the forest** if the container is not below the item. -/
lemma Sound.inserted (h : heap.Sound)
    (hins : heap.Inserted next container item doomed) (hne : item ≠ container)
    (hroot : ∀ node, heap.nodes item = some node → node.parent = none)
    (hbelow : ¬ReflTransGen heap.Holds item container)
    (hdown : ∀ holder child, heap.Holds holder child → doomed holder → doomed child)
    (hup : ∀ holder child, heap.Holds holder child → doomed child → doomed holder ∨ holder = container)
    (hlive : ∀ key, doomed key → heap.nodes key ≠ none) : next.Sound := by
  obtain ⟨itemNode, hitem, hitem'⟩ := hins.itemNode
  have hfree : ∀ key, ¬heap.Holds key item := fun key => h.not_held hitem (hroot itemNode hitem) key
  have hmono : ∀ holder child, next.Holds holder child →
      heap.Holds holder child ∨ (holder = container ∧ child = item) :=
    fun holder child hholds => (hins.holds hne hholds).imp_left And.left
  obtain ⟨holderNode, contents, hcont, hcont', hnodup, hmem⟩ := hins.holderNode
  obtain ⟨list, hfreed, hlist, hdoomed⟩ := hins.freed
  refine ⟨?_, ?_, ?_, ?_, fun key => ?_, ?_, ?_, ?_⟩
  · exact ((h.forest.add hfree hbelow).mono hmono).acyclic
  · intro holder child hholds
    rcases hins.holds hne hholds with ⟨hold, hhold, hchild⟩ | ⟨rfl, rfl⟩
    · obtain ⟨node, hnode, hpar⟩ := h.held hold
      have hliveChild : ¬doomed child := fun hnot => by
        rcases hup holder child hold hnot with hdoom | heq
        · exact hhold hdoom
        · exact hchild heq hnot
      by_cases hisItem : child = item
      · exact absurd (hisItem ▸ hold) (hfree holder)
      by_cases hisCont : child = container
      · subst hisCont
        rw [hcont] at hnode
        cases hnode
        exact ⟨_, hcont', hpar⟩
      · exact ⟨node, (hins.kept child hliveChild hisCont hisItem).trans hnode, hpar⟩
    · exact ⟨_, hitem', rfl⟩
  · intro holder child node hnode hpar
    by_cases hisItem : child = item
    · subst hisItem
      rw [hitem'] at hnode
      cases hnode
      obtain rfl := some.inj hpar
      exact ⟨_, hcont', (hmem child).mpr (.inl rfl)⟩
    have hliveChild : ¬doomed child := fun hnot => by
      rw [hins.gone child hnot] at hnode
      cases hnode
    have hold : ∃ old, heap.nodes child = some old ∧ old.parent = node.parent := by
      by_cases hisCont : child = container
      · subst hisCont
        rw [hcont'] at hnode
        cases hnode
        exact ⟨holderNode, hcont, rfl⟩
      · rw [hins.kept child hliveChild hisCont hisItem] at hnode
        exact ⟨node, hnode, rfl⟩
    obtain ⟨old, hold, hsame⟩ := hold
    obtain ⟨above, habove, hchild⟩ := h.pointed hold (hsame.trans hpar)
    by_cases hisCont : holder = container
    · subst hisCont
      rw [hcont] at habove
      cases habove
      exact ⟨_, hcont', (hmem child).mpr (.inr ⟨hchild, hliveChild⟩)⟩
    by_cases hholderItem : holder = item
    · subst hholderItem
      rw [hitem] at habove
      cases habove
      exact ⟨_, hitem', hchild⟩
    · have hliveHolder : ¬doomed holder :=
        fun hnot => hliveChild (hdown holder child ⟨above, habove, hchild⟩ hnot)
      exact ⟨above, (hins.kept holder hliveHolder hisCont hholderItem).trans habove, hchild⟩
  · intro key node hnode
    by_cases hisCont : key = container
    · subst hisCont
      rw [hcont'] at hnode
      cases hnode
      exact hnodup
    by_cases hisItem : key = item
    · subst hisItem
      rw [hitem'] at hnode
      cases hnode
      have hsame : itemNode.contents.children.Nodup := h.nodup hitem
      exact hsame
    · have hliveKey : ¬doomed key := fun hnot => by
        rw [hins.gone key hnot] at hnode
        cases hnode
      rw [hins.kept key hliveKey hisCont hisItem] at hnode
      exact h.nodup hnode
  · rw [hins.created, hfreed, mem_append, hdoomed]
    by_cases hdoom : doomed key
    · exact iff_of_true (hins.gone key hdoom) (.inr (.inl hdoom))
    have hsame : next.nodes key = none ↔ heap.nodes key = none := by
      by_cases hisCont : key = container
      · rw [hisCont, hcont, hcont']
        exact iff_of_false nofun nofun
      by_cases hisItem : key = item
      · rw [hisItem, hitem, hitem']
        exact iff_of_false nofun nofun
      · rw [hins.kept key hdoom hisCont hisItem]
    rw [hsame, h.dead key]
    simp [hdoom]
  · intro key hkey
    rw [hfreed, mem_append] at hkey
    rw [hins.created]
    rcases hkey with hkey | hkey
    · exact h.lt_created (hlive key ((hdoomed key).mp hkey))
    · exact h.freed_lt key hkey
  · rw [hfreed, nodup_append']
    refine ⟨hlist, h.freed_nodup, fun key hkey hother => ?_⟩
    exact hlive key ((hdoomed key).mp hkey) ((h.dead key).mpr (.inr hother))
  · rw [hins.fault, hins.hung]
    exact h.calm

lemma Sound.more (h : heap.Sound) (hempty : contents.children = [])
    (hself : next.nodes heap.created = some ⟨contents, none⟩)
    (hother : ∀ key, key ≠ heap.created → next.nodes key = heap.nodes key)
    (hcreated : next.created = heap.created + 1) (hfreed : next.freed = heap.freed)
    (hcalm : next.fault = heap.fault ∧ next.hung = heap.hung) : next.Sound := by
  have hnone : heap.nodes heap.created = none := (h.dead _).mpr (.inl le_rfl)
  have hlive : ∀ {key node}, heap.nodes key = some node → next.nodes key = some node := by
    intro key node hnode
    have hne : key ≠ heap.created := by
      rintro rfl
      rw [hnone] at hnode
      cases hnode
    rw [hother key hne, hnode]
  have hholds : ∀ holder child, next.Holds holder child → heap.Holds holder child := by
    rintro holder child ⟨node, hnode, hchild⟩
    by_cases hnew : holder = heap.created
    · obtain rfl := some.inj ((hnew ▸ hself).symm.trans hnode)
      rw [show (PlistNode.mk contents none).contents.children = [] from hempty] at hchild
      exact absurd hchild not_mem_nil
    · exact ⟨node, (hother holder hnew).symm.trans hnode, hchild⟩
  refine ⟨(h.forest.mono hholds).acyclic, ?_, ?_, ?_, fun key => ?_, fun key hkey => ?_, ?_, ?_⟩
  · intro holder child hhold
    obtain ⟨node, hnode, hpar⟩ := h.held (hholds _ _ hhold)
    exact ⟨node, hlive hnode, hpar⟩
  · intro holder child node hnode hpar
    by_cases hnew : child = heap.created
    · obtain rfl := some.inj ((hnew ▸ hself).symm.trans hnode)
      cases hpar
    · obtain ⟨above, habove, hchild⟩ := h.pointed ((hother child hnew).symm.trans hnode) hpar
      exact ⟨above, hlive habove, hchild⟩
  · intro key node hnode
    by_cases hnew : key = heap.created
    · obtain rfl := some.inj ((hnew ▸ hself).symm.trans hnode)
      rw [show (PlistNode.mk contents none).contents.children = [] from hempty]
      exact nodup_nil
    · exact h.nodup ((hother key hnew).symm.trans hnode)
  · rw [hcreated, hfreed]
    by_cases hnew : key = heap.created
    · rw [hnew, hself]
      refine iff_of_false nofun ?_
      rintro (hle | hmem)
      · exact absurd hle (Nat.not_succ_le_self _)
      · exact absurd (h.freed_lt _ hmem) (Nat.lt_irrefl _)
    · rw [hother key hnew, h.dead key]
      exact or_congr_left (by omega)
  · rw [hfreed] at hkey
    rw [hcreated]
    exact (h.freed_lt key hkey).trans (Nat.lt_succ_self _)
  · rw [hfreed]
    exact h.freed_nodup
  · rw [hcalm.1, hcalm.2]
    exact h.calm

lemma Sound.newValue (h : heap.Sound) (contents : PlistContents) : (heap.newValue contents).Sound := by
  unfold PlistHeap.newValue
  split_ifs with hempty
  · exact h.more hempty (update_self _ _ _) (fun key hne => update_of_ne hne _ _) rfl rfl ⟨rfl, rfl⟩
  · exact h

lemma Sound.arrayAppend (h : heap.Sound) {array : ℕ} {memory : Bool}
    (hlive : heap.OnLive (.arrayAppend array item memory))
    (hbelow : heap.Below (.arrayAppend array item memory)) :
    (heap.arrayAppend array item memory).2.Sound := by
  obtain ⟨⟨contents, parent⟩, hhold⟩ := ne_none_iff_exists'.mp hlive.1
  obtain ⟨node, hnode⟩ := ne_none_iff_exists'.mp hlive.2
  unfold PlistHeap.arrayAppend
  rw [hhold]
  cases contents with
  | scalar | dict => exact h
  | array items =>
    rw [hnode]
    dsimp only
    split_ifs with hok
    · have hinserts : heap.inserts (.arrayAppend array item memory) = some (array, item) := by
        simp only [inserts, hhold, hnode]
        exact if_pos hok
      unfold arrayAccepts at hok
      simp only [Bool.and_eq_true, decide_eq_true_eq] at hok
      obtain ⟨⟨hpar, hne, -⟩, -⟩ := hok
      have hitems : items.Nodup := h.nodup hhold
      have hnew : item ∉ items := fun hmem => h.not_held hnode hpar array ⟨_, hhold, hmem⟩
      refine h.inserted (inserted_adopt (Frees.refl heap) hhold hnode hne ⟨id, id⟩ ?_ fun child => ?_) hne
        (fun other hother => some.inj (hnode.symm.trans hother) ▸ hpar)
        (hbelow array item hinserts) (fun _ _ _ hnot => hnot) (fun _ _ _ hnot => hnot.elim)
        (fun _ hnot => hnot.elim)
      · exact nodup_append'.mpr ⟨hitems, nodup_singleton item, by simpa using hnew⟩
      · simp [PlistContents.children, or_comm]
    · exact h

variable {entries : List (CString × ℕ)}

lemma children_modify {index : ℕ} {entry : CString × ℕ}
    (hentry : entries[index]? = some entry) (value : ℕ) :
    ∃ front back, entries.map (·.2) = front ++ entry.2 :: back ∧
      (PlistContents.dict (entries.modify index fun entry => (entry.1, value))).children =
        front ++ value :: back := by
  obtain ⟨hindex, rfl⟩ := List.getElem?_eq_some_iff.mp hentry
  refine ⟨(entries.take index).map (·.2), (entries.drop (index + 1)).map (·.2), ?_, ?_⟩
  · calc entries.map (·.2)
        = (entries.take index ++ entries[index] :: entries.drop (index + 1)).map (·.2) := by
          rw [getElem_cons_drop, take_append_drop]
      _ = _ := by rw [map_append, map_cons]
  · change (entries.modify index _).map (·.2) = _
    rw [modify_eq_take_cons_drop hindex, map_append, map_cons]

variable (h : heap.Sound)

include h

/-- What goes with the old value of a key, and what is left beside the new one. -/
lemma Sound.dictReplace {dict value old : ℕ}
    {parent : Option ℕ} {front back : List ℕ}
    (hholder : heap.nodes dict = some ⟨.dict entries, parent⟩)
    (hnode : heap.nodes value = some node) (hpar : node.parent = none) (hne : value ≠ dict)
    (hbelow : ¬ReflTransGen heap.Holds value dict) (hold : entries.map (·.2) = front ++ old :: back)
    (hcontents : contents.children = front ++ value :: back) :
    ∃ mid, free (heap.created + 1) old heap = some mid ∧ (mid.adopt dict contents value).Sound := by
  have hholds : heap.Holds dict old := by
    refine ⟨_, hholder, ?_⟩
    change old ∈ entries.map (·.2)
    rw [hold]
    exact mem_append_right front mem_cons_self
  have hnot : ∀ key, ¬heap.Holds key value := h.not_held hnode hpar
  obtain ⟨oldNode, holdNode, -⟩ := h.held hholds
  obtain ⟨rank, hle, hrank⟩ := h.exists_rank
  obtain ⟨mid, hmid, hfrees⟩ := free_spec h hrank (Nat.lt_succ_of_le (hle old))
    (by rw [holdNode]; exact nofun) fun _ _ => rfl
  have hdict : ¬ReflTransGen heap.Holds old dict :=
    fun hway => h.acyclic dict (TransGen.head' hholds hway)
  have hvalue : ¬ReflTransGen heap.Holds old value := by
    intro hway
    rcases hway.cases_tail with rfl | ⟨above, -, habove⟩
    · exact hnot dict hholds
    · exact hnot above habove
  have hitems : (front ++ old :: back).Nodup := hold ▸ h.nodup hholder
  have hchildren : ∀ child, child ∈ front ++ old :: back → heap.Holds dict child := by
    intro child hchild
    rw [← hold] at hchild
    exact ⟨_, hholder, hchild⟩
  have hnew : value ∉ front ++ old :: back := fun hmem => hnot dict (hchildren value hmem)
  refine ⟨mid, hmid, h.inserted (inserted_adopt hfrees hholder hnode hne ⟨hdict, hvalue⟩ ?_ fun child => ?_) hne
    (fun other hother => some.inj (hnode.symm.trans hother) ▸ hpar) hbelow
    (fun holder child hhold hway => hway.tail hhold) (fun holder child hhold hway => ?_) (fun key hway => ?_)⟩
  · rw [hcontents]
    rw [nodup_middle, nodup_cons] at hitems ⊢
    refine ⟨fun hmem => hnew ?_, hitems.2⟩
    rcases mem_append.mp hmem with hmem | hmem
    · exact mem_append_left _ hmem
    · exact mem_append_right _ (.tail _ hmem)
  · change child ∈ contents.children ↔ child = value ∨ (child ∈ entries.map (·.2) ∧ _)
    rw [hcontents, hold]
    have hkept : ∀ other, other ∈ front ++ back → ¬ReflTransGen heap.Holds old other := by
      intro other hother hway
      rw [nodup_middle, nodup_cons] at hitems
      refine h.forest.siblings hholds (hchildren other ?_) (fun heq => hitems.1 (heq ▸ hother)) hway .refl
      rcases mem_append.mp hother with hother | hother
      · exact mem_append_left _ hother
      · exact mem_append_right _ (.tail _ hother)
    simp only [mem_append, mem_cons] at hkept ⊢
    constructor
    · rintro (hfront | rfl | hback)
      · exact .inr ⟨.inl hfront, hkept child (.inl hfront)⟩
      · exact .inl rfl
      · exact .inr ⟨.inr (.inr hback), hkept child (.inr hback)⟩
    · rintro (rfl | ⟨hfront | rfl | hback, hlive⟩)
      · exact .inr (.inl rfl)
      · exact .inl hfront
      · exact absurd .refl hlive
      · exact .inr (.inr hback)
  · rcases hway.cases_tail with rfl | ⟨above, hup, habove⟩
    · exact .inr (h.forest.unique hhold hholds)
    · exact .inl (h.forest.unique habove hhold ▸ hup)
  · rcases hway.cases_tail with rfl | ⟨above, -, habove⟩
    · rw [holdNode]
      exact nofun
    · obtain ⟨other, hother, -⟩ := h.held habove
      rw [hother]
      exact nofun

lemma Sound.dictSet {dict value : ℕ} {key : CString} {keyMemory memory : Bool}
    (hlive : heap.OnLive (.dictSet dict key value keyMemory memory))
    (hbelow : heap.Below (.dictSet dict key value keyMemory memory)) :
    (heap.dictSet dict key value keyMemory memory).2.Sound := by
  obtain ⟨⟨contents, parent⟩, hhold⟩ := ne_none_iff_exists'.mp hlive.1
  obtain ⟨node, hnode⟩ := ne_none_iff_exists'.mp hlive.2
  unfold PlistHeap.dictSet
  rw [hhold]
  cases contents with
  | scalar | array => exact h
  | dict entries =>
    rw [hnode]
    dsimp only
    split_ifs with hok
    · have hinserts : heap.inserts (.dictSet dict key value keyMemory memory) = some (dict, value) := by
        simp only [inserts, hhold, hnode]
        exact if_pos hok
      have hunder := hbelow dict value hinserts
      unfold dictAccepts at hok
      simp only [Bool.and_eq_true, decide_eq_true_eq] at hok
      obtain ⟨⟨⟨hpar, hne, -⟩, -⟩, -⟩ := hok
      cases hfind : dictFind entries key with
      | some index =>
        obtain ⟨hindex, -⟩ := findIdx?_eq_some_iff_getElem.mp hfind
        have hentry : entries[index]? = some entries[index] := getElem?_eq_getElem hindex
        obtain ⟨front, back, hold, hnew⟩ := children_modify hentry value
        obtain ⟨mid, hmid, hsound⟩ := h.dictReplace hhold hnode hpar hne hunder hold hnew
        dsimp only
        rw [hentry, bind_some, hmid]
        exact hsound
      | none =>
        have hitems : (entries.map (·.2)).Nodup := h.nodup hhold
        have hnew : value ∉ entries.map (·.2) :=
          fun hmem => h.not_held hnode hpar dict ⟨_, hhold, hmem⟩
        refine h.inserted (inserted_adopt (Frees.refl heap) hhold hnode hne ⟨id, id⟩ ?_ fun child => ?_) hne
          (fun other hother => some.inj (hnode.symm.trans hother) ▸ hpar)
          hunder (fun _ _ _ hnot => hnot) (fun _ _ _ hnot => hnot.elim) (fun _ hnot => hnot.elim)
        · change ((entries ++ [(key, value)]).map (·.2)).Nodup
          rw [map_append]
          exact nodup_append'.mpr ⟨hitems, nodup_singleton value, by simpa using hnew⟩
        · change child ∈ (entries ++ [(key, value)]).map (·.2) ↔ child = value ∨ (child ∈ entries.map (·.2) ∧ ¬False)
          simp [or_comm]
    · exact h

/-! ## Runs -/

lemma Sound.plistStep {call : PlistCall} (hlive : heap.OnLive call)
    (hbelow : heap.Below call) : (plistStep heap call).Sound := by
  cases call with
  | newValue contents => exact h.newValue contents
  | arrayAppend array item memory => exact h.arrayAppend hlive hbelow
  | dictSet dict key value keyMemory memory => exact h.dictSet hlive hbelow

lemma Sound.exists_root {key : ℕ} (hlive : heap.nodes key ≠ none) :
    ∃ root node, heap.nodes root = some node ∧ node.parent = none ∧ ReflTransGen heap.Holds root key := by
  obtain ⟨rank, hle, hrank⟩ := h.exists_rank
  generalize hgap : heap.created - rank key = gap
  induction gap using Nat.strong_induction_on generalizing key with
  | _ gap ih =>
    obtain ⟨node, hnode⟩ := ne_none_iff_exists'.mp hlive
    cases hpar : node.parent with
    | none => exact ⟨key, node, hnode, hpar, .refl⟩
    | some holder =>
      have hholds : heap.Holds holder key := h.pointed hnode hpar
      have hlive' : heap.nodes holder ≠ none := by
        obtain ⟨holderNode, hhold, -⟩ := hholds
        rw [hhold]
        exact nofun
      have hup := hrank holder key hholds
      have hbound := hle holder
      obtain ⟨root, rootNode, hroot, hfree, hway⟩ := ih _ (by omega) hlive' rfl
      exact ⟨root, rootNode, hroot, hfree, hway.tail hholds⟩

/-- **Freeing the roots** frees every node, and each of them once. -/
lemma Sound.free_roots {roots : List ℕ} (hnodup : roots.Nodup)
    (hroots : ∀ key, key ∈ roots ↔ ∃ node, heap.nodes key = some node ∧ node.parent = none) :
    ∃ final, roots.foldlM (fun next root => free (heap.created + 1) root next) heap = some final ∧
      final.fault = false ∧ ∀ key < heap.created, final.nodes key = none ∧ final.freed.count key = 1 := by
  obtain ⟨rank, hle, hrank⟩ := h.exists_rank
  have hfree : ∀ root ∈ roots, ∀ key, ¬heap.Holds key root := by
    intro root hroot
    obtain ⟨node, hnode, hpar⟩ := (hroots root).mp hroot
    exact h.not_held hnode hpar
  obtain ⟨final, hfinal, hfrees⟩ := foldlM_free heap heap (heap.created + 1)
    (ReflTransGen heap.Holds) roots
    (fun root hroot next hsame => by
      obtain ⟨node, hnode, -⟩ := (hroots root).mp hroot
      exact free_spec h hrank (Nat.lt_succ_of_le (hle root)) (by rw [hnode]; exact nofun) hsame)
    (hnodup.imp_of_mem fun hleft hright hne low hlow hlow' =>
      hne (h.forest.roots (hfree _ hleft) (hfree _ hright) hlow hlow'))
    fun _ _ _ _ => rfl
  refine ⟨final, hfinal, hfrees.fault.trans h.calm.1, fun key hkey => ?_⟩
  obtain ⟨list, hfreed, hlist, hmem⟩ := hfrees.freed
  by_cases hlive : heap.nodes key = none
  · have hdead : key ∈ heap.freed := ((h.dead key).mp hlive).resolve_left (not_le.mpr hkey)
    have hnot : ¬∃ root ∈ roots, ReflTransGen heap.Holds root key := by
      rintro ⟨root, hroot, hway⟩
      obtain ⟨node, hnode, -⟩ := (hroots root).mp hroot
      rcases hway.cases_tail with rfl | ⟨above, -, habove⟩
      · exact nomatch hlive.symm.trans hnode
      · obtain ⟨other, hother, -⟩ := h.held habove
        exact nomatch hlive.symm.trans hother
    refine ⟨(hfrees.kept key hnot).trans hlive, ?_⟩
    rw [hfreed, count_append, count_eq_zero_of_not_mem fun hin => hnot ((hmem key).mp hin),
      count_eq_one_of_mem h.freed_nodup hdead]
  · obtain ⟨root, node, hnode, hpar, hway⟩ := h.exists_root hlive
    have hdoomed : ∃ root ∈ roots, ReflTransGen heap.Holds root key :=
      ⟨root, (hroots root).mpr ⟨node, hnode, hpar⟩, hway⟩
    have hold : key ∉ heap.freed := fun hin => hlive ((h.dead key).mpr (.inr hin))
    refine ⟨hfrees.gone key hdoomed, ?_⟩
    rw [hfreed, count_append, count_eq_one_of_mem hlist ((hmem key).mpr hdoomed),
      count_eq_zero_of_not_mem hold]

end PlistHeap

open PlistHeap Relation

/-- **The forest of nodes.** As long as no item is put under a container that is below it, nothing is below
itself, nothing is held twice, and freeing the roots comes to an end with each node freed once. -/
theorem plist_forest {heap : PlistHeap}
    (h : Runs.Reachable plistStep .initial (fun heap call => heap.OnLive call ∧ heap.Below call) heap) :
    (∀ key, ¬TransGen heap.Holds key key) ∧
    (∀ holder other child, heap.Holds holder child → heap.Holds other child → holder = other) ∧
    (∀ key node, heap.nodes key = some node → node.contents.children.Nodup) ∧
    (heap.fault = false ∧ heap.hung = false) ∧
    ∀ roots : List ℕ, roots.Nodup →
      (∀ key, key ∈ roots ↔ ∃ node, heap.nodes key = some node ∧ node.parent = none) →
        ∃ final, roots.foldlM (fun next root => free (heap.created + 1) root next) heap = some final ∧
          final.fault = false ∧
            ∀ key < heap.created, final.nodes key = none ∧ final.freed.count key = 1 := by
  have hsound : heap.Sound := h.invariant PlistHeap.sound_initial fun heap call hheap hok =>
    hheap.plistStep hok.1 hok.2
  exact ⟨hsound.acyclic, fun _ _ _ hleft hright => hsound.forest.unique hleft hright,
    fun _ _ hnode => hsound.nodup hnode, hsound.calm,
    fun _ hnodup hroots => hsound.free_roots hnodup hroots⟩

/-- The calls that put an array and a scalar together. -/
def pairCalls : List PlistCall := [.newValue (.array []), .newValue .scalar, .arrayAppend 0 1 true]

theorem plist_forest_pair :
    ∃ final, [0].foldlM (fun next root => free 3 root next) (Runs.run plistStep .initial pairCalls) =
        some final ∧ final.fault = false ∧ final.freed.count 0 = 1 ∧ final.freed.count 1 = 1 := by
  have halong : Runs.Along plistStep (fun heap call => heap.OnLive call ∧ heap.Below call) .initial
      pairCalls := by
    refine ⟨⟨trivial, nofun⟩, ⟨trivial, nofun⟩, ⟨⟨by decide, by decide⟩, ?_⟩, trivial⟩
    rintro container item hinserts hway
    obtain ⟨rfl, rfl⟩ : 0 = container ∧ 1 = item := by
      rw [← Prod.mk.injEq]
      exact some.inj hinserts
    rcases hway.cases_head with heq | ⟨child, ⟨node, hnode, hchild⟩, -⟩
    · exact absurd heq (by decide)
    · obtain rfl := some.inj hnode
      exact absurd hchild List.not_mem_nil
  obtain ⟨-, -, -, -, hroots⟩ := plist_forest (Runs.Reachable.start.along halong)
  obtain ⟨final, hfinal, hfault, hfreed⟩ := hroots [0] (List.nodup_singleton 0) fun key => by
    match key with
    | 0 => exact iff_of_true List.mem_cons_self ⟨_, rfl, rfl⟩
    | 1 => exact iff_of_false (by decide) (by rintro ⟨node, hnode, hparent⟩; cases hnode; exact nomatch hparent)
    | key + 2 => exact iff_of_false (by simp) (by rintro ⟨node, hnode, -⟩; exact nomatch hnode)
  exact ⟨final, hfinal, hfault, (hfreed 0 (by decide)).2, (hfreed 1 (by decide)).2⟩

/-- Two arrays that are put into each other. -/
def circleCalls : List PlistCall :=
  [.newValue (.array []), .newValue (.array []), .arrayAppend 0 1 true, .arrayAppend 1 0 true]

/-- Both of them are live and point at no holder when they are put into each other; both calls succeed,
and freeing one of them does not come to an end. -/
theorem plist_circle :
    Runs.Along plistStep OnLive .initial circleCalls ∧
    (arrayAppend (Runs.run plistStep .initial (circleCalls.take 2)) 0 1 true).1 = true ∧
    (arrayAppend (Runs.run plistStep .initial (circleCalls.take 3)) 1 0 true).1 = true ∧
    TransGen (Runs.run plistStep .initial circleCalls).Holds 0 0 ∧
    (free 3 0 (Runs.run plistStep .initial circleCalls)).isNone = true := by
  refine ⟨⟨trivial, trivial, ⟨by decide, by decide⟩, ⟨by decide, by decide⟩, trivial⟩, by decide,
    by decide, ?_, by decide⟩
  have hdown : (Runs.run plistStep .initial circleCalls).Holds 0 1 := ⟨_, rfl, by decide⟩
  have hup : (Runs.run plistStep .initial circleCalls).Holds 1 0 := ⟨_, rfl, by decide⟩
  exact .head hdown (.single hup)

end NXCast
