import NXCast.Framework.Forest
import NXCast.Framework.Runs
import NXCast.Plist.Value

/-!
# Property-list nodes in memory

`plist.c` builds a property list out of allocated nodes: a container holds pointers to what is in it, and
a node points back at the container it was put into.  A node is named by the number of nodes created
before it; what a scalar node holds is left out.  `freed` are the nodes that were freed, newest first,
`fault` says that a call touched a freed node, and `hung` that a call did not come to an end.

`airplay_plist_free` recurses into what a container holds.  Its depth is bounded here by the number of
nodes ever created: a recursion that goes deeper has met a node inside itself.
-/

namespace NXCast

/-- What a node is of the types of `plist.c`. -/
inductive PlistContents where
  | scalar
  | array (items : List ℕ)
  | dict (entries : List (CString × ℕ))

/-- The nodes that a node holds. -/
def PlistContents.children : PlistContents → List ℕ
  | scalar => []
  | array items => items
  | dict entries => entries.map (·.2)

/-- An allocated `AirPlayPlistValue`. -/
structure PlistNode where
  contents : PlistContents
  parent : Option ℕ

/-- The nodes of a program. -/
structure PlistHeap where
  nodes : ℕ → Option PlistNode
  created : ℕ
  freed : List ℕ
  fault : Bool
  hung : Bool

namespace PlistHeap

/-- No node was created. -/
def initial : PlistHeap := ⟨fun _ => none, 0, [], false, false⟩

variable (heap : PlistHeap)

/-- A node is written. -/
def setNode (key : ℕ) (node : Option PlistNode) : PlistHeap :=
  { heap with nodes := Function.update heap.nodes key node }

/-- A freed node is touched. -/
def touchFreed : PlistHeap := { heap with fault := true }

/-- `plist_new_value`, for a node that holds nothing yet. -/
def newValue (contents : PlistContents) : PlistHeap :=
  if contents.children = [] then
    { heap.setNode heap.created (some ⟨contents, none⟩) with created := heap.created + 1 }
  else heap

/-- `airplay_plist_free`; nothing comes back from a recursion that goes too deep. -/
def free : ℕ → ℕ → PlistHeap → Option PlistHeap
  | 0, _, _ => none
  | depth + 1, key, heap =>
    match heap.nodes key with
    | none => some heap.touchFreed
    | some node =>
      (node.contents.children.foldlM (fun heap child => free depth child heap) heap).map fun heap =>
        { heap.setNode key none with freed := key :: heap.freed }

/-- A container is written with an item in it, which points back at it. -/
def adopt (container : ℕ) (contents : PlistContents) (item : ℕ) : PlistHeap :=
  match heap.nodes container, heap.nodes item with
  | some holder, some node =>
    (heap.setNode container (some { holder with contents })).setNode item
      (some { node with parent := some container })
  | _, _ => heap.touchFreed

/-- The checks of `airplay_plist_array_append`; `memory` says whether `realloc` succeeds. -/
def arrayAccepts (array : ℕ) (items : List ℕ) (item : ℕ) (node : PlistNode) (memory : Bool) : Bool :=
  decide (node.parent = none ∧ item ≠ array ∧ items.length < airplayPlistMaxContainerItems ∧
    plistSizeMultiply (items.length + 1) 8 ≠ none) && memory

/-- `airplay_plist_array_append` -/
def arrayAppend (array item : ℕ) (memory : Bool) : Bool × PlistHeap :=
  match heap.nodes array with
  | none => (false, heap.touchFreed)
  | some ⟨.array items, _⟩ =>
    match heap.nodes item with
    | none => (false, heap.touchFreed)
    | some node =>
      if arrayAccepts array items item node memory then
        (true, heap.adopt array (.array (items ++ [item])) item)
      else (false, heap)
  | some _ => (false, heap)

/-- `plist_dict_find` -/
def dictFind (entries : List (CString × ℕ)) (key : CString) : Option ℕ :=
  entries.findIdx? fun entry => decide (entry.1 = key)

/-- The checks of `airplay_plist_dict_set`; `keyMemory` and `memory` say whether the copy of the key and
`realloc` succeed. -/
def dictAccepts (dict : ℕ) (entries : List (CString × ℕ)) (key : CString) (value : ℕ)
    (node : PlistNode) (keyMemory memory : Bool) : Bool :=
  decide (node.parent = none ∧ value ≠ dict ∧ plistUtf8Measure key ≠ none ∧
    plistStringDuplicate key ≠ none) && keyMemory &&
      (decide (dictFind entries key ≠ none) ||
        (decide (entries.length < airplayPlistMaxContainerItems ∧
          plistSizeMultiply (entries.length + 1) 16 ≠ none) && memory))

/-- `airplay_plist_dict_set` -/
def dictSet (dict : ℕ) (key : CString) (value : ℕ) (keyMemory memory : Bool) : Bool × PlistHeap :=
  match heap.nodes dict with
  | none => (false, heap.touchFreed)
  | some ⟨.dict entries, _⟩ =>
    match heap.nodes value with
    | none => (false, heap.touchFreed)
    | some node =>
      if dictAccepts dict entries key value node keyMemory memory then
        match dictFind entries key with
        | some index =>
          match (entries[index]?).bind fun entry => free (heap.created + 1) entry.2 heap with
          | some heap =>
            (true, heap.adopt dict (.dict (entries.modify index fun entry => (entry.1, value))) value)
          | none => (true, { heap with hung := true })
        | none => (true, heap.adopt dict (.dict (entries ++ [(key, value)])) value)
      else (false, heap)
  | some _ => (false, heap)

end PlistHeap

/-- A call that builds a property list. -/
inductive PlistCall where
  | newValue (contents : PlistContents)
  | arrayAppend (array item : ℕ) (memory : Bool)
  | dictSet (dict : ℕ) (key : CString) (value : ℕ) (keyMemory memory : Bool)

/-- One call. -/
def plistStep (heap : PlistHeap) : PlistCall → PlistHeap
  | .newValue contents => heap.newValue contents
  | .arrayAppend array item memory => (heap.arrayAppend array item memory).2
  | .dictSet dict key value keyMemory memory => (heap.dictSet dict key value keyMemory memory).2

namespace PlistHeap

/-- A node holds another. -/
def Holds (heap : PlistHeap) (holder child : ℕ) : Prop :=
  ∃ node, heap.nodes holder = some node ∧ child ∈ node.contents.children

/-- The container and the item of a call that the checks let through. -/
def inserts (heap : PlistHeap) : PlistCall → Option (ℕ × ℕ)
  | .newValue _ => none
  | .arrayAppend array item memory =>
    match heap.nodes array, heap.nodes item with
    | some ⟨.array items, _⟩, some node =>
      if arrayAccepts array items item node memory then some (array, item) else none
    | _, _ => none
  | .dictSet dict key value keyMemory memory =>
    match heap.nodes dict, heap.nodes value with
    | some ⟨.dict entries, _⟩, some node =>
      if dictAccepts dict entries key value node keyMemory memory then some (dict, value) else none
    | _, _ => none

/-- The nodes that a call is given have not been freed. -/
def OnLive (heap : PlistHeap) : PlistCall → Prop
  | .newValue _ => True
  | .arrayAppend array item _ => heap.nodes array ≠ none ∧ heap.nodes item ≠ none
  | .dictSet dict _ value _ _ => heap.nodes dict ≠ none ∧ heap.nodes value ≠ none

/-- The container of a call that the checks let through is not below its item. -/
def Below (heap : PlistHeap) (call : PlistCall) : Prop :=
  ∀ container item, heap.inserts call = some (container, item) →
    ¬Relation.ReflTransGen heap.Holds item container

end PlistHeap

end NXCast
