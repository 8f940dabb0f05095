import Mathlib.Data.List.Nodup
import Mathlib.Tactic.Common

/-!
# Tables with two keys

A table whose entries are to be unique in each of two keys, and an update that overwrites the
first entry with one of the keys of the new one.  That keeps the table unique exactly if the new
entry does not meet two others, one by each key (`distinct_put_iff`): of these only the first is
overwritten.
-/

namespace TwoKeys

open List

variable {α β γ : Type} [DecidableEq β] [DecidableEq γ] (f : α → β) (g : α → γ)

/-- No two entries share a key. -/
structure Distinct (entries : List α) : Prop where
  first : (entries.map f).Nodup
  second : (entries.map g).Nodup

/-- The place of the first entry with one of the keys. -/
def slotOf (entry : α) (entries : List α) : Option ℕ :=
  entries.findIdx? fun other => decide (f other = f entry ∨ g other = g entry)

/-- The table with an entry in its slot, or behind the others. -/
def put (entry : α) (entries : List α) : List α :=
  match slotOf f g entry entries with
  | some slot => entries.set slot entry
  | none => entries ++ [entry]

/-- Two entries, of which one has the first key and the other the second. -/
def MeetsTwo (entry : α) (entries : List α) : Prop :=
  ∃ other ∈ entries, ∃ another ∈ entries,
    f other = f entry ∧ g another = g entry ∧ f other ≠ f another

variable {f g} {entry : α} {entries : List α}

lemma slotOf_eq_some {slot : ℕ} (h : slotOf f g entry entries = some slot) :
    ∃ before met after, entries = before ++ met :: after ∧ before.length = slot ∧
      (f met = f entry ∨ g met = g entry) ∧
      ∀ other ∈ before, f other ≠ f entry ∧ g other ≠ g entry := by
  obtain ⟨hslot, hmet, hpre⟩ := findIdx?_eq_some_iff_getElem.mp h
  refine ⟨entries.take slot, entries[slot], entries.drop (slot + 1), ?_, ?_, ?_, ?_⟩
  · rw [← drop_eq_getElem_cons hslot, take_append_drop]
  · rw [length_take]
    exact Nat.min_eq_left (Nat.le_of_lt hslot)
  · exact of_decide_eq_true hmet
  intro other hother
  obtain ⟨place, hplace, rfl⟩ := getElem_of_mem hother
  have hlt : place < slot := Nat.lt_of_lt_of_le hplace (length_take_le slot entries)
  have hno := hpre place hlt
  rw [decide_eq_true_iff, not_or] at hno
  rwa [getElem_take]

lemma slotOf_eq_none (h : slotOf f g entry entries = none) :
    ∀ other ∈ entries, f other ≠ f entry ∧ g other ≠ g entry := by
  intro other hother
  have hno := findIdx?_eq_none_iff.mp h other hother
  rwa [decide_eq_false_iff_not, not_or] at hno

/-- The table with the entry, as a list with its new entry in some place. -/
lemma put_eq (entry : α) (entries : List α) :
    (∃ before met after, entries = before ++ met :: after ∧
        put f g entry entries = before ++ entry :: after ∧
        (f met = f entry ∨ g met = g entry) ∧
        ∀ other ∈ before, f other ≠ f entry ∧ g other ≠ g entry) ∨
      (put f g entry entries = entries ++ [entry] ∧
        ∀ other ∈ entries, f other ≠ f entry ∧ g other ≠ g entry) := by
  unfold put
  cases hslot : slotOf f g entry entries with
  | none => exact .inr ⟨rfl, slotOf_eq_none hslot⟩
  | some slot =>
    obtain ⟨before, met, after, rfl, rfl, hmet, hpre⟩ := slotOf_eq_some hslot
    refine .inl ⟨before, met, after, rfl, ?_, hmet, hpre⟩
    dsimp only
    rw [set_append_right _ _ (Nat.le_refl _), Nat.sub_self, set_cons_zero]

lemma mem_put_self : entry ∈ put f g entry entries := by
  rcases put_eq (f := f) (g := g) entry entries with ⟨before, met, after, -, hput, -⟩ | ⟨hput, -⟩
  · rw [hput]
    exact mem_append_right _ mem_cons_self
  · rw [hput]
    exact mem_append_right _ (mem_singleton_self _)

lemma nodup_map_insert {δ : Type} {key : α → δ} {before after : List α}
    (h : ((before ++ after).map key).Nodup) :
    ((before ++ entry :: after).map key).Nodup ↔ ∀ other ∈ before ++ after, key other ≠ key entry := by
  rw [map_append, map_cons, nodup_middle, nodup_cons, ← map_append]
  simp only [h, and_true, mem_map, not_exists, not_and, ne_eq]

lemma nodup_of_insert {δ : Type} {key : α → δ} {before after : List α}
    (h : ((before ++ entry :: after).map key).Nodup) : ((before ++ after).map key).Nodup := by
  rw [map_append, map_cons, nodup_middle, nodup_cons, ← map_append] at h
  exact h.2

/-- **Uniqueness** is kept exactly where the new entry does not meet two others. -/
theorem distinct_put_iff (h : Distinct f g entries) :
    Distinct f g (put f g entry entries) ↔ ¬ MeetsTwo f g entry entries := by
  rcases put_eq (f := f) (g := g) entry entries with
    ⟨before, met, after, rfl, hput, hmet, hpre⟩ | ⟨hput, hnone⟩
  · have hfirst := nodup_of_insert h.first
    have hsnd := nodup_of_insert h.second
    have hrest : ∀ {other : α}, other ∈ before ++ met :: after → other = met ∨ other ∈ before ++ after := by
      intro other hother
      rcases mem_append.mp hother with hmem | hmem
      · exact .inr (mem_append_left _ hmem)
      rcases mem_cons.mp hmem with rfl | hmem
      · exact .inl rfl
      · exact .inr (mem_append_right _ hmem)
    have hother := (nodup_map_insert hfirst).mp h.first
    have hanother := (nodup_map_insert hsnd).mp h.second
    have hin : ∀ {other : α}, other ∈ before ++ after → other ∈ before ++ met :: after := by
      intro other hmem
      rcases mem_append.mp hmem with hmem | hmem
      · exact mem_append_left _ hmem
      · exact mem_append_right _ (.tail _ hmem)
    have hmem : met ∈ before ++ met :: after := mem_append_right _ mem_cons_self
    rw [hput]
    constructor
    · rintro hkept ⟨first, hfirstMem, second, hsecondMem, hf, hg, hne⟩
      have hone : first = met := (hrest hfirstMem).resolve_right fun hmore =>
        (nodup_map_insert hfirst).mp hkept.first first hmore hf
      have htwo : second = met := (hrest hsecondMem).resolve_right fun hmore =>
        (nodup_map_insert hsnd).mp hkept.second second hmore hg
      exact hne (by rw [hone, htwo])
    intro hone
    refine ⟨(nodup_map_insert hfirst).mpr fun other hmore hf => ?_,
      (nodup_map_insert hsnd).mpr fun other hmore hg => ?_⟩
    · rcases hmet with hmet | hmet
      · exact hother other hmore (hf.trans hmet.symm)
      · exact hone ⟨other, hin hmore, met, hmem, hf, hmet, hother other hmore⟩
    · rcases hmet with hmet | hmet
      · exact hone ⟨met, hmem, other, hin hmore, hmet, hg, (hother other hmore).symm⟩
      · exact hanother other hmore (hg.trans hmet.symm)
  · have hnil : entries ++ [] = entries := append_nil entries
    rw [hput]
    refine iff_of_true ⟨(nodup_map_insert (by rw [hnil]; exact h.first)).mpr ?_,
      (nodup_map_insert (by rw [hnil]; exact h.second)).mpr ?_⟩ ?_
    · rw [hnil]
      exact fun other hmem => (hnone other hmem).1
    · rw [hnil]
      exact fun other hmem => (hnone other hmem).2
    · rintro ⟨other, hmem, -, -, hf, -⟩
      exact (hnone other hmem).1 hf

/-- In a table with unique keys the new entry is the only one with either of its keys. -/
lemma eq_of_distinct_put (h : Distinct f g (put f g entry entries)) {other : α}
    (hmem : other ∈ put f g entry entries) (hkey : f other = f entry ∨ g other = g entry) :
    other = entry := by
  rcases hkey with hkey | hkey
  · exact inj_on_of_nodup_map h.first hmem mem_put_self hkey
  · exact inj_on_of_nodup_map h.second hmem mem_put_self hkey

/-- What undoes an update: the entry that was in the slot goes back there, or the last entry goes. -/
def rollback (entries : List α) (slot : Option ℕ) (written : List α) : List α :=
  match slot with
  | none => written.dropLast
  | some slot =>
    match entries[slot]? with
    | some previous => written.set slot previous
    | none => written

lemma rollback_put (entry : α) (entries : List α) :
    rollback entries (slotOf f g entry entries) (put f g entry entries) = entries := by
  unfold put
  cases hslot : slotOf f g entry entries with
  | none => exact dropLast_concat
  | some slot =>
    obtain ⟨hlt, -⟩ := findIdx?_eq_some_iff_getElem.mp hslot
    unfold rollback
    dsimp only
    rw [getElem?_eq_getElem hlt]
    dsimp only
    rw [set_set, set_getElem_self]

/-- An update grows the table by one at most, and not where it has a slot. -/
lemma length_put_le {room : ℕ} (h : entries.length ≤ room)
    (hroom : ¬ (slotOf f g entry entries = none ∧ entries.length ≥ room)) :
    (put f g entry entries).length ≤ room := by
  unfold put
  cases hslot : slotOf f g entry entries with
  | none =>
    rw [hslot] at hroom
    have hless : entries.length < room := by
      by_contra hfull
      exact hroom ⟨rfl, Nat.not_lt.mp hfull⟩
    rw [length_append, length_singleton]
    exact hless
  | some slot =>
    rw [length_set]
    exact h

section Map

variable {δ β' γ' : Type} [DecidableEq β'] [DecidableEq γ'] {f' : δ → β'} {g' : δ → γ'} {h : α → δ}

lemma slotOf_map (hf : ∀ a b, f' (h a) = f' (h b) ↔ f a = f b)
    (hg : ∀ a b, g' (h a) = g' (h b) ↔ g a = g b) (entry : α) (entries : List α) :
    slotOf f' g' (h entry) (entries.map h) = slotOf f g entry entries := by
  unfold slotOf
  rw [findIdx?_map]
  congr 1
  funext other
  simp only [Function.comp_apply, hf, hg]

lemma put_map (hf : ∀ a b, f' (h a) = f' (h b) ↔ f a = f b)
    (hg : ∀ a b, g' (h a) = g' (h b) ↔ g a = g b) (entry : α) (entries : List α) :
    put f' g' (h entry) (entries.map h) = (put f g entry entries).map h := by
  unfold put
  rw [slotOf_map hf hg]
  cases slotOf f g entry entries with
  | none => simp
  | some slot => exact map_set.symm

end Map

end TwoKeys
