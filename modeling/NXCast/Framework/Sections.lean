import Mathlib.Data.List.Basic
import Mathlib.Tactic.Common

/-!
# Lists in sections

A list whose entries belong to the heads among them: each head opens a section that reaches to the
next one.  `without` drops some of the sections' heads, each with the first marked entry behind it,
and `skipping` is a loop with a flag that does so for the entries it recognises.  The two agree
exactly where the loop recognises the entries that are to go (`without_eq_of_recognised`,
`countP_without_iff`).
-/

namespace Sections

open List

variable {α : Type} (isHead drops mark seen : α → Bool)

/-- A list cut at its heads: what stands before the first one, and each head with what is behind
it. -/
def cut : List α → List α × List (α × List α)
  | [] => ([], [])
  | a :: rest =>
    if isHead a then ([], (a, (cut rest).1) :: (cut rest).2)
    else (a :: (cut rest).1, (cut rest).2)

/-- What is left of a section. -/
def left (s : α × List α) : List α := if drops s.1 then s.2.eraseP mark else s.1 :: s.2

/-- The list without some of the heads, and without the first marked entry behind each of them. -/
def without (entries : List α) : List α :=
  (cut isHead entries).1 ++ (cut isHead entries).2.flatMap (left drops mark)

/-- The loop with its flag. -/
def skipping : Bool → List α → List α
  | _, [] => []
  | skip, a :: rest =>
    if isHead a then
      if drops a then skipping true rest else a :: skipping false rest
    else if skip && seen a then skipping false rest
    else a :: skipping skip rest

/-- The entry that is to go with a dropped head is one the loop recognises. -/
def Recognised (entries : List α) : Prop :=
  ∀ s ∈ (cut isHead entries).2, drops s.1 = true → ∀ a, s.2.find? mark = some a → seen a = true

variable {isHead drops mark seen} {entries : List α}

/-- **The loop** drops the first recognised entry of each section without its head. -/
lemma skipping_eq (skip : Bool) (entries : List α) :
    skipping isHead drops seen skip entries =
      (if skip then (cut isHead entries).1.eraseP seen else (cut isHead entries).1) ++
        (cut isHead entries).2.flatMap (left drops seen) := by
  induction entries generalizing skip with
  | nil =>
    cases skip <;> rfl
  | cons a rest ih =>
    rw [skipping, cut]
    by_cases hhead : isHead a = true
    · have hnone : (if skip = true then ([] : List α).eraseP seen else []) = [] := by
        cases skip <;> rfl
      rw [if_pos hhead, if_pos hhead, hnone, nil_append, flatMap_cons, ih, ih, left]
      by_cases hdrops : drops a = true
      · rw [if_pos hdrops, if_pos hdrops, if_pos rfl]
      · rw [if_neg hdrops, if_neg hdrops, if_neg Bool.false_ne_true, cons_append]
    · rw [if_neg hhead, if_neg hhead, ih, ih]
      cases skip with
      | false => rfl
      | true =>
        rw [Bool.true_and, if_pos rfl, if_pos rfl, if_neg Bool.false_ne_true]
        by_cases hseen : seen a = true
        · rw [if_pos hseen, eraseP_cons_of_pos hseen]
        · rw [if_neg hseen, eraseP_cons_of_neg hseen, cons_append]

lemma skipping_false (entries : List α) :
    skipping isHead drops seen false entries = without isHead drops seen entries :=
  skipping_eq false entries

lemma skipping_sublist (skip : Bool) (entries : List α) :
    List.Sublist (skipping isHead drops seen skip entries) entries := by
  induction entries generalizing skip with
  | nil => exact .slnil
  | cons a rest ih =>
    rw [skipping]
    split_ifs
    · exact (ih true).cons a
    · exact (ih false).cons₂ a
    · exact (ih false).cons a
    · exact (ih skip).cons₂ a

lemma eraseP_eq_of_find (hmark : ∀ a, seen a = true → mark a = true)
    (h : ∀ a, entries.find? mark = some a → seen a = true) :
    entries.eraseP mark = entries.eraseP seen := by
  induction entries with
  | nil => rfl
  | cons a rest ih =>
    by_cases hfirst : mark a = true
    · have hseen : seen a = true := h a (find?_cons_of_pos hfirst)
      rw [eraseP_cons_of_pos hfirst, eraseP_cons_of_pos hseen]
    have hunseen : ¬ seen a = true := fun hseen => hfirst (hmark a hseen)
    rw [eraseP_cons_of_neg hfirst, eraseP_cons_of_neg hunseen, ih]
    intro b hb
    exact h b (by rwa [find?_cons_of_neg hfirst])

/-- The marked entries that the loop does not recognise. -/
def unseen (mark seen : α → Bool) (a : α) : Bool := mark a && !seen a

lemma countP_eraseP_seen (entries : List α) :
    (entries.eraseP seen).countP (unseen mark seen) = entries.countP (unseen mark seen) := by
  induction entries with
  | nil => rfl
  | cons a rest ih =>
    by_cases hseen : seen a = true
    · rw [eraseP_cons_of_pos hseen, countP_cons_of_neg]
      rw [unseen, hseen, Bool.not_true, Bool.and_false]
      exact Bool.false_ne_true
    · rw [eraseP_cons_of_neg hseen, countP_cons, countP_cons, ih]

lemma countP_eraseP_le (entries : List α) :
    (entries.eraseP mark).countP (unseen mark seen) ≤ entries.countP (unseen mark seen) :=
  List.Sublist.countP_le eraseP_sublist

lemma countP_eraseP_eq_iff (entries : List α) :
    (entries.eraseP mark).countP (unseen mark seen) = entries.countP (unseen mark seen) ↔
      ∀ a, entries.find? mark = some a → seen a = true := by
  induction entries with
  | nil => exact iff_of_true rfl nofun
  | cons b rest ih =>
    by_cases hmark : mark b = true
    · rw [eraseP_cons_of_pos hmark, find?_cons_of_pos hmark, countP_cons]
      simp only [unseen, hmark, Bool.true_and, Option.some.injEq, forall_eq']
      cases seen b <;> simp
    have hunmarked : ¬ unseen mark seen b = true := by
      rw [unseen, Bool.eq_false_iff.mpr hmark]
      exact Bool.false_ne_true
    rw [eraseP_cons_of_neg hmark, find?_cons_of_neg hmark,
      countP_cons_of_neg hunmarked, countP_cons_of_neg hunmarked, ih]

lemma without_eq_of_recognised (hmark : ∀ a, seen a = true → mark a = true)
    (h : Recognised isHead drops mark seen entries) :
    without isHead drops mark entries = without isHead drops seen entries := by
  have hsections : ∀ s ∈ (cut isHead entries).2, left drops mark s = left drops seen s := by
    intro s hs
    unfold left
    by_cases hdrops : drops s.1 = true
    · rw [if_pos hdrops, if_pos hdrops]
      exact eraseP_eq_of_find hmark (h s hs hdrops)
    · rw [if_neg hdrops, if_neg hdrops]
  unfold without
  rw [flatMap_congr hsections]

lemma countP_left (s : α × List α) :
    (left drops mark s).countP (unseen mark seen) ≤ (left drops seen s).countP (unseen mark seen) ∧
      ((left drops mark s).countP (unseen mark seen) =
          (left drops seen s).countP (unseen mark seen) ↔
        (drops s.1 = true → ∀ a, s.2.find? mark = some a → seen a = true)) := by
  unfold left
  by_cases hdrops : drops s.1 = true
  · rw [if_pos hdrops, if_pos hdrops, countP_eraseP_seen, countP_eraseP_eq_iff]
    exact ⟨countP_eraseP_le s.2, fun h _ => h, fun h => h hdrops⟩
  · rw [if_neg hdrops, if_neg hdrops]
    exact ⟨Nat.le_refl _, iff_of_true rfl fun h => absurd h hdrops⟩

lemma countP_sections (sections : List (α × List α)) :
    (sections.flatMap (left drops mark)).countP (unseen mark seen) ≤
        (sections.flatMap (left drops seen)).countP (unseen mark seen) ∧
      ((sections.flatMap (left drops mark)).countP (unseen mark seen) =
          (sections.flatMap (left drops seen)).countP (unseen mark seen) ↔
        ∀ s ∈ sections, drops s.1 = true → ∀ a, s.2.find? mark = some a → seen a = true) := by
  induction sections with
  | nil => exact ⟨Nat.le_refl _, iff_of_true rfl nofun⟩
  | cons s rest ih =>
    obtain ⟨hle, hiff⟩ := @countP_left _ drops mark seen s
    obtain ⟨hrestLe, hrestIff⟩ := ih
    rw [flatMap_cons, flatMap_cons, countP_append, countP_append,
      forall_mem_cons, ← hiff, ← hrestIff]
    omega

/-- **Where they differ** it is in the number of marked entries that the loop does not
recognise. -/
lemma countP_without_iff :
    (without isHead drops mark entries).countP (unseen mark seen) =
        (without isHead drops seen entries).countP (unseen mark seen) ↔
      Recognised isHead drops mark seen entries := by
  unfold without Recognised
  rw [countP_append, countP_append, Nat.add_left_cancel_iff]
  exact (countP_sections _).2

/-! ## Entries and their heads -/

/-- Every marked entry is in a section, and the only one of it. -/
structure Paired (isHead mark : α → Bool) (entries : List α) : Prop where
  before : ∀ a ∈ (cut isHead entries).1, mark a = false
  sole : ∀ s ∈ (cut isHead entries).2, s.2.countP mark ≤ 1

lemma cut_heads (entries : List α) :
    (∀ a ∈ (cut isHead entries).1, isHead a = false) ∧
      ∀ s ∈ (cut isHead entries).2, isHead s.1 = true ∧ ∀ a ∈ s.2, isHead a = false := by
  induction entries with
  | nil => exact ⟨nofun, nofun⟩
  | cons a rest ih =>
    rw [cut]
    by_cases hhead : isHead a = true
    · rw [if_pos hhead]
      exact ⟨nofun, forall_mem_cons.mpr ⟨⟨hhead, ih.1⟩, ih.2⟩⟩
    · rw [if_neg hhead]
      exact ⟨forall_mem_cons.mpr ⟨Bool.eq_false_iff.mpr hhead, ih.1⟩, ih.2⟩

lemma cut_append {front : List α} (h : ∀ a ∈ front, isHead a = false) (rest : List α) :
    cut isHead (front ++ rest) = (front ++ (cut isHead rest).1, (cut isHead rest).2) := by
  induction front with
  | nil => rfl
  | cons a front ih =>
    obtain ⟨hhead, hfront⟩ := forall_mem_cons.mp h
    rw [cons_append, cut, ih hfront, hhead, if_neg Bool.false_ne_true, cons_append]

lemma cut_section {s : α × List α} (hhead : isHead s.1 = true) (hbody : ∀ a ∈ s.2, isHead a = false)
    (rest : List α) :
    cut isHead ((s.1 :: s.2) ++ rest) =
      ([], (s.1, s.2 ++ (cut isHead rest).1) :: (cut isHead rest).2) := by
  rw [cons_append, cut, if_pos hhead, cut_append hbody]

lemma Paired.append {front : List α} (hfront : ∀ a ∈ front, isHead a = false ∧ mark a = false)
    {rest : List α} (h : Paired isHead mark rest) : Paired isHead mark (front ++ rest) := by
  have hcut := cut_append (fun a ha => (hfront a ha).1) rest
  constructor
  · rw [hcut]
    intro a ha
    rcases mem_append.mp ha with hmem | hmem
    · exact (hfront a hmem).2
    · exact h.before a hmem
  · rw [hcut]
    exact h.sole

lemma Paired.cons {s : α × List α} (hhead : isHead s.1 = true)
    (hbody : ∀ a ∈ s.2, isHead a = false) (hsole : s.2.countP mark ≤ 1) {rest : List α}
    (h : Paired isHead mark rest) : Paired isHead mark ((s.1 :: s.2) ++ rest) := by
  have hcut := cut_section hhead hbody rest
  constructor
  · rw [hcut]
    exact nofun
  rw [hcut]
  refine forall_mem_cons.mpr ⟨?_, h.sole⟩
  have hnone : (cut isHead rest).1.countP mark = 0 :=
    countP_eq_zero.mpr fun a ha => Bool.eq_false_iff.mp (h.before a ha)
  rw [countP_append, hnone]
  exact hsole

/-- Behind the first marked entry there is none where there is one at most. -/
lemma not_mark_of_mem_eraseP {body : List α} (h : body.countP mark ≤ 1) {a : α}
    (ha : a ∈ body.eraseP mark) : mark a = false := by
  induction body with
  | nil => exact absurd ha not_mem_nil
  | cons b rest ih =>
    by_cases hmark : mark b = true
    · rw [eraseP_cons_of_pos hmark] at ha
      rw [countP_cons_of_pos hmark] at h
      have hnone : rest.countP mark = 0 := Nat.le_zero.mp (Nat.le_of_succ_le_succ h)
      exact Bool.eq_false_iff.mpr (countP_eq_zero.mp hnone a ha)
    · rw [eraseP_cons_of_neg hmark] at ha
      rw [countP_cons_of_neg hmark] at h
      rcases mem_cons.mp ha with rfl | hmem
      · exact Bool.eq_false_iff.mpr hmark
      · exact ih h hmem

lemma Paired.without (h : Paired isHead mark entries) :
    Paired isHead mark (without isHead drops mark entries) := by
  obtain ⟨hfront, hsections⟩ := @cut_heads _ isHead entries
  have hrest : ∀ sections : List (α × List α), (∀ s ∈ sections, isHead s.1 = true ∧
      (∀ a ∈ s.2, isHead a = false) ∧ s.2.countP mark ≤ 1) →
      Paired isHead mark (sections.flatMap (left drops mark)) := by
    intro sections hsections
    induction sections with
    | nil => exact ⟨nofun, nofun⟩
    | cons s rest ih =>
      obtain ⟨⟨hhead, hbody, hsole⟩, hothers⟩ := forall_mem_cons.mp hsections
      rw [flatMap_cons, left]
      by_cases hdrops : drops s.1 = true
      · rw [if_pos hdrops]
        exact (ih hothers).append fun a ha =>
          ⟨hbody a (mem_of_mem_eraseP ha), not_mark_of_mem_eraseP hsole ha⟩
      · rw [if_neg hdrops]
        exact (ih hothers).cons hhead hbody hsole
  refine (hrest _ fun s hs => ⟨(hsections s hs).1, (hsections s hs).2, h.sole s hs⟩).append ?_
  exact fun a ha => ⟨hfront a ha, h.before a ha⟩

section Related

variable {R : α → α → Prop} {entries' : List α}

lemma forall_of_forall₂ {p q : α → Prop} (hR : ∀ a b, R a b → p a → q b)
    (h : List.Forall₂ R entries entries') (hp : ∀ a ∈ entries, p a) : ∀ b ∈ entries', q b := by
  induction h with
  | nil => exact nofun
  | cons hab _ ih =>
    obtain ⟨ha, hrest⟩ := forall_mem_cons.mp hp
    exact forall_mem_cons.mpr ⟨hR _ _ hab ha, ih hrest⟩

lemma countP_of_forall₂ {p : α → Bool} (hp : ∀ a b, R a b → p a = p b)
    (h : List.Forall₂ R entries entries') : entries.countP p = entries'.countP p := by
  induction h with
  | nil => rfl
  | cons hab _ ih => rw [countP_cons, countP_cons, ih, hp _ _ hab]

lemma cut_of_forall₂ (hhead : ∀ a b, R a b → isHead a = isHead b)
    (h : List.Forall₂ R entries entries') :
    List.Forall₂ R (cut isHead entries).1 (cut isHead entries').1 ∧
      ∀ t ∈ (cut isHead entries').2, ∃ s ∈ (cut isHead entries).2, List.Forall₂ R s.2 t.2 := by
  induction h with
  | nil => exact ⟨.nil, nofun⟩
  | @cons a b rest rest' hab _ ih =>
    rw [cut, cut, ← hhead a b hab]
    by_cases ha : isHead a = true
    · rw [if_pos ha, if_pos ha]
      refine ⟨.nil, forall_mem_cons.mpr ⟨⟨_, .head _, ih.1⟩, fun t ht => ?_⟩⟩
      obtain ⟨s, hs, hst⟩ := ih.2 t ht
      exact ⟨s, .tail _ hs, hst⟩
    · rw [if_neg ha, if_neg ha]
      exact ⟨.cons hab ih.1, ih.2⟩

lemma Paired.of_forall₂ (hhead : ∀ a b, R a b → isHead a = isHead b)
    (hmark : ∀ a b, R a b → mark a = mark b) (h : List.Forall₂ R entries entries')
    (hpaired : Paired isHead mark entries) : Paired isHead mark entries' := by
  obtain ⟨hfront, hsections⟩ := cut_of_forall₂ hhead h
  constructor
  · have hnone := countP_of_forall₂ hmark hfront
    rw [countP_eq_zero.mpr fun a ha => Bool.eq_false_iff.mp (hpaired.before a ha)] at hnone
    exact fun a ha => Bool.eq_false_iff.mpr (countP_eq_zero.mp hnone.symm a ha)
  · intro t ht
    obtain ⟨s, hs, hst⟩ := hsections t ht
    rw [← countP_of_forall₂ hmark hst]
    exact hpaired.sole s hs

end Related

end Sections
