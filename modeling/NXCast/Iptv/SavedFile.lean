import NXCast.Framework.Runs
import NXCast.Iptv.IdFile

/-!
# Saving a list

`iptv_write_id_file` and `iptv_save_remote_sources` write a temporary file, and `iptv_replace_saved_file`
puts it in the place of the list by way of a backup.  Every operation on the files is one step, which
succeeds or fails, and the process may stop between any two.  What stands at the three names is a regular
file or nothing; the loaders read the list's own name only.

`before` is what a load found when the save began: no step reads it.
-/

namespace NXCast

open Option

/-- Where a save is: before the operation of that name. -/
inductive SavePlace where
  | idle
  | opening
  | writing
  | checking
  | checkingBackup (existed : Bool)
  | removingBackup
  | backingUp
  | placing (existed : Bool)
  | rollingBack
  | removingOld
  | discarding
deriving DecidableEq

/-- The files of a list, and the save. -/
structure FileSave where
  path : Option (List UInt8)
  temporary : Option (List UInt8)
  backup : Option (List UInt8)
  place : SavePlace
  content : List UInt8
  result : Option Bool
  before : Option (List UInt8)

namespace FileSave

/-- No save has been made: there is no backup. -/
def start (path temporary : Option (List UInt8)) : FileSave :=
  { path, temporary, backup := none, place := .idle, content := [], result := none, before := path }

variable (save : FileSave)

/-- The save returns. -/
def returned (result : Bool) : FileSave := { save with place := .idle, result := some result }

/-- A save begins. -/
def begin (content : List UInt8) : FileSave :=
  if save.place = .idle then
    { save with place := .opening, content, result := none, before := save.path }
  else save

/-- Some of the text has come to the temporary file. -/
def fill (length : ℕ) : FileSave :=
  if save.place = .writing then { save with temporary := some (save.content.take length) } else save

/-- The next operation; a `stat` that fails does not tell whether there is a file. -/
def operate (ok : Bool) : FileSave :=
  match save.place with
  | .idle => save
  | .opening =>
    if ok then { save with temporary := some [], place := .writing } else save.returned false
  | .writing =>
    if ok then { save with temporary := some save.content, place := .checking }
    else { save with place := .discarding }
  | .checking =>
    { save with place := if ok then .checkingBackup save.path.isSome else .discarding }
  | .checkingBackup existed =>
    { save with
      place :=
        if ok then
          if save.backup.isSome then
            -- the only remaining copy after a failed rollback is never discarded
            if existed then .removingBackup else .discarding
          else if existed then .backingUp else .placing false
        else .discarding }
  | .removingBackup =>
    if ok then { save with backup := none, place := .backingUp }
    else { save with place := .discarding }
  | .backingUp =>
    if ok then { save with backup := save.path, path := none, place := .placing true }
    else { save with place := .discarding }
  | .placing existed =>
    if ok then
      let save := { save with path := save.temporary, temporary := none }
      if existed then { save with place := .removingOld } else save.returned true
    else { save with place := if existed then .rollingBack else .discarding }
  | .rollingBack =>
    if ok then { save with path := save.backup, backup := none, place := .discarding }
    else { save with place := .discarding }
  | .removingOld => { save with backup := if ok then none else save.backup }.returned true
  | .discarding => { save with temporary := if ok then none else save.temporary }.returned false

/-- The process stops and comes up again. -/
def stop : FileSave := { save with place := .idle, result := none }

end FileSave

/-- A step of a save, or the end of the process. -/
inductive SaveStep where
  | begin (content : List UInt8)
  | fill (length : ℕ)
  | operate (ok : Bool)
  | stop

/-- What a step does. -/
def saveStep (save : FileSave) : SaveStep → FileSave
  | .begin content => save.begin content
  | .fill length => save.fill length
  | .operate ok => save.operate ok
  | .stop => save.stop

namespace FileSave

variable (save : FileSave)

/-- A load finds the list as it was before the save, or the whole list that was written; and a save that
returned says which. -/
def LoadsWhole : Prop :=
  save.place = .idle →
    (save.path = save.before ∨ save.path = some save.content) ∧
      (save.result = some true → save.path = some save.content) ∧
      (save.result = some false → save.path = save.before)

/-- A save whose operations all succeed. -/
def saved (content : List UInt8) : FileSave :=
  Runs.run saveStep save (.begin content :: List.replicate 8 (.operate true))

/-- A save succeeds once the file system works. -/
def CanSave : Prop :=
  save.place = .idle → ∀ content,
    (save.saved content).result = some true ∧ (save.saved content).path = some content

/-- The list has been taken away from its name. -/
def Displaced : Prop := save.place = .placing true ∨ save.place = .rollingBack

/-- The process does not stop while the list is away from its name, and the rollback does not fail. -/
def Undisturbed : SaveStep → Prop
  | .stop => ¬save.Displaced
  | .operate ok => save.place = .rollingBack → ok = true
  | _ => True

/-- What a save keeps at each place. -/
def Kept : Prop :=
  match save.place with
  | .idle => save.LoadsWhole ∧ (save.path = none → save.backup = none)
  | .opening | .writing | .discarding =>
    save.path = save.before ∧ (save.path = none → save.backup = none)
  | .checking =>
    save.path = save.before ∧ (save.path = none → save.backup = none) ∧
      save.temporary = some save.content
  | .checkingBackup existed =>
    save.path = save.before ∧ (save.path = none → save.backup = none) ∧
      save.temporary = some save.content ∧ existed = save.path.isSome
  | .removingBackup =>
    save.path = save.before ∧ save.temporary = some save.content ∧ save.path.isSome = true
  | .backingUp =>
    save.path = save.before ∧ save.temporary = some save.content ∧ save.path.isSome = true ∧
      save.backup = none
  | .placing existed =>
    save.path = none ∧ save.temporary = some save.content ∧ save.backup = save.before ∧
      save.before.isSome = existed
  | .rollingBack => save.path = none ∧ save.backup = save.before ∧ save.before.isSome = true
  | .removingOld => save.path = some save.content

variable {save}

lemma Kept.begin (h : save.Kept) (content : List UInt8) : (save.begin content).Kept := by
  unfold FileSave.begin
  split_ifs with hidle
  · unfold Kept at h
    rw [hidle] at h
    exact ⟨rfl, h.2⟩
  · exact h

lemma Kept.fill (h : save.Kept) (length : ℕ) : (save.fill length).Kept := by
  unfold FileSave.fill
  split_ifs with hwrites
  · unfold Kept at h ⊢
    rw [hwrites] at h
    simp only [hwrites]
    exact h
  · exact h

lemma Kept.operate (h : save.Kept) (ok : Bool) (hcalm : save.Undisturbed (.operate ok)) :
    (save.operate ok).Kept := by
  unfold Kept at h
  unfold FileSave.operate
  cases hplace : save.place with
  | idle =>
    rw [hplace] at h
    simp only [Kept, hplace]
    exact h
  | opening =>
    rw [hplace] at h
    cases ok with
    | true => exact h
    | false => exact ⟨fun _ => ⟨.inl h.1, nofun, fun _ => h.1⟩, h.2⟩
  | writing =>
    rw [hplace] at h
    cases ok with
    | true => exact ⟨h.1, h.2, rfl⟩
    | false => exact h
  | checking =>
    rw [hplace] at h
    obtain ⟨hpath, hbackup, htmp⟩ := h
    cases ok with
    | true => exact ⟨hpath, hbackup, htmp, rfl⟩
    | false => exact ⟨hpath, hbackup⟩
  | checkingBackup existed =>
    rw [hplace] at h
    obtain ⟨hpath, hbackup, htmp, hexisted⟩ := h
    cases ok with
    | false => exact ⟨hpath, hbackup⟩
    | true =>
      cases hcopy : save.backup with
      | some copy =>
        have hsome : save.path.isSome := by
          cases hsome : save.path with
          | some _ => rfl
          | none =>
            rw [hbackup hsome] at hcopy
            cases hcopy
        obtain rfl : existed := hexisted.trans hsome
        exact ⟨hpath, htmp, hsome⟩
      | none =>
        cases existed with
        | true => exact ⟨hpath, htmp, hexisted.symm, rfl⟩
        | false =>
          have hnone : save.path = none := isSome_eq_false_iff.mp hexisted.symm |>
            isNone_iff_eq_none.mp
          exact ⟨hnone, htmp, (hpath.symm.trans hnone).symm, by rw [← hpath]; exact hexisted.symm⟩
  | removingBackup =>
    rw [hplace] at h
    obtain ⟨hpath, htmp, hsome⟩ := h
    cases ok with
    | true => exact ⟨hpath, htmp, hsome, rfl⟩
    | false =>
      refine ⟨hpath, fun hnone => ?_⟩
      change save.path = none at hnone
      rw [hnone] at hsome
      cases hsome
  | backingUp =>
    rw [hplace] at h
    obtain ⟨hpath, htmp, hsome, hbackup⟩ := h
    cases ok with
    | true => exact ⟨rfl, htmp, hpath, by rw [← hpath]; exact hsome⟩
    | false => exact ⟨hpath, fun _ => hbackup⟩
  | placing existed =>
    rw [hplace] at h
    obtain ⟨hpath, htmp, hbackup, hexisted⟩ := h
    cases ok with
    | true =>
      cases existed with
      | true => exact htmp
      | false =>
        refine ⟨fun _ => ⟨.inr htmp, fun _ => htmp, nofun⟩, fun hnone => ?_⟩
        exact absurd (htmp.symm.trans hnone) nofun
    | false =>
      cases existed with
      | true => exact ⟨hpath, hbackup, hexisted⟩
      | false =>
        have hnone : save.before = none :=
          isNone_iff_eq_none.mp (isSome_eq_false_iff.mp hexisted)
        exact ⟨hpath.trans hnone.symm, fun _ => hbackup.trans hnone⟩
  | rollingBack =>
    rw [hplace] at h
    obtain ⟨-, hbackup, -⟩ := h
    obtain rfl : ok := hcalm hplace
    exact ⟨hbackup, fun _ => rfl⟩
  | removingOld =>
    rw [hplace] at h
    refine ⟨fun _ => ⟨.inr h, fun _ => h, nofun⟩, fun hnone => ?_⟩
    exact absurd (h.symm.trans hnone) nofun
  | discarding =>
    rw [hplace] at h
    exact ⟨fun _ => ⟨.inl h.1, nofun, fun _ => h.1⟩, h.2⟩

lemma Kept.stop (h : save.Kept) (hcalm : ¬save.Displaced) : save.stop.Kept := by
  have hstop : ∀ {path}, path = save.path →
      (path = save.before ∨ path = some save.content) → (save.path = none → save.backup = none) →
      save.stop.Kept := by
    rintro path rfl hpath hbackup
    exact ⟨fun _ => ⟨hpath, nofun, nofun⟩, hbackup⟩
  unfold Kept at h
  cases hplace : save.place with
  | idle =>
    rw [hplace] at h
    exact hstop rfl (h.1 hplace).1 h.2
  | opening | writing | discarding =>
    rw [hplace] at h
    exact hstop rfl (.inl h.1) h.2
  | checking | checkingBackup =>
    rw [hplace] at h
    exact hstop rfl (.inl h.1) h.2.1
  | removingBackup =>
    rw [hplace] at h
    refine hstop rfl (.inl h.1) fun hnone => ?_
    rw [hnone] at h
    exact nomatch h.2.2
  | backingUp =>
    rw [hplace] at h
    exact hstop rfl (.inl h.1) fun _ => h.2.2.2
  | placing existed =>
    rw [hplace] at h
    cases existed with
    | true => exact absurd (.inl hplace) hcalm
    | false =>
      have hnone : save.before = none :=
        isNone_iff_eq_none.mp (isSome_eq_false_iff.mp h.2.2.2)
      exact hstop rfl (.inl (h.1.trans hnone.symm)) fun _ => h.2.2.1.trans hnone
  | rollingBack => exact absurd (.inr hplace) hcalm
  | removingOld =>
    rw [hplace] at h
    refine hstop rfl (.inr h) fun hnone => ?_
    exact absurd (h.symm.trans hnone) nofun

/-- **Every undisturbed step keeps the list.** -/
lemma Kept.step (h : save.Kept) (step : SaveStep) (hcalm : save.Undisturbed step) :
    (saveStep save step).Kept := by
  cases step with
  | begin content => exact h.begin content
  | fill length => exact h.fill length
  | operate ok => exact h.operate ok hcalm
  | stop => exact h.stop hcalm

lemma kept_start (path temporary : Option (List UInt8)) : (start path temporary).Kept :=
  ⟨fun _ => ⟨.inl rfl, nofun, nofun⟩, fun _ => rfl⟩

lemma Kept.loadsWhole (h : save.Kept) : save.LoadsWhole := by
  intro hidle
  unfold Kept at h
  rw [hidle] at h
  exact h.1 hidle

lemma Kept.canSave (h : save.Kept) : save.CanSave := by
  intro hidle content
  unfold Kept at h
  obtain ⟨path, temporary, backup, place, old, result, before⟩ := save
  obtain rfl : place = .idle := hidle
  cases path with
  | none =>
    obtain rfl : backup = none := h.2 rfl
    exact ⟨rfl, rfl⟩
  | some list => cases backup <;> exact ⟨rfl, rfl⟩

/-- What the end of the process leaves while the list is away from its name. -/
lemma lost_of_away (hpath : save.path = none) (hbackup : save.backup = save.before)
    (hpre : save.before.isSome) : ¬save.stop.LoadsWhole ∧ ¬save.stop.CanSave := by
  obtain ⟨path, temporary, backup, place, content, result, before⟩ := save
  obtain rfl : path = none := hpath
  obtain rfl : backup = before := hbackup
  obtain ⟨list, rfl⟩ := isSome_iff_exists.mp hpre
  refine ⟨fun hloads => ?_, fun hcan => ?_⟩
  · rcases (hloads rfl).1 with hold | hnew
    · cases hold
    · cases hnew
  · exact nomatch (hcan rfl []).1

lemma Kept.disturbed (h : save.Kept) (step : SaveStep) (hdisturbed : ¬save.Undisturbed step) :
    ¬(saveStep save step).stop.LoadsWhole ∧ ¬(saveStep save step).stop.CanSave := by
  have haway : save.Displaced → save.path = none ∧ save.backup = save.before ∧
      save.before.isSome := by
    rintro (hplace | hplace)
    · unfold Kept at h
      rw [hplace] at h
      exact ⟨h.1, h.2.2.1, h.2.2.2⟩
    · unfold Kept at h
      rw [hplace] at h
      exact h
  cases step with
  | begin | fill => exact absurd trivial hdisturbed
  | operate ok =>
    obtain ⟨hplace, hok⟩ := Classical.not_imp.mp hdisturbed
    obtain ⟨hpath, hbackup, hpre⟩ := haway (.inr hplace)
    obtain rfl : ok = false := Bool.not_eq_true _ ▸ hok
    have hnext : saveStep save (.operate false) = { save with place := .discarding } := by
      simp [saveStep, FileSave.operate, hplace]
    rw [hnext]
    exact lost_of_away hpath hbackup hpre
  | stop =>
    obtain ⟨hpath, hbackup, hpre⟩ := haway (not_not.mp hdisturbed)
    exact lost_of_away hpath hbackup hpre

end FileSave

open FileSave

/-! ## Main results -/

/-- **When a saved list survives.** In every run of saves in which the process does not stop while the list
is away from its name and no rollback fails, a load finds the list as it was before the last save or the
whole list that was written, and a save without a failing operation succeeds; a step that is not so leaves
neither, once the process has stopped.  What is loaded of a list of identifiers is the list itself. -/
theorem iptv_save_crash_safe (path temporary : Option (List UInt8)) :
    (∀ save, Runs.Reachable saveStep (.start path temporary) Undisturbed save →
      save.LoadsWhole ∧ save.CanSave ∧
        ∀ step, ¬save.Undisturbed step →
          ¬(saveStep save step).stop.LoadsWhole ∧ ¬(saveStep save step).stop.CanSave) ∧
      ∀ ids : List UInt32, (∀ id ∈ ids, id ≠ 0) →
        iptvLoadFavorites (some (idFileText ids)) = ids := by
  refine ⟨fun save h => ?_, fun ids hids => loadFavorites_idFileText hids⟩
  have hkept : save.Kept := h.invariant (kept_start path temporary)
    fun _ step hkept hundisturbed => hkept.step step hundisturbed
  exact ⟨hkept.loadsWhole, hkept.canSave, hkept.disturbed⟩

/-- The process stops between the two renames of a save. -/
def stoppedSave : List SaveStep :=
  [.begin (idFileText [1, 2]), .operate true, .operate true, .operate true, .operate true,
    .operate true, .stop]

/-- The list is gone: a load finds none of the two that were there. -/
theorem iptv_save_crash_safe_stopped :
    ¬∀ path temporary save,
      Runs.Reachable saveStep (.start path temporary) (fun _ _ => True) save →
        save.LoadsWhole ∧ save.CanSave := by
  intro h
  have hreached : Runs.Reachable saveStep (.start (some (idFileText [1])) none) (fun _ _ => True)
      (Runs.run saveStep (.start (some (idFileText [1])) none) stoppedSave) :=
    Runs.Reachable.start.run stoppedSave
  rcases ((h _ _ _ hreached).1 rfl).1 with hold | hnew
  · cases hold
  · cases hnew

/-- The process stops before the list is taken away from its name. -/
def stoppedEarly : List SaveStep :=
  [.begin (idFileText [1, 2]), .operate true, .fill 5, .stop]

/-- The list that was there is found, and the next save succeeds over the temporary file that is left. -/
theorem iptv_save_crash_safe_early :
    (Runs.run saveStep (.start (some (idFileText [1])) none) stoppedEarly).LoadsWhole ∧
      (Runs.run saveStep (.start (some (idFileText [1])) none) stoppedEarly).CanSave := by
  have hreached : Runs.Reachable saveStep (.start (some (idFileText [1])) none) Undisturbed
      (Runs.run saveStep (.start (some (idFileText [1])) none) stoppedEarly) := by
    refine Runs.Reachable.start.along ⟨trivial, ⟨nofun, ⟨trivial, ⟨?_, trivial⟩⟩⟩⟩
    rintro (hplace | hplace)
    all_goals cases hplace
  have hsafe := (iptv_save_crash_safe (some (idFileText [1])) none).1 _ hreached
  exact ⟨hsafe.1, hsafe.2.1⟩

end NXCast
