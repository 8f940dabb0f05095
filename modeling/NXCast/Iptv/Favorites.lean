import NXCast.Framework.Runs
import NXCast.Iptv.IdFile

/-!
# Favourites

`iptv_commit_catalog` marks the channels of a new catalog from the favourites file, and
`iptv_toggle_selected_favorite` writes the file from the marks of the catalog, which has only the channels
of the sources that are enabled, cached and could be parsed.  What a filter shows is an answer, and a save
that fails leaves the file as it was.
-/

namespace NXCast

/-- A channel's identifier, as `iptv_channel_id` makes it. -/
abbrev ChannelId := { id : UInt32 // id ≠ 0 }

/-- What a toggle reads of an `IptvChannel`. -/
@[ext]
structure CatalogChannel where
  id : ChannelId
  favorite : Bool
deriving DecidableEq

/-- What a filter shows of the catalog, and the selected row. -/
structure CatalogView where
  visible : List ℕ
  selectedIndex : ℕ

/-- The catalog and the favourites file. -/
structure FavoriteCatalog where
  channels : List CatalogChannel
  view : CatalogView
  file : Option (List UInt8)

namespace FavoriteCatalog

variable (catalog : FavoriteCatalog)

/-- The identifiers that are saved. -/
def saved : List UInt32 := iptvLoadFavorites catalog.file

/-- `iptv_commit_catalog` of a catalog of these channels. -/
def commitCatalog (ids : List ChannelId) (view : CatalogView) : FavoriteCatalog :=
  { catalog with
    channels := ids.map fun id => ⟨id, decide (id.val ∈ catalog.saved)⟩
    view }

/-- The selected channel. -/
def selected : Option CatalogChannel :=
  catalog.view.visible[catalog.view.selectedIndex]?.bind fun index => catalog.channels[index]?

/-- Every channel of that identifier is marked, or none. -/
def mark (id : ChannelId) (favorite : Bool) : List CatalogChannel :=
  catalog.channels.map fun channel => if channel.id = id then { channel with favorite } else channel

/-- The identifiers that are written. -/
def marked (channels : List CatalogChannel) : List UInt32 :=
  (channels.filter (·.favorite)).map (·.id.val)

/-- `iptv_toggle_selected_favorite`, with memory; `written` is the answer of `iptv_write_id_file`, and
`view` is what is shown afterwards. -/
def toggleSelectedFavorite (written : Bool) (view : CatalogView) : Bool × FavoriteCatalog :=
  match catalog.selected with
  | none => (false, catalog)
  | some channel =>
    let makeFavorite := !channel.favorite
    let next := { catalog with channels := catalog.mark channel.id makeFavorite, view }
    if written then (true, { next with file := some (idFileText (marked next.channels)) })
    else (false, { next with channels := next.mark channel.id !makeFavorite })

end FavoriteCatalog

/-- A step of the threads that use the catalog. -/
inductive FavoriteStep where
  | commitCatalog (ids : List ChannelId) (view : CatalogView)
  | select (view : CatalogView)
  | toggleSelectedFavorite (written : Bool) (view : CatalogView)

/-- What a step does. -/
def favoriteStep (catalog : FavoriteCatalog) : FavoriteStep → FavoriteCatalog
  | .commitCatalog ids view => catalog.commitCatalog ids view
  | .select view => { catalog with view }
  | .toggleSelectedFavorite written view => (catalog.toggleSelectedFavorite written view).2

/-- The module before the first catalog, with some favourites file. -/
def FavoriteCatalog.initial (file : Option (List UInt8)) : FavoriteCatalog :=
  { channels := [], view := ⟨[], 0⟩, file }

namespace FavoriteCatalog

variable {catalog : FavoriteCatalog} {channel : CatalogChannel}

/-! ## The marks -/

/-- The marks are those of the file. -/
def Agrees (catalog : FavoriteCatalog) : Prop :=
  ∀ channel ∈ catalog.channels, channel.favorite = decide (channel.id.val ∈ catalog.saved)

lemma selected_mem (h : catalog.selected = some channel) : channel ∈ catalog.channels := by
  obtain ⟨index, -, hindex⟩ := Option.bind_eq_some_iff.mp h
  exact List.mem_of_getElem? hindex

lemma mem_mark {id : ChannelId} {favorite : Bool} :
    channel ∈ catalog.mark id favorite ↔ ∃ old ∈ catalog.channels, channel.id = old.id ∧
      channel.favorite = if old.id = id then favorite else old.favorite := by
  unfold mark
  rw [List.mem_map]
  refine exists_congr fun old => and_congr_right fun _ => ?_
  obtain ⟨channelId, mark⟩ := channel
  split <;> simp [CatalogChannel.ext_iff, eq_comm]

lemma mem_marked {channels : List CatalogChannel} {id : UInt32} :
    id ∈ marked channels ↔ ∃ channel ∈ channels, channel.favorite = true ∧ channel.id.val = id := by
  simp [marked, and_assoc]

lemma saved_written (channels : List CatalogChannel) (view : CatalogView) :
    saved ⟨channels, view, some (idFileText (marked channels))⟩ = marked channels := by
  refine loadFavorites_idFileText fun id hid => ?_
  obtain ⟨channel, -, -, rfl⟩ := mem_marked.mp hid
  exact channel.id.property

/-- The identifiers behind a successful toggle: those that the catalog has and that were saved, and the
selected one if it was not. -/
lemma mem_saved_toggle (h : catalog.Agrees) (hsel : catalog.selected = some channel)
    (view : CatalogView) (id : UInt32) :
    id ∈ (catalog.toggleSelectedFavorite true view).2.saved ↔
      (∃ other ∈ catalog.channels, other.id.val = id) ∧
        (if id = channel.id.val then id ∉ catalog.saved else id ∈ catalog.saved) := by
  have hmem := selected_mem hsel
  have hchannel := h channel hmem
  unfold toggleSelectedFavorite
  simp only [hsel, if_true]
  rw [saved_written, mem_marked]
  constructor
  · rintro ⟨new, hnew, hfavorite, rfl⟩
    obtain ⟨old, hold, hid, hmark⟩ := mem_mark.mp hnew
    refine ⟨⟨old, hold, by rw [hid]⟩, ?_⟩
    rw [hfavorite] at hmark
    by_cases heq : old.id = channel.id
    · rw [if_pos heq, hchannel] at hmark
      rw [if_pos (by rw [hid, heq]), hid, heq]
      simpa using hmark.symm
    · rw [if_neg heq, h old hold] at hmark
      rw [if_neg (by rw [hid]; exact fun hval => heq (Subtype.ext hval)), hid]
      exact of_decide_eq_true hmark.symm
  · rintro ⟨⟨old, hold, rfl⟩, hcase⟩
    by_cases heq : old.id = channel.id
    · rw [if_pos (by rw [heq])] at hcase
      refine ⟨⟨old.id, !channel.favorite⟩, mem_mark.mpr ⟨old, hold, rfl, by rw [if_pos heq]⟩, ?_, rfl⟩
      rw [hchannel]
      rw [heq] at hcase
      simpa using hcase
    · rw [if_neg fun hval => heq (Subtype.ext hval)] at hcase
      refine ⟨old, mem_mark.mpr ⟨old, hold, rfl, by rw [if_neg heq]⟩, ?_, rfl⟩
      rw [h old hold]
      exact decide_eq_true hcase

/-- **The marks stay those of the file.** -/
lemma Agrees.step (h : catalog.Agrees) (step : FavoriteStep) :
    (favoriteStep catalog step).Agrees := by
  cases step with
  | commitCatalog ids view =>
    intro channel hchannel
    obtain ⟨id, -, rfl⟩ := List.mem_map.mp hchannel
    rfl
  | select view => exact h
  | toggleSelectedFavorite written view =>
    cases hsel : catalog.selected with
    | none =>
      unfold favoriteStep toggleSelectedFavorite
      simp only [hsel]
      exact h
    | some channel =>
      have hchannel := h channel (selected_mem hsel)
      cases written with
      | true =>
        intro new hnew
        have hsaved := mem_saved_toggle h hsel view new.id.val
        unfold favoriteStep toggleSelectedFavorite at hnew
        simp only [hsel, if_true] at hnew
        obtain ⟨old, hold, hid, hmark⟩ := mem_mark.mp hnew
        have hsome : ∃ other ∈ catalog.channels, other.id.val = new.id.val := ⟨old, hold, by rw [hid]⟩
        rw [Bool.eq_iff_iff, decide_eq_true_eq]
        refine Iff.trans ?_ (hsaved.trans (and_iff_right hsome)).symm
        rw [hmark, hid]
        by_cases heq : old.id = channel.id
        · rw [if_pos heq, if_pos (by rw [heq]), hchannel, heq]
          simp
        · rw [if_neg heq, if_neg fun hval => heq (Subtype.ext hval), h old hold, decide_eq_true_eq]
      | false =>
        intro new hnew
        unfold favoriteStep toggleSelectedFavorite at hnew ⊢
        simp only [hsel, Bool.false_eq_true, if_false] at hnew ⊢
        obtain ⟨middle, hmiddle, hid, hmark⟩ := mem_mark.mp hnew
        obtain ⟨old, hold, hid', hmark'⟩ := mem_mark.mp hmiddle
        rw [hmark, hid, hid']
        by_cases heq : old.id = channel.id
        · rw [if_pos heq, Bool.not_not, hchannel, heq]
          rfl
        · rw [if_neg heq, hmark', if_neg heq]
          exact h old hold

/-- **What a toggle leaves.** Of the identifiers that were saved a successful toggle keeps those that the
catalog has. -/
lemma toggle_frame (h : catalog.Agrees) (hsel : catalog.selected = some channel)
    (view : CatalogView) :
    (∀ id, (id ∈ (catalog.toggleSelectedFavorite true view).2.saved ↔ id ∈ catalog.saved) ↔
        id ≠ channel.id.val) ↔
      ∀ id ∈ catalog.saved, id ≠ channel.id.val → ∃ other ∈ catalog.channels, other.id.val = id := by
  have hmem := selected_mem hsel
  constructor
  · intro hframe id hsaved hne
    exact ((mem_saved_toggle h hsel view id).mp (((hframe id).mpr hne).mpr hsaved)).1
  intro hpresent id
  rw [mem_saved_toggle h hsel view id]
  by_cases heq : id = channel.id.val
  · rw [if_pos heq]
    have hsome : ∃ other ∈ catalog.channels, other.id.val = id := ⟨channel, hmem, heq.symm⟩
    rw [and_iff_right hsome]
    exact ⟨fun hiff => absurd hiff (by simp), absurd heq⟩
  · rw [if_neg heq]
    exact ⟨fun _ => heq, fun _ => ⟨(·.2), fun hsaved => ⟨hpresent id hsaved heq, hsaved⟩⟩⟩

end FavoriteCatalog

open FavoriteCatalog

/-! ## Main results -/

/-- The states of the runs of the module from a favourites file. -/
def FavoriteReachable (file : Option (List UInt8)) (catalog : FavoriteCatalog) : Prop :=
  Runs.Reachable favoriteStep (.initial file) (fun _ _ => True) catalog

/-- **What a toggle of a favourite touches.** In every run of commits, selections and toggles, whatever the
favourites file was, a successful toggle changes whether the selected channel's identifier is saved, and it
changes that of no other exactly when every other identifier that is saved is one of a channel of the
catalog. -/
theorem toggle_favorite_frame {file : Option (List UInt8)} {catalog : FavoriteCatalog}
    {channel : CatalogChannel} (h : FavoriteReachable file catalog)
    (hselected : catalog.selected = some channel) (view : CatalogView) :
    (catalog.toggleSelectedFavorite true view).1 = true ∧
      ((∀ id, (id ∈ (catalog.toggleSelectedFavorite true view).2.saved ↔ id ∈ catalog.saved) ↔
          id ≠ channel.id.val) ↔
        ∀ id ∈ catalog.saved, id ≠ channel.id.val →
          ∃ other ∈ catalog.channels, other.id.val = id) := by
  have hagrees : catalog.Agrees :=
    h.invariant (P := Agrees) (fun _ hmem => absurd hmem List.not_mem_nil)
      fun _ step hagrees _ => hagrees.step step
  refine ⟨?_, toggle_frame hagrees hselected view⟩
  unfold toggleSelectedFavorite
  simp only [hselected]
  rfl

/-- Two favourites are saved, and the catalog has these channels, the first of them selected. -/
def shownCatalog (ids : List ChannelId) : FavoriteCatalog :=
  Runs.run favoriteStep (.initial (some (idFileText [1, 2]))) [.commitCatalog ids ⟨[0], 0⟩]

lemma shownCatalog_reachable (ids : List ChannelId) :
    FavoriteReachable (some (idFileText [1, 2])) (shownCatalog ids) := by
  exact Runs.Reachable.start.run _

lemma shownCatalog_saved (ids : List ChannelId) : (shownCatalog ids).saved = [1, 2] :=
  loadFavorites_idFileText (by simp)

lemma shownCatalog_selected (id : ChannelId) (ids : List ChannelId) :
    (shownCatalog (id :: ids)).selected = some ⟨id, decide (id.val ∈ ([1, 2] : List UInt32))⟩ := by
  rfl

/-- A favourite of a source that the catalog leaves out is lost when another is toggled. -/
theorem toggle_favorite_frame_lost :
    ¬∀ file catalog channel view, FavoriteReachable file catalog →
      catalog.selected = some channel → ∀ id,
        (id ∈ (catalog.toggleSelectedFavorite true view).2.saved ↔ id ∈ catalog.saved) ↔
          id ≠ channel.id.val := by
  intro h
  have hselected := shownCatalog_selected ⟨1, by decide⟩ []
  have hagrees : (shownCatalog [⟨1, by decide⟩]).Agrees :=
    (shownCatalog_reachable _).invariant (P := Agrees) (fun _ hmem => absurd hmem List.not_mem_nil)
      fun _ step hagrees _ => hagrees.step step
  have hframe := h _ _ _ ⟨[0], 0⟩ (shownCatalog_reachable _) hselected
  obtain ⟨other, hother, hid⟩ := (toggle_frame hagrees hselected _).mp hframe 2
    (by rw [shownCatalog_saved]; decide) (by decide)
  obtain rfl := List.mem_singleton.mp hother
  exact absurd hid (by decide)

/-- With both channels in the catalog the other favourite stays. -/
theorem toggle_favorite_frame_kept :
    (2 ∈ ((shownCatalog [⟨1, by decide⟩, ⟨2, by decide⟩]).toggleSelectedFavorite true
      ⟨[0], 0⟩).2.saved ↔ 2 ∈ (shownCatalog [⟨1, by decide⟩, ⟨2, by decide⟩]).saved) := by
  have hframe := (toggle_favorite_frame (shownCatalog_reachable _)
    (shownCatalog_selected ⟨1, by decide⟩ [⟨2, by decide⟩]) ⟨[0], 0⟩).2
  refine ((hframe.mpr fun id hid _ => ?_) 2).mpr (by decide)
  rcases List.mem_cons.mp hid with rfl | hid
  · exact ⟨_, List.mem_cons_self, rfl⟩
  · obtain rfl := List.mem_singleton.mp hid
    exact ⟨_, List.mem_cons_of_mem _ List.mem_cons_self, rfl⟩

end NXCast
