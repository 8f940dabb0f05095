import NXCast.Iptv.Favorites
import Mathlib.Data.List.Induction

/-!
# The channels that were played last

`iptv_play_url_named` moves the channel that is played to the front of `g_recent_ids`, which has room for
`IPTV_MAX_RECENT` identifiers, and marks the channels from it; `iptv_load_id_file` reads the list that an
earlier run has left.
-/

namespace NXCast

open List

/-- `IPTV_MAX_RECENT` -/
def iptvMaxRecent : ℕ := 32

/-- `iptv_load_id_file` -/
def iptvLoadIdFile (capacity : ℕ) (file : Option (List UInt8)) : List UInt32 :=
  (fgetsFrom 40 [] (file.getD [])).foldl
    (fun ids line =>
      match scanHex line with
      | some value =>
        if ids.length < capacity ∧ value ≠ 0 ∧ value ∉ ids then ids ++ [value] else ids
      | none => ids)
    []

/-- What `iptv_play_url_named` makes of `g_recent_ids`: the entries in front of the channel, or all that
leave room for it, go one place up, and the channel is the first. -/
def recentPlayed (ids : List UInt32) (id : UInt32) : List UInt32 :=
  match ids.findIdx? fun recent => recent = id with
  | some existing => id :: (ids.take existing ++ ids.drop (existing + 1))
  | none => id :: ids.take (if ids.length < iptvMaxRecent then ids.length else iptvMaxRecent - 1)

/-- What a play reads of an `IptvChannel`. -/
structure RecentChannel where
  id : ChannelId
  recent : Bool

/-- The list and the marks. -/
structure RecentCatalog where
  ids : List UInt32
  channels : List RecentChannel

namespace RecentCatalog

/-- `iptv_commit_catalog` of a catalog of these channels. -/
def commitCatalog (file : Option (List UInt8)) (channels : List ChannelId) : RecentCatalog :=
  let ids := iptvLoadIdFile iptvMaxRecent file
  { ids, channels := channels.map fun id => ⟨id, decide (id.val ∈ ids)⟩ }

/-- `iptv_play_url_named` where the play succeeds; zero is a URL that is of no channel. -/
def play (catalog : RecentCatalog) (id : UInt32) : RecentCatalog :=
  if id = 0 then catalog
  else
    let ids := recentPlayed catalog.ids id
    { ids
      channels := catalog.channels.map fun channel =>
        { channel with recent := decide (channel.id.val ∈ ids) } }

/-- The catalog behind any plays. -/
def played (file : Option (List UInt8)) (channels : List ChannelId) (plays : List UInt32) :
    RecentCatalog :=
  plays.foldl play (commitCatalog file channels)

end RecentCatalog

/-! ## A history -/

/-- The distinct entries of a history, each where it comes first. -/
def firsts : List UInt32 → List UInt32
  | [] => []
  | entry :: entries => entry :: (firsts entries).filter (· ≠ entry)

lemma nodup_firsts (entries : List UInt32) : (firsts entries).Nodup := by
  induction entries with
  | nil => exact nodup_nil
  | cons entry entries ih => exact nodup_cons.mpr ⟨by simp, ih.filter _⟩

lemma firsts_of_nodup {entries : List UInt32} (h : entries.Nodup) : firsts entries = entries := by
  induction entries with
  | nil => rfl
  | cons entry entries ih =>
    obtain ⟨hnew, hrest⟩ := nodup_cons.mp h
    rw [firsts, ih hrest, filter_eq_self.mpr]
    intro other hother
    exact decide_eq_true fun heq => hnew (heq ▸ hother)

lemma nodup_loadIdFile (capacity : ℕ) (file : Option (List UInt8)) :
    (iptvLoadIdFile capacity file).Nodup ∧ (iptvLoadIdFile capacity file).length ≤ capacity := by
  refine foldlRecOn _ _ (motive := fun ids : List UInt32 => ids.Nodup ∧ ids.length ≤ capacity)
    ⟨nodup_nil, Nat.zero_le _⟩ fun ids h line _ => ?_
  split
  · rename_i value _
    split_ifs with hroom
    · rw [length_append]
      exact ⟨nodup_append.mpr ⟨h.1, by simp, fun id hid other hother heq =>
        hroom.2.2 (mem_singleton.mp hother ▸ heq ▸ hid)⟩, hroom.1⟩
    · exact h
  · exact h

lemma filter_ne_eq_self {ids : List UInt32} {id : UInt32} (h : id ∉ ids) :
    ids.filter (· ≠ id) = ids :=
  filter_eq_self.mpr fun _ hother => decide_eq_true fun heq => h (heq ▸ hother)

/-- **A play of a history.** -/
lemma recentPlayed_take {ids : List UInt32} (h : ids.Nodup) (id : UInt32) :
    recentPlayed (ids.take iptvMaxRecent) id = (id :: ids.filter (· ≠ id)).take iptvMaxRecent := by
  have hmax : iptvMaxRecent = 31 + 1 := rfl
  unfold recentPlayed
  rw [hmax, take_succ_cons]
  split
  · rename_i existing hfound
    obtain ⟨hlt, hid, -⟩ := findIdx?_eq_some_iff_getElem.mp hfound
    rw [length_take, Nat.lt_min] at hlt
    rw [decide_eq_true_eq, getElem_take] at hid
    have hsplit : ids = ids.take existing ++ id :: ids.drop (existing + 1) := by
      rw [← hid, ← drop_eq_getElem_cons hlt.2, take_append_drop]
    have hpre : (ids.take existing).length = existing := length_take_of_le hlt.2.le
    generalize ids.take existing = before at hsplit hpre
    generalize ids.drop (existing + 1) = after at hsplit
    subst hsplit
    obtain ⟨-, hafter, hdist⟩ := nodup_append.mp h
    have hothers : (before ++ id :: after).filter (· ≠ id) = before ++ after := by
      rw [filter_append, filter_cons_of_neg (by simp),
        filter_ne_eq_self fun hmem => hdist id hmem id (by simp) rfl,
        filter_ne_eq_self (nodup_cons.mp hafter).1]
    rw [hothers]
    subst hpre
    obtain ⟨room, hroom⟩ := Nat.exists_eq_add_of_le (Nat.le_of_lt_succ hlt.1)
    have htaken : (before ++ id :: after).take (31 + 1) = before ++ id :: after.take room := by
      rw [hroom, Nat.add_assoc, take_length_add_append, take_succ_cons]
    rw [htaken, hroom, take_left, take_length_add_append, drop_append]
    simp
  · rename_i hnone
    have hnew : id ∉ ids.take (31 + 1) := fun hmem => by
      simpa using findIdx?_eq_none_iff.mp hnone id hmem
    have hothers : ids.filter (· ≠ id) =
        ids.take (31 + 1) ++ (ids.drop (31 + 1)).filter (· ≠ id) := by
      rw [← filter_ne_eq_self hnew, ← filter_append, take_append_drop]
    rw [hothers]
    split_ifs with hroom
    · rw [length_take] at hroom ⊢
      have hshort : ids.length ≤ 31 := by omega
      rw [drop_of_length_le (by omega), filter_nil, append_nil, take_take, take_take,
        take_of_length_le (by omega), take_of_length_le (by omega)]
    · rw [take_append_of_le_length (by omega)]

lemma ids_played (file : Option (List UInt8)) (channels : List ChannelId) (plays : List UInt32) :
    (RecentCatalog.played file channels plays).ids =
      (firsts ((plays.filter (· ≠ 0)).reverse ++ iptvLoadIdFile iptvMaxRecent file)).take
        iptvMaxRecent := by
  unfold RecentCatalog.played
  induction plays using reverseRecOn with
  | nil =>
    obtain ⟨hnodup, hlen⟩ := nodup_loadIdFile iptvMaxRecent file
    simp only [filter_nil, reverse_nil, nil_append]
    rw [firsts_of_nodup hnodup, take_of_length_le hlen]
    rfl
  | append_singleton plays id ih =>
    rw [foldl_append, filter_append, reverse_append, append_assoc, foldl_cons, foldl_nil]
    generalize plays.foldl RecentCatalog.play (.commitCatalog file channels) = catalog at ih ⊢
    unfold RecentCatalog.play
    by_cases hzero : id = 0
    · rw [if_pos hzero, ih]
      simp [hzero]
    · rw [if_neg hzero, ih, recentPlayed_take (nodup_firsts _)]
      simp [hzero, firsts]

lemma recent_played (file : Option (List UInt8)) (channels : List ChannelId) (plays : List UInt32) :
    ∀ channel ∈ (RecentCatalog.played file channels plays).channels,
      channel.recent = decide (channel.id.val ∈ (RecentCatalog.played file channels plays).ids) := by
  refine foldlRecOn plays _ (motive := fun catalog : RecentCatalog =>
    ∀ channel ∈ catalog.channels, channel.recent = decide (channel.id.val ∈ catalog.ids)) ?_ ?_
  · intro channel hchannel
    obtain ⟨id, -, rfl⟩ := mem_map.mp hchannel
    rfl
  intro catalog h id _
  unfold RecentCatalog.play
  split
  · exact h
  intro channel hchannel
  obtain ⟨old, -, rfl⟩ := mem_map.mp hchannel
  rfl

/-- **The channels that were played last.** After any plays the list holds the distinct identifiers of the
plays, the last one first, and behind them those that were loaded, as far as there is room; and a channel
is marked just when the list has it. -/
theorem recentChannels_played (file : Option (List UInt8)) (channels : List ChannelId)
    (plays : List UInt32) :
    (RecentCatalog.played file channels plays).ids =
        (firsts ((plays.filter (· ≠ 0)).reverse ++ iptvLoadIdFile iptvMaxRecent file)).take
          iptvMaxRecent ∧
      (RecentCatalog.played file channels plays).ids.Nodup ∧
      ∀ channel ∈ (RecentCatalog.played file channels plays).channels,
        channel.recent = decide (channel.id.val ∈ (RecentCatalog.played file channels plays).ids) := by
  refine ⟨ids_played file channels plays, ?_, recent_played file channels plays⟩
  rw [ids_played]
  exact (nodup_firsts _).sublist (List.take_sublist _ _)

end NXCast
