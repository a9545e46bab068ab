import Kaya.HA.SyncSnapshots

/-!
# Drift between two configuration snapshots

Two Pi-holes drift where their canonical snapshots differ. Both directions rest on what a label
says of an id (`groupLabel_of_mem`, `groupLabel_of_unknown`).

* **No false drift**: a renumbering of the groups leaves the canonical form alone if it leaves the
  ids alone that no group has.
* **No hidden drift**: equal canonical forms come from the same items up to such a renumbering if no
  group is called like such an id. The renumbering is read off the names (`renumbering`).

An id that no group has stands for itself in the canonical form, so both conditions are needed
(`canonicalSyncSnapshot_unknown_ids`).
-/

namespace Kaya.HA

open List

/-! ### No false drift -/

section NoFalseDrift

variable {s s' : Snapshot} {f : ℤ → ℤ}

theorem GroupItem.Renumbered.canonical {group group' : GroupItem} (hf : s.Renumbering f)
    (hgroup : group ∈ s.groupItems) (h : group.Renumbered f group') :
    group.canonical = group'.canonical := by
  have hdefault : (group.id.any fun id ↦ idText id = "0") =
      group'.id.any fun id ↦ idText id = "0" := by
    rw [← h.id]
    cases hid : group.id with
    | none => rfl
    | some x =>
      have hzero : f x = 0 ↔ x = 0 := by
        refine ⟨fun hx ↦ hf.injOn ?_ (Set.mem_insert _ _) (hx.trans hf.zero.symm), fun hx ↦ ?_⟩
        · exact Set.mem_insert_of_mem _ (.inl ⟨group, hgroup, hid⟩)
        · rw [hx, hf.zero]
      simp only [Option.map_some, Option.any_some, idText_eq_zero_iff, hzero]
  rw [GroupItem.canonical, GroupItem.canonical, h.name, h.comment, h.enabled, hdefault]

/-- The renumbered groups have distinct ids. -/
theorem nodup_ids_renumbered (hids : (s.groupItems.map (·.id)).Nodup) (hf : s.Renumbering f)
    (h : s.SameItems f s') : (s'.groupItems.map (·.id)).Nodup := by
  have hperm : (s.groupItems.map fun group ↦ group.id.map f).Perm (s'.groupItems.map (·.id)) :=
    rel_iff_map_perm.1 (h.groups.mono fun _ _ _ _ hsame ↦ hsame.id)
  refine hperm.nodup_iff.1 ?_
  have hmap : (s.groupItems.map fun group ↦ group.id.map f) =
      (s.groupItems.map (·.id)).map (Option.map f) := by
    rw [map_map]
    rfl
  rw [hmap]
  refine hids.map_on fun x hx y hy hxy ↦ ?_
  obtain ⟨group, hgroup, rfl⟩ := mem_map.1 hx
  obtain ⟨group', hgroup', rfl⟩ := mem_map.1 hy
  cases hid : group.id with
  | none => rw [hid, Option.map_none, eq_comm, Option.map_eq_none_iff] at hxy; exact hxy.symm
  | some x =>
    rw [hid, Option.map_some, eq_comm, Option.map_eq_some_iff] at hxy
    obtain ⟨y, hid', hfy⟩ := hxy
    have hyx : y = x := hf.injOn (Set.mem_insert_of_mem _ (.inl ⟨group', hgroup', hid'⟩))
      (Set.mem_insert_of_mem _ (.inl ⟨group, hgroup, hid⟩)) hfy
    rw [hid', hyx]

/-- An id and its new number have the same label. -/
theorem groupLabel_renumbered (hids : (s.groupItems.map (·.id)).Nodup) (hf : s.Renumbering f)
    (hfix : s.FixesUnknown f) (h : s.SameItems f s') {x : ℤ} (hx : x ∈ s.memberIds) :
    groupLabel s'.groupItems (f x) = groupLabel s.groupItems x := by
  by_cases hknown : x ∈ s.groupIds
  · obtain ⟨group, hgroup, hid⟩ := hknown
    obtain ⟨group', hgroup', hsame⟩ :=
      Multiset.exists_mem_of_rel_of_mem h.groups (Multiset.mem_coe.2 hgroup)
    have hid' : group'.id = some (f x) := by rw [← hsame.id, hid, Option.map_some]
    rw [groupLabel_of_mem hids hgroup hid, hsame.name]
    exact groupLabel_of_mem (nodup_ids_renumbered hids hf h) (Multiset.mem_coe.1 hgroup') hid'
  · rw [hfix x hx hknown]
    have hunk : ∀ group ∈ s.groupItems, group.id ≠ some x :=
      fun group hgroup hid ↦ hknown ⟨group, hgroup, hid⟩
    rw [groupLabel_of_unknown hunk, groupLabel_of_unknown fun group' hgroup' hid' ↦ ?_]
    obtain ⟨group, hgroup, hsame⟩ := Multiset.exists_mem_of_rel_of_mem
      (Multiset.rel_flip.2 h.groups) (Multiset.mem_coe.2 hgroup')
    obtain ⟨y, hid, hfy⟩ := Option.map_eq_some_iff.1 (hsame.id.trans hid')
    have hyx : y = x := by
      refine hf.injOn (Set.mem_insert_of_mem _ (.inl ⟨group, hgroup, hid⟩))
        (Set.mem_insert_of_mem _ (.inr hx)) ?_
      rw [hfy, hfix x hx hknown]
    exact hunk group (Multiset.mem_coe.1 hgroup) (by rw [hid, hyx])

/-- A collection of items in any order, and renumbered, has the same canonical rows. -/
theorem canonicalItems_renumbered {ι κ : Type} [LinearOrder κ] {key : ι → κ}
    {items items' : List (Assigned ι (List ℤ))} (h : SameAssigned f items items')
    (hkeys : (items.map fun item ↦ key item.content).Nodup)
    (hlabels : ∀ item ∈ items, ∀ x ∈ item.groups,
      groupLabel s'.groupItems (f x) = groupLabel s.groupItems x) :
    canonicalItems key s.groupItems items = canonicalItems key s'.groupItems items' := by
  refine sortedBy_eq_of_perm (rel_iff_map_perm.1 (h.mono fun item hitem item' _ hsame ↦ ?_)) ?_
  · have hlabel : item.groups.map (groupLabel s.groupItems) =
        (item.groups.map f).map (groupLabel s'.groupItems) := by
      rw [map_map]
      exact map_congr_left fun x hx ↦
        (hlabels item (Multiset.mem_coe.1 hitem) x hx).symm
    have hperm : (item.groups.map (groupLabel s.groupItems)).Perm
        (item'.groups.map (groupLabel s'.groupItems)) := by
      rw [hlabel]
      exact hsame.groups.map _
    rw [Assigned.canonical, Assigned.canonical, hsame.content, memberships, memberships,
      sortedBy_eq_of_perm hperm fun _ _ _ _ htext ↦ String.toList_inj.1 htext]
  · rintro _ hmem _ hmem' hkey
    obtain ⟨a, ha, rfl⟩ := mem_map.1 hmem
    obtain ⟨b, hb, rfl⟩ := mem_map.1 hmem'
    rw [inj_on_of_nodup_map hkeys ha hb hkey]

/-- **No false drift.** -/
theorem canonicalSyncSnapshot_of_sameItems (hs : s.UniqueItems) (hf : s.Renumbering f)
    (hfix : s.FixesUnknown f) (h : s.SameItems f s') (hothers : s.others = s'.others) :
    canonicalSyncSnapshot s = canonicalSyncSnapshot s' := by
  have hlabels : ∀ ids ∈ s.assigned, ∀ x ∈ ids,
      groupLabel s'.groupItems (f x) = groupLabel s.groupItems x :=
    fun ids hids x hx ↦ groupLabel_renumbered hs.ids hf hfix h ⟨ids, hids, hx⟩
  have hgroups : sortedBy (·.name.toList) (s.groupItems.map GroupItem.canonical) =
      sortedBy (·.name.toList) (s'.groupItems.map GroupItem.canonical) := by
    refine sortedBy_eq_of_perm (rel_iff_map_perm.1 (h.groups.mono fun group hgroup _ _ hsame ↦
      hsame.canonical hf (Multiset.mem_coe.1 hgroup))) ?_
    rintro _ hmem _ hmem' hkey
    obtain ⟨a, ha, rfl⟩ := mem_map.1 hmem
    obtain ⟨b, hb, rfl⟩ := mem_map.1 hmem'
    rw [inj_on_of_nodup_map hs.names ha hb (String.toList_inj.1 hkey)]
  rw [canonicalSyncSnapshot, canonicalSyncSnapshot, hgroups, hothers]
  rw [canonicalItems_renumbered h.clients hs.clients fun item hitem ↦
      hlabels _ (Snapshot.mem_assigned.2 (.inl ⟨item, hitem, rfl⟩)),
    canonicalItems_renumbered h.lists hs.lists fun item hitem ↦
      hlabels _ (Snapshot.mem_assigned.2 (.inr (.inl ⟨item, hitem, rfl⟩))),
    canonicalItems_renumbered h.domains hs.domains fun item hitem ↦
      hlabels _ (Snapshot.mem_assigned.2 (.inr (.inr ⟨item, hitem, rfl⟩)))]

end NoFalseDrift

/-! ### No hidden drift -/

/-- The number that the second Pi-hole gives a group of the first; any other id is left alone. -/
def renumbering (s s' : Snapshot) (x : ℤ) : ℤ :=
  if s.groupItems.any (·.id = some x) then
    ((s'.groupItems.find? (·.name = groupLabel s.groupItems x)).bind (·.id)).getD x
  else x

section NoHiddenDrift

variable {s s' : Snapshot}

theorem renumbering_of_unknown {x : ℤ} (hx : x ∉ s.groupIds) : renumbering s s' x = x := by
  refine if_neg fun hany ↦ ?_
  obtain ⟨group, hgroup, hid⟩ := any_eq_true.1 hany
  exact hx ⟨group, hgroup, of_decide_eq_true hid⟩

/-- Groups of one name are numbered by one another. -/
theorem renumbering_of_mem (hs : s.UniqueItems) (hs' : s'.UniqueItems) {group group' : GroupItem}
    {x : ℤ} (hgroup : group ∈ s.groupItems) (hid : group.id = some x)
    (hgroup' : group' ∈ s'.groupItems) (hname : group.name = group'.name) :
    some (renumbering s s' x) = group'.id := by
  have hany : s.groupItems.any (·.id = some x) = true :=
    any_eq_true.2 ⟨group, hgroup, decide_eq_true hid⟩
  have hlabel : groupLabel s.groupItems x = group'.name :=
    (groupLabel_of_mem hs.ids hgroup hid).trans hname
  rw [renumbering, if_pos hany, hlabel]
  cases hfind : s'.groupItems.find? (·.name = group'.name) with
  | none => exact absurd (decide_eq_true rfl) (find?_eq_none.1 hfind group' hgroup')
  | some other =>
    have hfound : decide (other.name = group'.name) = true :=
      find?_some (p := fun g : GroupItem ↦ decide (g.name = group'.name)) hfind
    have hother : other = group' := inj_on_of_nodup_map hs'.names
      (mem_of_find?_eq_some hfind) hgroup' (of_decide_eq_true hfound)
    obtain ⟨y, hy⟩ := Option.isSome_iff_exists.1 (hs'.numbered group' hgroup')
    rw [hother, Option.bind_some, hy, Option.getD_some]

/-- What equal canonical forms say of two snapshots. -/
structure Matched (s s' : Snapshot) : Prop where
  groups : (s.groupItems.map GroupItem.canonical).Perm (s'.groupItems.map GroupItem.canonical)
  clients : (s.clientItems.map (·.canonical s.groupItems)).Perm
    (s'.clientItems.map (·.canonical s'.groupItems))
  lists : (s.listItems.map (·.canonical s.groupItems)).Perm
    (s'.listItems.map (·.canonical s'.groupItems))
  domains : (s.domainItems.map (·.canonical s.groupItems)).Perm
    (s'.domainItems.map (·.canonical s'.groupItems))

theorem Matched.of_canonical (h : canonicalSyncSnapshot s = canonicalSyncSnapshot s') :
    Matched s s' where
  groups := perm_of_sortedBy (congrArg CanonicalSnapshot.groups h)
  clients := perm_of_sortedBy (congrArg CanonicalSnapshot.clients h)
  lists := perm_of_sortedBy (congrArg CanonicalSnapshot.lists h)
  domains := perm_of_sortedBy (congrArg CanonicalSnapshot.domains h)

namespace Matched

section

variable (h : Matched s s')

include h

theorem symm : Matched s' s where
  groups := h.groups.symm
  clients := h.clients.symm
  lists := h.lists.symm
  domains := h.domains.symm

theorem exists_group {group : GroupItem} (hgroup : group ∈ s.groupItems) :
    ∃ group' ∈ s'.groupItems, group.canonical = group'.canonical := by
  obtain ⟨group', hgroup', heq⟩ := mem_map.1 (h.groups.mem_iff.1 (mem_map_of_mem hgroup))
  exact ⟨group', hgroup', heq.symm⟩

/-- A membership list has a partner with the same labels. -/
theorem exists_assigned {ids : List ℤ} (hids : ids ∈ s.assigned) :
    ∃ ids' ∈ s'.assigned, memberships s.groupItems ids = memberships s'.groupItems ids' := by
  have hpartner : ∀ {ι : Type} {items items' : List (Assigned ι (List ℤ))} {item},
      (items.map (·.canonical s.groupItems)).Perm (items'.map (·.canonical s'.groupItems)) →
      item ∈ items → ∃ item' ∈ items',
        memberships s.groupItems item.groups = memberships s'.groupItems item'.groups := by
    intro ι items items' item hperm hitem
    obtain ⟨item', hitem', heq⟩ := mem_map.1 (hperm.mem_iff.1 (mem_map_of_mem hitem))
    exact ⟨item', hitem', (congrArg Assigned.groups heq).symm⟩
  rcases Snapshot.mem_assigned.1 hids with ⟨item, hitem, rfl⟩ | ⟨item, hitem, rfl⟩ |
    ⟨item, hitem, rfl⟩
  · obtain ⟨item', hitem', heq⟩ := hpartner h.clients hitem
    exact ⟨_, Snapshot.mem_assigned.2 (.inl ⟨item', hitem', rfl⟩), heq⟩
  · obtain ⟨item', hitem', heq⟩ := hpartner h.lists hitem
    exact ⟨_, Snapshot.mem_assigned.2 (.inr (.inl ⟨item', hitem', rfl⟩)), heq⟩
  · obtain ⟨item', hitem', heq⟩ := hpartner h.domains hitem
    exact ⟨_, Snapshot.mem_assigned.2 (.inr (.inr ⟨item', hitem', rfl⟩)), heq⟩

/-- An id that no group of the first has occurs in the second, and no group there has it. -/
theorem unknown (hs' : s'.UniqueItems) (hapart : s.NamesApart) {x : ℤ}
    (hx : x ∈ s.memberIds) (hunk : x ∉ s.groupIds) : x ∈ s'.memberIds ∧ x ∉ s'.groupIds := by
  obtain ⟨ids, hids, hmem⟩ := hx
  obtain ⟨ids', hids', heq⟩ := h.exists_assigned hids
  have hlabel : groupLabel s.groupItems x = idText x :=
    groupLabel_of_unknown fun group hgroup hid ↦ hunk ⟨group, hgroup, hid⟩
  have htext : idText x ∈ memberships s'.groupItems ids' := by
    rw [← heq, ← hlabel]
    exact (perm_sortedBy _ _).mem_iff.2 (mem_map_of_mem hmem)
  obtain ⟨z, hz, hzlabel⟩ := mem_map.1 ((perm_sortedBy _ _).mem_iff.1 htext)
  have hzunknown : z ∉ s'.groupIds := by
    rintro ⟨group', hgroup', hid'⟩
    obtain ⟨group, hgroup, hcanon⟩ := h.symm.exists_group hgroup'
    refine hapart x ⟨ids, hids, hmem⟩ hunk group hgroup ?_
    rw [← hzlabel, groupLabel_of_mem hs'.ids hgroup' hid']
    exact (congrArg CanonicalGroup.name hcanon).symm
  have hzx : z = x := by
    rw [groupLabel_of_unknown fun group hgroup hid ↦ hzunknown ⟨group, hgroup, hid⟩] at hzlabel
    exact idText_injective hzlabel
  rw [← hzx]
  exact ⟨⟨ids', hids', hz⟩, hzunknown⟩

/-- A group of the first has the number of its namesake in the second. -/
theorem renumbered (hs : s.UniqueItems) (hs' : s'.UniqueItems) {x : ℤ}
    (hx : x ∈ s.groupIds) : ∃ group ∈ s.groupItems, group.id = some x ∧
      ∃ group' ∈ s'.groupItems, group'.id = some (renumbering s s' x) ∧
        group.canonical = group'.canonical := by
  obtain ⟨group, hgroup, hid⟩ := hx
  obtain ⟨group', hgroup', hcanon⟩ := h.exists_group hgroup
  have hname : group.name = group'.name := congrArg CanonicalGroup.name hcanon
  exact ⟨group, hgroup, hid, group', hgroup',
    (renumbering_of_mem hs hs' hgroup hid hgroup' hname).symm, hcanon⟩

/-- The default group of one snapshot is that of the other. -/
theorem zero_mem_iff : (0 : ℤ) ∈ s.groupIds ↔ (0 : ℤ) ∈ s'.groupIds := by
  have hfwd : ∀ {s s' : Snapshot}, Matched s s' → (0 : ℤ) ∈ s.groupIds →
      (0 : ℤ) ∈ s'.groupIds := by
    rintro s s' h ⟨group, hgroup, hid⟩
    obtain ⟨group', hgroup', hcanon⟩ := h.exists_group hgroup
    have hdefault := congrArg CanonicalGroup.builtinDefault hcanon
    simp only [GroupItem.canonical, hid, Option.any_some] at hdefault
    have hzero : (group'.id.any fun id ↦ idText id = "0") = true := by
      rw [← hdefault]
      decide
    obtain ⟨y, hid', hy⟩ := (Option.any_eq_true _ _).1 hzero
    exact ⟨group', hgroup', by rw [hid', idText_eq_zero_iff.1 (of_decide_eq_true hy)]⟩
  exact ⟨hfwd h, hfwd h.symm⟩

/-- **The numbers of the second Pi-hole** are a renumbering of those of the first. -/
theorem isRenumbering (hs : s.UniqueItems) (hs' : s'.UniqueItems)
    (hapart : s.NamesApart) : s.Renumbering (renumbering s s') := by
  have hzero : renumbering s s' 0 = 0 := by
    by_cases hknown : (0 : ℤ) ∈ s.groupIds
    · obtain ⟨group, -, hid, group', -, hid', hcanon⟩ := h.renumbered hs hs' hknown
      have hdefault : decide (idText 0 = "0") = decide (idText (renumbering s s' 0) = "0") := by
        have hsame := congrArg CanonicalGroup.builtinDefault hcanon
        rwa [GroupItem.canonical, GroupItem.canonical, hid, hid', Option.any_some,
          Option.any_some] at hsame
      exact idText_eq_zero_iff.1 (of_decide_eq_true (hdefault.symm.trans (by decide)))
    · exact renumbering_of_unknown hknown
  -- An id that no group has keeps clear of the new numbers.
  have hclear : ∀ x ∈ s.groupIds, ∀ y ∉ s.groupIds, y ∈ insert 0 (s.groupIds ∪ s.memberIds) →
      renumbering s s' x ≠ y := by
    rintro x hx y hy hoccurs heq
    obtain ⟨-, -, -, group', hgroup', hid', -⟩ := h.renumbered hs hs' hx
    have hmem : y ∈ s'.groupIds := ⟨group', hgroup', by rw [hid', heq]⟩
    rcases hoccurs with rfl | hoccurs | hoccurs
    · exact hy (h.zero_mem_iff.2 hmem)
    · exact hy hoccurs
    · exact (h.unknown hs' hapart hoccurs hy).2 hmem
  refine ⟨fun x hx y hy heq ↦ ?_, hzero⟩
  by_cases hxknown : x ∈ s.groupIds
  · by_cases hyknown : y ∈ s.groupIds
    · obtain ⟨group, hgroup, hid, partner, hpartner, hnumber, hcanon⟩ :=
        h.renumbered hs hs' hxknown
      obtain ⟨group', hgroup', hid', partner', hpartner', hnumber', hcanon'⟩ :=
        h.renumbered hs hs' hyknown
      have hsame : partner = partner' := inj_on_of_nodup_map hs'.ids hpartner hpartner'
        (by rw [hnumber, hnumber', heq])
      have hnames : group.name = group'.name := by
        have hname := congrArg CanonicalGroup.name hcanon
        rw [hsame] at hname
        exact hname.trans (congrArg CanonicalGroup.name hcanon').symm
      have hgroups : group = group' := inj_on_of_nodup_map hs.names hgroup hgroup' hnames
      rw [hgroups, hid'] at hid
      exact (Option.some.inj hid).symm
    · exact absurd (heq.trans (renumbering_of_unknown hyknown)) (hclear x hxknown y hyknown hy)
  · by_cases hyknown : y ∈ s.groupIds
    · exact absurd (heq.symm.trans (renumbering_of_unknown hxknown))
        (hclear y hyknown x hxknown hx)
    · rwa [renumbering_of_unknown hxknown, renumbering_of_unknown hyknown] at heq

/-- An id and its new number have the same label. -/
theorem groupLabel_eq (hs : s.UniqueItems) (hs' : s'.UniqueItems)
    (hapart : s.NamesApart) {x : ℤ} (hx : x ∈ s.memberIds) :
    groupLabel s'.groupItems (renumbering s s' x) = groupLabel s.groupItems x ∧
      renumbering s s' x ∈ s'.groupIds ∪ s'.memberIds := by
  by_cases hknown : x ∈ s.groupIds
  · obtain ⟨group, hgroup, hid, group', hgroup', hid', hcanon⟩ := h.renumbered hs hs' hknown
    rw [groupLabel_of_mem hs.ids hgroup hid, groupLabel_of_mem hs'.ids hgroup' hid']
    exact ⟨(congrArg CanonicalGroup.name hcanon).symm, .inl ⟨group', hgroup', hid'⟩⟩
  · obtain ⟨hmember, hunk⟩ := h.unknown hs' hapart hx hknown
    rw [renumbering_of_unknown hknown,
      groupLabel_of_unknown fun group hgroup hid ↦ hknown ⟨group, hgroup, hid⟩,
      groupLabel_of_unknown fun group hgroup hid ↦ hunk ⟨group, hgroup, hid⟩]
    exact ⟨rfl, .inr hmember⟩

end

end Matched

/-- Where names keep apart from ids, a label tells its id. -/
theorem groupLabel_injOn (hs : s.UniqueItems) (hapart : s.NamesApart) :
    Set.InjOn (groupLabel s.groupItems) (s.groupIds ∪ s.memberIds) := by
  have hmixed : ∀ x ∈ s.groupIds, ∀ y ∉ s.groupIds, y ∈ s.groupIds ∪ s.memberIds →
      groupLabel s.groupItems x ≠ groupLabel s.groupItems y := by
    rintro x ⟨group, hgroup, hid⟩ y hy hoccurs heq
    rw [groupLabel_of_mem hs.ids hgroup hid,
      groupLabel_of_unknown fun group hgroup hid ↦ hy ⟨group, hgroup, hid⟩] at heq
    exact hapart y (hoccurs.resolve_left hy) hy group hgroup heq
  intro x hx y hy heq
  by_cases hxknown : x ∈ s.groupIds
  · by_cases hyknown : y ∈ s.groupIds
    · obtain ⟨group, hgroup, hid⟩ := hxknown
      obtain ⟨group', hgroup', hid'⟩ := hyknown
      rw [groupLabel_of_mem hs.ids hgroup hid, groupLabel_of_mem hs.ids hgroup' hid'] at heq
      have hsame : group = group' := inj_on_of_nodup_map hs.names hgroup hgroup' heq
      rw [hsame, hid'] at hid
      exact (Option.some.inj hid).symm
    · exact absurd heq (hmixed x hxknown y hyknown hy)
  · by_cases hyknown : y ∈ s.groupIds
    · exact absurd heq.symm (hmixed y hyknown x hxknown hx)
    · rw [groupLabel_of_unknown fun group hgroup hid ↦ hxknown ⟨group, hgroup, hid⟩,
        groupLabel_of_unknown fun group hgroup hid ↦ hyknown ⟨group, hgroup, hid⟩] at heq
      exact idText_injective heq

/-- Items with equal canonical rows are the same items, renumbered. -/
theorem sameAssigned_of_perm {ι : Type} {items items' : List (Assigned ι (List ℤ))}
    (h : Matched s s') (hs : s.UniqueItems) (hs' : s'.UniqueItems) (hapart : s.NamesApart)
    (hapart' : s'.NamesApart) (hitems : ∀ item ∈ items, item.groups ∈ s.assigned)
    (hitems' : ∀ item ∈ items', item.groups ∈ s'.assigned)
    (hperm : (items.map (·.canonical s.groupItems)).Perm (items'.map (·.canonical s'.groupItems))) :
    SameAssigned (renumbering s s') items items' := by
  refine (rel_iff_map_perm.2 hperm).mono fun item hitem item' hitem' heq ↦
    ⟨congrArg (fun row : Assigned ι (List String) ↦ row.content) heq, ?_⟩
  have hmember : ∀ x ∈ item.groups, x ∈ s.memberIds :=
    fun x hx ↦ ⟨_, hitems item (Multiset.mem_coe.1 hitem), hx⟩
  have hmember' : ∀ x ∈ item'.groups, x ∈ s'.memberIds :=
    fun x hx ↦ ⟨_, hitems' item' (Multiset.mem_coe.1 hitem'), hx⟩
  have hlabels : (item.groups.map (groupLabel s.groupItems)).Perm
      (item'.groups.map (groupLabel s'.groupItems)) :=
    perm_of_sortedBy (congrArg Assigned.groups heq)
  have hnew : (item.groups.map (renumbering s s')).map (groupLabel s'.groupItems) =
      item.groups.map (groupLabel s.groupItems) := by
    rw [map_map]
    exact map_congr_left fun x hx ↦ (h.groupLabel_eq hs hs' hapart (hmember x hx)).1
  have hoccurs : ∀ y, (y ∈ item.groups.map (renumbering s s') ∨ y ∈ item'.groups) →
      y ∈ s'.groupIds ∪ s'.memberIds := by
    rintro y (hy | hy)
    · obtain ⟨x, hx, rfl⟩ := mem_map.1 hy
      exact (h.groupLabel_eq hs hs' hapart (hmember x hx)).2
    · exact .inr (hmember' y hy)
  refine perm_of_map_perm (fun x y hx hy ↦
    groupLabel_injOn hs' hapart' (hoccurs x hx) (hoccurs y hy)) ?_
  rw [hnew]
  exact hlabels

/-- **No hidden drift.** -/
theorem sameItems_of_canonical (hs : s.UniqueItems) (hs' : s'.UniqueItems) (hapart : s.NamesApart)
    (hapart' : s'.NamesApart) (hcanon : canonicalSyncSnapshot s = canonicalSyncSnapshot s') :
    s.Renumbering (renumbering s s') ∧ s.FixesUnknown (renumbering s s') ∧
      s.SameItems (renumbering s s') s' := by
  have h := Matched.of_canonical hcanon
  refine ⟨h.isRenumbering hs hs' hapart, fun x _ hx ↦ renumbering_of_unknown hx, ?_, ?_, ?_, ?_⟩
  · refine (rel_iff_map_perm.2 h.groups).mono fun group hgroup group' hgroup' heq ↦ ?_
    have hname : group.name = group'.name := congrArg CanonicalGroup.name heq
    refine ⟨?_, hname, congrArg CanonicalGroup.comment heq, congrArg CanonicalGroup.enabled heq⟩
    obtain ⟨x, hid⟩ := Option.isSome_iff_exists.1 (hs.numbered group (Multiset.mem_coe.1 hgroup))
    rw [hid, Option.map_some]
    exact renumbering_of_mem hs hs' (Multiset.mem_coe.1 hgroup) hid
      (Multiset.mem_coe.1 hgroup') hname
  · exact sameAssigned_of_perm h hs hs' hapart hapart'
      (fun item hitem ↦ Snapshot.mem_assigned.2 (.inl ⟨item, hitem, rfl⟩))
      (fun item hitem ↦ Snapshot.mem_assigned.2 (.inl ⟨item, hitem, rfl⟩)) h.clients
  · exact sameAssigned_of_perm h hs hs' hapart hapart'
      (fun item hitem ↦ Snapshot.mem_assigned.2 (.inr (.inl ⟨item, hitem, rfl⟩)))
      (fun item hitem ↦ Snapshot.mem_assigned.2 (.inr (.inl ⟨item, hitem, rfl⟩))) h.lists
  · exact sameAssigned_of_perm h hs hs' hapart hapart'
      (fun item hitem ↦ Snapshot.mem_assigned.2 (.inr (.inr ⟨item, hitem, rfl⟩)))
      (fun item hitem ↦ Snapshot.mem_assigned.2 (.inr (.inr ⟨item, hitem, rfl⟩))) h.domains

end NoHiddenDrift

/-! ### Both directions -/

/-- **The canonical form is faithful.** It ignores the order of rows and memberships and every
renumbering that leaves the ids alone that no group has; and snapshots with one canonical form have
the same items up to such a renumbering, if their groups are not called like ids that no group
has. -/
theorem canonicalSyncSnapshot_faithful (s : Snapshot) (hs : s.UniqueItems) :
    (∀ (f : ℤ → ℤ) (s' : Snapshot), s.Renumbering f → s.FixesUnknown f → s.SameItems f s' →
      s.others = s'.others → canonicalSyncSnapshot s = canonicalSyncSnapshot s') ∧
    ∀ s' : Snapshot, s'.UniqueItems → s.NamesApart → s'.NamesApart →
      canonicalSyncSnapshot s = canonicalSyncSnapshot s' →
        ∃ f, s.Renumbering f ∧ s.FixesUnknown f ∧ s.SameItems f s' :=
  ⟨fun _ _ hf hfix h hothers ↦ canonicalSyncSnapshot_of_sameItems hs hf hfix h hothers,
    fun _ hs' hapart hapart' hcanon ↦
      ⟨_, sameItems_of_canonical hs hs' hapart hapart' hcanon⟩⟩

/-- Two groups, and a client in the second. -/
def laptopSnapshot : Snapshot where
  groups := [{ id := some 0, name := some "Default" }, { id := some 1, name := some "5" }]
  clients := [{ client := some "192.0.2.20", groups := [1] }]

/-- The same configuration, from a Pi-hole that lists the second group first and calls it `7`. -/
def otherSnapshot : Snapshot where
  groups := [{ id := some 7, name := some "5" }, { id := some 0, name := some "Default" }]
  clients := [{ client := some "192.0.2.20", groups := [7] }]

theorem uniqueItems_laptop : laptopSnapshot.UniqueItems :=
  ⟨by decide, by decide, by decide, by decide, by decide, by decide⟩

theorem uniqueItems_other : otherSnapshot.UniqueItems :=
  ⟨by decide, by decide, by decide, by decide, by decide, by decide⟩

theorem memberIds_laptop {x : ℤ} (hx : x ∈ laptopSnapshot.memberIds) :
    x ∈ laptopSnapshot.groupIds := by
  obtain ⟨ids, hids, hmem⟩ := hx
  obtain rfl := mem_singleton.1 hids
  exact ⟨_, mem_cons_of_mem _ mem_cons_self, by rw [mem_singleton.1 hmem]⟩

theorem memberIds_other {x : ℤ} (hx : x ∈ otherSnapshot.memberIds) :
    x ∈ otherSnapshot.groupIds := by
  obtain ⟨ids, hids, hmem⟩ := hx
  obtain rfl := mem_singleton.1 hids
  exact ⟨_, mem_cons_self, by rw [mem_singleton.1 hmem]⟩

theorem sameItems_other : laptopSnapshot.SameItems (Equiv.swap 1 7) otherSnapshot where
  groups := by
    have hswap : (otherSnapshot.groupItems : Multiset GroupItem) =
        otherSnapshot.groupItems.reverse := Multiset.coe_eq_coe.2 (reverse_perm _).symm
    rw [hswap]
    exact .cons ⟨by decide, rfl, rfl, rfl⟩ (.cons ⟨by decide, rfl, rfl, rfl⟩ .zero)
  clients := .cons ⟨rfl, by decide⟩ .zero
  lists := .zero
  domains := .zero

theorem canonicalSyncSnapshot_faithful_laptop :
    canonicalSyncSnapshot laptopSnapshot = canonicalSyncSnapshot otherSnapshot ∧
      ∃ f, laptopSnapshot.Renumbering f ∧ laptopSnapshot.FixesUnknown f ∧
        laptopSnapshot.SameItems f otherSnapshot := by
  obtain ⟨hfalse, hhidden⟩ := canonicalSyncSnapshot_faithful laptopSnapshot uniqueItems_laptop
  have hequal := hfalse (Equiv.swap 1 7) otherSnapshot
    ⟨(Equiv.injective _).injOn, by decide⟩
    (fun _ hx hunk ↦ absurd (memberIds_laptop hx) hunk) sameItems_other rfl
  exact ⟨hequal, hhidden otherSnapshot uniqueItems_other
    (fun _ hx hunk ↦ absurd (memberIds_laptop hx) hunk)
    (fun _ hx hunk ↦ absurd (memberIds_other hx) hunk) hequal⟩

/-- A client in a group that does not exist. -/
def strandedSnapshot (id : ℤ) : Snapshot :=
  { laptopSnapshot with clients := [{ client := some "192.0.2.20", groups := [id] }] }

theorem uniqueItems_stranded : (strandedSnapshot 5).UniqueItems :=
  ⟨by decide, by decide, by decide, by decide, by decide, by decide⟩

theorem sameItems_stranded :
    (strandedSnapshot 5).SameItems (Equiv.swap 5 6) (strandedSnapshot 6) where
  groups := .cons ⟨by decide, rfl, rfl, rfl⟩ (.cons ⟨by decide, rfl, rfl, rfl⟩ .zero)
  clients := .cons ⟨rfl, by decide⟩ .zero
  lists := .zero
  domains := .zero

/-- No renumbering takes the group `1` to an id that no group has. -/
theorem not_sameItems_stranded (f : ℤ → ℤ) : ¬ laptopSnapshot.SameItems f (strandedSnapshot 5) := by
  intro h
  have hclient : f 1 = 5 := by
    obtain ⟨client, hclient, hsame⟩ :=
      Multiset.exists_mem_of_rel_of_mem h.clients (Multiset.mem_singleton_self _)
    obtain rfl := Multiset.mem_singleton.1 hclient
    exact (singleton_perm_singleton.1 hsame.groups)
  obtain ⟨group, hgroup, hsame⟩ := Multiset.exists_mem_of_rel_of_mem h.groups
    (Multiset.mem_cons_of_mem (Multiset.mem_singleton_self _))
  have hid : group.id = some 5 := by rw [← hsame.id, ← hclient]; rfl
  rcases mem_cons.1 (Multiset.mem_coe.1 hgroup) with rfl | hgroup
  · exact absurd hid (by decide)
  · obtain rfl := mem_singleton.1 hgroup
    exact absurd hid (by decide)

/-- **Ids that no group has.** Renumbering such an id is seen as drift, and a group that is called
`5` hides the client that is in no group. -/
theorem canonicalSyncSnapshot_unknown_ids :
    ((strandedSnapshot 5).UniqueItems ∧ (strandedSnapshot 5).Renumbering (Equiv.swap 5 6) ∧
      (strandedSnapshot 5).SameItems (Equiv.swap 5 6) (strandedSnapshot 6) ∧
      canonicalSyncSnapshot (strandedSnapshot 5) ≠ canonicalSyncSnapshot (strandedSnapshot 6)) ∧
    laptopSnapshot.UniqueItems ∧
      canonicalSyncSnapshot laptopSnapshot = canonicalSyncSnapshot (strandedSnapshot 5) ∧
      ∀ f, laptopSnapshot.Renumbering f → ¬ laptopSnapshot.SameItems f (strandedSnapshot 5) := by
  refine ⟨⟨uniqueItems_stranded, ⟨(Equiv.injective _).injOn, by decide⟩, sameItems_stranded,
    fun heq ↦ ?_⟩, uniqueItems_laptop, rfl, fun f _ ↦ not_sameItems_stranded f⟩
  have hclients := congrArg CanonicalSnapshot.clients heq
  revert hclients
  decide

end Kaya.HA
