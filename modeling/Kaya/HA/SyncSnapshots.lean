import Kaya.HA.LeaseDocuments
import Kaya.Library.PrefixCode
import Kaya.Library.Sorting
import Mathlib.Data.Char
import Mathlib.Data.List.Lex
import Mathlib.Data.Prod.Lex

/-!
# Configuration snapshots of two Pi-holes

`app/services/ha_sync.py` compares the configurations of the two Pi-holes through
`_canonical_sync_snapshot`. Each Pi-hole numbers its groups by itself, so the canonical form lists
the groups by name and writes the memberships of clients, lists and domains as group names; an id
that no group has is written as it is.

**Rows.** A row is the object of the API, with what the canonical form reads of it: numbers, texts,
booleans and `null`. `none` stands for `null` and for a missing key, except at `enabled`, where the
missing key alone counts as enabled; `null` does not occur there. An item is what the canonical form
keeps of a row: a row without a name (a client, an address, a domain) is no item.

`SameItems` is what the canonical form is meant to say of two snapshots: the same items in any
order, with the groups renumbered.
-/

namespace Kaya.HA

open List

/-! ### Rows -/

/-- A JSON value. A float is the text that `str` makes of it. -/
inductive Json
  | null
  | bool (b : Bool)
  | int (n : ℤ)
  | float (digits : String)
  | str (text : String)
  | list (items : List Json)
  | dict (items : List (String × Json))

/-- A row of `/api/groups`. -/
structure GroupRow where
  id : Option ℤ
  name : Option String
  comment : Option String := none
  enabled : Option Bool := none

/-- A row of `/api/clients`. -/
structure ClientRow where
  client : Option String
  comment : Option String := none
  groups : List ℤ

/-- A row of `/api/lists`. -/
structure ListRow where
  address : Option String
  type : Option String
  comment : Option String := none
  enabled : Option Bool := none
  groups : List ℤ

/-- A row of `/api/domains`. -/
structure DomainRow where
  domain : Option String
  type : Option String
  kind : Option String
  comment : Option String := none
  enabled : Option Bool := none
  groups : List ℤ

/-- A configuration snapshot: its collections, and its other keys. -/
structure Snapshot where
  groups : List GroupRow := []
  clients : List ClientRow := []
  lists : List ListRow := []
  domains : List DomainRow := []
  others : List (String × Json) := []

/-! ### Items -/

/-- A text that is not empty. -/
def nonEmpty (text : Option String) : Option String := text.filter (· ≠ "")

/-- A group. -/
structure GroupItem where
  id : Option ℤ
  name : String
  comment : String
  enabled : Bool

/-- An item with the groups it is assigned to. -/
structure Assigned (ι μ : Type) where
  content : ι
  groups : μ
  deriving DecidableEq

/-- What a client is but for its groups. -/
structure ClientContent where
  client : String
  comment : String
  deriving DecidableEq

/-- What a subscribed list is but for its groups. -/
structure ListContent where
  address : String
  type : String
  comment : String
  enabled : Bool

/-- What a domain is but for its groups. -/
structure DomainContent where
  domain : String
  type : String
  kind : String
  comment : String
  enabled : Bool

def GroupRow.item (row : GroupRow) : Option GroupItem :=
  (nonEmpty row.name).map fun name ↦
    { id := row.id, name, comment := row.comment.getD "", enabled := row.enabled.getD true }

def ClientRow.item (row : ClientRow) : Option (Assigned ClientContent (List ℤ)) :=
  (nonEmpty row.client).map fun client ↦
    { content := { client, comment := row.comment.getD "" }, groups := row.groups }

def ListRow.item (row : ListRow) : Option (Assigned ListContent (List ℤ)) :=
  (nonEmpty row.address).map fun address ↦
    { content :=
        { address, type := (nonEmpty row.type).getD "block", comment := row.comment.getD ""
          enabled := row.enabled.getD true }
      groups := row.groups }

def DomainRow.item (row : DomainRow) : Option (Assigned DomainContent (List ℤ)) :=
  (nonEmpty row.domain).map fun domain ↦
    { content :=
        { domain, type := (nonEmpty row.type).getD "allow", kind := (nonEmpty row.kind).getD "exact"
          comment := row.comment.getD "", enabled := row.enabled.getD true }
      groups := row.groups }

namespace Snapshot

def groupItems (s : Snapshot) : List GroupItem := s.groups.filterMap GroupRow.item

def clientItems (s : Snapshot) : List (Assigned ClientContent (List ℤ)) :=
  s.clients.filterMap ClientRow.item

def listItems (s : Snapshot) : List (Assigned ListContent (List ℤ)) :=
  s.lists.filterMap ListRow.item

def domainItems (s : Snapshot) : List (Assigned DomainContent (List ℤ)) :=
  s.domains.filterMap DomainRow.item

end Snapshot

/-! ### The canonical form -/

/-- `str(id)`. -/
def idText (id : ℤ) : String := String.ofList (intText id)

/-- `group_names`. -/
def groupNames (groups : List GroupItem) : List (String × String) :=
  groups.filterMap fun group ↦ group.id.map fun id ↦ (idText id, group.name)

/-- `group_names.get(str(item), str(item))`: the last group of an id gives the name. -/
def groupLabel (groups : List GroupItem) (id : ℤ) : String :=
  ((groupNames groups).reverse.lookup (idText id)).getD (idText id)

/-- `memberships`. -/
def memberships (groups : List GroupItem) (ids : List ℤ) : List String :=
  sortedBy String.toList (ids.map (groupLabel groups))

/-- A canonical group. -/
structure CanonicalGroup where
  name : String
  comment : String
  enabled : Bool
  builtinDefault : Bool

def GroupItem.canonical (group : GroupItem) : CanonicalGroup where
  name := group.name
  comment := group.comment
  enabled := group.enabled
  builtinDefault := group.id.any fun id ↦ idText id = "0"

def Assigned.canonical {ι : Type} (groups : List GroupItem) (item : Assigned ι (List ℤ)) :
    Assigned ι (List String) where
  content := item.content
  groups := memberships groups item.groups

/-- The sort key of a client. -/
def ClientContent.key (content : ClientContent) : List Char := content.client.toList

/-- The sort key of a subscribed list. -/
def ListContent.key (content : ListContent) : List Char ×ₗ List Char :=
  toLex (content.type.toList, content.address.toList)

/-- The sort key of a domain. -/
def DomainContent.key (content : DomainContent) : List Char ×ₗ List Char ×ₗ List Char :=
  toLex (content.type.toList, toLex (content.kind.toList, content.domain.toList))

/-- The canonical rows of a collection. -/
def canonicalItems {ι κ : Type} [LinearOrder κ] (key : ι → κ) (groups : List GroupItem)
    (items : List (Assigned ι (List ℤ))) : List (Assigned ι (List String)) :=
  sortedBy (fun item ↦ key item.content) (items.map (·.canonical groups))

/-- A key that says whether DHCP is on. Only ASCII letters fold to those of the two words. -/
def isActivationKey (key : String) : Bool :=
  ["active", "enabled"].contains (lowerText key)

mutual

/-- `_without_dhcp_activation`. -/
def withoutDhcpActivation : Json → Json
  | .dict items => .dict (itemsWithoutDhcpActivation items)
  | .list items => .list (listWithoutDhcpActivation items)
  | value => value

@[inherit_doc withoutDhcpActivation]
def listWithoutDhcpActivation : List Json → List Json
  | [] => []
  | item :: items => withoutDhcpActivation item :: listWithoutDhcpActivation items

@[inherit_doc withoutDhcpActivation]
def itemsWithoutDhcpActivation : List (String × Json) → List (String × Json)
  | [] => []
  | (key, item) :: items =>
    if isActivationKey key then itemsWithoutDhcpActivation items
    else (key, withoutDhcpActivation item) :: itemsWithoutDhcpActivation items

end

/-- `_sync_snapshot`, on the keys that are no collections. -/
def syncOthers (others : List (String × Json)) : List (String × Json) :=
  (others.filter fun (key, _) ↦ !"_ha_".toList.isPrefixOf key.toList).map fun (key, value) ↦
    (key, if key = "dhcp" then withoutDhcpActivation value else value)

/-- A canonical snapshot. -/
structure CanonicalSnapshot where
  groups : List CanonicalGroup
  clients : List (Assigned ClientContent (List String))
  lists : List (Assigned ListContent (List String))
  domains : List (Assigned DomainContent (List String))
  others : List (String × Json)

/-- `_canonical_sync_snapshot`. -/
def canonicalSyncSnapshot (s : Snapshot) : CanonicalSnapshot where
  groups := sortedBy (·.name.toList) (s.groupItems.map GroupItem.canonical)
  clients := canonicalItems ClientContent.key s.groupItems s.clientItems
  lists := canonicalItems ListContent.key s.groupItems s.listItems
  domains := canonicalItems DomainContent.key s.groupItems s.domainItems
  others := syncOthers s.others

/-! ### Snapshots up to renumbering -/

namespace Snapshot

variable (s : Snapshot)

/-- The membership lists of clients, lists and domains. -/
def assigned : List (List ℤ) :=
  s.clientItems.map (·.groups) ++ (s.listItems.map (·.groups) ++ s.domainItems.map (·.groups))

/-- The ids of the groups. -/
def groupIds : Set ℤ := {x | ∃ group ∈ s.groupItems, group.id = some x}

/-- The ids in the memberships. -/
def memberIds : Set ℤ := {x | ∃ ids ∈ s.assigned, x ∈ ids}

/-- The items have distinct identities, and every group has a number. -/
structure UniqueItems : Prop where
  numbered : ∀ group ∈ s.groupItems, group.id.isSome
  ids : (s.groupItems.map (·.id)).Nodup
  names : (s.groupItems.map (·.name)).Nodup
  clients : (s.clientItems.map fun item ↦ item.content.key).Nodup
  lists : (s.listItems.map fun item ↦ item.content.key).Nodup
  domains : (s.domainItems.map fun item ↦ item.content.key).Nodup

/-- A renumbering of the groups: it is injective on the ids that occur, and fixes `0`. -/
structure Renumbering (f : ℤ → ℤ) : Prop where
  injOn : Set.InjOn f (insert 0 (s.groupIds ∪ s.memberIds))
  zero : f 0 = 0

/-- The ids that no group has are left alone. -/
def FixesUnknown (f : ℤ → ℤ) : Prop := ∀ x ∈ s.memberIds, x ∉ s.groupIds → f x = x

/-- No group is called like an id that no group has. -/
def NamesApart : Prop :=
  ∀ x ∈ s.memberIds, x ∉ s.groupIds → ∀ group ∈ s.groupItems, group.name ≠ idText x

end Snapshot

/-- The same group under a new number. -/
structure GroupItem.Renumbered (f : ℤ → ℤ) (group group' : GroupItem) : Prop where
  id : group.id.map f = group'.id
  name : group.name = group'.name
  comment : group.comment = group'.comment
  enabled : group.enabled = group'.enabled

/-- The same item, with its memberships renumbered and in any order. -/
structure Assigned.Renumbered {ι : Type} (f : ℤ → ℤ) (item item' : Assigned ι (List ℤ)) : Prop where
  content : item.content = item'.content
  groups : (item.groups.map f).Perm item'.groups

/-- The same items, each renumbered, in any order. -/
def SameAssigned {ι : Type} (f : ℤ → ℤ) (items items' : List (Assigned ι (List ℤ))) : Prop :=
  Multiset.Rel (Assigned.Renumbered f) (items : Multiset (Assigned ι (List ℤ))) items'

/-- The same groups, clients, lists and domains, renumbered and in any order. -/
structure Snapshot.SameItems (f : ℤ → ℤ) (s s' : Snapshot) : Prop where
  groups : Multiset.Rel (GroupItem.Renumbered f) (s.groupItems : Multiset GroupItem) s'.groupItems
  clients : SameAssigned f s.clientItems s'.clientItems
  lists : SameAssigned f s.listItems s'.listItems
  domains : SameAssigned f s.domainItems s'.domainItems

/-! ### Labels -/

theorem idText_injective : Function.Injective idText := fun x y h ↦
  intText_injective (by
    have htext := congrArg String.toList h
    rwa [idText, idText, String.toList_ofList, String.toList_ofList] at htext)

theorem idText_eq_zero_iff {x : ℤ} : idText x = "0" ↔ x = 0 :=
  ⟨fun h ↦ idText_injective (h.trans (by decide : "0" = idText 0)), fun h ↦ by rw [h]; decide⟩

theorem mem_groupNames {groups : List GroupItem} {text name : String} :
    (text, name) ∈ groupNames groups ↔
      ∃ group ∈ groups, ∃ x, group.id = some x ∧ idText x = text ∧ group.name = name := by
  simp only [groupNames, mem_filterMap, Option.map_eq_some_iff, Prod.mk.injEq]

section Labels

variable {groups : List GroupItem} {group : GroupItem} {x : ℤ}

/-- A group gives its id its name. -/
theorem groupLabel_of_mem (hids : (groups.map (·.id)).Nodup) (hgroup : group ∈ groups)
    (hid : group.id = some x) : groupLabel groups x = group.name := by
  have hsome : ((groupNames groups).reverse.lookup (idText x)).isSome := by
    rw [lookup_isSome_iff]
    exact ⟨(idText x, group.name),
      mem_reverse.2 (mem_groupNames.2 ⟨group, hgroup, x, hid, rfl, rfl⟩), beq_self_eq_true _⟩
  obtain ⟨name, hname⟩ := Option.isSome_iff_exists.1 hsome
  obtain ⟨front, rest, hsplit, -⟩ := lookup_eq_some_iff.1 hname
  have hmem : (idText x, name) ∈ groupNames groups := by
    rw [← mem_reverse, hsplit]
    exact mem_append_right _ mem_cons_self
  obtain ⟨other, hother, y, hy, htext, rfl⟩ := mem_groupNames.1 hmem
  have hyx : y = x := idText_injective htext
  have hsame : other = group :=
    inj_on_of_nodup_map hids hother hgroup (by rw [hy, hid, hyx])
  rw [groupLabel, hname, Option.getD_some, hsame]

/-- Any other id is its own label. -/
theorem groupLabel_of_unknown (h : ∀ group ∈ groups, group.id ≠ some x) :
    groupLabel groups x = idText x := by
  have hnone : (groupNames groups).reverse.lookup (idText x) = none := by
    refine lookup_eq_none_iff.2 fun ⟨text, name⟩ hmem ↦ ?_
    obtain ⟨group, hgroup, y, hy, htext, -⟩ := mem_groupNames.1 (mem_reverse.1 hmem)
    refine bne_iff_ne.2 fun heq ↦ h group hgroup ?_
    rw [hy, idText_injective (htext.trans heq.symm)]
  rw [groupLabel, hnone, Option.getD_none]

end Labels

/-- The groups of a collection's items are among the membership lists. -/
theorem Snapshot.mem_assigned {s : Snapshot} {ids : List ℤ} :
    ids ∈ s.assigned ↔ (∃ item ∈ s.clientItems, item.groups = ids) ∨
      (∃ item ∈ s.listItems, item.groups = ids) ∨ ∃ item ∈ s.domainItems, item.groups = ids := by
  simp only [Snapshot.assigned, mem_append, mem_map]

end Kaya.HA
