import Kaya.Dns.LeaseHistory

/-!
# One lease of an address at a time

The rows of one address follow one another in time (`Follows`), whatever the provider answers: an
item renews the row that is still active, or ends it before it adds another one (`Persists`). The
address is its text here. Two texts of one address have rows of their own, and then both can be
active. `alike` is the condition that keeps this out, and `leaseHistory_along` the law under it.

What an ingestion has left of the rows it began with is said once, for the loop over the items
(`Synced`), by the texts that it has met.
-/

namespace Kaya.Dns

open List
open Kaya.HA (DateTime seconds)
open Kaya.Assets (FoldedText DHCPLeaseHistory clientMac present)

variable {readAddress : String → Option IPAddr} {providerId i j k : ℕ} {t t' : Leases}
  {sync : LeaseSync} {item : LeaseItem} {now clock : DateTime} {row row' : DHCPLeaseHistory}
  {address : String} {s : SyncState}

/-! ### Histories -/

/-- The texts denote one address. -/
def denoteSame (readAddress : String → Option IPAddr) (x y : String) : Bool :=
  x = y ∨ (readAddress x).isSome ∧ readAddress x = readAddress y

/-- One of the two was over before the other one began. -/
def Follows (row row' : DHCPLeaseHistory) : Prop :=
  row.isActive = false ∧ row.lastSeenAt ≤ row'.firstSeenAt ∨
    row'.isActive = false ∧ row'.lastSeenAt ≤ row.firstSeenAt

/-- The leases of an address are a function of time. -/
structure LeaseHistory (readAddress : String → Option IPAddr) (providerId : ℕ) (t : Leases) :
    Prop where
  single : ∀ i ∈ t.ids, ∀ j ∈ t.ids, (t.row i).providerId = some providerId →
    (t.row j).providerId = some providerId →
      denoteSame readAddress (t.row i).ipAddress.text (t.row j).ipAddress.text = true →
        (t.row i).isActive = true → (t.row j).isActive = true → i = j
  apart : ∀ i ∈ t.ids, ∀ j ∈ t.ids, i ≠ j → (t.row i).providerId = some providerId →
    (t.row j).providerId = some providerId →
      denoteSame readAddress (t.row i).ipAddress.text (t.row j).ipAddress.text = true →
        (t.row i).lastSeenAt ≤ (t.row j).firstSeenAt ∨ (t.row j).lastSeenAt ≤ (t.row i).firstSeenAt

/-- What holds of the leases in every run. -/
structure LeaseInvariant (readAddress : String → Option IPAddr) (providerId : ℕ) (t : Leases)
    (clock : DateTime) : Prop where
  bounds : ∀ i ∈ t.ids, (t.row i).providerId = some providerId →
    (t.row i).firstSeenAt ≤ (t.row i).lastSeenAt ∧ (t.row i).lastSeenAt ≤ clock
  follows : ∀ i ∈ t.ids, ∀ j ∈ t.ids, i ≠ j → (t.row i).providerId = some providerId →
    (t.row j).providerId = some providerId →
      denoteSame readAddress (t.row i).ipAddress.text (t.row j).ipAddress.text = true →
        Follows (t.row i) (t.row j)

theorem denoteSame_self (x : String) : denoteSame readAddress x x = true :=
  decide_eq_true (.inl rfl)

theorem denoteSame_comm {x y : String} (h : denoteSame readAddress x y = true) :
    denoteSame readAddress y x = true := by
  refine decide_eq_true ((of_decide_eq_true h).imp Eq.symm fun hsame ↦ ⟨?_, hsame.2.symm⟩)
  exact hsame.2 ▸ hsame.1

theorem Follows.symm (h : Follows row row') : Follows row' row :=
  Or.symm h

/-- An active row begins after the others are over. -/
theorem Follows.of_active (h : Follows row row') (hlive : row.isActive = true) :
    row'.isActive = false ∧ row'.lastSeenAt ≤ row.firstSeenAt :=
  h.resolve_left fun hrow ↦ by simp [hrow.1] at hlive

theorem LeaseInvariant.leaseHistory (h : LeaseInvariant readAddress providerId t clock) :
    LeaseHistory readAddress providerId t where
  single i hi j hj hprov hprov' hsame hlive hlive' := by
    by_contra hne
    have hover := (h.follows i hi j hj hne hprov hprov' hsame).of_active hlive
    exact Bool.false_ne_true (hover.1.symm.trans hlive')
  apart i hi j hj hne hprov hprov' hsame :=
    (h.follows i hi j hj hne hprov hprov' hsame).imp And.right And.right

/-! ### One item -/

/-- A row that may have been ended. -/
def Ends (row row' : DHCPLeaseHistory) : Prop :=
  row' = row ∨ row.isActive = true ∧ ∃ now, row' = endedLease now row

theorem Ends.fields (h : Ends row row') :
    row'.providerId = row.providerId ∧ row'.ipAddress = row.ipAddress ∧
      row'.firstSeenAt = row.firstSeenAt ∧ row'.lastSeenAt = row.lastSeenAt ∧
        (row'.isActive = true → row.isActive = true) := by
  rcases h with rfl | ⟨-, now, rfl⟩
  · exact ⟨rfl, rfl, rfl, rfl, id⟩
  · exact ⟨rfl, rfl, rfl, rfl, fun h ↦ absurd h Bool.false_ne_true⟩

theorem Ends.isActive_eq_false (h : Ends row row')
    (hrow : row.isActive = false) : row'.isActive = false := by
  cases hrow' : row'.isActive with
  | false => rfl
  | true => exact absurd (h.fields.2.2.2.2 hrow') (Bool.eq_false_iff.1 hrow)

theorem Follows.ends {row₁ row₁' row₂ row₂' : DHCPLeaseHistory} (h : Follows row₁ row₂)
    (h₁ : Ends row₁ row₁') (h₂ : Ends row₂ row₂') : Follows row₁' row₂' := by
  have hfields₁ := h₁.fields
  have hfields₂ := h₂.fields
  rw [Follows, hfields₁.2.2.1, hfields₁.2.2.2.1, hfields₂.2.2.1, hfields₂.2.2.2.1]
  exact h.imp (And.imp_left h₁.isActive_eq_false) (And.imp_left h₂.isActive_eq_false)

/-- What an item makes of the leases: `k` is the row of its address afterwards. -/
structure Persists (providerId : ℕ) (now : DateTime) (address : String) (t t' : Leases) (k : ℕ) :
    Prop where
  mem_ids : ∀ i, i ∈ t'.ids ↔ i ∈ t.ids ∨ i = k
  provider : (t'.row k).providerId = some providerId
  text : (t'.row k).ipAddress.text = address
  isActive : (t'.row k).isActive = true
  lastSeenAt : (t'.row k).lastSeenAt = now
  firstSeenAt : k ∉ t.ids ∧ (t'.row k).firstSeenAt = now ∨
    k ∈ t.ids ∧ (t.row k).providerId = some providerId ∧ (t.row k).ipAddress.text = address ∧
      (t.row k).isActive = true ∧ (t'.row k).firstSeenAt = (t.row k).firstSeenAt
  others : ∀ i ∈ t.ids, i ≠ k → Ends (t.row i) (t'.row i) ∧
    ((t.row i).providerId = some providerId → (t.row i).ipAddress.text = address →
      (t'.row i).isActive = false) ∧
    ((t.row i).ipAddress.text ≠ address ∨ (t.row i).providerId ≠ some providerId →
      t'.row i = t.row i)

/-- Rows of one text follow one another. -/
def TextFollows (providerId : ℕ) (t : Leases) : Prop :=
  ∀ i ∈ t.ids, ∀ j ∈ t.ids, i ≠ j → (t.row i).providerId = some providerId →
    (t.row j).providerId = some providerId →
      (t.row i).ipAddress.text = (t.row j).ipAddress.text → Follows (t.row i) (t.row j)

theorem activeLease_eq_some (h : activeLease providerId t address = some k) :
    k ∈ t.ids ∧ (t.row k).providerId = some providerId ∧ (t.row k).ipAddress.text = address ∧
      (t.row k).isActive = true := by
  obtain ⟨hmem, hrow⟩ := Table.newest?_eq_some h
  exact ⟨hmem, of_decide_eq_true hrow⟩

theorem activeLease_isSome (hi : i ∈ t.ids) (hprov : (t.row i).providerId = some providerId)
    (haddr : (t.row i).ipAddress.text = address) (hlive : (t.row i).isActive = true) :
    ∃ j, activeLease providerId t address = some j := by
  rw [activeLease]
  exact Table.newest?_isSome_of_mem hi (decide_eq_true ⟨hprov, haddr, hlive⟩)

/-- Any other row of the address is over. -/
theorem isActive_eq_false_of_ne (ht : TextFollows providerId t)
    (hk : ∀ j, activeLease providerId t address = some j → j = k) (hi : i ∈ t.ids) (hne : i ≠ k)
    (hprov : (t.row i).providerId = some providerId)
    (haddr : (t.row i).ipAddress.text = address) : (t.row i).isActive = false := by
  cases hlive : (t.row i).isActive with
  | false => rfl
  | true =>
    obtain ⟨j, hj⟩ := activeLease_isSome hi hprov haddr hlive
    obtain rfl := hk j hj
    obtain ⟨hmem, hprov', haddr', hlive'⟩ := activeLease_eq_some hj
    have hover := (ht i hi j hmem hne hprov hprov'
      (haddr.trans haddr'.symm)).of_active hlive
    exact absurd hlive' (Bool.eq_false_iff.1 hover.1)

theorem renews_persists (hk : activeLease providerId t item.address = some k)
    (ht : TextFollows providerId t) :
    Persists providerId sync.generatedAt item.address t
      (t.modify k (renewedLease readAddress sync item)) k := by
  obtain ⟨hmem, hprov, haddr, hlive⟩ := activeLease_eq_some hk
  have hrow : (t.modify k (renewedLease readAddress sync item)).row k =
      renewedLease readAddress sync item (t.row k) := t.modify_row_self k _
  refine
    { mem_ids := fun i ↦ ⟨.inl, fun h ↦ h.elim id fun h ↦ h ▸ hmem⟩
      provider := (congrArg DHCPLeaseHistory.providerId hrow).trans hprov
      text := (congrArg (·.ipAddress.text) hrow).trans haddr
      isActive := (congrArg DHCPLeaseHistory.isActive hrow).trans hlive
      lastSeenAt := congrArg DHCPLeaseHistory.lastSeenAt hrow
      firstSeenAt := .inr ⟨hmem, hprov, haddr, hlive, by rw [hrow]; rfl⟩
      others := fun i hi hne ↦ ?_ }
  rw [t.modify_row_of_ne hne]
  refine ⟨.inl rfl, fun hprov' haddr' ↦ ?_, fun _ ↦ rfl⟩
  exact isActive_eq_false_of_ne ht (fun j hj ↦ Option.some.inj (hj.symm.trans hk)) hi hne
    hprov' haddr'

theorem adds_persists (ht : TextFollows providerId t) :
    Persists providerId sync.generatedAt item.address t
      ((t.mapRows fun id row ↦ if activeLease providerId t item.address = some id then
        endedLease sync.generatedAt row else row).insert
          (newLease readAddress providerId sync item)) t.freshKey := by
  have hrow : ((t.mapRows fun id row ↦ if activeLease providerId t item.address = some id then
      endedLease sync.generatedAt row else row).insert
        (newLease readAddress providerId sync item)).row t.freshKey =
          newLease readAddress providerId sync item := Table.insert_row_fresh _ _
  refine
    { mem_ids := fun i ↦ mem_append.trans (or_congr_right mem_singleton)
      provider := congrArg DHCPLeaseHistory.providerId hrow
      text := congrArg (·.ipAddress.text) hrow
      isActive := congrArg DHCPLeaseHistory.isActive hrow
      lastSeenAt := congrArg DHCPLeaseHistory.lastSeenAt hrow
      firstSeenAt := .inl ⟨fun hmem ↦ t.ne_freshKey hmem rfl,
        congrArg DHCPLeaseHistory.firstSeenAt hrow⟩
      others := fun i hi _ ↦ ?_ }
  rw [Table.insert_row_of_mem (t.mapRows _) _ hi, t.mapRows_row, if_pos hi]
  by_cases hlive : activeLease providerId t item.address = some i
  · obtain ⟨-, hprov, haddr, hlive'⟩ := activeLease_eq_some hlive
    rw [if_pos hlive]
    exact ⟨.inr ⟨hlive', _, rfl⟩, fun _ _ ↦ rfl, fun h ↦ absurd h (by simp [hprov, haddr])⟩
  · rw [if_neg hlive]
    refine ⟨.inl rfl, fun hprov haddr ↦ ?_, fun _ ↦ rfl⟩
    cases hlive' : (t.row i).isActive with
    | false => rfl
    | true =>
      obtain ⟨j, hj⟩ := activeLease_isSome hi hprov haddr hlive'
      have hne : i ≠ j := fun h ↦ hlive (h ▸ hj)
      have hover := isActive_eq_false_of_ne ht (fun j' hj' ↦ Option.some.inj (hj'.symm.trans hj))
        hi hne hprov haddr
      exact absurd hlive' (Bool.eq_false_iff.1 hover)

/-- An item of the answer. -/
theorem persistLease_persists (ht : TextFollows providerId s.leases) :
    ∃ k, (persistLease readAddress providerId sync s item).seenIds = s.seenIds ++ [k] ∧
      Persists providerId sync.generatedAt item.address s.leases
        (persistLease readAddress providerId sync s item).leases k := by
  simp only [persistLease]
  split
  next id hid =>
    exact ⟨id, rfl, renews_persists (Option.filter_eq_some_iff.1 hid).1 ht⟩
  next => exact ⟨_, rfl, adds_persists ht⟩

/-! ### The loop -/

/-- The row is new, or it is what an active row has become, or it has not changed. -/
def Origin (providerId : ℕ) (now : DateTime) (t : Leases) (i : ℕ) (row : DHCPLeaseHistory) : Prop :=
  row.firstSeenAt = now ∨ i ∈ t.ids ∧ (t.row i).providerId = some providerId ∧
      (t.row i).ipAddress.text = row.ipAddress.text ∧ (t.row i).firstSeenAt = row.firstSeenAt ∧
        (row = t.row i ∨ (t.row i).isActive = true)

theorem Origin.next {row row' : DHCPLeaseHistory} (h : Origin providerId now t i row)
    (htext : row'.ipAddress.text = row.ipAddress.text) (hfirst : row'.firstSeenAt = row.firstSeenAt)
    (hrow : row' = row ∨ row.isActive = true) : Origin providerId now t i row' := by
  rcases h with hnow | ⟨hmem, hprov, htext', hfirst', hrow'⟩
  · exact .inl (hfirst.trans hnow)
  · refine .inr ⟨hmem, hprov, htext'.trans htext.symm, hfirst'.trans hfirst.symm, ?_⟩
    rcases hrow' with rfl | hlive
    · exact hrow
    · exact .inr hlive

/-- What the loop has left of the leases, after items with these addresses. -/
structure Synced (providerId : ℕ) (now : DateTime) (t : Leases) (texts : List String)
    (s : SyncState) : Prop where
  mem_ids : ∀ i ∈ t.ids, i ∈ s.leases.ids
  bounds : ∀ i ∈ s.leases.ids, (s.leases.row i).providerId = some providerId →
    (s.leases.row i).firstSeenAt ≤ (s.leases.row i).lastSeenAt ∧ (s.leases.row i).lastSeenAt ≤ now
  follows : TextFollows providerId s.leases
  origin : ∀ i ∈ s.leases.ids, (s.leases.row i).providerId = some providerId →
    Origin providerId now t i (s.leases.row i)
  untouched : ∀ i ∈ s.leases.ids, (s.leases.row i).providerId = some providerId →
    (s.leases.row i).ipAddress.text ∉ texts → i ∈ t.ids ∧ s.leases.row i = t.row i
  seen : ∀ i ∈ s.seenIds, i ∈ s.leases.ids ∧ (s.leases.row i).ipAddress.text ∈ texts
  current : ∀ i ∈ s.leases.ids, (s.leases.row i).providerId = some providerId →
    (s.leases.row i).ipAddress.text ∈ texts → (s.leases.row i).isActive = true → i ∈ s.seenIds

theorem LeaseInvariant.textFollows
    (h : LeaseInvariant readAddress providerId t clock) : TextFollows providerId t :=
  fun i hi j hj hne hprov hprov' htext ↦
    h.follows i hi j hj hne hprov hprov' (htext ▸ denoteSame_self _)

theorem LeaseInvariant.start
    (h : LeaseInvariant readAddress providerId t clock) (hle : clock ≤ now) :
    Synced providerId now t [] { leases := t } where
  mem_ids _ hi := hi
  bounds i hi hprov := (h.bounds i hi hprov).imp_right fun hlast ↦ hlast.trans hle
  follows := h.textFollows
  origin _ hi hprov := .inr ⟨hi, hprov, rfl, rfl, .inl rfl⟩
  untouched _ hi _ _ := ⟨hi, rfl⟩
  seen _ h := absurd h not_mem_nil
  current _ _ _ h := absurd h not_mem_nil

/-- The rows of one text still follow one another. -/
theorem Persists.textFollows (h : Persists providerId now address t t' k)
    (ht : TextFollows providerId t)
    (hbounds : ∀ i ∈ t.ids, (t.row i).providerId = some providerId →
      (t.row i).lastSeenAt ≤ now) : TextFollows providerId t' := by
  have hcur : ∀ i ∈ t.ids, i ≠ k → (t'.row i).providerId = some providerId →
      (t'.row i).ipAddress.text = (t'.row k).ipAddress.text → Follows (t'.row i) (t'.row k) := by
    intro i hi hne hprov htext
    obtain ⟨hends, hover, -⟩ := h.others i hi hne
    obtain ⟨hprov', haddr', -, hlast, -⟩ := hends.fields
    rw [hprov'] at hprov
    rw [haddr', h.text] at htext
    refine .inl ⟨hover hprov htext, ?_⟩
    rw [hlast]
    rcases h.firstSeenAt with ⟨-, hfirst⟩ | ⟨hk, hkprovider, hktext, hkactive, hfirst⟩
    · rw [hfirst]
      exact hbounds i hi hprov
    · rw [hfirst]
      exact ((ht k hk i hi hne.symm hkprovider hprov
        (hktext.trans htext.symm)).of_active hkactive).2
  intro i hi j hj hne hprov hprov' htext
  rcases eq_or_ne i k with rfl | hik
  · have hj' := ((h.mem_ids j).1 hj).resolve_right hne.symm
    exact (hcur j hj' hne.symm hprov' htext.symm).symm
  have hi' := ((h.mem_ids i).1 hi).resolve_right hik
  rcases eq_or_ne j k with rfl | hjk
  · exact hcur i hi' hne hprov htext
  have hj' := ((h.mem_ids j).1 hj).resolve_right hjk
  obtain ⟨hends, -, -⟩ := h.others i hi' hik
  obtain ⟨hends', -, -⟩ := h.others j hj' hjk
  refine (ht i hi' j hj' hne ?_ ?_ ?_).ends hends hends'
  · exact hends.fields.1.symm.trans hprov
  · exact hends'.fields.1.symm.trans hprov'
  · rw [← hends.fields.2.1, ← hends'.fields.2.1, htext]

/-- One more item of the loop. -/
theorem Synced.persists {texts : List String} {s' : SyncState}
    (hs : Synced providerId now t texts s)
    (h : Persists providerId now address s.leases s'.leases k)
    (hseen : s'.seenIds = s.seenIds ++ [k]) : Synced providerId now t (texts ++ [address]) s' := by
  have hold : ∀ i, i ∈ s'.leases.ids → i ≠ k → i ∈ s.leases.ids := fun i hi hne ↦
    ((h.mem_ids i).1 hi).resolve_right hne
  refine
    { mem_ids := fun i hi ↦ (h.mem_ids i).2 (.inl (hs.mem_ids i hi))
      bounds := fun i hi hprov ↦ ?_
      follows := h.textFollows hs.follows fun i hi hprov ↦ (hs.bounds i hi hprov).2
      origin := fun i hi hprov ↦ ?_
      untouched := fun i hi hprov htext ↦ ?_
      seen := fun i hi ↦ ?_
      current := fun i hi hprov htext hlive ↦ ?_ }
  · rcases eq_or_ne i k with rfl | hne
    · rw [h.lastSeenAt]
      refine ⟨?_, le_rfl⟩
      rcases h.firstSeenAt with ⟨-, hfirst⟩ | ⟨hk, hkprovider, -, -, hfirst⟩
      · exact hfirst.le
      · exact hfirst.le.trans ((hs.bounds i hk hkprovider).1.trans (hs.bounds i hk hkprovider).2)
    · obtain ⟨hprov', -, hfirst, hlast, -⟩ := (h.others i (hold i hi hne) hne).1.fields
      rw [hfirst, hlast]
      exact hs.bounds i (hold i hi hne) (hprov'.symm.trans hprov)
  · rcases eq_or_ne i k with rfl | hne
    · rcases h.firstSeenAt with ⟨-, hfirst⟩ | ⟨hk, hkprovider, hktext, hkactive, hfirst⟩
      · exact .inl hfirst
      · exact (hs.origin i hk hkprovider).next (h.text.trans hktext.symm) hfirst (.inr hkactive)
    · have hends := (h.others i (hold i hi hne) hne).1
      obtain ⟨hprov', haddr, hfirst, -, -⟩ := hends.fields
      exact (hs.origin i (hold i hi hne) (hprov'.symm.trans hprov)).next
        (congrArg (·.text) haddr) hfirst (hends.imp_right And.left)
  · obtain ⟨htexts, hne'⟩ : (s'.leases.row i).ipAddress.text ∉ texts ∧
        (s'.leases.row i).ipAddress.text ≠ address := by simpa using htext
    have hne : i ≠ k := fun hik ↦ hne' (hik ▸ h.text)
    obtain ⟨hends, -, hsame⟩ := h.others i (hold i hi hne) hne
    have hrow := hsame (.inl fun heq ↦ hne' (hends.fields.2.1 ▸ heq))
    rw [hrow] at hprov htexts ⊢
    exact hs.untouched i (hold i hi hne) hprov htexts
  · rw [hseen] at hi
    rcases eq_or_ne i k with rfl | hne
    · exact ⟨(h.mem_ids i).2 (.inr rfl), mem_append_right _ (mem_singleton.2 h.text)⟩
    · obtain ⟨hmem, htext⟩ := hs.seen i
        ((mem_append.1 hi).resolve_right fun h ↦ hne (mem_singleton.1 h))
      rw [(h.others i hmem hne).1.fields.2.1]
      exact ⟨(h.mem_ids i).2 (.inl hmem), mem_append_left _ htext⟩
  · rw [hseen]
    rcases eq_or_ne i k with rfl | hne
    · exact mem_append_right _ mem_cons_self
    · obtain ⟨hends, hover, -⟩ := h.others i (hold i hi hne) hne
      obtain ⟨hprov', haddr, -, -, hlive'⟩ := hends.fields
      rw [hprov'] at hprov
      rw [haddr] at htext
      have hne' : (s.leases.row i).ipAddress.text ≠ address := fun heq ↦
        Bool.false_ne_true ((hover hprov heq).symm.trans hlive)
      have htexts := (mem_append.1 htext).resolve_right fun h ↦
        hne' (mem_singleton.1 h)
      exact mem_append_left _
        (hs.current i (hold i hi hne) hprov htexts (hlive' hlive))

theorem synced_items (items : List LeaseItem) {texts : List String}
    (hs : Synced providerId sync.generatedAt t texts s) :
    Synced providerId sync.generatedAt t (texts ++ items.map (·.address))
      (items.foldl (persistLease readAddress providerId sync) s) := by
  induction items generalizing texts s with
  | nil => simpa using hs
  | cons item items ih =>
    obtain ⟨k, hseen, hpersists⟩ := persistLease_persists hs.follows
    have hnext := ih (hs.persists hpersists hseen)
    rwa [append_assoc] at hnext

/-! ### Ingestions -/

/-- Addresses are spelled alike: those of the answer among themselves, and those of the rows that
stay active. -/
def alike (readAddress : String → Option IPAddr) (providerId : ℕ) (t : Leases) (sync : LeaseSync) :
    Bool :=
  (∀ x ∈ sync.items, ∀ y ∈ sync.items, denoteSame readAddress x.address y.address = true →
    x.address = y.address) ∧ (sync.snapshotAuthoritative = false → ∀ x ∈ sync.items, ∀ i ∈ t.ids,
    (t.row i).providerId = some providerId → (t.row i).isActive = true →
      denoteSame readAddress x.address (t.row i).ipAddress.text = true →
        x.address = (t.row i).ipAddress.text)

/-- The state of the loop after the items. -/
def synced (readAddress : String → Option IPAddr) (providerId : ℕ) (t : Leases)
    (sync : LeaseSync) : SyncState :=
  sync.items.foldl (persistLease readAddress providerId sync) { leases := t }

/-- What is made of the rows after the loop. -/
structure Settles (providerId : ℕ) (authoritative : Bool) (s : SyncState) (t' : Leases) :
    Prop where
  ids : t'.ids = s.leases.ids
  ends : ∀ i ∈ s.leases.ids, Ends (s.leases.row i) (t'.row i)
  unseen : authoritative = true → ∀ i ∈ s.leases.ids,
    (s.leases.row i).providerId = some providerId → i ∉ s.seenIds → (t'.row i).isActive = false

theorem persistDhcpLeases_settles :
    Settles providerId sync.snapshotAuthoritative (synced readAddress providerId t sync)
      (persistDhcpLeases readAddress providerId t sync).1 := by
  simp only [persistDhcpLeases]
  show Settles _ _ _ (if sync.snapshotAuthoritative = true then _ else _ : _ × _).1
  cases hauthor : sync.snapshotAuthoritative with
  | false => exact ⟨rfl, fun i _ ↦ .inl rfl, fun h ↦ absurd h (by simp)⟩
  | true =>
    have hrow : ∀ i ∈ (synced readAddress providerId t sync).leases.ids,
        ((synced readAddress providerId t sync).leases.mapRows fun id row ↦
          if id ∈ unseenLeases providerId (synced readAddress providerId t sync).leases
              (synced readAddress providerId t sync).seenIds then
            endedLease sync.generatedAt row else row).row i =
          if i ∈ unseenLeases providerId (synced readAddress providerId t sync).leases
              (synced readAddress providerId t sync).seenIds then
            endedLease sync.generatedAt ((synced readAddress providerId t sync).leases.row i)
          else (synced readAddress providerId t sync).leases.row i := by
      intro i hi
      rw [Table.mapRows_row, if_pos hi]
    refine ⟨rfl, fun i hi ↦ ?_, fun _ i hi hprov hseen ↦ ?_⟩
    · refine (hrow i hi).symm ▸ ?_
      split
      next hunseen => exact .inr ⟨(of_decide_eq_true (mem_filter.1 hunseen).2).2.1, _, rfl⟩
      · exact .inl rfl
    · refine (congrArg DHCPLeaseHistory.isActive (hrow i hi)).trans ?_
      split
      · rfl
      next hunseen =>
        by_contra hlive
        exact hunseen (mem_filter.2 ⟨hi,
          decide_eq_true ⟨hprov, Bool.not_eq_false _ ▸ hlive, hseen⟩⟩)

/-- A row that the answer meets, and one that it does not. -/
theorem Settles.follows (h : LeaseInvariant readAddress providerId t clock)
    (hs : Synced providerId sync.generatedAt t (sync.items.map (·.address)) s)
    (hsettles : Settles providerId sync.snapshotAuthoritative s t')
    (halike : alike readAddress providerId t sync = true) (hi : i ∈ s.leases.ids)
    (hj : j ∈ s.leases.ids) (hne : i ≠ j)
    (hprov : (s.leases.row i).providerId = some providerId)
    (hprov' : (s.leases.row j).providerId = some providerId)
    (hsame : denoteSame readAddress (s.leases.row i).ipAddress.text
      (s.leases.row j).ipAddress.text = true)
    (htext : (s.leases.row i).ipAddress.text ∈ sync.items.map (·.address))
    (htext' : (s.leases.row j).ipAddress.text ∉ sync.items.map (·.address)) :
    Follows (t'.row i) (t'.row j) := by
  obtain ⟨item, hitem, haddr⟩ := mem_map.1 htext
  obtain ⟨hmem', hrow'⟩ := hs.untouched j hj hprov' htext'
  have hends := hsettles.ends i hi
  have hends' := hsettles.ends j hj
  rcases hs.origin i hi hprov with hnow | ⟨hmem, hprovider₀, htext₀, hfirst₀, hrow⟩
  · refine .inr ⟨?_, ?_⟩
    · cases hauthor : sync.snapshotAuthoritative with
      | true =>
        exact hsettles.unseen hauthor j hj hprov' fun hseen ↦
          htext' (hs.seen j hseen).2
      | false =>
        refine hends'.isActive_eq_false ?_
        by_contra hlive
        rw [hrow'] at hlive hprov' hsame htext'
        rw [← haddr] at hsame
        have htexts := (of_decide_eq_true halike).2 hauthor item hitem j hmem' hprov'
          (Bool.not_eq_false _ ▸ hlive) hsame
        exact htext' (htexts ▸ mem_map_of_mem hitem)
    · rw [hends'.fields.2.2.2.1, hends.fields.2.2.1, hnow]
      exact (hs.bounds j hj hprov').2
  · have hfollows : Follows (t.row i) (s.leases.row j) := by
      rw [hrow'] at hsame hprov' ⊢
      exact h.follows i hmem j hmem' hne hprovider₀ hprov' (htext₀ ▸ hsame)
    rcases hrow with hrow | hlive
    · exact (hrow ▸ hfollows).ends hends hends'
    · obtain ⟨hover, hle⟩ := hfollows.of_active hlive
      refine .inr ⟨hends'.isActive_eq_false hover, ?_⟩
      rw [hends'.fields.2.2.2.1, hends.fields.2.2.1, ← hfirst₀]
      exact hle

/-- An ingestion. -/
theorem LeaseInvariant.persist {clock : DateTime}
    (h : LeaseInvariant readAddress providerId t clock) (hle : clock ≤ sync.generatedAt)
    (halike : alike readAddress providerId t sync = true) :
    LeaseInvariant readAddress providerId (persistDhcpLeases readAddress providerId t sync).1
      sync.generatedAt := by
  have hs : Synced providerId sync.generatedAt t (sync.items.map (·.address))
      (synced readAddress providerId t sync) := synced_items sync.items (h.start hle)
  have hsettles : Settles providerId sync.snapshotAuthoritative
      (synced readAddress providerId t sync) (persistDhcpLeases readAddress providerId t sync).1 :=
    persistDhcpLeases_settles
  refine ⟨fun i hi hprov ↦ ?_, fun i hi j hj hne hprov hprov' hsame ↦ ?_⟩
  · rw [hsettles.ids] at hi
    obtain ⟨hprov', -, hfirst, hlast, -⟩ := (hsettles.ends i hi).fields
    rw [hfirst, hlast]
    exact hs.bounds i hi (hprov'.symm.trans hprov)
  · rw [hsettles.ids] at hi hj
    have hends := hsettles.ends i hi
    have hends' := hsettles.ends j hj
    rw [hends.fields.1] at hprov
    rw [hends'.fields.1] at hprov'
    rw [hends.fields.2.1, hends'.fields.2.1] at hsame
    by_cases htexts : ((synced readAddress providerId t sync).leases.row i).ipAddress.text =
        ((synced readAddress providerId t sync).leases.row j).ipAddress.text
    · exact (hs.follows i hi j hj hne hprov hprov' htexts).ends hends hends'
    by_cases htext : ((synced readAddress providerId t sync).leases.row i).ipAddress.text ∈
        sync.items.map (·.address)
    · by_cases htext' : ((synced readAddress providerId t sync).leases.row j).ipAddress.text ∈
          sync.items.map (·.address)
      · obtain ⟨x, hx, haddr⟩ := mem_map.1 htext
        obtain ⟨y, hy, haddr'⟩ := mem_map.1 htext'
        rw [← haddr, ← haddr'] at hsame htexts
        exact absurd ((of_decide_eq_true halike).1 x hx y hy hsame) htexts
      · exact hsettles.follows h hs halike hi hj hne hprov hprov' hsame htext htext'
    · by_cases htext' : ((synced readAddress providerId t sync).leases.row j).ipAddress.text ∈
          sync.items.map (·.address)
      · exact (hsettles.follows h hs halike hj hi hne.symm hprov' hprov
          (denoteSame_comm hsame) htext' htext).symm
      · obtain ⟨hmem, hrow⟩ := hs.untouched i hi hprov htext
        obtain ⟨hmem', hrow'⟩ := hs.untouched j hj hprov' htext'
        rw [hrow] at hprov hsame hends
        rw [hrow'] at hprov' hsame hends'
        exact (h.follows i hmem j hmem' hne hprov hprov' hsame).ends hends hends'

/-! ### Rows that are over -/

/-- The rows that are over are there as they were. -/
def Keeps (t t' : Leases) : Prop :=
  ∀ i ∈ t.ids, (t.row i).isActive = false → i ∈ t'.ids ∧ t'.row i = t.row i

theorem Keeps.trans {t'' : Leases} (h : Keeps t t') (h' : Keeps t' t'') : Keeps t t'' := by
  intro i hi hover
  obtain ⟨hmem, hrow⟩ := h i hi hover
  obtain ⟨hmem', hrow'⟩ := h' i hmem (hrow ▸ hover)
  exact ⟨hmem', hrow'.trans hrow⟩

theorem persistLease_keeps :
    Keeps s.leases (persistLease readAddress providerId sync s item).leases := by
  intro i hi hover
  have hne : ∀ k, activeLease providerId s.leases item.address = some k → i ≠ k := by
    rintro k hk rfl
    exact absurd (activeLease_eq_some hk).2.2.2 (Bool.eq_false_iff.1 hover)
  simp only [persistLease]
  split
  next id hid =>
    exact ⟨hi, s.leases.modify_row_of_ne (hne id (Option.filter_eq_some_iff.1 hid).1) _⟩
  next =>
    refine ⟨mem_append_left _ hi, ?_⟩
    rw [Table.insert_row_of_mem (s.leases.mapRows _) _ hi, s.leases.mapRows_row, if_pos hi,
      if_neg fun hlive ↦ hne i hlive rfl]

theorem items_keeps (items : List LeaseItem) (s : SyncState) :
    Keeps s.leases (items.foldl (persistLease readAddress providerId sync) s).leases := by
  induction items generalizing s with
  | nil => exact fun i hi _ ↦ ⟨hi, rfl⟩
  | cons item items ih => exact persistLease_keeps.trans (ih _)

theorem persistDhcpLeases_keeps : Keeps t (persistDhcpLeases readAddress providerId t sync).1 := by
  have hloop : Keeps t (synced readAddress providerId t sync).leases :=
    items_keeps sync.items { leases := t }
  have hsettles : Settles providerId sync.snapshotAuthoritative
      (synced readAddress providerId t sync) (persistDhcpLeases readAddress providerId t sync).1 :=
    persistDhcpLeases_settles
  refine hloop.trans fun i hi hover ↦ ⟨hsettles.ids ▸ hi, ?_⟩
  refine (hsettles.ends i hi).resolve_right fun hended ↦ ?_
  exact absurd hended.1 (Bool.eq_false_iff.1 hover)

theorem leaseMachine_keeps (s : LeaseState) (syncs : List LeaseSync) :
    Keeps s.leases ((leaseMachine readAddress providerId).run s syncs).leases := by
  induction syncs generalizing s with
  | nil => exact fun i hi _ ↦ ⟨hi, rfl⟩
  | cons sync syncs ih =>
    refine Keeps.trans ?_ (ih _)
    show Keeps s.leases (if sync.raises = true then s.leases else _)
    split
    · exact fun i hi _ ↦ ⟨hi, rfl⟩
    · exact persistDhcpLeases_keeps

/-! ### Runs -/

/-- Ingestions at increasing times. -/
def increases (s : LeaseState) (sync : LeaseSync) : Bool := s.clock ≤ sync.generatedAt

/-- The condition of a run. -/
def suits (readAddress : String → Option IPAddr) (providerId : ℕ) (s : LeaseState)
    (sync : LeaseSync) : Bool :=
  increases s sync && (sync.raises || alike readAddress providerId s.leases sync)

theorem LeaseInvariant.step {s : LeaseState}
    (h : LeaseInvariant readAddress providerId s.leases s.clock)
    (hsuits : suits readAddress providerId s sync = true) :
    LeaseInvariant readAddress providerId ((leaseMachine readAddress providerId).step s sync).leases
      ((leaseMachine readAddress providerId).step s sync).clock := by
  obtain ⟨hle, hsuits⟩ := Bool.and_eq_true_iff.1 hsuits
  have hle : s.clock ≤ sync.generatedAt := of_decide_eq_true hle
  show LeaseInvariant readAddress providerId (if sync.raises = true then s.leases else _) _
  split
  · exact ⟨fun i hi hprov ↦ (h.bounds i hi hprov).imp_right fun hlast ↦ hlast.trans hle, h.follows⟩
  next hraises =>
    exact h.persist hle ((Bool.or_eq_true_iff.1 hsuits).resolve_left hraises)

/-- In a run at increasing times whose addresses are spelled alike, the leases of an address are a
function of time, and what is over stays as it is. -/
theorem leaseHistory_along {s : LeaseState}
    (h : (leaseMachine readAddress providerId).ReachableBy
      (suits readAddress providerId · · = true) s) :
    LeaseHistory readAddress providerId s.leases ∧
      ∀ syncs, Keeps s.leases ((leaseMachine readAddress providerId).run s syncs).leases := by
  have hinv : LeaseInvariant readAddress providerId s.leases s.clock := by
    refine Machine.ReachableBy.invariant
      (P := fun s ↦ LeaseInvariant readAddress providerId s.leases s.clock) ?_ ?_ h
    · exact fun s hs ↦ ⟨fun i hi hprov ↦ absurd hprov (hs i hi),
        fun i hi j _ _ hprov ↦ absurd hprov (hs i hi)⟩
    · exact fun s sync hs hsuits ↦ hs.step hsuits
  exact ⟨hinv.leaseHistory, leaseMachine_keeps s⟩

/-! ### Two texts of one address -/

/-- The texts of an address in the unique local range. -/
def sampleReader (text : String) : Option IPAddr :=
  if text = "fd00::1" ∨ text = "FD00::1" then some (.v6 (0xfd00 * 2 ^ 112 + 1)) else none

/-- No lease is known. -/
def noLeases : LeaseState where
  leases := ⟨[], fun _ ↦ { ipAddress := ⟨"", none⟩, leaseStartedAt := 0, firstSeenAt := 0
                           lastSeenAt := 0 }, List.nodup_nil⟩
  clock := 0

/-- A provider answers with a lease of the address. -/
def sampleSync (address mac : String) (time : DateTime) : LeaseSync where
  leases := [{ address, mac }]
  generatedAt := time

/-- The address is given to another client, and then to the first one again. -/
def alikeSyncs : List LeaseSync :=
  [sampleSync "fd00::1" "02:00:5e:10:00:01" (seconds 1),
    sampleSync "fd00::1" "02:00:5e:10:00:02" (seconds 2),
    sampleSync "fd00::1" "02:00:5e:10:00:01" (seconds 3)]

/-- The provider changes the case of its answer. -/
def otherSyncs : List LeaseSync :=
  [sampleSync "fd00::1" "02:00:5e:10:00:01" (seconds 1),
    sampleSync "FD00::1" "02:00:5e:10:00:01" (seconds 2)]

theorem leaseHistory_along_example :
    LeaseHistory sampleReader 1 ((leaseMachine sampleReader 1).run noLeases alikeSyncs).leases :=
  (leaseHistory_along (.run (.start fun _ h ↦ absurd h not_mem_nil) (by decide +kernel))).1

/-- Both rows of the address are active. -/
theorem not_leaseHistory :
    ¬ ∀ (readAddress : String → Option IPAddr) (providerId : ℕ) (s : LeaseState),
      (leaseMachine readAddress providerId).ReachableBy (increases · · = true) s →
        LeaseHistory readAddress providerId s.leases := by
  intro h
  have hreach : (leaseMachine sampleReader 1).ReachableBy (increases · · = true)
      ((leaseMachine sampleReader 1).run noLeases otherSyncs) :=
    .run (.start fun _ h ↦ absurd h not_mem_nil) (by decide +kernel)
  have hsingle := (h sampleReader 1 _ hreach).single 1 (by decide +kernel) 2
    (by decide +kernel) (by decide +kernel) (by decide +kernel) (by decide +kernel)
    (by decide +kernel) (by decide +kernel)
  exact absurd hsingle (by decide)

end Kaya.Dns
