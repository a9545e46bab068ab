import Kaya.Dns.Clients

/-!
# Observations are attached to the right client

An identity key of a MAC is only ever that of the client's own MAC (`Keyed`), in the stored columns
as well as in the objects, and a flush writes the objects without any two clients sharing a key. So
a client that is found by its key has the MAC of the observation, unless its object
has another one that is not stored yet.

Other lookups are not as careful: the first identity of a client stays what it was when the client
gets another MAC, and one of the weaker lookups does not compare MACs. `isUnambiguous` says when
this makes no difference, and `attached_along` that observations are then attached to the right
client.
-/

namespace Kaya.Dns

open Option List
open Kaya.HA (DateTime seconds)
open Kaya.Assets (DHCPLeaseHistory clientMac)

variable {lib : Stdlib} {t t' : Clients} {call : ObserveCall} {i j k : ℕ} {mac : String}
  {client row : DNSRecognisedDevice}

/-! ### Identity keys -/

/-- The key of a MAC is that of the client's MAC. -/
def Keyed (row : DNSRecognisedDevice) : Prop :=
  ∀ mac, row.identityKey = some ("mac:" ++ mac) → row.normalisedMac = some mac

/-- No two stored clients share a key. -/
def Distinct (t : Clients) : Prop :=
  ∀ i ∈ t.ids, ∀ j ∈ t.ids,
    (t.row i).stored.logicalProviderKey = (t.row j).stored.logicalProviderKey →
      (t.row i).stored.identityKey.isSome = true →
        (t.row i).stored.identityKey = (t.row j).stored.identityKey → i = j

/-- What holds of the clients in every run. -/
structure ClientInvariant (t : Clients) : Prop where
  stored : ∀ i ∈ t.ids, Keyed (t.row i).stored
  value : ∀ i ∈ t.ids, Keyed (t.row i).value
  apart : t.Apart sameIdentities

theorem stableIdentityKey_eq_mac {mac' providerClientId ip : Option String} {hostname : String}
    {observedAt : DateTime}
    (h : stableIdentityKey lib mac' providerClientId ip hostname observedAt = "mac:" ++ mac) :
    mac' = some mac := by
  have hlist := congrArg String.toList h
  cases mac' with
  | some mac'' =>
    simp only [stableIdentityKey, String.toList_append, append_cancel_left_eq,
      String.toList_inj] at hlist
    exact congrArg some hlist
  | none =>
    cases providerClientId <;>
      simp [stableIdentityKey, String.toList_append] at hlist

theorem observedClient_keyed (h : Keyed client) : Keyed (observedClient lib call client) := by
  intro mac hkey
  have hkey' : (if call.mac.isSome ∨ call.observation.providerClientId.isSome ∨
      client.identityKey.isNone then some (stableIdentityKey lib (call.mac <|> client.normalisedMac)
        (call.observation.providerClientId <|> client.providerClientId)
        (call.observation.ip <|> client.currentIp)
        ((call.hostname lib <|> client.hostname).getD "") call.observedAt)
      else client.identityKey) = some ("mac:" ++ mac) := hkey
  show (call.mac <|> client.normalisedMac) = some mac
  split at hkey'
  · exact stableIdentityKey_eq_mac (some.inj hkey')
  next hkeeps =>
    have hmac : call.mac = none := not_isSome_iff_eq_none.1 fun h ↦ hkeeps (.inl h)
    rw [hmac]
    exact h mac hkey'

theorem newClient_keyed : Keyed (newClient lib call) := fun _ hkey ↦
  stableIdentityKey_eq_mac (some.inj hkey)

/-! ### Flushes -/

theorem sameIdentities_comm (row row' : DNSRecognisedDevice) :
    sameIdentities row row' = sameIdentities row' row := by
  refine decide_eq_decide.2 ⟨fun h ↦ ?_, fun h ↦ ?_⟩
  all_goals
    refine h.imp (fun h ↦ ⟨h.1.symm, h.2.1.symm, h.2.2.symm⟩) fun h ↦ ?_
    exact ⟨h.1.symm, h.2.2 ▸ h.2.1, h.2.2.symm⟩

theorem distinct_of_apart (h : t.Apart sameIdentities) : Distinct t :=
  fun i hi j hj hlogical hkey heq ↦
    h i hi j hj (decide_eq_true (.inr ⟨hlogical, hkey, heq⟩))

theorem ClientInvariant.wrote (ht : ClientInvariant t) (h : Table.Wrote sameIdentities t t') :
    ClientInvariant t' where
  stored i hi := by
    rw [h.ids] at hi
    rcases h.stored i with hsto | hvalue
    · exact hsto ▸ ht.stored i hi
    · exact hvalue ▸ ht.value i hi
  value i hi := (h.value i).symm ▸ ht.value i (h.ids ▸ hi)
  apart := h.apart sameIdentities_comm ht.apart

/-! ### The condition -/

/-- The observation may be the client's: it has no MAC yet, or this one, or this provider id. -/
def Fits (call : ObserveCall) (client : DNSRecognisedDevice) : Prop :=
  client.normalisedMac = none ∨ client.normalisedMac = call.mac ∨
    call.observation.providerClientId.isSome = true ∧
      client.providerClientId = call.observation.providerClientId

instance (call : ObserveCall) (client : DNSRecognisedDevice) : Decidable (Fits call client) :=
  inferInstanceAs (Decidable (_ ∨ _ ∨ _))

/-- A client that the lookups of the call can find. -/
def isReachable (call : ObserveCall) (row : DNSRecognisedDevice) : Bool :=
  call.isInScope row || decide (row.logicalProviderKey = logicalProviderKey call.provider)

/-- Where the MAC or the provider id of the observation is stored, the object has it too. -/
def isFlushed (t : Clients) (call : ObserveCall) : Bool :=
  ∀ i ∈ t.ids, isReachable call (t.row i).stored = true →
    ((t.row i).stored.normalisedMac = call.mac → (t.row i).value.normalisedMac = call.mac) ∧
    (call.observation.providerClientId.isSome = true →
      (t.row i).stored.providerClientId = call.observation.providerClientId →
        (t.row i).value.providerClientId = call.observation.providerClientId)

/-- Unless the MAC has a key, no client that was first seen with it has got another one. -/
def keepsIdentity (lib : Stdlib) (t : Clients) (call : ObserveCall) : Bool :=
  (findByKey t call (call.identityKey lib)).isSome ∨
    ∀ i ∈ t.ids, call.isInScope (t.row i).stored = true →
      (t.row i).stored.identityType = .mac → some (t.row i).stored.identityValue = call.mac →
        Fits call (t.row i).value

/-- In a DHCP range, unless the MAC or the provider id is known, the only client that had the
address and the host name a day ago has no other MAC. -/
def keepsRecent (lib : Stdlib) (t : Clients) (call : ObserveCall) : Bool :=
  call.isInDhcpRange lib = true → (∃ i ∈ t.ids, call.isInScope (t.row i).stored = true ∧
      ((t.row i).stored.normalisedMac = call.mac ∨ call.observation.providerClientId.isSome = true ∧
          (t.row i).stored.providerClientId = call.observation.providerClientId)) ∨
    ∀ key ∈ call.hostnameKey lib, ∀ i ∈ sole (recentClients t call key), Fits call (t.row i).value

/-- The lookups for an observation with a MAC find no client of another one. -/
def isUnambiguous (lib : Stdlib) (t : Clients) (call : ObserveCall) : Bool :=
  call.mac.isNone || isFlushed t call && keepsIdentity lib t call && keepsRecent lib t call

/-! ### Lookups -/

theorem fits_of_compatibleMac (hmac : call.mac = some mac)
    (h : compatibleMac client call.mac = true) : Fits call client := by
  cases hclient : client.normalisedMac with
  | none => exact .inl hclient
  | some existing =>
    have heq : mac = existing := by simpa [compatibleMac, hmac, hclient] using h
    exact .inr (.inl (by rw [hclient, hmac, heq]))

theorem mem_of_sole {rows : List ℕ} (h : sole rows = some k) : k ∈ rows := by
  simp only [sole] at h
  split at h
  · obtain rfl := some.inj h
    exact mem_cons_self
  · cases h

theorem mem_clientsInScope {p : DNSRecognisedDevice → Bool} (h : k ∈ clientsInScope t call p) :
    k ∈ t.ids ∧ call.isInScope (t.row k).stored = true ∧ p (t.row k).stored = true := by
  obtain ⟨hmem, hrow⟩ := t.mem_select.1 h
  exact ⟨hmem, Bool.and_eq_true_iff.1 hrow⟩

theorem isReachable_of_isInScope (h : call.isInScope row = true) : isReachable call row = true := by
  rw [isReachable, h, Bool.true_or]

theorem findByKey_eq_some {key : String} (h : findByKey t call key = some k) :
    k ∈ t.ids ∧ (t.row k).stored.logicalProviderKey = logicalProviderKey call.provider ∧
      (t.row k).stored.identityKey = some key := by
  obtain ⟨hmem, hrow⟩ := t.mem_select.1 (mem_of_head? h)
  exact ⟨hmem, of_decide_eq_true hrow⟩

theorem identityKey_of_mac (hmac : call.mac = some mac) : call.identityKey lib = "mac:" ++ mac := by
  rw [ObserveCall.identityKey, hmac, stableIdentityKey]

theorem matchAddress_fits (hmac : call.mac = some mac) (h : matchAddress lib t call = some k) :
    Fits call (t.row k).value := by
  rw [matchAddress, hmac, orElse_eq_some, orElse_eq_some] at h
  rcases h with h | ⟨-, h | ⟨-, h⟩⟩
  · split at h
    · exact fits_of_compatibleMac hmac (hmac ▸ (mem_filter.1 (mem_of_sole h)).2)
    · cases h
  · split at h
    · exact fits_of_compatibleMac hmac (hmac ▸ (mem_filter.1 (mem_of_sole h)).2)
    · cases h
  · rw [if_neg (by simp)] at h
    cases h

theorem leasedClient_fits (hmac : call.mac = some mac) (h : leasedClient t call = some k) :
    Fits call (t.row k).value := by
  obtain ⟨-, hrow⟩ := filter_eq_some_iff.1 h
  exact fits_of_compatibleMac hmac (of_decide_eq_true hrow).2

/-- The client that is found fits the observation. -/
theorem matchClient_fits (hmac : call.mac = some mac) (hflushed : isFlushed t call = true)
    (hrecent : keepsRecent lib t call = true) (h : matchClient lib t call = some k) :
    Fits call (t.row k).value := by
  rw [matchClient, orElse_eq_some, orElse_eq_some] at h
  have hflushed := of_decide_eq_true hflushed
  rcases h with h | ⟨hnomac, h | ⟨hnoid, h⟩⟩
  · rw [hmac, bind_some] at h
    obtain ⟨hmem, hrow⟩ := Table.newest?_eq_some h
    obtain ⟨hscope, hsto⟩ := of_decide_eq_true hrow
    exact .inr (.inl ((hflushed k hmem (isReachable_of_isInScope hscope)).1
      (hsto.trans hmac.symm)))
  · obtain ⟨id, hid, hfound⟩ := bind_eq_some_iff.1 h
    obtain ⟨hmem, hscope, hsto⟩ := mem_clientsInScope (mem_of_head? hfound)
    have hsome : call.observation.providerClientId.isSome = true := by rw [hid, isSome_some]
    refine .inr (.inr ⟨hsome, ?_⟩)
    exact (hflushed k hmem (isReachable_of_isInScope hscope)).2 hsome
      ((of_decide_eq_true hsto).trans hid.symm)
  · split at h
    next hrange =>
      rcases (orElse_eq_some _ _ _).1 h with h | ⟨-, h⟩
      · exact leasedClient_fits hmac h
      · obtain ⟨key, hkey, hsole⟩ := bind_eq_some_iff.1 h
        rcases of_decide_eq_true hrecent hrange with ⟨j, hj, hscope, hknown⟩ | hfits
        · rcases hknown with hsto | ⟨hsome, hsto⟩
          · rw [hmac, bind_some] at hnomac
            have hrow := Table.newest?_eq_none_iff.1 hnomac j hj
            exact absurd ⟨hscope, hsto.trans hmac⟩ (of_decide_eq_false hrow)
          · obtain ⟨id, hid⟩ := isSome_iff_exists.1 hsome
            rw [hid, bind_some] at hnoid
            have hmem : j ∈ clientsInScope t call fun row ↦ row.providerClientId = some id :=
              t.mem_select.2 ⟨hj, Bool.and_eq_true_iff.2
                ⟨hscope, decide_eq_true (hsto.trans hid)⟩⟩
            exact absurd (head?_eq_none_iff.1 hnoid ▸ hmem) not_mem_nil
        · exact hfits key hkey k hsole
    · exact matchAddress_fits hmac h

/-- A client that is found has no other MAC. -/
theorem findClient_fits (ht : ClientInvariant t) (hmac : call.mac = some mac)
    (hcall : isUnambiguous lib t call = true) (h : findClient lib t call = some k) :
    Fits call (t.row k).value := by
  rw [isUnambiguous, hmac, isNone_some, Bool.false_or, Bool.and_eq_true_iff,
    Bool.and_eq_true_iff] at hcall
  obtain ⟨⟨hflushed, hident⟩, hrecent⟩ := hcall
  rw [findClient, orElse_eq_some, orElse_eq_some] at h
  rcases h with h | ⟨hnokey, h | ⟨-, h⟩⟩
  · obtain ⟨hmem, hlogical, hkey⟩ := findByKey_eq_some h
    have hsto := ht.stored k hmem mac (hkey.trans (congrArg some (identityKey_of_mac hmac)))
    have hreach : isReachable call (t.row k).stored = true := by
      rw [isReachable, decide_eq_true hlogical, Bool.or_true]
    exact .inr (.inl ((of_decide_eq_true hflushed k hmem hreach).1
      (hsto.trans hmac.symm)))
  · split at h
    · obtain ⟨hmem, hscope, hrow⟩ := mem_clientsInScope (mem_of_head? h)
      obtain ⟨htype, hvalue⟩ := of_decide_eq_true hrow
      rcases of_decide_eq_true hident with hkey | hfits
      · exact absurd hkey (by simp [hnokey])
      · refine hfits k hmem hscope ?_ ?_
        · rw [htype, ObserveCall.identityType, hmac, if_pos isSome_some]
        · rw [hvalue, ObserveCall.identityValue, hmac]
          rfl
    · cases h
  · exact matchClient_fits hmac hflushed hrecent h

/-! ### Observations -/

theorem ClientInvariant.edit {f : DNSRecognisedDevice → DNSRecognisedDevice}
    (ht : ClientInvariant t) (hf : ∀ client, Keyed client → Keyed (f client)) :
    ClientInvariant (t.edit k f) where
  stored i hi := by
    rw [t.edit_stored]
    exact ht.stored i hi
  value i hi := by
    rcases eq_or_ne i k with rfl | hne
    · rw [t.edit_value_self]
      exact hf _ (ht.value i hi)
    · rw [t.edit_row_of_ne f hne]
      exact ht.value i hi
  apart i hi j hj := by
    rw [t.edit_stored, t.edit_stored]
    exact ht.apart i hi j hj

theorem ClientInvariant.insert (ht : ClientInvariant t)
    (hrow : Keyed row) (htaken : t.isTaken sameIdentities t.freshKey row = false) :
    ClientInvariant (t.insert { stored := row }) := by
  have hold : ∀ i ∈ (t.insert ({ stored := row } : Tracked DNSRecognisedDevice)).ids,
      i ≠ t.freshKey → i ∈ t.ids := fun i hi hne ↦
    (mem_append.1 hi).resolve_right fun h ↦ hne (mem_singleton.1 h)
  refine ⟨fun i hi ↦ ?_, fun i hi ↦ ?_, ht.apart.insert sameIdentities_comm htaken⟩
  · rcases eq_or_ne i t.freshKey with rfl | hne
    · rw [t.insert_row_fresh]
      exact hrow
    · rw [t.insert_row_of_mem _ (hold i hi hne)]
      exact ht.stored i (hold i hi hne)
  · rcases eq_or_ne i t.freshKey with rfl | hne
    · rw [t.insert_row_fresh]
      exact hrow
    · rw [t.insert_row_of_mem _ (hold i hi hne)]
      exact ht.value i (hold i hi hne)

/-- What an observation makes of the clients: one of them is changed, or a new one is added. -/
inductive Observes (lib : Stdlib) (t : Clients) (call : ObserveCall) : Clients → ℕ → Prop
  | found {t₀ : Clients} {k : ℕ} (hwrote : Table.Wrote sameIdentities t t₀)
      (hfound : findClient lib t call = some k ∨
        (∀ i ∈ t.ids, (t₀.row i).stored = (t.row i).value) ∧
          findByKey t₀ call (call.identityKey lib) = some k) :
      Observes lib t call (t₀.edit k (countedClient call ∘ observedClient lib call)) k
  | added {t₀ : Clients} (hwrote : Table.Wrote sameIdentities t t₀)
      (htaken : t₀.isTaken sameIdentities t₀.freshKey (newClient lib call) = false) :
      Observes lib t call
        ((t₀.insert { stored := newClient lib call }).edit t₀.freshKey (countedClient call))
        t₀.freshKey

theorem observes_of_observeClient (h : observeClient lib t call = some (t', k)) :
    Observes lib t call t' k := by
  simp only [observeClient] at h
  split at h
  next id hid =>
    obtain ⟨rfl, rfl⟩ := Prod.mk.inj (some.inj h)
    exact .found (.refl t) (.inl hid)
  next =>
    obtain ⟨t₀, hflush, h⟩ := bind_eq_some_iff.1 h
    obtain ⟨hwrote, hsto⟩ := Table.wrote_of_flush hflush
    split at h
    · obtain ⟨id, hid, h⟩ := bind_eq_some_iff.1 h
      obtain ⟨rfl, rfl⟩ := Prod.mk.inj (some.inj h)
      exact .found hwrote (.inr ⟨hsto, hid⟩)
    next htaken =>
      obtain ⟨rfl, rfl⟩ := Prod.mk.inj (some.inj h)
      exact .added hwrote (Bool.not_eq_true _ ▸ htaken)

theorem Observes.invariant (h : Observes lib t call t' k) (ht : ClientInvariant t) :
    ClientInvariant t' := by
  have hcounted : ∀ client, Keyed client → Keyed (countedClient call client) := fun _ h ↦ h
  cases h with
  | found hwrote hfound =>
    exact (ht.wrote hwrote).edit fun client h ↦ hcounted _ (observedClient_keyed h)
  | added hwrote htaken => exact ((ht.wrote hwrote).insert newClient_keyed htaken).edit hcounted

/-- The observation is attached to the right client, and other clients keep their MACs. -/
structure Attached (t t' : Clients) (call : ObserveCall) (k : ℕ) : Prop where
  own : ∀ mac, call.mac = some mac → call.observation.providerClientId = none → k ∈ t.ids →
    (t.row k).value.normalisedMac = none ∨ (t.row k).value.normalisedMac = some mac
  kept : ∀ i ∈ t.ids, ∀ mac, (t.row i).value.normalisedMac = some mac →
    (t'.row i).value.normalisedMac ≠ some mac → call.observation.providerClientId.isSome = true ∧
        (t.row i).value.providerClientId = call.observation.providerClientId

/-- Only the client of the observation gets its MAC. -/
theorem Observes.normalisedMac (h : Observes lib t call t' k) (hi : i ∈ t.ids) :
    (t'.row i).value.normalisedMac = (t.row i).value.normalisedMac ∨
      i = k ∧ (t'.row i).value.normalisedMac =
        (call.mac <|> (t.row i).value.normalisedMac) := by
  cases h with
  | @found t₀ k hwrote hfound =>
    rcases eq_or_ne i k with rfl | hne
    · rw [t₀.edit_value_self, hwrote.value]
      exact .inr ⟨rfl, rfl⟩
    · rw [t₀.edit_row_of_ne _ hne, hwrote.value]
      exact .inl rfl
  | @added t₀ hwrote htaken =>
    have hmem : i ∈ t₀.ids := hwrote.ids ▸ hi
    have hne := t₀.ne_freshKey hmem
    rw [Table.edit_row_of_ne _ _ hne, t₀.insert_row_of_mem _ hmem, hwrote.value]
    exact .inl rfl

theorem Observes.fits (h : Observes lib t call t' k) (ht : ClientInvariant t)
    (hcall : isUnambiguous lib t call = true) (hmac : call.mac = some mac) (hk : k ∈ t.ids) :
    Fits call (t.row k).value := by
  cases h with
  | @found t₀ k hwrote hfound =>
    rcases hfound with hfound | ⟨hsto, hfound⟩
    · exact findClient_fits ht hmac hcall hfound
    · obtain ⟨hmem, -, hkey⟩ := findByKey_eq_some hfound
      rw [hsto k hk, identityKey_of_mac hmac] at hkey
      exact .inr (.inl ((ht.value k hk mac hkey).trans hmac.symm))
  | @added t₀ hwrote htaken =>
    exact absurd rfl (t₀.ne_freshKey (hwrote.ids ▸ hk))

theorem Observes.attached (h : Observes lib t call t' k) (ht : ClientInvariant t)
    (hcall : isUnambiguous lib t call = true) : Attached t t' call k where
  own mac hmac hid hk := by
    rcases h.fits ht hcall hmac hk with hnone | hsame | ⟨hsome, -⟩
    · exact .inl hnone
    · exact .inr (hsame.trans hmac)
    · rw [hid] at hsome
      cases hsome
  kept i hi mac hclient hchg := by
    rcases h.normalisedMac hi with hsame | ⟨rfl, hnew⟩
    · exact absurd (hsame.trans hclient) hchg
    · cases hmac : call.mac with
      | none =>
        rw [hmac] at hnew
        exact absurd (hnew.trans hclient) hchg
      | some mac' =>
        rw [hmac] at hnew
        rcases h.fits ht hcall hmac hi with hnone | hsame | hid
        · exact absurd (hnone.symm.trans hclient) (by simp)
        · exact absurd (hnew.trans (hmac.symm.trans (hsame.symm.trans hclient))) hchg
        · exact hid

/-! ### Runs -/

/-- The condition of a run. -/
def isClear (lib : Stdlib) (t : Clients) : ClientEvent → Bool
  | .observe call => isUnambiguous lib t call
  | .flush => true

theorem ClientInvariant.step (ht : ClientInvariant t) (e : ClientEvent) :
    ClientInvariant ((clientMachine lib).step t e) := by
  cases e with
  | observe call =>
    show ClientInvariant (((observeClient lib t call).map (·.1)).getD t)
    cases hobserve : observeClient lib t call with
    | none => exact ht
    | some result => exact (observes_of_observeClient hobserve).invariant ht
  | flush =>
    show ClientInvariant ((flushClients t).getD t)
    cases hflush : flushClients t with
    | none => exact ht
    | some t' => exact ht.wrote (Table.wrote_of_flush hflush).1

/-- In a run whose observations are unambiguous, they are attached to the right clients, and no two
clients share a key. -/
theorem attached_along (h : (clientMachine lib).ReachableBy (isClear lib · · = true) t) :
    Distinct t ∧ ∀ call t' k, isUnambiguous lib t call = true →
      observeClient lib t call = some (t', k) → Attached t t' call k := by
  have ht : ClientInvariant t := by
    refine h.reachable.invariant (fun t hinit ↦ ?_) (fun t e ht ↦ ht.step e)
    have hnone : ∀ i, i ∉ t.ids := fun i hi ↦ absurd (hinit ▸ hi) not_mem_nil
    exact ⟨fun i hi ↦ absurd hi (hnone i), fun i hi ↦ absurd hi (hnone i),
      fun i hi ↦ absurd hi (hnone i)⟩
  exact ⟨distinct_of_apart ht.apart, fun call t' k hcall hobserve ↦
    (observes_of_observeClient hobserve).attached ht hcall⟩

/-! ### A first identity that has gone stale -/

/-- The library on the texts of the sample. -/
def sampleLib : Stdlib where
  readAddress text := if text = "192.168.1.10" then some (.v4 3232235786) else none
  lower text := String.ofList (text.toList.map Char.toLower)
  digest := id
  isoDate _ := "1970-01-01"

/-- A device of the provider is observed. -/
def sampleCall (mac : String) (providerClientId : Option String) (time : DateTime) :
    ObserveCall where
  provider := ⟨1, none⟩
  scopeIds := [1]
  observation := { ip := some "192.168.1.10", mac, providerClientId }
  generatedAt := time
  leases := ⟨[], fun _ ↦ { ipAddress := ⟨"", none⟩, leaseStartedAt := 0, firstSeenAt := 0
                           lastSeenAt := 0 }, List.nodup_nil⟩

/-- No client is known. -/
def noClients : Clients :=
  ⟨[], fun _ ↦ ⟨newClient sampleLib (sampleCall "" none 0), none⟩, List.nodup_nil⟩

/-- A device is known by one MAC, and then by another one. -/
def changedDevice : List ClientEvent :=
  [.observe (sampleCall "02:00:5e:10:00:01" (some "7") (seconds 1)), .flush,
    .observe (sampleCall "02:00:5e:10:00:02" (some "7") (seconds 2)), .flush]

/-- The clients after that. -/
def changedClients : Clients := (clientMachine sampleLib).run noClients changedDevice

/-- What an observation of the device makes of them. -/
def observedAgain (call : ObserveCall) : Clients :=
  changedClients.edit 1 (countedClient call ∘ observedClient sampleLib call)

theorem observeClient_changed {call : ObserveCall}
    (h : findClient sampleLib changedClients call = some 1) :
    observeClient sampleLib changedClients call = some (observedAgain call, 1) := by
  rw [observeClient, h]
  rfl

/-- The device is observed by its second MAC again. -/
theorem attached_along_example :
    Attached changedClients (observedAgain (sampleCall "02:00:5e:10:00:02" none (seconds 3)))
      (sampleCall "02:00:5e:10:00:02" none (seconds 3)) 1 := by
  have hinit : (clientMachine sampleLib).init noClients := rfl
  have hreach : (clientMachine sampleLib).ReachableBy (isClear sampleLib · · = true)
      changedClients := .run (.start hinit) (by decide +kernel)
  exact (attached_along hreach).2 _ _ _ (by decide +kernel)
    (observeClient_changed (by decide +kernel))

/-- Another device with the first MAC is taken for it. -/
theorem not_attached :
    ¬ ∀ (lib : Stdlib) (t : Clients), (clientMachine lib).Reachable t →
      Distinct t ∧ ∀ call t' k, observeClient lib t call = some (t', k) →
        Attached t t' call k := by
  intro h
  have hinit : (clientMachine sampleLib).init noClients := rfl
  have hreach : (clientMachine sampleLib).Reachable changedClients := .run _ (.start hinit)
  have hattached := (h sampleLib _ hreach).2
    (sampleCall "02:00:5e:10:00:01" none (seconds 3)) _ _
    (observeClient_changed (by decide +kernel))
  exact absurd (hattached.own "02:00:5e:10:00:01" (by decide +kernel) rfl (by decide +kernel))
    (by decide +kernel)

end Kaya.Dns
