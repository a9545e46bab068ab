import Kaya.HA.Model
import Kaya.Library.IPv4

/-!
# Lease documents

A lease is validated twice. `normalise_leases` of `app/services/ha_leases.py` turns the answer of a
Pi-hole into the records Kaya keeps, digests and hands to the standby; `_lease_lines` of
`ha_agent/kaya_ha_failover_helper.py` turns the staged records into the lines of a `dnsmasq` lease
file, on the standby, when it is promoted. The two know nothing of each other: the second rejects
white space in a name or a client identifier, and the first only strips it from the ends.

**Values.** The answer of a Pi-hole is JSON. Where the normaliser reads a value it takes the first
*truthy* one of several keys and then its text or its integer, so a `PyValue` is a value with what
Python makes of it: a float carries its text and its integral part, a list or an object in such a
place its text.
-/

namespace Kaya.HA

open List

/-! ### Values of a Pi-hole's answer -/

/-- A JSON value, as the normaliser reads it. -/
inductive PyValue
  | none
  | bool (b : Bool)
  | int (z : ℤ)
  /-- The text, the integral part, and whether the value is zero. -/
  | float (text : String) (truncated : ℤ) (zero : Bool)
  | str (s : String)
  /-- A list or an object: its text, and whether it is empty. -/
  | container (text : String) (empty : Bool)

namespace PyValue

/-- `bool(value)`. -/
def truthy : PyValue → Bool
  | none => false
  | bool b => b
  | int z => z ≠ 0
  | float _ _ zero => !zero
  | str s => s ≠ ""
  | container _ empty => !empty

/-- `value or other`. -/
def orElse (value other : PyValue) : PyValue := if value.truthy then value else other

/-- `str(value)`. -/
def text : PyValue → String
  | none => "None"
  | bool true => "True"
  | bool false => "False"
  | int z => toString z
  | float text _ _ => text
  | str s => s
  | container text _ => text

/-- `int(value)`; nothing where Python raises a type or value error. -/
def toInt : PyValue → Option ℤ
  | none => Option.none
  | bool b => some (if b then 1 else 0)
  | int z => some z
  | float _ truncated _ => some truncated
  | str s => PyText.int s.toList
  | container _ _ => Option.none

end PyValue

/-- An object of the answer: its keys with their values. -/
abbrev LeaseRow := List (String × PyValue)

/-- `row.get(key)`. -/
def LeaseRow.get (row : LeaseRow) (key : String) : PyValue := (row.lookup key).getD .none

/-- The answer as a whole; an item that is no object is `none`. -/
inductive LeaseData
  | list (items : List (Option LeaseRow))
  /-- An object, with the lists under its keys `leases` and `data`. -/
  | dict (leases data : Option (List (Option LeaseRow)))
  | other

/-! ### The normaliser -/

/-- `MAX_LEASES`. -/
def maxLeases : ℕ := 10000

/-- `_lease_rows`. -/
def leaseRows : LeaseData → Except String (List LeaseRow)
  | .list items => .ok (items.filterMap id)
  | .dict (some items) _ => .ok (items.filterMap id)
  | .dict none (some items) => .ok (items.filterMap id)
  | .dict none none | .other =>
    .error "The main Pi-hole returned an unrecognised DHCP lease response."

/-- `str(value).strip()`. -/
def strippedText (value : PyValue) : String := PyText.strip value.text

/-- A hexadecimal digit of a lower-case hardware address. -/
def isHexDigit (c : Char) : Bool := "0123456789abcdef".toList.contains c

/-- `MAC_RE.fullmatch`: six pairs of lower-case hexadecimal digits joined with colons. -/
def isMac (text : String) : Bool :=
  let parts := text.toList.splitOn ':'
  parts.length = 6 ∧ parts.all fun part ↦ part.length = 2 ∧ part.all isHexDigit

/-- `text.lower()`. Only ASCII letters matter: no other character becomes a hexadecimal digit. -/
def lowerText (text : String) : String := String.ofList (text.toList.map Char.toLower)

/-- The address of a row. -/
def LeaseRow.ipText (row : LeaseRow) : String :=
  strippedText ((row.get "ip").orElse ((row.get "address").orElse (.str "")))

/-- The hardware address of a row. -/
def LeaseRow.mac (row : LeaseRow) : String :=
  let value := (row.get "hwaddr").orElse
    ((row.get "mac").orElse ((row.get "mac_address").orElse (.str "")))
  String.ofList ((lowerText (strippedText value)).toList.map fun c ↦ if c = '-' then ':' else c)

/-- The host name kept of a row. -/
def LeaseRow.hostname (row : LeaseRow) : String :=
  PyText.take 255 (strippedText ((row.get "name").orElse ((row.get "hostname").orElse (.str ""))))

/-- The client identifier kept of a row. -/
def LeaseRow.clientId (row : LeaseRow) : String :=
  PyText.take 255
    (strippedText ((row.get "clientid").orElse ((row.get "client_id").orElse (.str ""))))

/-- The expiry of a row. -/
def LeaseRow.expires (row : LeaseRow) : Option ℤ :=
  ((row.get "expires").orElse ((row.get "expiry").orElse (.int 0))).toInt

/-- The address lies outside the configured range. -/
def outsideRange (rangeStart rangeEnd : Option ℕ) (ip : ℕ) : Bool :=
  match rangeStart, rangeEnd with
  | some first, some last => !(first ≤ ip ∧ ip ≤ last)
  | _, _ => false

/-- The loop of `normalise_leases`: `owners` maps the addresses seen so far to their devices. -/
def normaliseRows (rangeStart rangeEnd : Option ℕ) (reservationIps : List String) :
    List LeaseRow → List (String × String) → Except String (List Lease)
  | [], _ => .ok []
  | row :: rows, owners =>
    let mac := row.mac
    match IPv4.address row.ipText with
    | none => .error "Pi-hole returned a lease with an invalid IPv4 address."
    | some ip =>
      let ipText := IPv4.render ip
      if !isMac mac then
        .error s!"Pi-hole returned an invalid hardware address for lease {ipText}."
      else if outsideRange rangeStart rangeEnd ip ∧ ipText ∉ reservationIps then
        .error s!"Lease {ipText} is outside the configured DHCP range and is not a reservation."
      else if (owners.lookup ipText).any (· ≠ mac) then
        .error s!"Conflicting leases assign {ipText} to more than one device."
      else match row.expires with
      | none => .error s!"Pi-hole returned an invalid expiry for lease {ipText}."
      | some expires =>
        (normaliseRows rangeStart rangeEnd reservationIps rows ((ipText, mac) :: owners)).map
          ({ expires := expires.toNat, hwaddr := mac, ip := ipText, name := row.hostname
             clientid := row.clientId } :: ·)

/-- The sort key of a lease: the number of its address, then its hardware address. -/
def leaseBefore (a b : Lease) : Bool :=
  let ip (l : Lease) := (IPv4.address l.ip).getD 0
  ip a < ip b ∨ (ip a = ip b ∧ a.hwaddr ≤ b.hwaddr)

/-- `normalise_leases`. -/
def normaliseLeases (data : LeaseData) (rangeStart rangeEnd : Option ℕ)
    (reservationIps : List String) : Except String (List Lease) :=
  match leaseRows data with
  | .error message => .error message
  | .ok rows =>
    if maxLeases < rows.length then
      .error s!"The Pi-hole returned more than the safe limit of {maxLeases} leases."
    else
      (normaliseRows rangeStart rangeEnd reservationIps rows []).map
        (List.insertionSort fun a b ↦ leaseBefore a b = true)

/-! ### The helper -/

/-- The staged document `current.json`, as far as the helper reads it. -/
structure StagedSnapshot where
  generation : ℕ
  leases : List Lease

/-- `lease.get(key) or "*"`. -/
def orStar (text : String) : String := if text = "" then "*" else text

/-- Some character is white space. -/
def hasSpace (text : String) : Bool := text.toList.any PyText.isSpace

/-- The fields of a line of the lease file. -/
def lineFields (lease : Lease) : List String :=
  [String.ofList (Nat.toDigits 10 lease.expires), lease.hwaddr, lease.ip, orStar lease.name,
    orStar lease.clientid]

/-- Some fields joined with spaces, and the end of the line. -/
def joinFields (fields : List String) : String :=
  String.ofList ([' '].intercalate (fields.map String.toList) ++ ['\n'])

/-- One turn of the loop of `_lease_lines`. The address is an IPv4 address: the server stages no
other. -/
def leaseLine (lease : Lease) : Except String String :=
  match IPv4.address lease.ip with
  | none =>
    let ip := lease.ip
    .error s!"'{ip}' does not appear to be an IPv4 or IPv6 address"
  | some ip =>
    let mac := lowerText lease.hwaddr
    if !isMac mac ∨ hasSpace (orStar lease.name ++ orStar lease.clientid) then
      .error "The staged lease snapshot contains an invalid lease."
    else .ok (joinFields (lineFields { lease with hwaddr := mac, ip := IPv4.render ip }))

/-- `_lease_lines`. -/
def leaseLines (document : StagedSnapshot) (generation : ℕ) : Except String String :=
  if document.generation ≠ generation then .error "The staged lease generation is not current."
  else if maxLeases < document.leases.length then .error "The staged lease snapshot is invalid."
  else (document.leases.mapM leaseLine).map String.join

/-! ### What a normalised lease is -/

/-- A lease as the normaliser leaves it: its address and its hardware address are well formed and
canonical. Nothing is known of its name and its client identifier. -/
structure Normalised (lease : Lease) : Prop where
  ip : ∃ ip < 256 ^ 4, lease.ip = IPv4.render ip
  hwaddr : isMac lease.hwaddr = true

/-- A lease and the row it was made from. -/
structure NormalisedFrom (row : LeaseRow) (lease : Lease) : Prop where
  normalised : Normalised lease
  name : lease.name = row.hostname
  clientid : lease.clientid = row.clientId

variable {rows : List LeaseRow} {leases : List Lease} {c x : Char} {text : String} {lease : Lease}
  {rangeStart rangeEnd : Option ℕ} {reservationIps : List String} {ls : List (List Char)}

/-- The loop turns every row into a lease. -/
theorem normaliseRows_eq_ok {owners : List (String × String)}
    (h : normaliseRows rangeStart rangeEnd reservationIps rows owners = .ok leases) :
    List.Forall₂ NormalisedFrom rows leases := by
  induction rows generalizing owners leases with
  | nil =>
    obtain rfl := Except.ok.inj h
    exact .nil
  | cons row rows ih =>
    rw [normaliseRows] at h
    rcases hip : IPv4.address row.ipText with - | ip <;> rw [hip] at h <;> dsimp only at h
    · cases h
    split at h
    · cases h
    rename_i hmac
    split at h
    · cases h
    split at h
    · cases h
    rcases hexpires : row.expires with - | expires <;> rw [hexpires] at h <;> dsimp only at h
    · cases h
    rcases hrest : normaliseRows rangeStart rangeEnd reservationIps rows
      ((IPv4.render ip, row.mac) :: owners) with message | rest <;> rw [hrest] at h
    · cases h
    obtain rfl := Except.ok.inj h
    refine .cons ⟨⟨⟨ip, IPv4.address_lt hip, rfl⟩, ?_⟩, rfl, rfl⟩ (ih hrest)
    show isMac row.mac = true
    simpa using hmac

/-- **The normaliser.** Its leases are, in some order, the rows of the answer. -/
theorem normaliseLeases_eq_ok {data : LeaseData}
    (h : normaliseLeases data rangeStart rangeEnd reservationIps = .ok leases) :
    ∃ rows unsorted, leaseRows data = .ok rows ∧ rows.length ≤ maxLeases ∧
      List.Forall₂ NormalisedFrom rows unsorted ∧ leases.Perm unsorted := by
  unfold normaliseLeases at h
  split at h
  · cases h
  rename_i rows hrows
  split at h
  · cases h
  rename_i hlen
  rcases hloop : normaliseRows rangeStart rangeEnd reservationIps rows [] with message | unsorted <;>
    rw [hloop] at h
  · cases h
  cases h
  exact ⟨rows, unsorted, hrows, Nat.le_of_not_lt hlen, normaliseRows_eq_ok hloop,
    perm_insertionSort _ _⟩

theorem NormalisedFrom.forall_normalised
    (h : List.Forall₂ NormalisedFrom rows leases) : ∀ lease ∈ leases, Normalised lease := by
  induction h with
  | nil => exact fun lease hlease ↦ absurd hlease not_mem_nil
  | cons hfrom _ ih => exact forall_mem_cons.2 ⟨hfrom.normalised, ih⟩

/-! ### What the helper makes of it -/

/-- A hardware address is made of hexadecimal digits and colons. -/
theorem mem_of_isMac (h : isMac text = true) (hc : c ∈ text.toList) :
    c ∈ "0123456789abcdef:".toList := by
  simp only [isMac, decide_eq_true_eq, all_eq_true] at h
  have hjoin : [':'].intercalate (text.toList.splitOn ':') = text.toList :=
    intercalate_splitOn ':'
  rw [← hjoin] at hc
  rcases PyText.mem_intercalate hc with rfl | ⟨part, hpart, hmem⟩
  · decide
  · have hdigit : c ∈ "0123456789abcdef".toList :=
      contains_iff_mem.1 ((h.2 part hpart).2 c hmem)
    have hsubset : "0123456789abcdef".toList ⊆ "0123456789abcdef:".toList := by decide
    exact hsubset hdigit

theorem lowerText_of_isMac (h : isMac text = true) : lowerText text = text := by
  have hall : "0123456789abcdef:".toList.all (fun c ↦ c.toLower = c) = true := by decide
  have hlower (c : Char) (hc : c ∈ "0123456789abcdef:".toList) : c.toLower = c :=
    of_decide_eq_true (all_eq_true.1 hall c hc)
  have hmap : text.toList.map Char.toLower = text.toList := by
    calc text.toList.map Char.toLower = text.toList.map id :=
          map_congr_left fun c hc ↦ hlower c (mem_of_isMac h hc)
      _ = text.toList := map_id _
  rw [lowerText, hmap, String.ofList_toList]

theorem hasSpace_orStar (text : String) : hasSpace (orStar text) = hasSpace text := by
  unfold orStar
  split
  · rename_i hempty
    rw [hempty]
    decide
  · rfl

theorem hasSpace_append (a b : String) : hasSpace (a ++ b) = (hasSpace a || hasSpace b) := by
  unfold hasSpace
  rw [String.toList_append, any_append]

/-- The name and the client identifier of a lease are free of white space. -/
def Lease.spaceFree (lease : Lease) : Bool := !hasSpace lease.name && !hasSpace lease.clientid

/-- The leases are free of white space when the rows they come from are. -/
theorem NormalisedFrom.forall_spaceFree (h : List.Forall₂ NormalisedFrom rows leases) :
    (∀ lease ∈ leases, lease.spaceFree = true) ↔
      ∀ row ∈ rows, hasSpace row.hostname = false ∧ hasSpace row.clientId = false := by
  induction h with
  | nil => exact iff_of_true (fun _ h ↦ absurd h not_mem_nil) fun _ h ↦ absurd h not_mem_nil
  | @cons row lease rows leases hfrom _ ih =>
    rw [forall_mem_cons, forall_mem_cons, ih]
    have hhead : lease.spaceFree = true ↔
        hasSpace row.hostname = false ∧ hasSpace row.clientId = false := by
      rw [Lease.spaceFree, hfrom.name, hfrom.clientid, Bool.and_eq_true, Bool.not_eq_true',
        Bool.not_eq_true']
    rw [hhead]

/-- **The helper on one lease.** A normalised lease is rejected for white space in its name or its
client identifier, and for nothing else. -/
theorem leaseLine_of_normalised (h : Normalised lease) :
    leaseLine lease = if lease.spaceFree then .ok (joinFields (lineFields lease))
      else .error "The staged lease snapshot contains an invalid lease." := by
  obtain ⟨⟨ip, hlt, hip⟩, hmac⟩ := h
  have haddr : IPv4.address lease.ip = some ip := by rw [hip, IPv4.address_render hlt]
  have hsame : { lease with hwaddr := lowerText lease.hwaddr, ip := IPv4.render ip } = lease := by
    rw [lowerText_of_isMac hmac, ← hip]
  unfold leaseLine
  rw [haddr]
  dsimp only
  rw [hsame, lowerText_of_isMac hmac, hmac, hasSpace_append, hasSpace_orStar, hasSpace_orStar]
  unfold Lease.spaceFree
  rcases hasSpace lease.name with - | -
  · rcases hasSpace lease.clientid with - | -
    · rfl
    · rfl
  · rfl

/-- The helper on the leases of a snapshot. -/
theorem mapM_leaseLine (h : ∀ lease ∈ leases, Normalised lease) :
    leases.mapM leaseLine =
      if leases.all Lease.spaceFree then .ok (leases.map fun l ↦ joinFields (lineFields l))
      else .error "The staged lease snapshot contains an invalid lease." := by
  induction leases with
  | nil => rfl
  | cons lease leases ih =>
    rw [mapM_cons, leaseLine_of_normalised (h lease mem_cons_self),
      ih fun l hl ↦ h l (mem_cons_of_mem _ hl), all_cons]
    rcases lease.spaceFree with - | -
    · rfl
    · rcases leases.all Lease.spaceFree with - | -
      · rfl
      · rfl

/-! ### Lines and fields -/

/-- Lists that each end with a separator, split at it. -/
theorem splitOn_terminated (h : ∀ l ∈ ls, x ∉ l) :
    (ls.flatMap fun l ↦ l ++ [x]).splitOn x = ls ++ [[]] := by
  have hjoin : [x].intercalate (ls ++ [[]]) = ls.flatMap fun l ↦ l ++ [x] := by
    clear h
    induction ls with
    | nil => rfl
    | cons l ls ih =>
      rw [cons_append, intercalate_cons_of_ne_nil (by simp), ih, flatMap_cons]
  rw [← hjoin]
  refine splitOn_intercalate x (fun l hl ↦ ?_) (by simp)
  rcases mem_append.1 hl with hl | hl
  · exact h l hl
  · rw [mem_singleton.1 hl]
    exact not_mem_nil

/-- The characters of a line, without its end. -/
def lineChars (lease : Lease) : List Char := [' '].intercalate ((lineFields lease).map String.toList)

theorem joinFields_toList (lease : Lease) :
    (joinFields (lineFields lease)).toList = lineChars lease ++ ['\n'] := by
  rw [joinFields, String.toList_ofList, lineChars]

theorem not_mem_of_hasSpace (hc : PyText.isSpace c = true)
    (h : hasSpace text = false) : c ∉ text.toList := by
  intro hmem
  rw [hasSpace, any_eq_false] at h
  exact h c hmem hc

/-- No field of an accepted lease holds a separator. -/
theorem not_mem_lineFields (hnorm : Normalised lease) (hfree : lease.spaceFree = true)
    (hc : c = ' ' ∨ c = '\n') : ∀ f ∈ (lineFields lease).map String.toList, c ∉ f := by
  obtain ⟨⟨ip, -, hip⟩, hmac⟩ := hnorm
  have hspace : PyText.isSpace c = true := by rcases hc with rfl | rfl <;> decide
  have hdigit : c.isDigit = false := by rcases hc with rfl | rfl <;> decide
  have hhex : c ∉ "0123456789abcdef:".toList := by rcases hc with rfl | rfl <;> decide
  have hdot : c ≠ '.' := by rcases hc with rfl | rfl <;> decide
  simp only [Lease.spaceFree, Bool.and_eq_true, Bool.not_eq_true'] at hfree
  simp only [lineFields, map_cons, map_nil, mem_cons, not_mem_nil, or_false,
    forall_eq_or_imp, forall_eq]
  refine ⟨fun hmem ↦ ?_, fun hmem ↦ hhex (mem_of_isMac hmac hmem), fun hmem ↦ ?_,
    not_mem_of_hasSpace hspace ((hasSpace_orStar _).trans hfree.1),
    not_mem_of_hasSpace hspace ((hasSpace_orStar _).trans hfree.2)⟩
  · rw [String.toList_ofList] at hmem
    have := Nat.isDigit_of_mem_toDigits (by decide) (by decide) hmem
    exact absurd this (by rw [hdigit]; decide)
  · rw [hip] at hmem
    rcases IPv4.mem_render hmem with h | h
    · exact absurd h (by rw [hdigit]; decide)
    · exact hdot h

/-- A line of an accepted lease splits into its five fields. -/
theorem lineChars_splitOn (hnorm : Normalised lease) (hfree : lease.spaceFree = true) :
    (lineChars lease).splitOn ' ' = (lineFields lease).map String.toList :=
  splitOn_intercalate ' ' (not_mem_lineFields hnorm hfree (.inl rfl))
    (by simp [lineFields])

/-- A line of an accepted lease is one line. -/
theorem newline_not_mem_lineChars (hnorm : Normalised lease)
    (hfree : lease.spaceFree = true) : '\n' ∉ lineChars lease := by
  intro hmem
  rcases PyText.mem_intercalate hmem with h | ⟨f, hf, hmem⟩
  · exact absurd h (by decide)
  · exact not_mem_lineFields hnorm hfree (.inr rfl) f hf hmem

/-- **Agreement.** The helper accepts the snapshot, and its text is one line for each lease that
splits on spaces into exactly the five fields of that lease. -/
def LinesAgree (leases : List Lease) (generation : ℕ) : Prop :=
  ∃ text lines, leaseLines ⟨generation, leases⟩ generation = .ok text ∧
    text.toList.splitOn '\n' = lines ++ [[]] ∧
    lines.map (·.splitOn ' ') = leases.map fun lease ↦ (lineFields lease).map String.toList

/-- On normalised leases, agreement is a matter of white space alone. -/
theorem linesAgree_iff_spaceFree (hlen : leases.length ≤ maxLeases)
    (hnorm : ∀ lease ∈ leases, Normalised lease) (generation : ℕ) :
    LinesAgree leases generation ↔ ∀ lease ∈ leases, lease.spaceFree = true := by
  have hlines : leaseLines ⟨generation, leases⟩ generation =
      (leases.mapM leaseLine).map String.join := by
    unfold leaseLines
    rw [if_neg (by simp), if_neg (Nat.not_lt.2 hlen)]
  rw [LinesAgree, hlines, mapM_leaseLine hnorm, ← all_eq_true]
  constructor
  · rintro ⟨text, lines, hok, -⟩
    by_contra hspace
    rw [if_neg hspace] at hok
    cases hok
  · intro hfree
    rw [if_pos hfree]
    rw [all_eq_true] at hfree
    refine ⟨_, leases.map lineChars, rfl, ?_, ?_⟩
    · have hflat : (String.join (leases.map fun l ↦ joinFields (lineFields l))).toList =
          (leases.map lineChars).flatMap fun l ↦ l ++ ['\n'] := by
        rw [String.toList_join, flatMap_map, flatMap_map]
        simp only [joinFields_toList]
      rw [hflat]
      refine splitOn_terminated fun l hl ↦ ?_
      obtain ⟨lease, hlease, rfl⟩ := mem_map.1 hl
      exact newline_not_mem_lineChars (hnorm lease hlease) (hfree lease hlease)
    · rw [map_map]
      exact map_congr_left fun lease hlease ↦
        lineChars_splitOn (hnorm lease hlease) (hfree lease hlease)

/-- **Encoder and decoder.** Whatever the normaliser accepts, the helper turns into lines of exactly
five fields if and only if no host name and no client identifier of the answer keeps white space
inside once it is stripped and cut. -/
theorem leaseLines_agree_iff {data : LeaseData} {rangeStart rangeEnd : Option ℕ}
    {reservationIps : List String} {leases : List Lease}
    (h : normaliseLeases data rangeStart rangeEnd reservationIps = .ok leases) (generation : ℕ) :
    LinesAgree leases generation ↔ ∀ rows, leaseRows data = .ok rows →
        ∀ row ∈ rows, hasSpace row.hostname = false ∧ hasSpace row.clientId = false := by
  obtain ⟨rows, unsorted, hrows, hlen, hfrom, hperm⟩ := normaliseLeases_eq_ok h
  have hnorm (lease : Lease) (hlease : lease ∈ leases) : Normalised lease :=
    NormalisedFrom.forall_normalised hfrom lease (hperm.mem_iff.1 hlease)
  have hsize : leases.length ≤ maxLeases := by
    rw [hperm.length_eq, ← hfrom.length_eq]
    exact hlen
  have hsame : (∀ lease ∈ leases, lease.spaceFree = true) ↔
      ∀ lease ∈ unsorted, lease.spaceFree = true :=
    forall_congr' fun lease ↦ by rw [hperm.mem_iff]
  rw [linesAgree_iff_spaceFree hsize hnorm generation, hsame,
    NormalisedFrom.forall_spaceFree hfrom, hrows]
  exact ⟨fun hfree rows' hrows' ↦ Except.ok.inj hrows' ▸ hfree, fun hfree ↦ hfree rows rfl⟩

/-- The answer with one lease of a given name. -/
def sampleLeaseData (name : String) : LeaseData :=
  .dict (some [some [("expires", .int 4102444800), ("hwaddr", .str "02-00-00-00-00-0A"),
    ("ip", .str "192.0.2.20"), ("name", .str name)]]) none

theorem leaseLines_agree_laptop :
    normaliseLeases (sampleLeaseData " laptop ") (some 3221225985) (some 3221226239) [] =
        .ok [⟨4102444800, "02:00:00:00:00:0a", "192.0.2.20", "laptop", ""⟩] ∧
      LinesAgree [⟨4102444800, "02:00:00:00:00:0a", "192.0.2.20", "laptop", ""⟩] 1 := by
  have hok : normaliseLeases (sampleLeaseData " laptop ") (some 3221225985) (some 3221226239) [] =
      .ok [⟨4102444800, "02:00:00:00:00:0a", "192.0.2.20", "laptop", ""⟩] := by decide +kernel
  refine ⟨hok, (leaseLines_agree_iff hok 1).2 fun rows hrows ↦ ?_⟩
  obtain rfl := Except.ok.inj hrows
  decide +kernel

/-- A television that calls itself by two words passes the normaliser and not the helper. -/
theorem leaseLines_reject_two_words :
    ¬ ∀ (data : LeaseData) (rangeStart rangeEnd : Option ℕ) (reservationIps : List String)
      (leases : List Lease) (generation : ℕ),
      normaliseLeases data rangeStart rangeEnd reservationIps = .ok leases →
        LinesAgree leases generation := by
  intro hall
  have hok : normaliseLeases (sampleLeaseData "Living room") (some 3221225985) (some 3221226239) []
      = .ok [⟨4102444800, "02:00:00:00:00:0a", "192.0.2.20", "Living room", ""⟩] := by
    decide +kernel
  obtain ⟨text, lines, hlines, -⟩ := hall _ _ _ _ _ 1 hok
  have hreject : leaseLines
      ⟨1, [⟨4102444800, "02:00:00:00:00:0a", "192.0.2.20", "Living room", ""⟩]⟩ 1 =
      .error "The staged lease snapshot contains an invalid lease." := by decide +kernel
  exact absurd (hreject.symm.trans hlines) (by simp)

end Kaya.HA
