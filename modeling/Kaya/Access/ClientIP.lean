import Kaya.Library.IPv4
import Kaya.Library.PyText

/-!
# The address of a client

`client_ip.py`. A header is bytes, which `latin-1` decodes to characters one by one, so that a name
and a value are characters here. What `ipaddress` makes of a text is a parameter: a text that it
refuses is `none`, and the text of an address is read as this address.

A trusted proxy appends the address of its own peer to `X-Forwarded-For`. From the right, the
first address that is not one of a trusted proxy is the client (`clientIp_middleware`): nothing to
the left of it is looked at. From any other peer the headers are dropped.
-/

namespace Kaya.Access

open PyText List

/-- The characters of a text. -/
abbrev Text := List Char

/-- `ipaddress`. -/
structure IPLibrary (A N : Type) where
  ipAddress : Text → Option A
  str : A → Text
  ipNetwork : Text → Option N
  contains : N → A → Bool
  ipAddress_nil : ipAddress [] = none
  ipAddress_str : ∀ address, ipAddress (str address) = some address

/-- A header. -/
structure Header where
  name : Text
  value : Text

/-- `lower` on bytes. -/
def lower (text : Text) : Text := text.map Char.toLower

/-- `FORWARDED_HEADER_NAMES`. -/
def forwardedHeaderNames : List Text :=
  ["forwarded".toList, "x-forwarded-for".toList, "x-forwarded-host".toList,
    "x-forwarded-port".toList, "x-forwarded-proto".toList, "x-real-ip".toList,
    "cf-connecting-ip".toList]

/-- `ClientIPDetails`. -/
structure ClientIPDetails where
  clientIp : Option Text
  immediateIp : Option Text
  forwardedFor : Option Text
  trustedProxy : Bool
  trustedProxyConfig : Text
  source : String

/-- What the middleware reads and writes of a scope. -/
structure Scope where
  type : String
  client : Option (Text × ℕ)
  headers : List Header
  scheme : Text
  details : Option ClientIPDetails := none

section Source

variable {A N : Type} (lib : IPLibrary A N)

/-! ### Trusted proxies -/

/-- `split_trusted_proxies`. -/
def splitTrustedProxies (value : Text) : List Text :=
  ((value.splitOn ',').map stripChars).filter (· ≠ [])

/-- An address is one of the configuration. -/
def trusts (trustedProxies : Text) (address : A) : Bool :=
  (splitTrustedProxies trustedProxies).any fun entry ↦
    entry = ['*'] || (lib.ipNetwork entry).any (lib.contains · address)

/-- `ip_is_trusted`. -/
def ipIsTrusted (value : Option Text) (trustedProxies : Text) : Bool :=
  match value with
  | none => false
  | some text =>
    if text = [] then false else (lib.ipAddress text).any (trusts lib trustedProxies)

/-! ### Entries of the headers -/

/-- `.strip('"')`. -/
def stripQuotes (text : Text) : Text :=
  ((text.dropWhile (· = '"')).reverse.dropWhile (· = '"')).reverse

/-- `isdigit`, for the characters of `latin-1`. -/
def isDigits (text : Text) : Bool :=
  text ≠ [] && text.all fun c ↦ c.isDigit || c ∈ ['²', '³', '¹']

/-- The part of an entry that is read as an address: without brackets and without a port. -/
def addressPart (candidate : Text) : Text :=
  if candidate.head? = some '[' ∧ ']' ∈ candidate then (candidate.drop 1).takeWhile (· ≠ ']')
  else if candidate.count ':' = 1 ∧ isDigits ((candidate.dropWhile (· ≠ ':')).drop 1) then
    candidate.takeWhile (· ≠ ':')
  else candidate

/-- The address of an entry. -/
def readIp (value : Text) : Option A :=
  let candidate := stripQuotes (stripChars value)
  if lower candidate = "unknown".toList ∨ candidate.head? = some '_' then none
  else lib.ipAddress (addressPart candidate)

/-- `_clean_ip`. -/
def cleanIp (value : Text) : Option Text := (readIp lib value).map lib.str

/-- The match of `(?:^|;)\s*for=([^;]+)`. -/
def forParameter (item : Text) : Option Text :=
  (item.splitOn ';').findSome? fun segment ↦
    let parameter := segment.dropWhile isSpace
    if lower (parameter.take 4) = "for=".toList ∧ parameter.drop 4 ≠ [] then
      some (parameter.drop 4)
    else none

/-- A value of `{name.lower(): value for name, value in headers}`: of several the last one. -/
def rawHeader (headers : List Header) (name : String) : Text :=
  ((headers.reverse.find? fun header ↦ lower header.name = name.toList).map (·.value)).getD []

/-- `_forwarded_chain`. -/
def forwardedChain (headers : List Header) : List Text × Option Text × String :=
  let xForwardedFor := stripChars (rawHeader headers "x-forwarded-for")
  let forwarded := stripChars (rawHeader headers "forwarded")
  let single := fun (name, label) ↦
    let raw := stripChars (rawHeader headers name)
    if raw = [] then none else some ((cleanIp lib raw).toList, some raw, label)
  if xForwardedFor ≠ [] then
    ((xForwardedFor.splitOn ',').filterMap (cleanIp lib), some xForwardedFor, "X-Forwarded-For")
  else if forwarded ≠ [] then
    ((forwarded.splitOn ',').filterMap fun item ↦ (forParameter item).bind (cleanIp lib),
      some forwarded, "Forwarded")
  else
    ([("x-real-ip", "X-Real-IP"), ("cf-connecting-ip", "CF-Connecting-IP")].findSome? single).getD
      ([], none, "socket")

/-- `_original_client`. -/
def originalClient (chain : List Text) (trustedProxies : Text) : Option Text :=
  (chain.reverse.find? fun candidate ↦ !ipIsTrusted lib (some candidate) trustedProxies).or
    chain.head?

/-- The immediate peer. -/
def Scope.immediateIp (scope : Scope) : Option Text := scope.client.map (·.1)

/-- `inspect_client_ip`. -/
def inspectClientIp (scope : Scope) (trustedProxies : Text) : ClientIPDetails :=
  let (chain, forwardedValue, source) := forwardedChain lib scope.headers
  let trustedProxy := ipIsTrusted lib scope.immediateIp trustedProxies
  { clientIp :=
      if trustedProxy ∧ chain ≠ [] then originalClient lib chain trustedProxies
      else scope.immediateIp
    immediateIp := scope.immediateIp
    forwardedFor := forwardedValue
    trustedProxy
    trustedProxyConfig := trustedProxies
    source := if trustedProxy ∧ chain ≠ [] then source else "socket" }

/-- `client_ip`. -/
def clientIp (scope : Scope) (forwardedAllowIps : Text) : Option Text :=
  (scope.details.getD (inspectClientIp lib scope forwardedAllowIps)).clientIp

/-- The scope that `TrustedProxyMiddleware` passes to the application. -/
def middleware (trustedProxies : Text) (scope : Scope) : Scope :=
  if scope.type ≠ "http" ∧ scope.type ≠ "websocket" then scope
  else
    let details := inspectClientIp lib scope trustedProxies
    if details.trustedProxy then
      let forwardedProto :=
        stripChars ((rawHeader scope.headers "x-forwarded-proto").takeWhile (· ≠ ','))
      { scope with
        details := some details
        client := scope.client.map fun client ↦ (details.clientIp.getD client.1, client.2)
        scheme :=
          if forwardedProto ∈ ["http".toList, "https".toList, "ws".toList, "wss".toList] then
            forwardedProto
          else scope.scheme }
    else
      { scope with
        details := some details
        headers := scope.headers.filter fun header ↦ lower header.name ∉ forwardedHeaderNames }

end Source

/-! ### The chain -/

variable {A N : Type} {lib : IPLibrary A N} {trusted : Text} {address : A} {scope : Scope}
  {start : Option Text} {entry : Entry} {proxies : List Entry}

/-- An entry of a header is between two commas. -/
abbrev Entry := {text : Text // ',' ∉ text}

/-- A header with some entries at its end. -/
def forwardedFor (start : Option Text) (entries : List Entry) : Text :=
  [','].intercalate (start.toList ++ entries.map (·.1))

/-- An entry is the address of a trusted proxy. -/
def IsProxy (lib : IPLibrary A N) (trusted : Text) (entry : Entry) : Prop :=
  ∃ address, readIp lib entry.1 = some address ∧ trusts lib trusted address = true

theorem splitOn_forwardedFor (start : Option Text) (entry : Entry) (entries : List Entry) :
    (forwardedFor start (entry :: entries)).splitOn ',' =
      start.elim [] (·.splitOn ',') ++ entry.1 :: entries.map (·.1) := by
  have hentries : ∀ text ∈ (entry :: entries).map (·.1), ',' ∉ text := by
    intro text htext
    obtain ⟨entry, -, rfl⟩ := mem_map.1 htext
    exact entry.2
  have hsplit := splitOn_intercalate ',' hentries (by simp)
  cases start with
  | none => exact hsplit
  | some start =>
    rw [forwardedFor, Option.toList_some, singleton_append,
      intercalate_cons_of_ne_nil (by simp), append_assoc, singleton_append,
      splitOn_append_cons_self, hsplit]
    rfl

theorem cleanIp_stripChars (text : Text) : cleanIp lib (stripChars text) = cleanIp lib text := by
  rw [cleanIp, readIp, stripChars_stripChars]
  rfl

theorem cleanIp_nil : cleanIp lib [] = none := by
  show (lib.ipAddress []).map lib.str = none
  rw [lib.ipAddress_nil]
  rfl

/-- The text of an address is trusted where the address is. -/
theorem ipIsTrusted_str : ipIsTrusted lib (some (lib.str address)) trusted =
    trusts lib trusted address := by
  have hne : lib.str address ≠ [] := by
    intro heq
    have hread := lib.ipAddress_str address
    rw [heq, lib.ipAddress_nil] at hread
    exact absurd hread (by simp)
  rw [ipIsTrusted, if_neg hne, lib.ipAddress_str]
  rfl

/-- From the right, the first address that is not trusted is the client. -/
theorem originalClient_append (start proxies : List Text)
    (haddr : trusts lib trusted address = false)
    (hproxies : ∀ proxy ∈ proxies, ipIsTrusted lib (some proxy) trusted = true) :
    originalClient lib (start ++ lib.str address :: proxies) trusted = some (lib.str address) := by
  have hskip : proxies.reverse.find? (fun proxy ↦ !ipIsTrusted lib (some proxy) trusted) = none :=
    by
    rw [find?_eq_none]
    intro proxy hproxy
    rw [hproxies proxy (mem_reverse.1 hproxy)]
    decide
  have htake : (lib.str address :: start.reverse).find?
      (fun proxy ↦ !ipIsTrusted lib (some proxy) trusted) = some (lib.str address) := by
    refine find?_cons_of_pos ?_
    rw [ipIsTrusted_str, haddr]
    rfl
  rw [originalClient, reverse_append, reverse_cons, append_assoc, find?_append,
    hskip, Option.none_or, singleton_append, htake]
  rfl

/-- What is found in a header that ends with an address and those of trusted proxies. -/
theorem exists_chain
    (hheader : rawHeader scope.headers "x-forwarded-for" = forwardedFor start (entry :: proxies))
    (hentry : readIp lib entry.1 = some address)
    (hproxies : ∀ proxy ∈ proxies, IsProxy lib trusted proxy) :
    ∃ before after, (forwardedChain lib scope.headers).1 = before ++ lib.str address :: after ∧
      ∀ proxy ∈ after, ipIsTrusted lib (some proxy) trusted = true := by
  have hclean : cleanIp lib entry.1 = some (lib.str address) := by
    rw [cleanIp, hentry]
    rfl
  have hchain : ((stripChars (rawHeader scope.headers "x-forwarded-for")).splitOn ',').filterMap
      (cleanIp lib) = (start.elim [] (·.splitOn ',')).filterMap (cleanIp lib) ++
        lib.str address :: (proxies.map (·.1)).filterMap (cleanIp lib) := by
    rw [filterMap_splitOn_stripChars cleanIp_stripChars (by decide), hheader, splitOn_forwardedFor,
      filterMap_append, filterMap_cons, hclean]
  have hne : stripChars (rawHeader scope.headers "x-forwarded-for") ≠ [] := by
    intro hnil
    rw [hnil, splitOn_nil, filterMap_cons, cleanIp_nil] at hchain
    exact absurd hchain (by simp)
  refine ⟨(start.elim [] (·.splitOn ',')).filterMap (cleanIp lib),
    (proxies.map (·.1)).filterMap (cleanIp lib), ?_, fun proxy hproxy ↦ ?_⟩
  · rw [forwardedChain, if_pos hne]
    exact hchain
  · obtain ⟨text, htext, hproxy⟩ := mem_filterMap.1 hproxy
    obtain ⟨entry, hmem, rfl⟩ := mem_map.1 htext
    obtain ⟨address, hread, htrusted⟩ := hproxies entry hmem
    rw [cleanIp, hread] at hproxy
    obtain rfl := Option.some.inj hproxy
    rw [ipIsTrusted_str, htrusted]

theorem inspectClientIp_clientIp (hpeer : ipIsTrusted lib scope.immediateIp trusted = true)
    (hheader : rawHeader scope.headers "x-forwarded-for" = forwardedFor start (entry :: proxies))
    (hentry : readIp lib entry.1 = some address) (haddr : trusts lib trusted address = false)
    (hproxies : ∀ proxy ∈ proxies, IsProxy lib trusted proxy) :
    (inspectClientIp lib scope trusted).clientIp = some (lib.str address) := by
  obtain ⟨before, after, hchain, hafter⟩ := exists_chain hheader hentry hproxies
  rw [inspectClientIp]
  generalize forwardedChain lib scope.headers = found at hchain ⊢
  obtain ⟨chain, value, source⟩ := found
  obtain rfl : chain = before ++ lib.str address :: after := hchain
  exact (if_pos ⟨hpeer, by simp⟩).trans (originalClient_append before after haddr hafter)

/-! ### What the application sees -/

/-- A client is its address, whatever the header begins with, where the peer is trusted; a peer that
is not trusted is the client itself, and its forwarding headers do not get through. -/
theorem clientIp_middleware (lib : IPLibrary A N) (trusted : Text) (scope : Scope)
    (htype : scope.type = "http" ∨ scope.type = "websocket") :
    (ipIsTrusted lib scope.immediateIp trusted = true →
      ∀ (start : Option Text) (entry : Entry) (proxies : List Entry) (address : A),
        rawHeader scope.headers "x-forwarded-for" = forwardedFor start (entry :: proxies) →
          readIp lib entry.1 = some address → trusts lib trusted address = false →
            (∀ proxy ∈ proxies, IsProxy lib trusted proxy) →
              clientIp lib (middleware lib trusted scope) trusted = some (lib.str address) ∧
                (middleware lib trusted scope).immediateIp = some (lib.str address)) ∧
    (ipIsTrusted lib scope.immediateIp trusted = false →
      clientIp lib (middleware lib trusted scope) trusted = scope.immediateIp ∧
        (middleware lib trusted scope).immediateIp = scope.immediateIp ∧
          ∀ header ∈ (middleware lib trusted scope).headers,
            lower header.name ∉ forwardedHeaderNames) := by
  have hreq : ¬ (scope.type ≠ "http" ∧ scope.type ≠ "websocket") := by
    rintro ⟨hhttp, hwebsocket⟩
    exact htype.elim hhttp hwebsocket
  refine ⟨fun hpeer start entry proxies address hheader hentry haddr hproxies ↦ ?_, fun hpeer ↦ ?_⟩
  · have hclient := inspectClientIp_clientIp hpeer hheader hentry haddr hproxies
    have htrusted : (inspectClientIp lib scope trusted).trustedProxy = true := hpeer
    obtain ⟨peer, hscope⟩ : ∃ peer, scope.client = some peer := by
      refine Option.ne_none_iff_exists'.1 fun hnone ↦ ?_
      rw [Scope.immediateIp, hnone] at hpeer
      exact absurd hpeer (by simp [ipIsTrusted])
    rw [middleware, if_neg hreq, if_pos htrusted]
    refine ⟨hclient, ?_⟩
    rw [Scope.immediateIp, hscope, hclient]
    rfl
  · have htrusted : ¬ (inspectClientIp lib scope trusted).trustedProxy = true := by
      show ¬ ipIsTrusted lib scope.immediateIp trusted = true
      simp [hpeer]
    rw [middleware, if_neg hreq, if_neg htrusted]
    refine ⟨if_neg fun h ↦ htrusted h.1, rfl, fun header hheader ↦ ?_⟩
    exact of_decide_eq_true (mem_filter.1 hheader).2

/-! ### An example -/

theorem address_map_render (address : BitVec 32) :
    (IPv4.address (String.ofList (IPv4.render address.toNat).toList)).map (BitVec.ofNat 32) =
      some address := by
  rw [String.ofList_toList, IPv4.address_render (by simpa using address.isLt)]
  simp

/-- The part of `ipaddress` for the addresses of version 4. -/
def ipv4Library : IPLibrary (BitVec 32) (ℕ × ℕ) where
  ipAddress text := (IPv4.address (String.ofList text)).map (BitVec.ofNat 32)
  str address := (IPv4.render address.toNat).toList
  ipNetwork text := IPv4.interface (String.ofList text)
  contains network address := IPv4.sameNetwork network.1 address.toNat network.2
  ipAddress_nil := by decide
  ipAddress_str := address_map_render

/-- A request from a proxy, with two forwarding headers. -/
def forwardedScope : Scope where
  type := "http"
  client := some ("10.0.0.1".toList, 40000)
  headers := [⟨"X-Real-IP".toList, "192.0.2.1".toList⟩,
    ⟨"X-Forwarded-For".toList, "\"1.1.1.1, x ,[8.8.8.8]:443, 10.0.0.2:80".toList⟩]
  scheme := "http".toList

theorem clientIp_middleware_example :
    (clientIp ipv4Library (middleware ipv4Library "10.0.0.0/8".toList forwardedScope)
        "10.0.0.0/8".toList = some "8.8.8.8".toList ∧
      (middleware ipv4Library "10.0.0.0/8".toList forwardedScope).immediateIp =
        some "8.8.8.8".toList) ∧
    (clientIp ipv4Library (middleware ipv4Library "10.1.0.0/16".toList forwardedScope)
        "10.1.0.0/16".toList = some "10.0.0.1".toList ∧
      (middleware ipv4Library "10.1.0.0/16".toList forwardedScope).immediateIp =
        some "10.0.0.1".toList ∧
      ∀ header ∈ (middleware ipv4Library "10.1.0.0/16".toList forwardedScope).headers,
        lower header.name ∉ forwardedHeaderNames) :=
  ⟨(clientIp_middleware ipv4Library "10.0.0.0/8".toList forwardedScope (.inl rfl)).1
      (by decide +kernel) (some "\"1.1.1.1, x ".toList) ⟨"[8.8.8.8]:443".toList, by decide⟩
      [⟨" 10.0.0.2:80".toList, by decide⟩] 134744072#32 (by decide +kernel) (by decide +kernel)
      (by decide +kernel) fun proxy hproxy ↦
        mem_singleton.1 hproxy ▸ ⟨167772162#32, by decide +kernel, by decide +kernel⟩,
    (clientIp_middleware ipv4Library "10.1.0.0/16".toList forwardedScope (.inl rfl)).2
      (by decide +kernel)⟩

end Kaya.Access
