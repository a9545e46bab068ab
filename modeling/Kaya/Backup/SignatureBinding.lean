import Kaya.Backup.CanonicalRequests
import Mathlib.Data.Multiset.Defs
import Mathlib.Data.Set.List

/-!
# What a signature binds

What is signed for two requests is the same where they have the same method, segments, pairs,
identifiers, time and digest of the body (`canonicalRequest_eq_iff`). A canonical query is left as
it is; a canonical path too, where its escapes have not made it too long.
-/

namespace Kaya.Backup

open PercentCode List

variable {unicode : Unicode} {path query item canonical segment text : Text} {segments : List Text}
  {pair : Text × Text} {pairs pairs' : List (Text × Text)} {request request' : SignedRequest}
  {signed : List UInt8}

/-! ### Paths -/

/-- What the segments of a path may be. -/
structure IsPath (unicode : Unicode) (segments : List Text) : Prop where
  ne : segments ≠ []
  decoded : ∀ segment ∈ segments, IsDecoded unicode true segment
  dot : ∀ segment ∈ segments, segment ≠ ['.'] ∧ segment ≠ ['.', '.']
  inner : [] ∉ segments.dropLast

/-- The path with some segments. -/
def renderPath (segments : List Text) : Text := '/' :: ['/'].intercalate (segments.map encoded)

theorem canonicalSegment_eq_ok (h : canonicalSegment unicode segment = .ok canonical) :
    canonical = encoded (decodedText unicode segment) ∧
      IsDecoded unicode true (decodedText unicode segment) ∧
        (segment ≠ [] → decodedText unicode segment ≠ []) ∧
          decodedText unicode segment ≠ ['.'] ∧ decodedText unicode segment ≠ ['.', '.'] := by
  rw [canonicalSegment, bind_eq_ok] at h
  obtain ⟨component, hcomp, h⟩ := h
  simp only [found_bind_eq_ok, require_bind_eq_ok, pure_eq_ok] at h
  obtain ⟨text, htext, hdot, rfl⟩ := h
  obtain ⟨rfl, hdecoded, hne⟩ := canonicalComponent_eq_ok hcomp
  rw [unquote_encoded, UTF8.decode_encode] at htext
  exact ⟨rfl, hdecoded, hne, Option.some.inj htext ▸ hdot⟩

theorem canonicalSegment_of_component {raw : Text}
    (h : canonicalComponent unicode raw true = .ok (encoded segment))
    (hdot : segment ≠ ['.'] ∧ segment ≠ ['.', '.']) :
    canonicalSegment unicode raw = .ok (encoded segment) := by
  rw [canonicalSegment, h, bind_eq_ok]
  refine ⟨_, rfl, ?_⟩
  simp only [found_bind_eq_ok, require_bind_eq_ok, pure_eq_ok]
  exact ⟨segment, by rw [unquote_encoded, UTF8.decode_encode], hdot, trivial⟩

theorem canonicalPath_eq_ok (h : canonicalPath unicode path = .ok canonical) :
    canonical = renderPath (pathSegments unicode path) ∧
      IsPath unicode (pathSegments unicode path) := by
  simp only [canonicalPath, require_bind_eq_ok] at h
  obtain ⟨hhead, -, -, hinner, h⟩ := h
  obtain ⟨result, hresult, h⟩ := bind_eq_ok.1 h
  obtain rfl := pure_eq_ok.1 h
  obtain ⟨rfl, hok⟩ := eq_map_of_mapM (fun _ _ h ↦ (canonicalSegment_eq_ok h).1) hresult
  obtain ⟨rest, hpath⟩ : ∃ rest, path = '/' :: rest := by
    cases path with
    | nil => exact absurd hhead (by simp)
    | cons c rest => exact ⟨rest, by rw [Option.some.inj hhead]⟩
  refine ⟨by rw [renderPath, pathSegments, map_map]; rfl, ?_, ?_, ?_, fun hmem ↦ ?_⟩
  · rw [pathSegments, hpath, splitOn_cons_eq_if_modifyHead]
    simp [splitOn_ne_nil]
  · intro segment hmem
    obtain ⟨raw, hraw, rfl⟩ := mem_map.1 hmem
    exact (canonicalSegment_eq_ok (hok raw hraw)).2.1
  · intro segment hmem
    obtain ⟨raw, hraw, rfl⟩ := mem_map.1 hmem
    exact (canonicalSegment_eq_ok (hok raw hraw)).2.2.2
  · rw [pathSegments, ← map_dropLast] at hmem
    obtain ⟨raw, hraw, hnil⟩ := mem_map.1 hmem
    have hne : raw ≠ [] := fun heq ↦ hinner (heq ▸ hraw)
    exact (canonicalSegment_eq_ok (hok raw (mem_of_mem_dropLast hraw))).2.2.1 hne hnil

theorem slash_notMem : ∀ text ∈ segments.map encoded, '/' ∉ text := by
  intro text htext
  obtain ⟨segment, -, rfl⟩ := mem_map.1 htext
  exact not_mem_encoded (by decide)

/-- A canonical path has other segments than another one. -/
theorem renderPath_inj {segments' : List Text} (h : segments ≠ []) (h' : segments' ≠ []) :
    renderPath segments = renderPath segments' ↔ segments = segments' := by
  rw [renderPath, renderPath, cons_eq_cons, PyText.intercalate_inj slash_notMem slash_notMem
    (by simpa using h) (by simpa using h')]
  simpa using (map_injective_iff.2 encoded_injective).eq_iff

theorem renderPath_ascii (segments : List Text) :
    (renderPath segments).all (·.toNat < 128) = true := by
  refine all_eq_true.2 fun c hc ↦ decide_eq_true ?_
  rcases mem_cons.1 hc with rfl | hc
  · decide
  · rcases PyText.mem_intercalate hc with rfl | ⟨part, hpart, hc⟩
    · decide
    · obtain ⟨segment, -, rfl⟩ := mem_map.1 hpart
      exact encoded_ascii hc

theorem splitOn_renderPath (h : segments ≠ []) :
    (renderPath segments).splitOn '/' = [] :: segments.map encoded := by
  rw [renderPath, splitOn_cons_eq_if_modifyHead, if_pos (by decide),
    splitOn_intercalate '/' slash_notMem (by simpa using h)]

/-- A canonical path is left as it is, unless it is too long. -/
theorem canonicalPath_renderPath (h : IsPath unicode segments) :
    canonicalPath unicode (renderPath segments) =
      if (renderPath segments).length ≤ 2048 then .ok (renderPath segments)
      else .error (.valueError "invalid path") := by
  split
  next hlen =>
    simp only [canonicalPath, require_bind_eq_ok]
    refine ⟨rfl, renderPath_ascii segments, hlen, ?_, bind_eq_ok.2
      ⟨segments.map encoded, mapM_eq_ok_iff.2 ?_, rfl⟩⟩
    · rw [splitOn_renderPath h.ne, tail_cons, ← map_dropLast, mem_map]
      rintro ⟨segment, hmem, hnil⟩
      exact h.inner (encoded_eq_nil.1 hnil ▸ hmem)
    · rw [splitOn_renderPath h.ne, tail_cons, map_map, map_map]
      exact map_congr_left fun segment hmem ↦
        canonicalSegment_of_component (canonicalComponent_encoded (h.decoded segment hmem))
          (h.dot segment hmem)
  next hlen =>
    simp only [canonicalPath, require_bind_eq_error]
    exact .inr ⟨rfl, .inr ⟨renderPath_ascii segments, .inl ⟨hlen, trivial⟩⟩⟩

/-! ### Queries -/

/-- The key and the value of an item. -/
def pairOf (unicode : Unicode) (item : Text) : Text × Text :=
  (decodedText unicode (keyOf item), decodedText unicode (valueOf item))

/-- The canonical form of a pair. -/
def encodedPair (pair : Text × Text) : Text × Text := (encoded pair.1, encoded pair.2)

/-- What a pair of a query may be. -/
structure IsPair (unicode : Unicode) (pair : Text × Text) : Prop where
  key : IsDecoded unicode false pair.1
  value : IsDecoded unicode false pair.2
  ne : pair.1 ≠ []

/-- The query with some pairs. -/
def renderQuery (pairs : List (Text × Text)) : Text :=
  ['&'].intercalate ((sortPairs (pairs.map encodedPair)).map renderPair)

theorem canonicalPair_eq_ok (h : canonicalPair unicode item = .ok pair) :
    pair = encodedPair (pairOf unicode item) ∧ IsPair unicode (pairOf unicode item) := by
  simp only [canonicalPair, require_bind_eq_ok] at h
  obtain ⟨-, hkey, h⟩ := h
  obtain ⟨key, hkeyOk, h⟩ := bind_eq_ok.1 h
  obtain ⟨value, hvalueOk, h⟩ := bind_eq_ok.1 h
  obtain rfl := pure_eq_ok.1 h
  obtain ⟨rfl, hkeyDecoded, hne⟩ := canonicalComponent_eq_ok hkeyOk
  obtain ⟨rfl, hvalueDecoded, -⟩ := canonicalComponent_eq_ok hvalueOk
  exact ⟨rfl, hkeyDecoded, hvalueDecoded, hne hkey⟩

theorem encodedPair_injective : Function.Injective encodedPair := by
  rintro ⟨key, value⟩ ⟨key', value'⟩ h
  obtain ⟨hkey, hvalue⟩ := Prod.mk.inj h
  exact Prod.ext (encoded_injective hkey) (encoded_injective hvalue)

/-- The parts of a rendered pair. -/
theorem partition_renderPair (pair : Text × Text) :
    keyOf (renderPair (encodedPair pair)) = encoded pair.1 ∧
      valueOf (renderPair (encodedPair pair)) = encoded pair.2 := by
  have hkey : ∀ c ∈ encoded pair.1, decide (c ≠ '=') = true := by
    intro c hc
    refine decide_eq_true ?_
    rintro rfl
    exact not_mem_encoded (by decide) hc
  constructor
  · rw [keyOf, renderPair, encodedPair, takeWhile_append_of_pos hkey]
    simp
  · rw [valueOf, renderPair, encodedPair, dropWhile_append_of_pos hkey]
    simp

theorem renderPair_injective {pair' : Text × Text}
    (h : renderPair (encodedPair pair) = renderPair (encodedPair pair')) : pair = pair' := by
  obtain ⟨hkey, hvalue⟩ := partition_renderPair pair
  obtain ⟨hkey', hvalue'⟩ := partition_renderPair pair'
  rw [h] at hkey hvalue
  exact Prod.ext (encoded_injective (hkey.symm.trans hkey'))
    (encoded_injective (hvalue.symm.trans hvalue'))

theorem ampersand_notMem (pair : Text × Text) : '&' ∉ renderPair (encodedPair pair) := by
  rw [renderPair, encodedPair, mem_append, mem_cons]
  rintro (hkey | hsep | hvalue)
  · exact not_mem_encoded (by decide) hkey
  · exact absurd hsep (by decide)
  · exact not_mem_encoded (by decide) hvalue

theorem canonicalPair_renderPair (h : IsPair unicode pair) :
    canonicalPair unicode (renderPair (encodedPair pair)) = .ok (encodedPair pair) := by
  obtain ⟨hkey, hvalue⟩ := partition_renderPair pair
  simp only [canonicalPair, require_bind_eq_ok, hkey, hvalue, canonicalComponent_encoded h.key,
    canonicalComponent_encoded h.value]
  exact ⟨by simp [renderPair], fun hnil ↦ h.ne (encoded_eq_nil.1 hnil), rfl⟩

theorem sortPairs_pairwise (pairs : List (Text × Text)) :
    (sortPairs pairs).Pairwise fun pair pair' ↦ toLex pair ≤ toLex pair' := by
  have htrans : IsTrans (Text × Text) fun pair pair' ↦ toLex pair ≤ toLex pair' :=
    ⟨fun _ _ _ ↦ le_trans⟩
  have htotal : Std.Total fun pair pair' : Text × Text ↦ toLex pair ≤ toLex pair' :=
    ⟨fun _ _ ↦ le_total _ _⟩
  exact pairwise_insertionSort _ _

theorem sortPairs_perm (pairs : List (Text × Text)) : (sortPairs pairs).Perm pairs :=
  perm_insertionSort _ _

theorem sortPairs_sortPairs (pairs : List (Text × Text)) :
    sortPairs (sortPairs pairs) = sortPairs pairs :=
  (sortPairs_pairwise pairs).insertionSort_eq

theorem sortPairs_eq_iff : sortPairs pairs = sortPairs pairs' ↔ pairs.Perm pairs' := by
  constructor
  · intro h
    exact (sortPairs_perm pairs).symm.trans (h ▸ sortPairs_perm pairs')
  · intro h
    have hperm := (sortPairs_perm pairs).trans (h.trans (sortPairs_perm pairs').symm)
    have hantisymm : Std.Antisymm fun pair pair' : Text × Text ↦ toLex pair ≤ toLex pair' :=
      ⟨fun _ _ h h' ↦ toLex.injective (le_antisymm h h')⟩
    exact hperm.eq_of_pairwise' (sortPairs_pairwise pairs) (sortPairs_pairwise pairs')

/-- The sorted pairs are those that are given. -/
theorem exists_sortPairs (pairs : List (Text × Text)) : ∃ sorted : List (Text × Text),
    sorted.Perm pairs ∧ sortPairs (pairs.map encodedPair) = sorted.map encodedPair := by
  have hperm := sortPairs_perm (pairs.map encodedPair)
  have hrange : sortPairs (pairs.map encodedPair) ∈ Set.range (map encodedPair) := by
    rw [Set.range_list_map]
    intro pair hpair
    obtain ⟨decoded, -, hdecoded⟩ := mem_map.1 (hperm.mem_iff.1 hpair)
    exact ⟨decoded, hdecoded⟩
  obtain ⟨sorted, hsorted⟩ := hrange
  rw [← hsorted] at hperm
  exact ⟨sorted, (map_perm_map_iff encodedPair_injective).1 hperm, hsorted.symm⟩

theorem canonicalQuery_eq_ok (h : canonicalQuery unicode query = .ok canonical) :
    canonical = renderQuery (queryPairs unicode query) ∧
      ∀ pair ∈ queryPairs unicode query, IsPair unicode pair := by
  rw [canonicalQuery] at h
  split at h
  next hnil =>
    obtain rfl := Except.ok.inj h
    rw [queryPairs, if_pos hnil]
    exact ⟨rfl, fun _ hpair ↦ absurd hpair not_mem_nil⟩
  next hne =>
    obtain ⟨pairs, hpairs, h⟩ := bind_eq_ok.1 h
    obtain rfl := pure_eq_ok.1 h
    obtain ⟨rfl, hok⟩ := eq_map_of_mapM (fun item pair h ↦ (canonicalPair_eq_ok h).1) hpairs
    rw [queryPairs, if_neg hne]
    refine ⟨?_, fun pair hpair ↦ ?_⟩
    · rw [renderQuery, map_map]
      rfl
    · obtain ⟨item, hitem, rfl⟩ := mem_map.1 hpair
      exact (canonicalPair_eq_ok (hok item hitem)).2

/-- The items of a canonical query. -/
theorem splitOn_renderQuery (h : pairs ≠ []) :
    (renderQuery pairs).splitOn '&' = (sortPairs (pairs.map encodedPair)).map renderPair := by
  obtain ⟨sorted, hperm, hsorted⟩ := exists_sortPairs pairs
  have hne : sorted ≠ [] := fun hnil ↦ h (nil_perm.1 (hnil ▸ hperm))
  rw [renderQuery, hsorted, map_map]
  refine splitOn_intercalate '&' (fun item hitem ↦ ?_) (by simpa using hne)
  obtain ⟨pair, -, rfl⟩ := mem_map.1 hitem
  exact ampersand_notMem pair

theorem renderQuery_eq_nil : renderQuery pairs = [] ↔ pairs = [] := by
  refine ⟨fun h ↦ ?_, fun h ↦ h ▸ rfl⟩
  by_contra hne
  have hsplit := splitOn_renderQuery hne
  rw [h, splitOn_nil] at hsplit
  have hitem : [] ∈ (sortPairs (pairs.map encodedPair)).map renderPair :=
    hsplit ▸ mem_singleton_self _
  obtain ⟨pair, -, hnil⟩ := mem_map.1 hitem
  exact absurd hnil (by simp [renderPair])

/-- A canonical query has other pairs than another one. -/
theorem renderQuery_inj : renderQuery pairs = renderQuery pairs' ↔ pairs.Perm pairs' := by
  constructor
  · intro h
    rcases eq_or_ne pairs [] with rfl | hne
    · rw [renderQuery_eq_nil.1 (h.symm.trans (renderQuery_eq_nil.2 rfl))]
    · have hne' : pairs' ≠ [] := fun hnil ↦
        hne (renderQuery_eq_nil.1 (h.trans (renderQuery_eq_nil.2 hnil)))
      obtain ⟨sorted, hperm, hsorted⟩ := exists_sortPairs pairs
      obtain ⟨sorted', hperm', hsorted'⟩ := exists_sortPairs pairs'
      have hitems := splitOn_renderQuery hne
      rw [h, splitOn_renderQuery hne', hsorted, hsorted', map_map, map_map] at hitems
      have hinj : Function.Injective (renderPair ∘ encodedPair) := fun _ _ ↦ renderPair_injective
      exact hperm.symm.trans ((map_injective_iff.2 hinj hitems) ▸ hperm')
  · intro h
    rw [renderQuery, renderQuery, sortPairs_eq_iff.2 (h.map encodedPair)]

/-- A canonical query is left as it is. -/
theorem canonicalQuery_renderQuery (h : ∀ pair ∈ pairs, IsPair unicode pair) :
    canonicalQuery unicode (renderQuery pairs) = .ok (renderQuery pairs) := by
  rw [canonicalQuery]
  split
  next hnil => rw [hnil]
  next hne =>
    have hpairs : pairs ≠ [] := fun hnil ↦ hne (renderQuery_eq_nil.2 hnil)
    obtain ⟨sorted, hperm, hsorted⟩ := exists_sortPairs pairs
    refine bind_eq_ok.2 ⟨sorted.map encodedPair, ?_, ?_⟩
    · rw [splitOn_renderQuery hpairs, hsorted, map_map]
      refine mapM_eq_ok_iff.2 ?_
      rw [map_map, map_map]
      exact map_congr_left fun pair hpair ↦
        canonicalPair_renderPair (h pair (hperm.mem_iff.1 hpair))
    · rw [← hsorted, sortPairs_sortPairs]
      rfl

/-! ### Requests -/

/-- `IDENTIFIER_RE.fullmatch`. -/
def isIdentifier (text : Text) : Bool :=
  8 ≤ text.length && text.length ≤ 64 && (text.head?.all fun c ↦ c.isLower || c.isDigit) &&
    text.all fun c ↦ c.isLower || c.isDigit || c = '_' || c = '-'

/-- `_uuid4`. -/
def isCanonicalUuid4 (text : Text) : Bool :=
  (text.splitOn '-').map List.length = [8, 4, 4, 4, 12] &&
    (text.all fun c ↦ c.isDigit || ('a' ≤ c && c ≤ 'f') || c = '-') &&
    (text.drop 14).head? = some '4' && ((text.drop 19).head?.all fun c ↦ c ∈ ['8', '9', 'a', 'b'])

/-- What `authenticate_request` checks of the identifiers, and a method in one line. -/
structure SignedRequest.IsWellFormed (request : SignedRequest) : Prop where
  method : '\n' ∉ request.method
  agentId : isIdentifier request.agentId = true
  keyId : isIdentifier request.keyId = true
  requestId : isCanonicalUuid4 request.requestId = true

theorem newline_notMem_of_isIdentifier (h : isIdentifier text = true) : '\n' ∉ text := by
  rw [isIdentifier, Bool.and_eq_true] at h
  exact fun hmem ↦ absurd (all_eq_true.1 h.2 _ hmem) (by decide)

theorem newline_notMem_of_isCanonicalUuid4 (h : isCanonicalUuid4 text = true) : '\n' ∉ text := by
  simp only [isCanonicalUuid4, Bool.and_eq_true] at h
  exact fun hmem ↦ absurd (all_eq_true.1 h.1.1.2 _ hmem) (by decide)

theorem newline_notMem_intText (n : ℤ) : '\n' ∉ intText n := fun hmem ↦
  (mem_intText hmem).elim (fun hdigit ↦ absurd hdigit (by decide)) fun heq ↦ absurd heq (by decide)

/-- The lines that are signed. -/
def signedLines (unicode : Unicode) (request : SignedRequest) : List Text :=
  ["KAYA-AGENT-V2".toList, unicode.upper request.method,
    renderPath (pathSegments unicode request.path),
    renderQuery (queryPairs unicode request.rawQuery), request.agentId, request.keyId,
    request.requestId, intText request.timestamp, unicode.hexdigest request.body]

theorem newline_notMem_renderPath (segments : List Text) : '\n' ∉ renderPath segments := by
  intro hmem
  rcases mem_cons.1 hmem with heq | hmem
  · exact absurd heq (by decide)
  · rcases PyText.mem_intercalate hmem with heq | ⟨part, hpart, hmem⟩
    · exact absurd heq (by decide)
    · obtain ⟨segment, -, rfl⟩ := mem_map.1 hpart
      exact not_mem_encoded (by decide) hmem

theorem newline_notMem_renderQuery (pairs : List (Text × Text)) : '\n' ∉ renderQuery pairs := by
  obtain ⟨sorted, -, hsorted⟩ := exists_sortPairs pairs
  intro hmem
  rw [renderQuery, hsorted, map_map] at hmem
  rcases PyText.mem_intercalate hmem with heq | ⟨part, hpart, hmem⟩
  · exact absurd heq (by decide)
  · obtain ⟨pair, -, rfl⟩ := mem_map.1 hpart
    rcases mem_append.1 hmem with hkey | hmem
    · exact not_mem_encoded (by decide) hkey
    · rcases mem_cons.1 hmem with heq | hvalue
      · exact absurd heq (by decide)
      · exact not_mem_encoded (by decide) hvalue

theorem newline_notMem_signedLines (h : request.IsWellFormed) :
    ∀ line ∈ signedLines unicode request, '\n' ∉ line := by
  intro line hline
  simp only [signedLines, mem_cons, not_mem_nil, or_false] at hline
  rcases hline with rfl | rfl | rfl | rfl | rfl | rfl | rfl | rfl | rfl
  · decide
  · exact unicode.upper_newline _ h.method
  · exact newline_notMem_renderPath _
  · exact newline_notMem_renderQuery _
  · exact newline_notMem_of_isIdentifier h.agentId
  · exact newline_notMem_of_isIdentifier h.keyId
  · exact newline_notMem_of_isCanonicalUuid4 h.requestId
  · exact newline_notMem_intText _
  · exact unicode.hexdigest_newline _

theorem canonicalRequest_eq_ok (h : canonicalRequest unicode request = .ok signed) :
    signed = UTF8.encode (['\n'].intercalate (signedLines unicode request)) ∧
      pathSegments unicode request.path ≠ [] := by
  rw [canonicalRequest, bind_eq_ok] at h
  obtain ⟨path, hpath, h⟩ := h
  obtain ⟨query, hquery, h⟩ := bind_eq_ok.1 h
  obtain rfl := pure_eq_ok.1 h
  obtain ⟨rfl, hsegments⟩ := canonicalPath_eq_ok hpath
  obtain ⟨rfl, -⟩ := canonicalQuery_eq_ok hquery
  exact ⟨rfl, hsegments.ne⟩

/-- What two requests have in common where the same is signed for them. -/
structure SameSigned (unicode : Unicode) (request request' : SignedRequest) : Prop where
  method : unicode.upper request.method = unicode.upper request'.method
  path : pathSegments unicode request.path = pathSegments unicode request'.path
  query : (queryPairs unicode request.rawQuery : Multiset (Text × Text)) =
    queryPairs unicode request'.rawQuery
  agentId : request.agentId = request'.agentId
  keyId : request.keyId = request'.keyId
  requestId : request.requestId = request'.requestId
  timestamp : request.timestamp = request'.timestamp
  body : unicode.hexdigest request.body = unicode.hexdigest request'.body

theorem signedLines_eq_iff (hpath : pathSegments unicode request.path ≠ [])
    (hpath' : pathSegments unicode request'.path ≠ []) :
    signedLines unicode request = signedLines unicode request' ↔
      SameSigned unicode request request' := by
  simp only [signedLines, cons.injEq, true_and, and_true, renderPath_inj hpath hpath',
    renderQuery_inj, intText_injective.eq_iff]
  constructor
  · rintro ⟨hmethod, hsegments, hquery, hagent, hkey, hreq, htimestamp, hbody⟩
    exact ⟨hmethod, hsegments, Multiset.coe_eq_coe.2 hquery, hagent, hkey, hreq, htimestamp, hbody⟩
  · rintro ⟨hmethod, hsegments, hquery, hagent, hkey, hreq, htimestamp, hbody⟩
    exact ⟨hmethod, hsegments, Multiset.coe_eq_coe.1 hquery, hagent, hkey, hreq, htimestamp, hbody⟩

theorem canonicalRequest_eq_iff {signed' : List UInt8} (hreq : request.IsWellFormed)
    (hreq' : request'.IsWellFormed) (h : canonicalRequest unicode request = .ok signed)
    (h' : canonicalRequest unicode request' = .ok signed') :
    signed = signed' ↔ SameSigned unicode request request' := by
  obtain ⟨rfl, hpath⟩ := canonicalRequest_eq_ok h
  obtain ⟨rfl, hpath'⟩ := canonicalRequest_eq_ok h'
  rw [UTF8.encode_injective.eq_iff, PyText.intercalate_inj (newline_notMem_signedLines hreq)
    (newline_notMem_signedLines hreq') (by simp [signedLines]) (by simp [signedLines]),
    signedLines_eq_iff hpath hpath']

/-- A signature binds the request, and what is canonical is left as it is. -/
theorem canonicalRequest_binds (unicode : Unicode) :
    (∀ (request request' : SignedRequest) (signed signed' : List UInt8), request.IsWellFormed →
      request'.IsWellFormed → canonicalRequest unicode request = .ok signed →
        canonicalRequest unicode request' = .ok signed' →
          (signed = signed' ↔ SameSigned unicode request request')) ∧
    (∀ query canonical : Text, canonicalQuery unicode query = .ok canonical →
      canonicalQuery unicode canonical = .ok canonical) ∧
    ∀ path canonical : Text, canonicalPath unicode path = .ok canonical →
      canonicalPath unicode canonical = if canonical.length ≤ 2048 then .ok canonical
        else .error (.valueError "invalid path") := by
  refine ⟨fun _ _ _ _ hreq hreq' h h' ↦ canonicalRequest_eq_iff hreq hreq' h h',
    fun query canonical h ↦ ?_, fun path canonical h ↦ ?_⟩
  · obtain ⟨rfl, hpairs⟩ := canonicalQuery_eq_ok h
    exact canonicalQuery_renderQuery hpairs
  · obtain ⟨rfl, hsegments⟩ := canonicalPath_eq_ok h
    exact canonicalPath_renderPath hsegments

/-! ### Examples -/

/-- What the standard library does with the texts of the examples. -/
def asciiUnicode : Unicode where
  nfc := id
  upper := id
  hexdigest _ := "e3b0c44298fc1c149afbf4c8996fb92427ae41e4649b934ca495991b7852b855".toList
  nfc_nfc _ := rfl
  nfc_eq_nil _ h := h
  mem_nfc _ _ h _ := h
  upper_newline _ h := h
  hexdigest_newline _ := by decide

/-- A request without a body. -/
def statusRequest (path rawQuery : String) : SignedRequest where
  method := "GET".toList
  path := path.toList
  rawQuery := rawQuery.toList
  agentId := "agent-01".toList
  keyId := "key-0001".toList
  requestId := "6f1c0e9a-2f3b-4c5d-8e7f-0123456789ab".toList
  timestamp := 1700000000
  body := []

theorem isWellFormed_statusRequest (path rawQuery : String) :
    (statusRequest path rawQuery).IsWellFormed where
  method := (by decide : '\n' ∉ "GET".toList)
  agentId := (by decide : isIdentifier "agent-01".toList = true)
  keyId := (by decide : isIdentifier "key-0001".toList = true)
  requestId := (by decide +kernel :
    isCanonicalUuid4 "6f1c0e9a-2f3b-4c5d-8e7f-0123456789ab".toList = true)

/-- What is signed for two texts of one request. -/
def signedStatus : List UInt8 := UTF8.encode (['\n'].intercalate
  (["KAYA-AGENT-V2", "GET", "/a-b", "a=1&b=2", "agent-01", "key-0001",
    "6f1c0e9a-2f3b-4c5d-8e7f-0123456789ab", "1700000000",
    "e3b0c44298fc1c149afbf4c8996fb92427ae41e4649b934ca495991b7852b855"].map String.toList))

theorem canonicalRequest_binds_example :
    (signedStatus = signedStatus ↔ SameSigned asciiUnicode (statusRequest "/a%2Db" "b=2&a=%31")
      (statusRequest "/a-b" "a=1&b=2")) ∧
    canonicalQuery asciiUnicode "a=1&b=2".toList = .ok "a=1&b=2".toList ∧
    canonicalPath asciiUnicode "/a-b".toList = if "/a-b".toList.length ≤ 2048 then .ok "/a-b".toList
      else .error (.valueError "invalid path") :=
  ⟨(canonicalRequest_binds asciiUnicode).1 _ _ _ _ (isWellFormed_statusRequest _ _)
      (isWellFormed_statusRequest _ _) (by decide +kernel) (by decide +kernel),
    (canonicalRequest_binds asciiUnicode).2.1 "b=2&a=%31".toList _ (by decide +kernel),
    (canonicalRequest_binds asciiUnicode).2.2 "/a%2Db".toList _ (by decide +kernel)⟩

theorem length_encoded_replicate (n : ℕ) : (encoded (List.replicate n '!')).length = 3 * n := by
  induction n with
  | zero => rfl
  | succ n ih =>
    have hcons : encoded (replicate (n + 1) '!') =
        ['%', '2', '1'] ++ encoded (replicate n '!') := rfl
    rw [hcons, length_append, ih]
    simp only [length_cons, length_nil]
    omega

theorem length_renderPath_replicate (n : ℕ) :
    (renderPath [List.replicate n '!']).length = 3 * n + 1 := by
  rw [renderPath, map_singleton, intercalate_singleton, length_cons, length_encoded_replicate]

theorem canonicalPath_replicate {n : ℕ} (h : n < 2048) :
    canonicalPath asciiUnicode ('/' :: List.replicate n '!') =
      .ok (renderPath [List.replicate n '!']) := by
  have hmem : ∀ c ∈ replicate n '!', c = '!' := fun c hc ↦ eq_of_mem_replicate hc
  have hnot : ∀ c : Char, c ≠ '!' → c ∉ replicate n '!' := fun c hc hin ↦ hc (hmem c hin)
  have hdecoded : IsDecoded asciiUnicode true (replicate n '!') :=
    ⟨rfl, hnot _ (by decide), hnot _ (by decide), fun _ ↦ hnot _ (by decide)⟩
  have hdot : ∀ rest, replicate n '!' ≠ '.' :: rest := by
    intro rest heq
    exact absurd (hmem '.' (heq ▸ mem_cons_self)) (by decide)
  have hsplit : ('/' :: replicate n '!').splitOn '/' = [[], replicate n '!'] := by
    rw [splitOn_cons_eq_if_modifyHead, if_pos (by decide),
      splitOn_eq_singleton (hnot _ (by decide))]
  have hsegment := canonicalSegment_of_component
    (canonicalComponent_plain hdecoded (hnot _ (by decide))) ⟨hdot [], hdot ['.']⟩
  simp only [canonicalPath, require_bind_eq_ok, hsplit]
  refine ⟨rfl, all_eq_true.2 fun c hc ↦ ?_, ?_, by simp,
    bind_eq_ok.2 ⟨[encoded (replicate n '!')], ?_, rfl⟩⟩
  · rcases mem_cons.1 hc with rfl | hc
    · decide
    · rw [hmem c hc]
      decide
  · rw [length_cons, length_replicate]
    omega
  · exact mapM_eq_ok_iff.2 (congrArg (· :: []) hsegment)

/-- The canonical form of a path may be too long for a path. -/
theorem not_canonicalPath_idempotent : ¬ ∀ (unicode : Unicode) (path canonical : Text),
    canonicalPath unicode path = .ok canonical →
      canonicalPath unicode canonical = .ok canonical := by
  intro h
  have hagain := h _ _ _ (canonicalPath_replicate (show 700 < 2048 by omega))
  simp only [canonicalPath, require_bind_eq_ok] at hagain
  obtain ⟨-, -, hlen, -⟩ := hagain
  rw [length_renderPath_replicate] at hlen
  omega

end Kaya.Backup
