import Kaya.Library.Checks
import Kaya.Library.PercentCode
import Kaya.Library.PrefixCode
import Kaya.Library.PyText
import Mathlib.Data.Char
import Mathlib.Data.List.Lex
import Mathlib.Data.List.Sort
import Mathlib.Data.Prod.Lex

/-!
# What a backup agent signs

`canonical_query`, `canonical_path` and `canonical_request` of `backup_agent_protocol.py`. A text is
its characters. `unicodedata.normalize("NFC", …)`, `str.upper` and `hexdigest` of SHA-256 are
parameters, with what is known of them (`Unicode`).

A component is percent-decoded, normalised and encoded again, so that it stands for its normalised
text (`canonicalComponent_eq_ok`), and no separator is left in it. So each separator can be found
again, and what is signed determines the segments of the path and the pairs of the query.
-/

namespace Kaya.Backup

open PercentCode

/-- The characters of a text. -/
abbrev Text := List Char

/-- The functions of the standard library that are not followed any further. -/
structure Unicode where
  nfc : Text → Text
  upper : Text → Text
  hexdigest : List UInt8 → Text
  nfc_nfc : ∀ text, nfc (nfc text) = nfc text
  nfc_eq_nil : ∀ text, nfc text = [] → text = []
  /-- Delimiters do not come from other characters. -/
  mem_nfc : ∀ text, ∀ c ∈ nfc text, c ∈ ['/', '\\', '\x00'] → c ∈ text
  upper_newline : ∀ text, '\n' ∉ text → '\n' ∉ upper text
  hexdigest_newline : ∀ body, '\n' ∉ hexdigest body

/-- `ValueError` and its subclass that `encode("ascii")` raises. -/
inductive CanonicalError
  | valueError (message : String)
  | unicodeEncodeError
  deriving DecidableEq

section Source

variable (unicode : Unicode)

/-- `safe="~-._"`. -/
def safeCharacters : Text := ['~', '-', '.', '_']

/-- `_canonical_component`. -/
def canonicalComponent (value : Text) (allowSlash : Bool) : Except CanonicalError Text := do
  require (badEscape value = false) (.valueError "invalid percent escape")
  require ('\\' ∉ value ∧ '\x00' ∉ value) (.valueError "invalid path character")
  let raw := unquote value
  require (UInt8.ofNat '\\'.toNat ∉ raw ∧ UInt8.ofNat '\x00'.toNat ∉ raw ∧
      ¬ (allowSlash = true ∧ UInt8.ofNat '/'.toNat ∈ raw))
    (.valueError "invalid encoded delimiter")
  let text ← found (UTF8.decode raw) (.valueError "invalid UTF-8")
  return quote safeCharacters (UTF8.encode (unicode.nfc text))

/-- The key of `item.partition("=")`. -/
def keyOf (item : Text) : Text := item.takeWhile (· ≠ '=')

/-- The value of `item.partition("=")`. -/
def valueOf (item : Text) : Text := (item.dropWhile (· ≠ '=')).drop 1

/-- One item of a query. -/
def canonicalPair (item : Text) : Except CanonicalError (Text × Text) := do
  require (item ≠ []) (.valueError "blank query pair")
  require (keyOf item ≠ []) (.valueError "blank query key")
  let key ← canonicalComponent unicode (keyOf item) false
  let value ← canonicalComponent unicode (valueOf item) false
  return (key, value)

/-- `encoded.sort()`. -/
def sortPairs (pairs : List (Text × Text)) : List (Text × Text) :=
  pairs.insertionSort fun pair pair' ↦ toLex pair ≤ toLex pair'

/-- `f"{key}={value}"`. -/
def renderPair (pair : Text × Text) : Text := pair.1 ++ '=' :: pair.2

/-- `canonical_query`. -/
def canonicalQuery (rawQuery : Text) : Except CanonicalError Text :=
  if rawQuery = [] then .ok []
  else do
    let pairs ← (rawQuery.splitOn '&').mapM (canonicalPair unicode)
    return ['&'].intercalate ((sortPairs pairs).map renderPair)

/-- One segment of a path. -/
def canonicalSegment (segment : Text) : Except CanonicalError Text := do
  let canonical ← canonicalComponent unicode segment true
  let decoded ← found (UTF8.decode (unquote canonical)) (.valueError "invalid UTF-8")
  require (decoded ≠ ['.'] ∧ decoded ≠ ['.', '.']) (.valueError "dot path segment")
  return canonical

/-- `canonical_path`. -/
def canonicalPath (rawPath : Text) : Except CanonicalError Text := do
  require (rawPath.head? = some '/') (.valueError "invalid path")
  require (rawPath.all (·.toNat < 128) = true) .unicodeEncodeError
  require (rawPath.length ≤ 2048) (.valueError "invalid path")
  let segments := rawPath.splitOn '/'
  require ([] ∉ segments.tail.dropLast) (.valueError "empty path segment")
  let result ← segments.tail.mapM (canonicalSegment unicode)
  return '/' :: ['/'].intercalate result

/-- The arguments of `canonical_request`. -/
structure SignedRequest where
  method : Text
  path : Text
  rawQuery : Text
  agentId : Text
  keyId : Text
  requestId : Text
  timestamp : ℤ
  body : List UInt8

/-- `canonical_request`. -/
def canonicalRequest (request : SignedRequest) : Except CanonicalError (List UInt8) := do
  let path ← canonicalPath unicode request.path
  let query ← canonicalQuery unicode request.rawQuery
  return UTF8.encode (['\n'].intercalate ["KAYA-AGENT-V2".toList, unicode.upper request.method,
    path, query, request.agentId, request.keyId, request.requestId, intText request.timestamp,
    unicode.hexdigest request.body])

/-! ### What it stands for -/

/-- A percent-decoded and normalised text. -/
def decodedText (value : Text) : Text := unicode.nfc ((UTF8.decode (unquote value)).getD [])

/-- The segments of a path. -/
def pathSegments (rawPath : Text) : List Text :=
  (rawPath.splitOn '/').tail.map (decodedText unicode)

/-- The pairs of a query. -/
def queryPairs (rawQuery : Text) : List (Text × Text) :=
  if rawQuery = [] then []
  else (rawQuery.splitOn '&').map fun item ↦
    (decodedText unicode (keyOf item), decodedText unicode (valueOf item))

end Source

/-! ### Components -/

variable {unicode : Unicode} {value text canonical : Text} {allowSlash : Bool} {c : Char}

/-- A text in canonical form. -/
def encoded (text : Text) : Text := quote safeCharacters (UTF8.encode text)

/-- A normalised text without the characters that a component may not have. -/
structure IsDecoded (unicode : Unicode) (allowSlash : Bool) (text : Text) : Prop where
  nfc : unicode.nfc text = text
  backslash : '\\' ∉ text
  null : '\x00' ∉ text
  slash : allowSlash = true → '/' ∉ text

theorem safe_safeCharacters : Safe safeCharacters := by
  intro c hc
  simp only [safeCharacters, List.mem_cons, List.not_mem_nil, or_false] at hc
  rcases hc with rfl | rfl | rfl | rfl
  · decide
  · decide
  · decide
  · decide

theorem encoded_injective : Function.Injective encoded := fun _ _ h ↦
  UTF8.encode_injective (quote_injective safe_safeCharacters h)

theorem unquote_encoded (text : Text) : unquote (encoded text) = UTF8.encode text :=
  unquote_quote safe_safeCharacters _

theorem encoded_eq_nil : encoded text = [] ↔ text = [] :=
  (quote_eq_nil safe_safeCharacters).trans UTF8.encode_eq_nil

theorem encoded_ascii (h : c ∈ encoded text) : c.toNat < 128 := by
  rcases of_mem_quote safe_safeCharacters h with halnum | hsafe | rfl
  · exact (isAlphanum_bounds halnum).1
  · exact (safe_safeCharacters c hsafe).1
  · decide

/-- No delimiter is left in a component. -/
theorem not_mem_encoded (h : c ∈ ['/', '\\', '\x00', '&', '=', '\n']) : c ∉ encoded text := by
  intro hmem
  have hnone : ['/', '\\', '\x00', '&', '=', '\n'].all
      (fun c ↦ !c.isAlphanum && decide (c ∉ safeCharacters) && decide (c ≠ '%')) = true := by decide
  have hc := List.all_eq_true.1 hnone c h
  simp only [Bool.and_eq_true, Bool.not_eq_true', decide_eq_true_eq] at hc
  rcases of_mem_quote safe_safeCharacters hmem with halnum | hsafe | hpercent
  · exact absurd halnum (by rw [hc.1.1]; decide)
  · exact hc.1.2 hsafe
  · exact hc.2 hpercent

theorem canonicalComponent_eq_ok (h : canonicalComponent unicode value allowSlash = .ok canonical) :
    canonical = encoded (decodedText unicode value) ∧
      IsDecoded unicode allowSlash (decodedText unicode value) ∧
        (value ≠ [] → decodedText unicode value ≠ []) := by
  simp only [canonicalComponent, require_bind_eq_ok, found_bind_eq_ok, pure_eq_ok] at h
  obtain ⟨-, -, ⟨hbackslash, hnull, hslash⟩, text, htext, rfl⟩ := h
  have hdecoded : decodedText unicode value = unicode.nfc text := by
    rw [decodedText, htext]
    rfl
  have hraw := UTF8.encode_of_decode htext
  rw [← hraw] at hbackslash hnull hslash
  have hnot : ∀ c ∈ ['/', '\\', '\x00'], c ∉ text → c ∉ unicode.nfc text :=
    fun c hc hout hin ↦ hout (unicode.mem_nfc text c hin hc)
  rw [hdecoded]
  refine ⟨rfl, ⟨unicode.nfc_nfc text, ?_, ?_, fun hallow ↦ ?_⟩, fun hvalue hnil ↦ ?_⟩
  · exact hnot '\\' (by decide) fun hmem ↦ hbackslash ((UTF8.mem_encode_iff (by decide)).2 hmem)
  · exact hnot '\x00' (by decide) fun hmem ↦ hnull ((UTF8.mem_encode_iff (by decide)).2 hmem)
  · exact hnot '/' (by decide) fun hmem ↦
      hslash ⟨hallow, (UTF8.mem_encode_iff (by decide)).2 hmem⟩
  · rw [unicode.nfc_eq_nil text hnil, UTF8.encode_nil] at hraw
    exact unquote_ne_nil hvalue hraw.symm

/-- A component that is decoded to a text is encoded from it. -/
theorem canonicalComponent_of_unquote (h : IsDecoded unicode allowSlash text)
    (hescape : badEscape value = false) (hvalue : '\\' ∉ value ∧ '\x00' ∉ value)
    (hunquote : unquote value = UTF8.encode text) :
    canonicalComponent unicode value allowSlash = .ok (encoded text) := by
  simp only [canonicalComponent, require_bind_eq_ok, found_bind_eq_ok, pure_eq_ok, hunquote]
  refine ⟨hescape, hvalue, ⟨?_, ?_, fun hslash ↦ ?_⟩, text, UTF8.decode_encode text, ?_⟩
  · exact fun hmem ↦ h.backslash ((UTF8.mem_encode_iff (by decide)).1 hmem)
  · exact fun hmem ↦ h.null ((UTF8.mem_encode_iff (by decide)).1 hmem)
  · exact h.slash hslash.1 ((UTF8.mem_encode_iff (by decide)).1 hslash.2)
  · rw [h.nfc]
    rfl

/-- What is canonical is left alone. -/
theorem canonicalComponent_encoded (h : IsDecoded unicode allowSlash text) :
    canonicalComponent unicode (encoded text) allowSlash = .ok (encoded text) :=
  canonicalComponent_of_unquote h (badEscape_quote safe_safeCharacters _)
    ⟨not_mem_encoded (by decide), not_mem_encoded (by decide)⟩ (unquote_encoded text)

theorem canonicalComponent_plain (h : IsDecoded unicode allowSlash text) (hpercent : '%' ∉ text) :
    canonicalComponent unicode text allowSlash = .ok (encoded text) :=
  canonicalComponent_of_unquote h (badEscape_of_notMem hpercent) ⟨h.backslash, h.null⟩
    (unquote_eq_encode hpercent)

end Kaya.Backup
