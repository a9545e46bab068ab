import Kaya.Flow.Decoder
import Kaya.Library.Dict
import Kaya.Library.Double
import Mathlib.Data.List.Sort

/-!
# Datagrams

`NetFlowV9Decoder` of `app/services/flow_protocol.py`: the framing of a NetFlow v9 datagram, the
template cache and the sequence bookkeeping around the normalisation of records.

A call returns the decoder it leaves behind together with what it returned or raised: state that was
written before an exception stays written. `time.monotonic()` is read once for a call, as the
argument `now`, in microseconds. `identify` stands for `str(ipaddress.ip_address(text))` and is
`none` where that raises `ValueError`.
-/

namespace Kaya.Flow

/-! ### Errors -/

/-- Categories of a `FlowDecodeError`. -/
inductive DecodeCategory
  | oversized
  | truncatedHeader
  | unsupportedVersion
  | recordLimit
  | exporterIdentity
  | truncatedFlowset
  | invalidFlowsetLength
  | truncatedTemplate
  | invalidTemplate
  | truncatedOptionsTemplate
  | invalidOptionsLengths
  | invalidFieldLength
  | nonzeroTemplatePadding
  | invalidTemplateWidth
  | invalidDataPadding
  deriving DecidableEq

/-- The `details` of a rejected template flowset. -/
structure DecodeDetails where
  exporterIdentity : String
  sourceId : ℕ
  templateId : Option ℕ
  deriving DecidableEq

/-- `FlowDecodeError`. -/
structure FlowDecodeError where
  category : DecodeCategory
  details : Option DecodeDetails := none
  deriving DecidableEq

/-- What can leave `decode` instead of a result. -/
inductive DecodeFailure
  | flowDecodeError (error : FlowDecodeError)
  /-- A timestamp that `datetime.utcfromtimestamp` refuses. -/
  | valueError
  deriving DecidableEq

/-! ### Records -/

/-- `datetime.utcfromtimestamp(t)` for a float, `none` where the year is out of range. -/
def utcfromtimestamp (t : ℚ) : Option DateTime :=
  let whole := Double.trunc t
  let micros := Double.roundHalfEven (Double.toDouble ((t - whole) * 1000000))
  let (whole, micros) :=
    if micros ≥ 1000000 then (whole + 1, micros - 1000000)
    else if micros < 0 then (whole - 1, micros + 1000000)
    else (whole, micros)
  if -62135596800 ≤ whole ∧ whole < 253402300800 then some (whole * second + micros) else none

/-- `timestamp`: a time given in milliseconds since the exporter's boot. -/
def switchTime (unixSecs sysUptime msec : ℕ) : Option DateTime :=
  let bootSeconds := Double.toDouble (unixSecs - Double.toDouble (sysUptime / 1000))
  utcfromtimestamp (Double.toDouble (bootSeconds + Double.toDouble (msec / 1000)))

/-- `NormalizedFlowRecord` with the columns no accounting reads. -/
structure FlowRecord extends NormalizedFlowRecord where
  flowStart : Option DateTime
  flowEnd : Option DateTime
  sourcePort : Option ℕ
  destinationPort : Option ℕ
  protocol : Option ℕ
  translatedSourcePort : Option ℕ
  translatedDestinationPort : Option ℕ
  vendor : Option String
  extendedEvent : Option ℕ
  deriving DecidableEq

/-- The header fields of a datagram. -/
structure DatagramHeader where
  version : ℕ
  count : ℕ
  sysUptime : ℕ
  unixSecs : ℕ
  sequence : ℕ
  sourceId : ℕ

/-- A switched time of a record: absent, or converted. The outer `none` is the exception. -/
def fieldTime (raw : RawFields) (header : DatagramHeader) (field : ℕ) : Option (Option DateTime) :=
  match fieldValue raw [field] with
  | none => some none
  | some msec => (switchTime header.unixSecs header.sysUptime msec).map some

/-- `flow_start`: the creation time when it is usable, else the first switched time. -/
def flowStartTime (raw : RawFields) (header : DatagramHeader) : Option (Option DateTime) :=
  match timestampFromMsec (fieldValue raw [152]) with
  | some t => some (some t)
  | none => fieldTime raw header 22

/-- `_normalise`, `none` where a timestamp is out of range. -/
def normaliseRecord (raw : RawFields) (exporter : String) (header : DatagramHeader)
    (recordIndex : ℕ) : Option FlowRecord := do
  let value := fieldValue raw
  let flowStart ← flowStartTime raw header
  let flowEnd ← fieldTime raw header 21
  some
    { normalise raw exporter header.sourceId header.sequence recordIndex header.unixSecs with
      flowStart
      flowEnd
      sourcePort := value [7]
      destinationPort := value [11]
      protocol := value [4]
      translatedSourcePort := value [227]
      translatedDestinationPort := value [228]
      vendor :=
        if (value [233]).isSome || (value [148]).isSome then some "cisco_nsel" else none
      extendedEvent := value [33002] }

/-! ### Templates -/

/-- `TemplateField`. The enterprise number is `None` throughout. -/
structure TemplateField where
  fieldId : ℕ
  length : ℕ
  deriving DecidableEq

/-- `FlowTemplate`. -/
structure FlowTemplate where
  templateId : ℕ
  fields : List TemplateField
  isOptions : Bool
  refreshedAt : ℤ
  deriving DecidableEq

/-- Exporter, source and template identifier. -/
abbrev TemplateKey := String × ℕ × ℕ

/-- What happened to a template. -/
inductive TemplateStatus
  | accepted
  | lookupFailed
  | evicted
  deriving DecidableEq

/-- Why it happened. -/
inductive TemplateReason
  | refresh
  | received
  | expired
  | missing
  | capacity
  deriving DecidableEq

/-- An entry of `template_events`. -/
structure TemplateEvent where
  templateId : ℕ
  exporterIdentity : String
  sourceId : ℕ
  status : TemplateStatus
  reason : TemplateReason
  cachePresent : Option Bool := none
  deriving DecidableEq

/-- An entry of `unknown_template_details`. -/
structure UnknownTemplate where
  templateId : ℕ
  exporterIdentity : String
  sourceId : ℕ
  /-- `"expired_template"` rather than `"unknown_template"`. -/
  expired : Bool
  deriving DecidableEq

/-- `DecodeResult`. -/
structure DecodeResult where
  records : List FlowRecord := []
  templateCount : ℕ := 0
  unknownTemplates : ℕ := 0
  sequenceGap : Bool := false
  exporterRestart : Bool := false
  unknownTemplateDetails : List UnknownTemplate := []
  templateEvents : List TemplateEvent := []
  deriving DecidableEq

/-- `NetFlowV9Decoder`. -/
structure FlowDecoder where
  maxTemplates : ℕ
  templateTtlSeconds : ℕ
  templates : Dict TemplateKey FlowTemplate
  lastSequence : Dict (String × ℕ) ℕ
  lastUptime : Dict (String × ℕ) ℕ

/-- `NetFlowV9Decoder(max_templates=…, template_ttl_seconds=…)`. -/
def FlowDecoder.new (maxTemplates : ℤ := 2048) (templateTtlSeconds : ℤ := 1800) : FlowDecoder where
  maxTemplates := (max 1 (min maxTemplates 2048)).toNat
  templateTtlSeconds := (max 60 (min templateTtlSeconds 86400)).toNat
  templates := .empty
  lastSequence := .empty
  lastUptime := .empty

/-- The big-endian number at an offset. -/
def unpack (bytes : List UInt8) (offset length : ℕ) : ℕ :=
  fromBytes ((bytes.drop offset).take length)

/-- The fields of one template. -/
def parseFields : ℕ → List UInt8 → Except DecodeCategory (List TemplateField × List UInt8)
  | 0, rest => .ok ([], rest)
  | n + 1, rest =>
    if rest.length < 4 then .error .truncatedTemplate
    else
      let field := TemplateField.mk (unpack rest 0 2) (unpack rest 2 2)
      if field.length = 0 ∨ field.length > 2048 then .error .invalidFieldLength
      else (parseFields n (rest.drop 4)).map fun parsed ↦ (field :: parsed.1, parsed.2)

/-- The number of fields of an options template, and where they begin. -/
def optionsFieldCount (scopeLength : ℕ) (rest : List UInt8) :
    Except DecodeCategory (ℕ × List UInt8) :=
  if rest.length < 2 then .error .truncatedOptionsTemplate
  else
    let optionLength := unpack rest 0 2
    let rest := rest.drop 2
    if scopeLength = 0 ∨ scopeLength % 4 ≠ 0 ∨ optionLength % 4 ≠ 0 then
      .error .invalidOptionsLengths
    else if (scopeLength + optionLength) / 4 > 64 ∨ rest.length < scopeLength + optionLength then
      .error .truncatedOptionsTemplate
    else .ok ((scopeLength + optionLength) / 4, rest)

/-- The number of fields of a template, and where they begin. -/
def templateFieldCount (isOptions : Bool) (fieldCount : ℕ) (rest : List UInt8) :
    Except DecodeCategory (ℕ × List UInt8) :=
  if isOptions then optionsFieldCount fieldCount rest
  else if 1 ≤ fieldCount ∧ fieldCount ≤ 64 then .ok (fieldCount, rest)
  else .error .invalidTemplate

/-- One template after its identifier: its fields and the rest of the flowset. -/
def parseTemplate (isOptions : Bool) (fieldCount : ℕ) (rest : List UInt8) :
    Except DecodeCategory (List TemplateField × List UInt8) := do
  let (count, rest) ← templateFieldCount isOptions fieldCount rest
  parseFields count rest

/-- The loop of `_decode_templates`: the templates of a flowset and the bytes after them. The error
carries the identifier of the template it is about. Every round reads at least four bytes, so a fuel
of the flowset's length is enough. -/
def parseTemplates (isOptions : Bool) : ℕ → List UInt8 →
    Except (DecodeCategory × Option ℕ) (List (ℕ × List TemplateField) × List UInt8)
  | 0, rest => .ok ([], rest)
  | fuel + 1, rest =>
    if rest = [] then .ok ([], [])
    else if rest.length < 4 then
      if rest.any (· ≠ 0) then .error (.truncatedTemplate, none) else .ok ([], rest)
    else
      let templateId := unpack rest 0 2
      if templateId < 256 then .error (.invalidTemplate, some templateId)
      else match parseTemplate isOptions (unpack rest 2 2) (rest.drop 4) with
        | .error category => .error (category, some templateId)
        | .ok (fields, rest) => (parseTemplates isOptions fuel rest).map fun parsed ↦
            ((templateId, fields) :: parsed.1, parsed.2)

/-- `_decode_templates` up to the point where it installs anything. -/
def flowsetTemplates (isOptions : Bool) (body : List UInt8) :
    Except (DecodeCategory × Option ℕ) (List (ℕ × List TemplateField)) :=
  match parseTemplates isOptions body.length body with
  | .error e => .error e
  | .ok (parsed, rest) =>
    if rest.any (· ≠ 0) then .error (.nonzeroTemplatePadding, none) else .ok parsed

/-! ### Data records -/

/-- The bytes of each field of one record, over what was cut before. -/
def cutFields : List TemplateField → List UInt8 → RawFields → RawFields
  | [], _, raw => raw
  | field :: fields, bytes, raw =>
    cutFields fields (bytes.drop field.length)
      (Function.update raw field.fieldId (some (bytes.take field.length)))

/-- The width of a record. -/
def recordWidth (fields : List TemplateField) : ℕ := (fields.map TemplateField.length).sum

/-- That many records, one after the other. -/
def cutRecords (fields : List TemplateField) : ℕ → List UInt8 → List RawFields
  | 0, _ => []
  | n + 1, body =>
    cutFields fields body (fun _ ↦ none) :: cutRecords fields n (body.drop (recordWidth fields))

/-- `_records`. -/
def flowsetRecords (body : List UInt8) (fields : List TemplateField) :
    Except DecodeCategory (List RawFields) :=
  let width := recordWidth fields
  let remainder := body.length % width
  if width = 0 then .error .invalidTemplateWidth
  else if remainder ≠ 0 ∧ (remainder > 3 ∨ (body.drop (body.length - remainder)).any (· ≠ 0)) then
    .error .invalidDataPadding
  else .ok (cutRecords fields (body.length / width) body)

/-- The records of a data flowset after those already decoded. A packet holds at most 512. -/
def normaliseAll (exporter : String) (header : DatagramHeader) :
    List RawFields → List FlowRecord → Except DecodeFailure (List FlowRecord)
  | [], records => .ok records
  | raw :: raws, records =>
    if records.length ≥ 512 then .error (.flowDecodeError ⟨.recordLimit, none⟩)
    else match normaliseRecord raw exporter header records.length with
      | none => .error .valueError
      | some record => normaliseAll exporter header raws (records ++ [record])

/-! ### Flowsets -/

/-- A flowset: its identifier and its body. -/
abbrev Flowset := ℕ × List UInt8

/-- The flowsets of a datagram after its header, and the error at which the framing ends. Every
flowset has at least four bytes, so a fuel of the length is enough. -/
def frames : ℕ → List UInt8 → List Flowset × Option DecodeCategory
  | 0, _ => ([], none)
  | fuel + 1, rest =>
    if rest = [] then ([], none)
    else if rest.length < 4 then ([], some .truncatedFlowset)
    else
      let flowsetLength := unpack rest 2 2
      if flowsetLength < 4 ∨ rest.length < flowsetLength then ([], some .invalidFlowsetLength)
      else
        let later := frames fuel (rest.drop flowsetLength)
        ((unpack rest 0 2, (rest.take flowsetLength).drop 4) :: later.1, later.2)

namespace FlowDecoder

/-- At most thirty-two events are kept. -/
def addEvent (events : List TemplateEvent) (event : TemplateEvent) : List TemplateEvent :=
  if events.length < 32 then events ++ [event] else events

/-- Install parsed templates one by one. -/
def install (exporter : String) (sourceId : ℕ) (isOptions : Bool) (now : ℤ) :
    List (ℕ × List TemplateField) → Dict TemplateKey FlowTemplate × List TemplateEvent →
      Dict TemplateKey FlowTemplate × List TemplateEvent
  | [], state => state
  | (templateId, fields) :: parsed, (templates, events) =>
    let key := (exporter, sourceId, templateId)
    let event : TemplateEvent :=
      { templateId, exporterIdentity := exporter, sourceId, status := .accepted
        reason := if (templates.get? key).isSome then .refresh else .received
        cachePresent := some true }
    install exporter sourceId isOptions now parsed
      (templates.set key ⟨templateId, fields, isOptions, now⟩, addEvent events event)

/-- `time.monotonic() - template.refreshed_at > self.template_ttl_seconds`. -/
def isExpired (d : FlowDecoder) (template : FlowTemplate) (now : ℤ) : Bool :=
  now - template.refreshedAt > d.templateTtlSeconds * second

/-- A template flowset. -/
def decodeTemplates (d : FlowDecoder) (exporter : String) (sourceId : ℕ) (isOptions : Bool)
    (body : List UInt8) (result : DecodeResult) (now : ℤ) :
    Except DecodeFailure (FlowDecoder × DecodeResult) :=
  match flowsetTemplates isOptions body with
  | .error (category, templateId) =>
    .error (.flowDecodeError ⟨category, some ⟨exporter, sourceId, templateId⟩⟩)
  | .ok parsed =>
    let installed := install exporter sourceId isOptions now parsed
      (d.templates, result.templateEvents)
    .ok ({ d with templates := installed.1 },
      { result with
        templateCount := result.templateCount + parsed.length, templateEvents := installed.2 })

/-- A data flowset whose template is not cached or has expired. -/
def missingTemplate (exporter : String) (sourceId templateId : ℕ) (expired : Bool)
    (result : DecodeResult) : DecodeResult :=
  { result with
    unknownTemplates := result.unknownTemplates + 1
    unknownTemplateDetails :=
      if result.unknownTemplateDetails.length < 8 then
        result.unknownTemplateDetails ++ [⟨templateId, exporter, sourceId, expired⟩]
      else result.unknownTemplateDetails
    templateEvents := addEvent result.templateEvents
      { templateId, exporterIdentity := exporter, sourceId, status := .lookupFailed
        reason := if expired then .expired else .missing
        -- The template is missing or expired here, so never present.
        cachePresent := some false } }

/-- A data flowset. -/
def decodeData (d : FlowDecoder) (exporter : String) (header : DatagramHeader) (templateId : ℕ)
    (body : List UInt8) (result : DecodeResult) (now : ℤ) : Except DecodeFailure DecodeResult :=
  match d.templates.get? (exporter, header.sourceId, templateId) with
  | none => .ok (missingTemplate exporter header.sourceId templateId false result)
  | some template =>
    if d.isExpired template now then
      .ok (missingTemplate exporter header.sourceId templateId true result)
    else if template.isOptions then .ok result
    else match flowsetRecords body template.fields with
      | .error category => .error (.flowDecodeError ⟨category, none⟩)
      | .ok raws => (normaliseAll exporter header raws result.records).map fun records ↦
          { result with records }

/-- One flowset. Identifiers from 2 to 255 are passed over. -/
def decodeFlowset (d : FlowDecoder) (exporter : String) (header : DatagramHeader)
    (flowset : Flowset) (result : DecodeResult) (now : ℤ) :
    Except DecodeFailure (FlowDecoder × DecodeResult) :=
  if flowset.1 = 0 then
    d.decodeTemplates exporter header.sourceId false flowset.2 result now
  else if flowset.1 = 1 then
    d.decodeTemplates exporter header.sourceId true flowset.2 result now
  else if flowset.1 ≥ 256 then
    (d.decodeData exporter header flowset.1 flowset.2 result now).map (d, ·)
  else .ok (d, result)

/-- The flowsets in order, and last the error of the framing. -/
def decodeFlowsets (exporter : String) (header : DatagramHeader) (framing : Option DecodeCategory)
    (now : ℤ) : List Flowset → FlowDecoder → DecodeResult →
      FlowDecoder × Except DecodeFailure DecodeResult
  | [], d, result => match framing with
    | none => (d, .ok result)
    | some category => (d, .error (.flowDecodeError ⟨category, none⟩))
  | flowset :: flowsets, d, result =>
    match d.decodeFlowset exporter header flowset result now with
    | .error failure => (d, .error failure)
    | .ok (d, result) => decodeFlowsets exporter header framing now flowsets d result

/-- Evicted templates as events. -/
def evictions (reason : TemplateReason) (keys : List TemplateKey) : List TemplateEvent :=
  keys.map fun key ↦
    { templateId := key.2.2, exporterIdentity := key.1, sourceId := key.2.1, status := .evicted
      reason }

/-- The keys of expired templates. -/
def expiredKeys (d : FlowDecoder) (now : ℤ) : List TemplateKey :=
  (d.templates.items.filter fun item ↦ d.isExpired item.2 now).map Prod.fst

/-- The keys of the longest unrefreshed templates beyond the capacity. -/
def victims (d : FlowDecoder) : List TemplateKey :=
  ((d.templates.items.insertionSort fun a b ↦ a.2.refreshedAt ≤ b.2.refreshedAt).take
    (d.templates.size - d.maxTemplates)).map Prod.fst

/-- `_prune`. -/
def prune (d : FlowDecoder) (now : ℤ) : FlowDecoder × List TemplateEvent :=
  let expired := d.expiredKeys now
  let d := { d with templates := d.templates.popAll expired }
  let victims := if d.templates.size > d.maxTemplates then d.victims else []
  ({ d with templates := d.templates.popAll victims },
    evictions .expired expired ++ evictions .capacity victims)

/-- `struct.unpack_from("!HHIIII", datagram, 0)`. -/
def readHeader (datagram : List UInt8) : DatagramHeader where
  version := unpack datagram 0 2
  count := unpack datagram 2 2
  sysUptime := unpack datagram 4 4
  unixSecs := unpack datagram 8 4
  sequence := unpack datagram 12 4
  sourceId := unpack datagram 16 4

/-- The checks before any state is touched. -/
def checkHeader (identify : String → Option String) (datagram : List UInt8) (identity : String) :
    Except DecodeCategory String :=
  if datagram.length > 8192 then .error .oversized
  else if datagram.length < 20 then .error .truncatedHeader
  else if (readHeader datagram).version ≠ 9 then .error .unsupportedVersion
  else if (readHeader datagram).count > 512 then .error .recordLimit
  else match identify identity with
    | none => .error .exporterIdentity
    | some exporter => .ok exporter

/-- The exporter's clock went back by more than five seconds. -/
def restarted (d : FlowDecoder) (key : String × ℕ) (sysUptime : ℕ) : Bool :=
  (d.lastUptime.get? key).any fun previous ↦ sysUptime + 5000 < previous

/-- The sequence numbers skip more than the packet's records. -/
def sequenceGap (d : FlowDecoder) (key : String × ℕ) (header : DatagramHeader) : Bool :=
  (d.lastSequence.get? key).any fun previous ↦
    ((header.sequence : ℤ) - previous) % 2 ^ 32 > max header.count 1

/-- The bookkeeping before the flowsets: a restart forgets the exporter's templates. -/
def observe (d : FlowDecoder) (key : String × ℕ) (header : DatagramHeader) : FlowDecoder :=
  { d with
    templates :=
      if d.restarted key header.sysUptime then
        d.templates.filter fun item ↦ (item.1.1, item.1.2.1) ≠ key
      else d.templates
    lastSequence := d.lastSequence.set key header.sequence
    lastUptime := d.lastUptime.set key header.sysUptime }

/-- The flowsets of a datagram. -/
def flowsets (datagram : List UInt8) : List Flowset × Option DecodeCategory :=
  frames datagram.length (datagram.drop 20)

/-- `decode`. -/
def decode (identify : String → Option String) (d : FlowDecoder) (datagram : List UInt8)
    (identity : String) (now : ℤ) : FlowDecoder × Except DecodeFailure DecodeResult :=
  match checkHeader identify datagram identity with
  | .error category => (d, .error (.flowDecodeError ⟨category, none⟩))
  | .ok exporter =>
    let header := readHeader datagram
    let key := (exporter, header.sourceId)
    let result : DecodeResult :=
      { sequenceGap := d.sequenceGap key header
        exporterRestart := d.restarted key header.sysUptime }
    match decodeFlowsets exporter header (flowsets datagram).2 now (flowsets datagram).1
        (d.observe key header) result with
    | (d, .error failure) => (d, .error failure)
    | (d, .ok result) =>
      let pruned := d.prune now
      (pruned.1, .ok { result with
        templateEvents := result.templateEvents ++
          pruned.2.take (32 - result.templateEvents.length) })

end FlowDecoder

end Kaya.Flow
