import ContextDb.Reference.Model

/-! An executable codec: the JSON layout of the serialized types, rendered without
white space, and a 256-bit rolling checksum in the place of the hash function. -/

set_option autoImplicit false

namespace ContextDb.Reference

open Lib Std ContextDb.Core

namespace PlainCodec

def optional {Item : Type} (encode : Item → Value) (item : Option Item) : Value :=
  item.elim .null encode

def stringSet (items : BTreeSet String) : Value :=
  .array (items.toList.map .string)

def integer (value : Int) : Value :=
  .number (if 0 ≤ value then .posInt value.toNat.toUInt64 else .negInt value)

def component (value : F32) : Value :=
  .number (.float value.bits.toNat.toUInt64)

def sensitivity : Sensitivity → Value
  | .public => .string "public"
  | .internal => .string "internal"
  | .private => .string "private"
  | .restricted => .string "restricted"

def consent : Consent → Value
  | .granted => .string "granted"
  | .unknown => .string "unknown"
  | .denied => .string "denied"

def access (label : AccessLabel) : Value :=
  .object [("workspace", .string label.workspace), ("scopes", stringSet label.scopes),
    ("owners", stringSet label.owners), ("audience", stringSet label.audience),
    ("audience_purpose_grants", .object (label.audiencePurposeGrants.toList.map fun entry =>
      (entry.1, stringSet entry.2))),
    ("purposes", stringSet label.purposes), ("sensitivity", sensitivity label.sensitivity),
    ("consent", consent label.consent), ("retrievable", .bool label.retrievable)]

def kind : RecordKind → Value
  | .node => .string "node"
  | .claim => .string "claim"
  | .edge => .string "edge"
  | .conflict => .string "conflict"
  | .evidence => .string "evidence"
  | .candidate => .string "candidate"
  | .semanticObject => .string "semantic_object"
  | .runtimeState => .string "runtime_state"
  | .domainExtension => .string "domain_extension"

def lifecycle : Lifecycle → Value
  | .active => .string "active"
  | .superseded => .string "superseded"
  | .retracted => .string "retracted"
  | .suppressed => .string "suppressed"

def validTime (time : ValidTime) : Value :=
  .object [("from", optional integer time.start), ("to", optional integer time.finish)]

def links (links : SemanticLinks) : Value :=
  .object [("subject", optional .string links.subject), ("source", optional .string links.source),
    ("target", optional .string links.target), ("predicate", optional .string links.predicate),
    ("conflict_set", optional .string links.conflictSet), ("supersedes",
      stringSet links.supersedes),
    ("evidence", stringSet links.evidence), ("conflict_members", stringSet links.conflictMembers),
    ("single_valued", .bool links.singleValued)]

def content (content : RecordContent) : Value :=
  .object [("value", content.value), ("search_text", optional .string content.searchText),
    ("vector", optional (fun vector => .array (vector.map component)) content.vector),
    ("attributes", .object content.attributes.toList)]

def record (record : LogicalRecord) : Value :=
  .object [("id", .string record.id), ("kind", kind record.kind), ("access", access record.access),
    ("valid_time", validTime record.validTime), ("lifecycle", lifecycle record.lifecycle),
    ("links", links record.links), ("value", record.value), ("search_text",
      optional .string record.searchText),
    ("vector", optional (fun vector => .array (vector.map component)) record.vector),
    ("attributes", .object record.attributes.toList)]

def mutation : Mutation → Value
  | .put written expectedRevision =>
    .object [("operation", .string "put"), ("record", record written),
      ("expected_revision", optional unsigned expectedRevision)]
  | .correct target replacement =>
    .object [("operation", .string "correct"), ("target", .string target),
      ("replacement", record replacement)]
  | .retract target => .object [("operation", .string "retract"), ("target", .string target)]
  | .delete target requestedBy reason =>
    .object [("operation", .string "delete"), ("target", .string target),
      ("requested_by", .string requestedBy), ("reason", .string reason)]

def transaction (transaction : SemanticTransaction) : Value :=
  .object [("base_seq", unsigned transaction.baseSeq), ("idempotency_key",
    .string transaction.idempotencyKey),
    ("mutations", .array (transaction.mutations.map mutation))]

def observation (input : ObservationInput) : Value :=
  .object [("idempotency_key", .string input.idempotencyKey),
    ("observation_id", .string input.observationId), ("access", access input.access),
    ("metadata", .object input.metadata.toList), ("content", input.content)]

def watermarks (watermarks : Watermarks) : Value :=
  .object [("journal", unsigned watermarks.journal), ("semantic", unsigned watermarks.semantic),
    ("lexical", unsigned watermarks.lexical), ("vector", unsigned watermarks.vector), ("graph",
      unsigned watermarks.graph)]

def revision (revision : StoredRevision) : Value :=
  .object [("id", .string revision.id), ("revision", unsigned revision.revision),
    ("transaction_from", unsigned revision.transactionFrom), ("transaction_to",
      optional unsigned revision.transactionTo),
    ("record", .object [("kind", kind revision.record.kind),
      ("access", access revision.record.access), ("valid_time",
        validTime revision.record.validTime),
      ("lifecycle", lifecycle revision.record.lifecycle), ("links", links revision.record.links)]),
    ("content", revision.content.toValue)]

def observationRecord (observation : ObservationRecord) : Value :=
  .object [("observation_id", .string observation.observationId),
    ("accepted_seq", unsigned observation.acceptedSeq), ("access", access observation.access),
    ("content", observation.content.toValue), ("metadata", .object observation.metadata.toList)]

def tombstone (tombstone : DeletionTombstone) : Value :=
  .object [("target", .string tombstone.target), ("requested_by", .string tombstone.requestedBy),
    ("reason", .string tombstone.reason), ("effective_seq", unsigned tombstone.effectiveSeq),
    ("erased_content_refs", stringSet tombstone.erasedContentRefs)]

def journalRecord (record : JournalRecord) : Value :=
  .object [("commit_seq", unsigned record.commitSeq), ("previous_digest",
    optional .string record.previousDigest),
    ("record_digest", .string record.recordDigest), ("event", record.event.toValue)]

def idempotencyRecord (record : IdempotencyRecord) : Value :=
  .object [("request_digest", .string record.requestDigest),
    ("receipt", .object [("commit_seq", unsigned record.receipt.commitSeq),
      ("replayed", .bool record.receipt.replayed), ("request_digest",
        .string record.receipt.requestDigest),
      ("watermarks", watermarks record.receipt.watermarks)])]

def table {Item : Type} (encode : Item → Value) (map : BTreeMap String Item) : Value :=
  .object (map.toList.map fun entry => (entry.1, encode entry.2))

def logicalExport (exported : LogicalExport) : Value :=
  .object [("format", .string exported.format), ("database_id", .string exported.databaseId),
    ("head", unsigned exported.head), ("watermarks", watermarks exported.watermarks),
    ("histories", table (fun history => .array (history.map revision)) exported.histories),
    ("observations", table observationRecord exported.observations),
    ("tombstones", table tombstone exported.tombstones), ("journal",
      .array (exported.journal.map journalRecord)),
    ("idempotency", table idempotencyRecord exported.idempotency), ("contents",
      .object exported.contents.toList)]

def bytes (text : String) : List UInt8 :=
  text.toUTF8.data.toList

def escape (byte : UInt8) : List UInt8 :=
  if byte = 34 || byte = 92 then [92, byte]
  else if byte < 32 then bytes "\\u00" ++ bytes (String.ofList (hexDigits 2 byte.toNat))
  else [byte]

def quoted (text : String) : List UInt8 :=
  34 :: (bytes text).flatMap escape ++ [34]

def number : Number → List UInt8
  | .posInt value => bytes (toString value.toNat)
  | .negInt value => bytes (toString value)
  | .float bits => bytes (toString bits.toNat)

mutual

def render : Value → List UInt8
  | .null => bytes "null"
  | .bool true => bytes "true"
  | .bool false => bytes "false"
  | .number value => number value
  | .string text => quoted text
  | .array values => 91 :: renderAll values ++ [93]
  | .object fields => 123 :: renderFields fields ++ [125]

def renderAll : List Value → List UInt8
  | [] => []
  | [value] => render value
  | value :: rest => render value ++ 44 :: renderAll rest

def renderFields : List (String × Value) → List UInt8
  | [] => []
  | [(key, value)] => quoted key ++ 58 :: render value
  | (key, value) :: rest => quoted key ++ 58 :: render value ++ 44 :: renderFields rest

end

def checksum (bytes : List UInt8) : Nat :=
  bytes.foldl (fun sum byte => (sum * 257 + byte.toNat + 1) % 2 ^ 256) 0

def field (fields : List (String × Value)) (name : String) : Option Value :=
  (fields.find? (·.1 = name)).map (·.2)

def parseText : Option Value → Except String (Option String)
  | none | some .null => .ok none
  | some (.string text) => .ok (some text)
  | some _ => .error "invalid type: expected a string"

def parseComponent : Value → Except String F32
  | .number (.float bits) => .ok ⟨bits.toNat⟩
  | _ => .error "invalid type: expected f32"

def parseVector : Option Value → Except String (Option (List F32))
  | none | some .null => .ok none
  | some (.array values) => do
      let vector ← values.mapM parseComponent
      pure (some vector)
  | some _ => .error "invalid type: expected a sequence"

def parseContent : Value → Except String RecordContent
  | .object fields =>
    match field fields "value", field fields "attributes" with
    | some value, some (.object attributes) => do
        let searchText ← parseText (field fields "search_text")
        let vector ← parseVector (field fields "vector")
        pure { value, searchText, vector, attributes := .ofList attributes }
    | none, _ => .error "missing field value"
    | _, _ => .error "missing field attributes"
  | _ => .error "invalid type: expected struct RecordContent"

end PlainCodec

open PlainCodec

def plainCodec : Codec where
  contentToValue content := .ok (PlainCodec.content content)
  contentFromValue := parseContent
  observationToValue input := .ok (observation input)
  transactionToValue transaction := .ok (PlainCodec.transaction transaction)
  exportToValue exported := .ok (logicalExport exported)
  toVec value := .ok (render value)
  hash bytes := String.ofList (hexDigits 64 (checksum bytes))
  hash_hex := by
    intro bytes character member
    rw [String.toList_ofList] at member
    exact hexDigits_isHexDigit member

def plainParser (known : List LogicalExport) (bytes : List UInt8) : Except String LogicalExport :=
  match known.find? fun exported =>
    render (canonicalize (logicalExport exported)) = bytes with
  | some exported => .ok exported
  | none => .error "unknown export"

theorem plainParser_rendered (exported : LogicalExport) :
    plainParser [exported] (render (canonicalize (logicalExport exported))) = .ok exported := by
  simp [plainParser]

def plainLabel (workspace : LogicalId) : AccessLabel where
  workspace
  scopes := ∅
  owners := {"owner"}
  audience := ∅
  audiencePurposeGrants := ∅
  purposes := ∅
  sensitivity := .public
  consent := .granted
  retrievable := true

def plainPrincipal (workspace : LogicalId) : Principal where
  subject := "owner"
  audiences := ∅
  workspace
  scopes := ∅
  purpose := "audit"
  clearance := .public

def noLinks : SemanticLinks where
  subject := none
  source := none
  target := none
  predicate := none
  conflictSet := none
  supersedes := ∅
  evidence := ∅
  conflictMembers := ∅
  singleValued := false

def plainRecord (id : LogicalId) (kind : RecordKind) (workspace : LogicalId)
    (links : SemanticLinks) : LogicalRecord where
  id
  kind
  access := plainLabel workspace
  validTime := ⟨none, none⟩
  lifecycle := .active
  links
  value := .null
  searchText := none
  vector := none
  attributes := ∅

def plainNode (id workspace : LogicalId) : Mutation :=
  .put (plainRecord id .node workspace noLinks) none

def plainClaim (id workspace subject : LogicalId) (conflictSet : Option LogicalId) :
    LogicalRecord :=
  plainRecord id .claim workspace
    { noLinks with subject := some subject, predicate := some "p", conflictSet, singleValued := true }

def plainConflict (id workspace : LogicalId) (members : List LogicalId) : LogicalRecord :=
  plainRecord id .conflict workspace { noLinks with conflictMembers := .ofList members }

def plainDispute : List Mutation :=
  [plainNode "n" "w", .put (plainClaim "a" "w" "n" (some "c")) none,
    .put (plainClaim "b" "w" "n" (some "c")) none, .put (plainConflict "c" "w" ["a", "b"]) none]

end ContextDb.Reference
