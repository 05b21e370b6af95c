import CommerceAgent.Lib.Permutations
import CommerceAgent.Lib.Raising
import CommerceAgent.ValueResolver.Resolver

/-!
# The knowledge catalog

`import_catalog` puts a reviewed catalog into the tables and makes it the active one. The views, the
store and `KnowledgeModule.retrieve` serve the active one.
-/

open CommerceAgent.Lib
open CommerceAgent.Operations (Text Name HexDigest Checked)
open CommerceAgent.ValueResolver (ValueDomain)

namespace CommerceAgent.Knowledge

/-! ## Catalogs -/

inductive KnowledgeKind where
  | table
  | column
  | join
  | metric
  | data_quality
  | permission
  deriving DecidableEq, Repr

/-- `_KIND_ORDER[kind]`. -/
def KnowledgeKind.order : KnowledgeKind → ℕ
  | .table => 0
  | .column => 1
  | .join => 2
  | .metric => 3
  | .data_quality => 4
  | .permission => 5

inductive Profile where
  | retail
  deriving DecidableEq, Repr

inductive Locale where
  | en
  | pt_BR
  | zh_CN
  deriving DecidableEq, Repr

abbrev DocId := Name 2 127

/-- `^retail-catalog-v[0-9]+$`. -/
def isRevisionId (s : String) : Bool :=
  match s.toList.splitAt 16 with
  | (start, digits) => start == "retail-catalog-v".toList && digits.all Char.isDigit && !digits.isEmpty

abbrev RevisionId := Checked isRevisionId

variable {κ : Type}

/-- A document. Its content, a JSON object, is of any type. -/
structure CatalogDocument (κ : Type) where
  doc_id : DocId
  kind : KnowledgeKind
  title : Text 1 200
  content : κ
  source_type : Text 1 64
  source_path : Text 1 500
  source_sha256 : HexDigest
  allowed_profiles : List Profile
  profiled : allowed_profiles ≠ []

structure CatalogAlias where
  domain : ValueDomain
  normalized_alias : Text 1 256
  canonical_value : Text 1 256
  display_label : Text 1 256
  locale : Locale
  source_doc_id : DocId
  deriving DecidableEq

structure CatalogFile (κ : Type) where
  revision_id : RevisionId
  data_manifest_sha256 : HexDigest
  documents : List (CatalogDocument κ)
  aliases : List CatalogAlias
  nonempty : documents ≠ []

/-- What the code takes from the standard library, and from pydantic. -/
structure CatalogLibrary (κ : Type) where
  /-- `CatalogFile.model_validate(json.loads(data.decode("utf-8")))`, unless it raises. -/
  catalog_file : List UInt8 → Option (CatalogFile κ)
  /-- `catalog_content_sha256(catalog)`. -/
  content_sha256 : CatalogFile κ → HexDigest
  /-- `sha256(data).hexdigest()`. -/
  sha256 : List UInt8 → HexDigest
  /-- `content.get("status")`, where it is a string. -/
  status : κ → Option String
  /-- What a `JSONB` column gives back for a content: it may rewrite its numbers. -/
  jsonb : κ → κ
  status_jsonb : ∀ content, status (jsonb content) = status content

inductive KnowledgeError where
  | catalog_invalid (reason_code message : String)
  | revision_unavailable (reason_code message : String)
  | infrastructure (reason_code message : String)
  /-- An exception of the database. -/
  | database
  /-- A `ValidationError`. -/
  | validation
  deriving DecidableEq

def KnowledgeCatalogInvalid (reason_code message : String) : KnowledgeError := .catalog_invalid reason_code message
def KnowledgeRevisionUnavailable (reason_code message : String) : KnowledgeError :=
  .revision_unavailable reason_code message

def GMV : String := "metric.gmv"

variable (library : CatalogLibrary κ)

/-- The contents under the name `metric.gmv`. -/
def gmv_contents (documents : List (CatalogDocument κ)) : List κ :=
  (documents.filter fun document => document.doc_id.text = GMV).map CatalogDocument.content

/-- The one definition of the metric requires a clarification. -/
def Clarifies (contents : List κ) : Prop :=
  ∃ content, contents = [content] ∧ library.status content = some "clarification_required"

instance (contents : List κ) : Decidable (Clarifies library contents) :=
  match contents with
  | [] => isFalse fun ⟨_, h, _⟩ => nomatch h
  | [content] => decidable_of_iff (library.status content = some "clarification_required")
      ⟨fun h => ⟨content, rfl, h⟩, fun ⟨_, heq, h⟩ => (List.cons.inj heq).1 ▸ h⟩
  | _ :: _ :: _ => isFalse fun ⟨_, h, _⟩ => nomatch (List.cons.inj h).2

def doc_ids (catalog : CatalogFile κ) : List DocId := catalog.documents.map CatalogDocument.doc_id
def alias_keys (catalog : CatalogFile κ) : List (ValueDomain × String) :=
  catalog.aliases.map fun a => (a.domain, a.normalized_alias.text)

/-- A catalog that `_validate_invariants` has passed. -/
structure ValidatedCatalog (library : CatalogLibrary κ) where
  catalog : CatalogFile κ
  source_path : String
  unique_documents : (doc_ids catalog).Nodup
  unique_aliases : (alias_keys catalog).Nodup
  sources : ∀ a ∈ catalog.aliases, a.source_doc_id ∈ doc_ids catalog
  clarifies : Clarifies library (gmv_contents catalog.documents)

def validate_invariants (catalog : CatalogFile κ) (source_path : String) :
    Except KnowledgeError (ValidatedCatalog library) :=
  if hdocuments : (doc_ids catalog).Nodup then
    if haliases : (alias_keys catalog).Nodup then
      if hsources : ∀ a ∈ catalog.aliases, a.source_doc_id ∈ doc_ids catalog then
        if gmv_contents catalog.documents = [] then
          .error (KnowledgeCatalogInvalid "gmv_missing" "catalog must define metric.gmv")
        else if hclarifies : Clarifies library (gmv_contents catalog.documents) then
          .ok ⟨catalog, source_path, hdocuments, haliases, hsources, hclarifies⟩
        else .error (KnowledgeCatalogInvalid "gmv_definition" "metric.gmv must require clarification")
      else .error (KnowledgeCatalogInvalid "alias_source_missing" "catalog alias references a missing source document")
    else .error (KnowledgeCatalogInvalid "duplicate_alias" "catalog alias keys must be unique within a revision")
  else .error (KnowledgeCatalogInvalid "duplicate_doc_id" "catalog document IDs must be unique")

def load_catalog_bytes (data : List UInt8) (source_path : String) : Except KnowledgeError (ValidatedCatalog library) :=
  match library.catalog_file data with
  | none => .error (KnowledgeCatalogInvalid "catalog_shape" "catalog does not match the reviewed schema")
  | some catalog => validate_invariants library catalog source_path

/-! ## The tables -/

structure RevisionRow where
  revision_id : RevisionId
  content_sha256 : HexDigest
  source_path : String
  source_sha256 : HexDigest
  data_manifest_sha256 : HexDigest
  active : Bool
  deriving DecidableEq

structure DocumentRow (κ : Type) where
  revision_id : RevisionId
  document : CatalogDocument κ

structure AliasRow where
  revision_id : RevisionId
  entry : CatalogAlias
  deriving DecidableEq

/-- The schema `knowledge`. -/
structure Tables (κ : Type) where
  catalog_revision : List RevisionRow
  document : List (DocumentRow κ)
  value_alias : List AliasRow

namespace Tables

def empty : Tables κ := ⟨[], [], []⟩

def document_keys (tables : Tables κ) : List (RevisionId × DocId) :=
  tables.document.map fun row => (row.revision_id, row.document.doc_id)

/-- The keys, the unique columns and the references of the three tables. -/
structure Constrained (tables : Tables κ) : Prop where
  revision_ids : (tables.catalog_revision.map RevisionRow.revision_id).Nodup
  contents : (tables.catalog_revision.map RevisionRow.content_sha256).Nodup
  single_active : (tables.catalog_revision.filter RevisionRow.active).length ≤ 1
  documents : tables.document_keys.Nodup
  document_revisions : ∀ row ∈ tables.document, row.revision_id ∈ tables.catalog_revision.map RevisionRow.revision_id
  aliases : (tables.value_alias.map fun row =>
    (row.revision_id, row.entry.domain, row.entry.normalized_alias.text)).Nodup
  alias_revisions : ∀ row ∈ tables.value_alias, row.revision_id ∈ tables.catalog_revision.map RevisionRow.revision_id
  alias_documents : ∀ row ∈ tables.value_alias, (row.revision_id, row.entry.source_doc_id) ∈ tables.document_keys

theorem constrained_iff {tables : Tables κ} : tables.Constrained ↔
    (tables.catalog_revision.map RevisionRow.revision_id).Nodup ∧
    (tables.catalog_revision.map RevisionRow.content_sha256).Nodup ∧
    (tables.catalog_revision.filter RevisionRow.active).length ≤ 1 ∧ tables.document_keys.Nodup ∧
    (∀ row ∈ tables.document, row.revision_id ∈ tables.catalog_revision.map RevisionRow.revision_id) ∧
    (tables.value_alias.map fun row => (row.revision_id, row.entry.domain, row.entry.normalized_alias.text)).Nodup ∧
    (∀ row ∈ tables.value_alias, row.revision_id ∈ tables.catalog_revision.map RevisionRow.revision_id) ∧
    ∀ row ∈ tables.value_alias, (row.revision_id, row.entry.source_doc_id) ∈ tables.document_keys :=
  ⟨fun ⟨h₁, h₂, h₃, h₄, h₅, h₆, h₇, h₈⟩ => ⟨h₁, h₂, h₃, h₄, h₅, h₆, h₇, h₈⟩,
    fun ⟨h₁, h₂, h₃, h₄, h₅, h₆, h₇, h₈⟩ => ⟨h₁, h₂, h₃, h₄, h₅, h₆, h₇, h₈⟩⟩

instance (tables : Tables κ) : Decidable tables.Constrained := decidable_of_iff _ constrained_iff.symm

/-- A statement whose effect is checked. -/
def write (tables : Tables κ) : Except KnowledgeError (Tables κ) :=
  if tables.Constrained then .ok tables else .error .database

end Tables

/-! ## The import -/

inductive ImportStatus where
  | inserted
  | no_op
  deriving DecidableEq, Repr

structure ImportOutcome where
  status : ImportStatus
  revision_id : RevisionId
  source_sha256 : HexDigest
  content_sha256 : HexDigest
  document_count : ℕ
  alias_count : ℕ
  deriving DecidableEq

/-- The values of each domain in the retail tables. -/
abbrev DomainValues := ValueDomain → List String

/-- The domains of the aliases, in the order of their names. -/
def alias_domains (catalog : CatalogFile κ) : List ValueDomain :=
  (catalog.aliases.map CatalogAlias.domain).dedup.insertionSort (ValueDomain.value · ≤ ValueDomain.value ·)

def verify_alias_targets (retail : DomainValues) (catalog : CatalogFile κ) : Except KnowledgeError Unit :=
  (alias_domains catalog).forM fun domain =>
    let expected := (catalog.aliases.filter fun a => a.domain = domain).map fun a => a.canonical_value.text
    let actual := (retail domain).filter fun value => value ∈ expected
    if expected ⊆ actual then .ok ()
    else .error (KnowledgeCatalogInvalid "alias_target_missing"
      s!"catalog aliases reference unavailable values in {domain.value}")

def insert_catalog (validated : ValidatedCatalog library) (source_sha256 content_sha256 : HexDigest)
    (tables : Tables κ) : Except KnowledgeError (Tables κ) := do
  let catalog := validated.catalog
  let tables ← Tables.write { tables with
    catalog_revision := tables.catalog_revision ++
      [⟨catalog.revision_id, content_sha256, validated.source_path, source_sha256, catalog.data_manifest_sha256,
        false⟩] }
  let tables ← Tables.write { tables with
    document := tables.document ++ catalog.documents.map fun document =>
      ⟨catalog.revision_id, { document with content := library.jsonb document.content }⟩ }
  Tables.write { tables with
    value_alias := tables.value_alias ++ catalog.aliases.map fun entry => ⟨catalog.revision_id, entry⟩ }

/-- The two updates that activate a revision. -/
def activate (revision_id : RevisionId) (tables : Tables κ) : Except KnowledgeError (Tables κ) := do
  let tables ← Tables.write { tables with
    catalog_revision := tables.catalog_revision.map fun row => { row with active := false } }
  Tables.write { tables with
    catalog_revision := tables.catalog_revision.map fun row =>
      if row.revision_id = revision_id then { row with active := true } else row }

def check_counts (catalog : CatalogFile κ) (tables : Tables κ) : Except KnowledgeError Unit :=
  if (tables.document.filter fun row => row.revision_id = catalog.revision_id).length ≠ catalog.documents.length then
    .error (KnowledgeCatalogInvalid "document_count" "inserted document count does not match catalog")
  else if (tables.value_alias.filter fun row => row.revision_id = catalog.revision_id).length ≠ catalog.aliases.length
    then
    .error (KnowledgeCatalogInvalid "alias_count" "inserted alias count does not match catalog")
  else .ok ()

/-- What an import reads: the bytes of the file, its path, and the retail tables. -/
structure ImportRequest where
  raw_bytes : List UInt8
  catalog_path : String
  retail : DomainValues

/-- `import_catalog(...)`, up to its commit: the outcome, and the tables to commit. -/
def import_catalog (request : ImportRequest) (tables : Tables κ) :
    Except KnowledgeError (ImportOutcome × Tables κ) := do
  let source_sha256 := library.sha256 request.raw_bytes
  let validated ← load_catalog_bytes library request.raw_bytes request.catalog_path
  let catalog := validated.catalog
  let content_sha256 := library.content_sha256 catalog
  let outcome (status : ImportStatus) : ImportOutcome :=
    ⟨status, catalog.revision_id, source_sha256, content_sha256, catalog.documents.length, catalog.aliases.length⟩
  if content_sha256 ∈ tables.catalog_revision.map RevisionRow.content_sha256 then .ok (outcome .no_op, tables)
  else if catalog.revision_id ∈ tables.catalog_revision.map RevisionRow.revision_id then
    .error (KnowledgeCatalogInvalid "revision_conflict" "catalog revision ID already exists with different content")
  else
    verify_alias_targets request.retail catalog
    let tables ← insert_catalog library validated source_sha256 content_sha256 tables
    check_counts catalog tables
    let tables ← activate catalog.revision_id tables
    .ok (outcome .inserted, tables)

/-- How a transaction ends: as its statements say, broken off before its commit, or committed without an answer. -/
inductive Fate where
  | answered
  | broken
  | unanswered
  deriving DecidableEq, Repr

/-- One import, and what it leaves in the tables. -/
def attempt (request : ImportRequest) (fate : Fate) (tables : Tables κ) :
    Except KnowledgeError ImportOutcome × Tables κ :=
  match import_catalog library request tables, fate with
  | .error e, _ => (.error e, tables)
  | .ok _, .broken => (.error .database, tables)
  | .ok (_, after), .unanswered => (.error .database, after)
  | .ok (outcome, after), .answered => (.ok outcome, after)

/-- Imports, one after another. -/
def imports (history : List (ImportRequest × Fate)) : Tables κ :=
  history.foldl (fun tables (request, fate) => (attempt library request fate tables).2) Tables.empty

/-! ## What is served -/

structure ViewRow (κ : Type) where
  revision : RevisionId
  catalog_sha256 : HexDigest
  document : CatalogDocument κ

/-- The view `knowledge.retail_documents`. -/
def retail_documents (tables : Tables κ) : List (ViewRow κ) :=
  (tables.catalog_revision.filter RevisionRow.active).flatMap fun r =>
    (tables.document.filter fun d => d.revision_id = r.revision_id ∧ Profile.retail ∈ d.document.allowed_profiles).map
      fun d => ⟨r.revision_id, r.content_sha256, d.document⟩

structure AliasViewRow where
  revision : RevisionId
  catalog_sha256 : HexDigest
  data_manifest_sha256 : HexDigest
  entry : CatalogAlias
  deriving DecidableEq

/-- The view `ops_read.business_value_aliases`. -/
def business_value_aliases (tables : Tables κ) : List AliasViewRow :=
  (tables.catalog_revision.filter RevisionRow.active).flatMap fun r =>
    (tables.value_alias.filter fun a => a.revision_id = r.revision_id).map
      fun a => ⟨r.revision_id, r.content_sha256, r.data_manifest_sha256, a.entry⟩

structure KnowledgeEvidence (κ : Type) where
  doc_id : DocId
  revision : Text 1 128
  kind : KnowledgeKind
  title : Text 1 200
  content : κ
  source_type : Text 1 64
  source_path : Text 1 500
  source_sha256 : HexDigest

structure StoredKnowledgeCatalog (κ : Type) where
  revision : String
  content_sha256 : HexDigest
  evidence : List (KnowledgeEvidence κ)

namespace KnowledgeEvidence

def ofDocument (revision : Text 1 128) (document : CatalogDocument κ) : KnowledgeEvidence κ where
  doc_id := document.doc_id
  revision := revision
  kind := document.kind
  title := document.title
  content := document.content
  source_type := document.source_type
  source_path := document.source_path
  source_sha256 := document.source_sha256

/-- `KnowledgeEvidence(...)` of a row, unless it raises. -/
def ofRow (row : ViewRow κ) : Option (KnowledgeEvidence κ) :=
  (Checked.parse row.revision.text).map fun revision => ofDocument revision row.document

end KnowledgeEvidence

/-- `PostgresKnowledgeStore.load_retail_catalog()`, of the rows that the view returns. -/
def load_retail_catalog : List (ViewRow κ) → Except KnowledgeError (Option (StoredKnowledgeCatalog κ))
  | [] => .ok none
  | row :: rows =>
    if rows.any fun other => (other.revision, other.catalog_sha256) ≠ (row.revision, row.catalog_sha256) then
      .error (KnowledgeCatalogInvalid "revision_shape" "Knowledge view returned multiple active revisions")
    else
      match (row :: rows).mapM KnowledgeEvidence.ofRow with
      | none => .error (KnowledgeCatalogInvalid "result_shape" "Knowledge view returned an invalid result shape")
      | some evidence => .ok (some ⟨row.revision.text, row.catalog_sha256, evidence⟩)

structure KnowledgeBundle (κ : Type) where
  catalog_revision : Text 1 128
  catalog_sha256 : HexDigest
  evidence : List (KnowledgeEvidence κ)
  nonempty : evidence ≠ []

/-- `(_KIND_ORDER[item.kind], item.doc_id)`. -/
def evidence_key (item : KnowledgeEvidence κ) : ℕ ×ₗ String := toLex (item.kind.order, item.doc_id.text)

def ordered (evidence : List (KnowledgeEvidence κ)) : List (KnowledgeEvidence κ) :=
  evidence.insertionSort (evidence_key · ≤ evidence_key ·)

theorem ordered_ne_nil {evidence : List (KnowledgeEvidence κ)} (h : evidence ≠ []) : ordered evidence ≠ [] := by
  intro hempty
  have hlength : (ordered evidence).length = evidence.length := List.length_insertionSort _ _
  rw [hempty] at hlength
  exact h (List.length_eq_zero_iff.mp hlength.symm)

/-- `KnowledgeModule.retrieve(request)`, of what the store has loaded. -/
def retrieve : Option (StoredKnowledgeCatalog κ) → Except KnowledgeError (KnowledgeBundle κ)
  | none => .error (KnowledgeRevisionUnavailable "revision_missing" "no active Knowledge revision is available")
  | some stored =>
    if hempty : stored.evidence = [] then
      .error (KnowledgeCatalogInvalid "evidence_empty" "the active Knowledge revision contains no retail evidence")
    else if stored.evidence.any fun item => item.revision.text ≠ stored.revision then
      .error (KnowledgeCatalogInvalid "revision_mismatch" "Knowledge evidence does not match the active revision")
    else
      let gmv_documents := (stored.evidence.filter fun item => item.doc_id.text = GMV).map KnowledgeEvidence.content
      if gmv_documents = [] then
        .error (KnowledgeCatalogInvalid "gmv_missing" "the active Knowledge revision does not define metric.gmv")
      else if ¬ Clarifies library gmv_documents then
        .error (KnowledgeCatalogInvalid "gmv_definition" "metric.gmv must require clarification")
      else
        match Checked.parse stored.revision with
        | none => .error .validation
        | some catalog_revision =>
          .ok ⟨catalog_revision, stored.content_sha256, ordered stored.evidence, ordered_ne_nil hempty⟩

/-- Whether a name is among those of a list. -/
@[reducible] def among {ok : String → Bool} (name : Checked ok) (names : List (Checked ok)) : Decidable (name ∈ names) :=
  inferInstance

end CommerceAgent.Knowledge
