import CommerceAgent.Knowledge.Catalog

/-!
# Releases of the catalog

The tables stand for a list of releases: the catalogs that were inserted, the last one active.
`attempt` keeps to that list, and `retrieve` serves the last release as a whole.
-/

open CommerceAgent.Lib
open CommerceAgent.Operations (Text Name HexDigest Checked)
open CommerceAgent.ValueResolver (ValueDomain)

namespace CommerceAgent.Knowledge

variable {κ : Type} {library : CatalogLibrary κ}

/-! ## The releases -/

/-- A catalog that was inserted. -/
structure Release (library : CatalogLibrary κ) where
  validated : ValidatedCatalog library
  source_sha256 : HexDigest

namespace Release

variable (release : Release library)

def catalog : CatalogFile κ := release.validated.catalog
def revision_id : RevisionId := release.catalog.revision_id
def content_sha256 : HexDigest := library.content_sha256 release.catalog

def row (active : Bool) : RevisionRow :=
  ⟨release.revision_id, release.content_sha256, release.validated.source_path, release.source_sha256,
    release.catalog.data_manifest_sha256, active⟩

/-- The documents as the table gives them back. -/
def stored : List (CatalogDocument κ) := release.catalog.documents.map fun document =>
  { document with content := library.jsonb document.content }

def documents : List (DocumentRow κ) := release.catalog.documents.map fun document =>
  ⟨release.revision_id, { document with content := library.jsonb document.content }⟩

def aliases : List AliasRow := release.catalog.aliases.map fun entry => ⟨release.revision_id, entry⟩

end Release

/-- The releases, the oldest first. -/
structure Releases (library : CatalogLibrary κ) where
  items : List (Release library)
  revision_ids : (items.map Release.revision_id).Nodup
  contents : (items.map Release.content_sha256).Nodup

namespace Releases

def empty : Releases library := ⟨[], List.nodup_nil, List.nodup_nil⟩

theorem nodup_concat {α : Type} {xs : List α} {x : α} (h : xs.Nodup) (hx : x ∉ xs) : (xs ++ [x]).Nodup :=
  List.nodup_append.mpr ⟨h, List.nodup_singleton x, fun _ ha _ hb heq => hx (List.mem_singleton.mp hb ▸ heq ▸ ha)⟩

def add (releases : Releases library) (release : Release library)
    (hrevision : release.revision_id ∉ releases.items.map Release.revision_id)
    (hcontent : release.content_sha256 ∉ releases.items.map Release.content_sha256) : Releases library where
  items := releases.items ++ [release]
  revision_ids := by
    rw [List.map_append]
    exact nodup_concat releases.revision_ids hrevision
  contents := by
    rw [List.map_append]
    exact nodup_concat releases.contents hcontent

def outcome (release : Release library) (status : ImportStatus) : ImportOutcome :=
  ⟨status, release.revision_id, release.source_sha256, release.content_sha256, release.catalog.documents.length,
    release.catalog.aliases.length⟩

local instance decidableAmong {ok : String → Bool} (name : Checked ok) (names : List (Checked ok)) :
    Decidable (name ∈ names) := among name names

/-- What an import comes to: a content that was released before changes nothing, and another content under the
name of a release is refused. -/
def publish (request : ImportRequest) (releases : Releases library) :
    Except KnowledgeError (ImportOutcome × Releases library) := do
  let validated ← load_catalog_bytes library request.raw_bytes request.catalog_path
  let release : Release library := ⟨validated, library.sha256 request.raw_bytes⟩
  if hcontent : release.content_sha256 ∈ releases.items.map Release.content_sha256 then
    .ok (outcome release .no_op, releases)
  else if hrevision : release.revision_id ∈ releases.items.map Release.revision_id then
    .error (KnowledgeCatalogInvalid "revision_conflict" "catalog revision ID already exists with different content")
  else
    verify_alias_targets request.retail validated.catalog
    .ok (outcome release .inserted, releases.add release hrevision hcontent)

/-- The same under each fate of the transaction. -/
def attempt (request : ImportRequest) (fate : Fate) (releases : Releases library) :
    Except KnowledgeError ImportOutcome × Releases library :=
  match publish request releases, fate with
  | .error e, _ => (.error e, releases)
  | .ok _, .broken => (.error .database, releases)
  | .ok (_, after), .unanswered => (.error .database, after)
  | .ok (outcome, after), .answered => (.ok outcome, after)

variable (library) in
def run (history : List (ImportRequest × Fate)) : Releases library :=
  history.foldl (fun releases (request, fate) => (attempt request fate releases).2) empty

/-! ## The tables of the releases -/

/-- The revisions, of which one may be active. -/
def rows (active : Option RevisionId) (items : List (Release library)) : List RevisionRow :=
  items.map fun release => release.row (some release.revision_id = active)

/-- The name of the last release. -/
def last_revision (items : List (Release library)) : Option RevisionId := items.getLast?.map Release.revision_id

def tables (releases : Releases library) : Tables κ where
  catalog_revision := rows (last_revision releases.items) releases.items
  document := releases.items.flatMap Release.documents
  value_alias := releases.items.flatMap Release.aliases

section Constraints

variable {items documented aliased : List (Release library)} {active : Option RevisionId}

theorem rows_revision_ids : (rows active items).map RevisionRow.revision_id = items.map Release.revision_id := by
  unfold rows
  rw [List.map_map]
  rfl

theorem rows_contents : (rows active items).map RevisionRow.content_sha256 = items.map Release.content_sha256 := by
  unfold rows
  rw [List.map_map]
  rfl

theorem filter_rows : (rows active items).filter RevisionRow.active =
    (items.filter fun release => some release.revision_id = active).map fun release => release.row true := by
  unfold rows
  rw [List.filter_map]
  refine List.map_congr_left fun release hrelease => ?_
  obtain ⟨-, hactive⟩ := List.mem_filter.mp hrelease
  exact congrArg release.row hactive

theorem length_active (hids : (items.map Release.revision_id).Nodup) :
    ((rows active items).filter RevisionRow.active).length ≤ 1 := by
  rw [filter_rows, List.length_map]
  have hnodup : ((items.filter fun release => some release.revision_id = active).map Release.revision_id).Nodup :=
    hids.sublist (List.filter_sublist.map Release.revision_id)
  have hall : ∀ release ∈ items.filter fun release => some release.revision_id = active,
      some release.revision_id = active := fun release hrelease => of_decide_eq_true (List.mem_filter.mp hrelease).2
  generalize (items.filter fun release => some release.revision_id = active) = found at hnodup hall ⊢
  match found with
  | [] => exact Nat.zero_le 1
  | [_] => exact Nat.le_refl 1
  | first :: second :: _ =>
    have heq : first.revision_id = second.revision_id :=
      Option.some.inj ((hall first List.mem_cons_self).trans
        (hall second (List.mem_cons_of_mem _ List.mem_cons_self)).symm)
    exact absurd (heq ▸ List.mem_cons_self) (List.nodup_cons.mp hnodup).1

theorem mem_documents {row : DocumentRow κ} : row ∈ documented.flatMap Release.documents ↔
    ∃ release ∈ documented, ∃ document ∈ release.catalog.documents,
      row = ⟨release.revision_id, { document with content := library.jsonb document.content }⟩ := by
  simp only [List.mem_flatMap, Release.documents, List.mem_map, eq_comm]

theorem mem_aliases {row : AliasRow} : row ∈ aliased.flatMap Release.aliases ↔
    ∃ release ∈ aliased, ∃ entry ∈ release.catalog.aliases, row = ⟨release.revision_id, entry⟩ := by
  simp only [List.mem_flatMap, Release.aliases, List.mem_map, eq_comm]

/-- Keys that carry the name of their release are distinct when they are within each release. -/
theorem nodup_keys {ρ β : Type} {rows_of : Release library → List ρ} {key : ρ → RevisionId × β}
    (hids : (items.map Release.revision_id).Nodup) (hrows : ∀ release ∈ items, ((rows_of release).map key).Nodup)
    (hkey : ∀ release ∈ items, ∀ row ∈ rows_of release, (key row).1 = release.revision_id) :
    ((items.flatMap rows_of).map key).Nodup := by
  induction items with
  | nil => exact List.nodup_nil
  | cons release items ih =>
    rw [List.map_cons, List.nodup_cons] at hids
    rw [List.flatMap_cons, List.map_append]
    refine List.nodup_append.mpr ⟨hrows release List.mem_cons_self, ?_, ?_⟩
    · exact ih hids.2 (fun other h => hrows other (List.mem_cons_of_mem _ h)) fun other h =>
        hkey other (List.mem_cons_of_mem _ h)
    · rintro k hk _ hother rfl
      obtain ⟨row, hrow, rfl⟩ := List.mem_map.mp hk
      obtain ⟨other_row, hmem, heq⟩ := List.mem_map.mp hother
      obtain ⟨other, hotherin, hotherrow⟩ := List.mem_flatMap.mp hmem
      have hfirst := hkey release List.mem_cons_self row hrow
      have hsecond := hkey other (List.mem_cons_of_mem _ hotherin) other_row hotherrow
      rw [heq, hfirst] at hsecond
      exact hids.1 (hsecond ▸ List.mem_map_of_mem hotherin)

theorem constrained (hids : (items.map Release.revision_id).Nodup)
    (hcontents : (items.map Release.content_sha256).Nodup)
    (hdocumented : documented.Sublist items) (haliased : aliased.Sublist documented) :
    Tables.Constrained ⟨rows active items, documented.flatMap Release.documents, aliased.flatMap Release.aliases⟩ where
  revision_ids := by rwa [rows_revision_ids]
  contents := by rwa [rows_contents]
  single_active := length_active hids
  documents := by
    refine nodup_keys (hids.sublist (hdocumented.map _)) (fun release _ => ?_) fun release _ row hrow => ?_
    · have hkeys : (release.documents.map fun row => (row.revision_id, row.document.doc_id)) =
          (doc_ids release.catalog).map (Prod.mk release.revision_id) := by
        unfold Release.documents doc_ids
        rw [List.map_map, List.map_map]
        rfl
      rw [hkeys]
      exact release.validated.unique_documents.map (Prod.mk_right_injective _)
    · obtain ⟨document, -, rfl⟩ := List.mem_map.mp hrow
      rfl
  document_revisions row hrow := by
    obtain ⟨release, hrelease, document, -, rfl⟩ := mem_documents.mp hrow
    rw [rows_revision_ids]
    exact List.mem_map_of_mem (hdocumented.subset hrelease)
  aliases := by
    refine nodup_keys (hids.sublist ((haliased.trans hdocumented).map _))
      (fun release _ => ?_) fun release _ row hrow => ?_
    · have hkeys : (release.aliases.map fun row =>
        (row.revision_id, row.entry.domain, row.entry.normalized_alias.text)) =
          (alias_keys release.catalog).map (Prod.mk release.revision_id) := by
        unfold Release.aliases alias_keys
        rw [List.map_map, List.map_map]
        rfl
      rw [hkeys]
      exact release.validated.unique_aliases.map (Prod.mk_right_injective _)
    · obtain ⟨entry, -, rfl⟩ := List.mem_map.mp hrow
      rfl
  alias_revisions row hrow := by
    obtain ⟨release, hrelease, entry, -, rfl⟩ := mem_aliases.mp hrow
    rw [rows_revision_ids]
    exact List.mem_map_of_mem ((haliased.trans hdocumented).subset hrelease)
  alias_documents row hrow := by
    obtain ⟨release, hrelease, entry, hentry, rfl⟩ := mem_aliases.mp hrow
    obtain ⟨document, hdocument, hsource⟩ := List.mem_map.mp (release.validated.sources entry hentry)
    have hstored : (⟨release.revision_id, { document with content := library.jsonb document.content }⟩ :
      DocumentRow κ) ∈
        documented.flatMap Release.documents :=
      mem_documents.mpr ⟨release, haliased.subset hrelease, document, hdocument, rfl⟩
    exact List.mem_map.mpr ⟨_, hstored, congrArg (Prod.mk release.revision_id) hsource⟩

end Constraints

/-! ## An import -/

theorem write_ok {tables : Tables κ} (h : tables.Constrained) : tables.write = .ok tables := if_pos h

variable {releases : Releases library} {release : Release library}

theorem last_revision_mem {items : List (Release library)} {revision_id : RevisionId}
    (h : last_revision items = some revision_id) : revision_id ∈ items.map Release.revision_id := by
  obtain ⟨last, hlast, rfl⟩ := Option.map_eq_some_iff.mp h
  exact List.mem_map_of_mem (List.mem_of_getLast? hlast)

theorem rows_concat (hrevision : release.revision_id ∉ releases.items.map Release.revision_id) :
    rows (last_revision releases.items) releases.items ++ [release.row false] =
      rows (last_revision releases.items) (releases.items ++ [release]) := by
  have hother : some release.revision_id ≠ last_revision releases.items := fun h =>
    hrevision (last_revision_mem h.symm)
  unfold rows
  rw [List.map_append, List.map_singleton, decide_eq_false hother]

theorem rows_deactivated (active : Option RevisionId) (items : List (Release library)) :
    (rows active items).map (fun row => { row with active := false }) = rows none items := by
  unfold rows
  rw [List.map_map]
  rfl

theorem rows_activated (revision_id : RevisionId) (items : List (Release library)) :
    ((rows none items).map fun row => if row.revision_id = revision_id then { row with active := true } else row) =
      rows (some revision_id) items := by
  unfold rows
  rw [List.map_map]
  refine List.map_congr_left fun release _ => ?_
  by_cases h : release.revision_id = revision_id
  · exact (if_pos h).trans (by rw [h, decide_eq_true rfl]; rfl)
  · have hne : some release.revision_id ≠ some revision_id := fun heq => h (Option.some.inj heq)
    exact (if_neg h).trans (by rw [decide_eq_false hne]; rfl)

theorem insert_catalog_tables (hrevision : release.revision_id ∉ releases.items.map Release.revision_id)
    (hcontent : release.content_sha256 ∉ releases.items.map Release.content_sha256) :
    insert_catalog library release.validated release.source_sha256 release.content_sha256 releases.tables =
      .ok ⟨rows (last_revision releases.items) (releases.items ++ [release]),
        (releases.items ++ [release]).flatMap Release.documents,
        (releases.items ++ [release]).flatMap Release.aliases⟩ := by
  have hconstrained {documented aliased : List (Release library)}
    (hdocumented : documented.Sublist (releases.items ++ [release]))
      (haliased : aliased.Sublist documented) :
      Tables.Constrained ⟨rows (last_revision releases.items) (releases.items ++ [release]),
        documented.flatMap Release.documents, aliased.flatMap Release.aliases⟩ :=
    constrained (releases.add release hrevision hcontent).revision_ids
      (releases.add release hrevision hcontent).contents
      hdocumented haliased
  have hold : releases.items.Sublist (releases.items ++ [release]) := List.sublist_append_left _ _
  have hnew : (releases.items ++ [release]).Sublist (releases.items ++ [release]) := List.Sublist.refl _
  have hdocuments : releases.items.flatMap Release.documents ++ release.documents =
      (releases.items ++ [release]).flatMap Release.documents := by
    rw [List.flatMap_append, List.flatMap_singleton]
  have haliases : releases.items.flatMap Release.aliases ++ release.aliases =
      (releases.items ++ [release]).flatMap Release.aliases := by
    rw [List.flatMap_append, List.flatMap_singleton]
  -- the revision, the documents and the aliases are written one after another
  unfold insert_catalog tables
  change (Tables.write ⟨rows _ _ ++ [release.row false], releases.items.flatMap Release.documents,
    releases.items.flatMap Release.aliases⟩ >>= _) = _
  rw [rows_concat hrevision, write_ok (hconstrained hold (List.Sublist.refl _)), ok_bind]
  change (Tables.write ⟨_, releases.items.flatMap Release.documents ++ release.documents,
    releases.items.flatMap Release.aliases⟩ >>= _) = _
  rw [hdocuments, write_ok (hconstrained hnew hold), ok_bind]
  change Tables.write ⟨_, _, releases.items.flatMap Release.aliases ++ release.aliases⟩ = _
  rw [haliases, write_ok (hconstrained hnew hnew)]

theorem filter_release {ρ : Type} {rows_of : Release library → List ρ} {revision_of : ρ → RevisionId}
    (hrows : ∀ release, ∀ row ∈ rows_of release, revision_of row = release.revision_id) {items : List (Release library)}
    (hrevision : release.revision_id ∉ items.map Release.revision_id) :
    ((items ++ [release]).flatMap rows_of).filter
      (fun row => revision_of row = release.revision_id) = rows_of release := by
  rw [List.flatMap_append, List.flatMap_singleton, List.filter_append]
  have hnone : (items.flatMap rows_of).filter (fun row => revision_of row = release.revision_id) = [] := by
    refine List.filter_eq_nil_iff.mpr fun row hrow => ?_
    obtain ⟨other, hother, hmem⟩ := List.mem_flatMap.mp hrow
    rw [decide_eq_true_eq, hrows other row hmem]
    exact fun heq => hrevision (heq ▸ List.mem_map_of_mem hother)
  have hall : (rows_of release).filter (fun row => revision_of row = release.revision_id) = rows_of release :=
    List.filter_eq_self.mpr fun row hrow => decide_eq_true (hrows release row hrow)
  rw [hnone, hall, List.nil_append]

theorem documents_revision (release : Release library) :
    ∀ row ∈ release.documents, row.revision_id = release.revision_id := by
  intro row hrow
  obtain ⟨document, -, rfl⟩ := List.mem_map.mp hrow
  rfl

theorem aliases_revision (release : Release library) :
    ∀ row ∈ release.aliases, row.revision_id = release.revision_id := by
  intro row hrow
  obtain ⟨entry, -, rfl⟩ := List.mem_map.mp hrow
  rfl

theorem check_counts_ok (active : Option RevisionId)
    (hrevision : release.revision_id ∉ releases.items.map Release.revision_id) :
    check_counts release.catalog ⟨rows active (releases.items ++ [release]),
      (releases.items ++ [release]).flatMap Release.documents,
      (releases.items ++ [release]).flatMap Release.aliases⟩ = .ok () := by
  have hdocuments : ((releases.items ++ [release]).flatMap Release.documents).filter (fun row =>
      row.revision_id = release.catalog.revision_id) = release.documents := filter_release documents_revision hrevision
  have haliases : ((releases.items ++ [release]).flatMap Release.aliases).filter (fun row =>
      row.revision_id = release.catalog.revision_id) = release.aliases := filter_release aliases_revision hrevision
  unfold check_counts
  rw [hdocuments, haliases, Release.documents, Release.aliases, List.length_map, List.length_map,
    if_neg (not_not.mpr rfl),
    if_neg (not_not.mpr rfl)]

theorem activate_ok (active : Option RevisionId)
    (hrevision : release.revision_id ∉ releases.items.map Release.revision_id)
    (hcontent : release.content_sha256 ∉ releases.items.map Release.content_sha256) :
    activate release.revision_id ⟨rows active (releases.items ++ [release]),
      (releases.items ++ [release]).flatMap Release.documents,
      (releases.items ++ [release]).flatMap Release.aliases⟩ =
        .ok (releases.add release hrevision hcontent).tables := by
  have hconstrained (active : Option RevisionId) : Tables.Constrained ⟨rows active (releases.items ++ [release]),
      (releases.items ++ [release]).flatMap Release.documents, (releases.items ++ [release]).flatMap Release.aliases⟩ :=
    constrained (releases.add release hrevision hcontent).revision_ids
      (releases.add release hrevision hcontent).contents
      (List.Sublist.refl _) (List.Sublist.refl _)
  have hlast : last_revision (releases.items ++ [release]) = some release.revision_id := by
    unfold last_revision
    rw [List.getLast?_concat]
    rfl
  unfold activate
  dsimp only
  rw [rows_deactivated, write_ok (hconstrained none), ok_bind]
  dsimp only
  rw [rows_activated, write_ok (hconstrained _)]
  unfold tables add
  dsimp only
  rw [hlast]

/-- **An import keeps to the releases**: no statement of it violates a constraint. -/
theorem import_catalog_publishes (request : ImportRequest) (releases : Releases library) :
    import_catalog library request releases.tables =
      (releases.publish request).map fun (outcome, after) => (outcome, after.tables) := by
  unfold import_catalog publish
  cases hload : load_catalog_bytes library request.raw_bytes request.catalog_path with
  | error e => rfl
  | ok validated =>
    rw [ok_bind, ok_bind]
    have hcontents : releases.tables.catalog_revision.map RevisionRow.content_sha256 =
        releases.items.map Release.content_sha256 := rows_contents
    have hids : releases.tables.catalog_revision.map RevisionRow.revision_id =
        releases.items.map Release.revision_id := rows_revision_ids
    dsimp only
    rw [hcontents, hids]
    obtain ⟨release, rfl, hsource⟩ : ∃ release : Release library, release.validated = validated ∧
        release = ⟨validated, library.sha256 request.raw_bytes⟩ := ⟨⟨validated, _⟩, rfl, rfl⟩
    rw [← hsource]
    by_cases hcontent : library.content_sha256 release.validated.catalog ∈ releases.items.map Release.content_sha256
    · have hreleased : release.content_sha256 ∈ releases.items.map Release.content_sha256 := hcontent
      rw [if_pos hcontent, dif_pos hreleased, hsource]
      rfl
    · have hnew : release.content_sha256 ∉ releases.items.map Release.content_sha256 := hcontent
      rw [if_neg hcontent, dif_neg hnew]
      by_cases hrevision : release.validated.catalog.revision_id ∈ releases.items.map Release.revision_id
      · have hused : release.revision_id ∈ releases.items.map Release.revision_id := hrevision
        rw [if_pos hrevision, dif_pos hused]
        rfl
      · have hfree : release.revision_id ∉ releases.items.map Release.revision_id := hrevision
        rw [if_neg hrevision, dif_neg hfree]
        cases verify_alias_targets request.retail release.validated.catalog with
        | error e => rfl
        | ok verified =>
          have hsha : library.sha256 request.raw_bytes = release.source_sha256 := by rw [hsource]
          have hinsert := insert_catalog_tables hfree hnew
          have hcounts := check_counts_ok (last_revision releases.items) hfree
          have hactivate := activate_ok (last_revision releases.items) hfree hnew
          rw [ok_bind, ok_bind, hsha]
          unfold Release.content_sha256 Release.catalog at hinsert
          rw [hinsert, ok_bind]
          unfold Release.catalog at hcounts
          rw [hcounts, ok_bind]
          unfold Release.revision_id Release.catalog at hactivate
          rw [hactivate]
          rfl

theorem attempt_publishes (request : ImportRequest) (fate : Fate) (releases : Releases library) :
    Knowledge.attempt library request fate releases.tables =
      ((releases.attempt request fate).1, (releases.attempt request fate).2.tables) := by
  unfold Knowledge.attempt attempt
  rw [import_catalog_publishes]
  cases releases.publish request with
  | error e => rfl
  | ok published => cases fate <;> rfl

theorem tables_empty : (empty : Releases library).tables = Tables.empty := rfl

theorem imports_run (history : List (ImportRequest × Fate)) :
    imports library history = (run library history).tables := by
  unfold imports run
  rw [← tables_empty]
  generalize (empty : Releases library) = releases
  induction history generalizing releases with
  | nil => rfl
  | cons head history ih =>
    obtain ⟨request, fate⟩ := head
    rw [List.foldl_cons, List.foldl_cons]
    dsimp only
    rw [attempt_publishes]
    exact ih _

end Releases

end CommerceAgent.Knowledge
