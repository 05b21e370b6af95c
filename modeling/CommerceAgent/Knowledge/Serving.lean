import CommerceAgent.Knowledge.Releases

/-!
# What is served

The views show the last release, in whatever order the rows come, and `retrieve` answers with all of its documents.
A release whose name is longer than a `KnowledgeEvidence` takes is active all the same, and nothing is served then.
-/

open CommerceAgent.Lib
open CommerceAgent.Operations (Text Name HexDigest Checked)

namespace CommerceAgent.Knowledge

variable {κ : Type} {library : CatalogLibrary κ}

/-! ## The views -/

namespace Releases

variable {releases : Releases library} {release : Release library}

/-- The last release. -/
def active (releases : Releases library) : Option (Release library) := releases.items.getLast?

theorem items_of_active (h : releases.active = some release) : ∃ older, releases.items = older ++ [release] :=
  ⟨_, (List.dropLast_append_getLast? release h).symm⟩

theorem fresh_of_concat {older : List (Release library)} (h : releases.items = older ++ [release]) :
    release.revision_id ∉ older.map Release.revision_id := by
  have hids := releases.revision_ids
  rw [h, List.map_append] at hids
  exact fun hmem => List.disjoint_of_nodup_append hids hmem (List.mem_singleton_self _)

theorem active_rows {older : List (Release library)} (h : releases.items = older ++ [release]) :
    releases.tables.catalog_revision.filter RevisionRow.active = [release.row true] := by
  have hlast : last_revision releases.items = some release.revision_id := by
    unfold last_revision
    rw [h, List.getLast?_concat]
    rfl
  have hfilter : releases.items.filter (fun other => some other.revision_id = some release.revision_id) =
    [release] := by
    have hmem : release ∈ releases.items := h ▸ List.mem_append_right _ (List.mem_singleton_self _)
    rw [← filter_key_eq releases.revision_ids hmem]
    exact List.filter_congr fun other _ => decide_eq_decide.mpr (Option.some_inj)
  unfold tables
  dsimp only
  rw [filter_rows, hlast, hfilter]
  rfl

theorem active_none (h : releases.active = none) : releases.tables = Tables.empty := by
  have hitems : releases.items = [] := List.getLast?_eq_none_iff.mp h
  unfold tables rows
  rw [hitems]
  rfl

theorem retail_allowed (document : CatalogDocument κ) : Profile.retail ∈ document.allowed_profiles := by
  obtain ⟨profile, hprofile⟩ := List.exists_mem_of_ne_nil _ document.profiled
  cases profile
  exact hprofile

theorem retail_documents_active (h : releases.active = some release) :
    retail_documents releases.tables =
      release.stored.map fun document => ⟨release.revision_id, release.content_sha256, document⟩ := by
  obtain ⟨older, hitems⟩ := items_of_active h
  have hfilter : (releases.items.flatMap Release.documents).filter (fun row => row.revision_id = release.revision_id) =
      release.documents := by
    rw [hitems]
    exact filter_release documents_revision (fresh_of_concat hitems)
  have hretail : (releases.items.flatMap Release.documents).filter (fun row =>
      row.revision_id = release.revision_id ∧ Profile.retail ∈ row.document.allowed_profiles) = release.documents := by
    rw [← hfilter]
    exact List.filter_congr fun row _ => decide_eq_decide.mpr (and_iff_left (retail_allowed row.document))
  unfold retail_documents
  rw [active_rows hitems, List.flatMap_singleton]
  change List.map _ ((releases.items.flatMap Release.documents).filter fun row =>
    row.revision_id = release.revision_id ∧ Profile.retail ∈ row.document.allowed_profiles) = _
  rw [hretail]
  unfold Release.documents Release.stored
  rw [List.map_map, List.map_map]
  rfl

theorem business_value_aliases_active (h : releases.active = some release) :
    business_value_aliases releases.tables = release.catalog.aliases.map fun entry =>
      ⟨release.revision_id, release.content_sha256, release.catalog.data_manifest_sha256, entry⟩ := by
  obtain ⟨older, hitems⟩ := items_of_active h
  have hfilter : (releases.items.flatMap Release.aliases).filter (fun row => row.revision_id = release.revision_id) =
      release.aliases := by
    rw [hitems]
    exact filter_release aliases_revision (fresh_of_concat hitems)
  unfold business_value_aliases
  rw [active_rows hitems, List.flatMap_singleton]
  change List.map _ ((releases.items.flatMap Release.aliases).filter fun row =>
    row.revision_id = release.revision_id) = _
  rw [hfilter]
  unfold Release.aliases
  rw [List.map_map]
  rfl

end Releases

/-! ## The store and the module -/

/-- The release that is served, as a bundle. -/
structure Serves (release : Release library) (bundle : KnowledgeBundle κ) : Prop where
  revision : bundle.catalog_revision.text = release.revision_id.text
  content : bundle.catalog_sha256 = release.content_sha256
  documents : bundle.evidence.Perm (release.stored.map (KnowledgeEvidence.ofDocument bundle.catalog_revision))
  sorted : bundle.evidence.Pairwise (evidence_key · < evidence_key ·)
  sources : ∀ entry ∈ release.catalog.aliases, entry.source_doc_id ∈ bundle.evidence.map KnowledgeEvidence.doc_id

section Store

variable {release : Release library} {rows : List (ViewRow κ)}

theorem mapM_ofRow {revision : Text 1 128} (hrevision : revision.text = release.revision_id.text)
    (documents : List (CatalogDocument κ)) :
    (documents.map fun document => (⟨release.revision_id, release.content_sha256, document⟩ : ViewRow κ)).mapM
      KnowledgeEvidence.ofRow = some (documents.map (KnowledgeEvidence.ofDocument revision)) := by
  have hrow (document : CatalogDocument κ) :
      KnowledgeEvidence.ofRow ⟨release.revision_id, release.content_sha256, document⟩ =
        some (KnowledgeEvidence.ofDocument revision document) := by
    unfold KnowledgeEvidence.ofRow
    dsimp only
    rw [← hrevision, Checked.parse_text]
    rfl
  induction documents with
  | nil => rfl
  | cons document documents ih => rw [List.map_cons, List.mapM_cons, hrow, ih]; rfl

theorem load_rows {documents : List (CatalogDocument κ)} (hne : documents ≠ []) :
    load_retail_catalog (documents.map fun document => ⟨release.revision_id, release.content_sha256, document⟩) =
      match (documents.map fun document => (⟨release.revision_id, release.content_sha256, document⟩ : ViewRow κ)).mapM
        KnowledgeEvidence.ofRow with
      | none => .error (KnowledgeCatalogInvalid "result_shape" "Knowledge view returned an invalid result shape")
      | some evidence => .ok (some ⟨release.revision_id.text, release.content_sha256, evidence⟩) := by
  obtain ⟨document, documents, rfl⟩ := List.exists_cons_of_ne_nil hne
  rw [List.map_cons]
  have hsame : ((documents.map fun document =>
    (⟨release.revision_id, release.content_sha256, document⟩ : ViewRow κ)).any
      fun other => (other.revision, other.catalog_sha256) ≠ (release.revision_id, release.content_sha256)) = false := by
    rw [List.any_map, List.any_eq_false]
    exact fun _ _ h => absurd rfl (of_decide_eq_true h)
  unfold load_retail_catalog
  dsimp only
  exact if_neg (Bool.eq_false_iff.mp hsame)

theorem revision_id_nonempty (revision_id : RevisionId) : 1 ≤ revision_id.text.length := by
  rw [Nat.one_le_iff_ne_zero, Ne, String.length_eq_zero_iff]
  intro hempty
  have hpasses := revision_id.passes
  rw [hempty] at hpasses
  exact absurd hpasses (by decide)

theorem contents_gmv (revision : Text 1 128) (documents : List (CatalogDocument κ)) :
    ((documents.map (KnowledgeEvidence.ofDocument revision)).filter fun item => item.doc_id.text = GMV).map
      KnowledgeEvidence.content = gmv_contents documents := by
  unfold gmv_contents
  rw [List.filter_map, List.map_map]
  rfl

/-- The stored definition of the metric requires a clarification as the catalog's does, in every order of the rows. -/
theorem clarifies_stored {documents : List (CatalogDocument κ)} (hperm : documents.Perm release.stored) :
    Clarifies library (gmv_contents documents) := by
  obtain ⟨content, hcontent, hstatus⟩ := release.validated.clarifies
  have hstored : gmv_contents release.stored = [library.jsonb content] := by
    have hmap : gmv_contents release.stored = (gmv_contents release.catalog.documents).map library.jsonb := by
      unfold gmv_contents Release.stored
      rw [List.filter_map, List.map_map, List.map_map]
      rfl
    rw [hmap]
    exact congrArg (List.map library.jsonb) hcontent
  have hgmv : (gmv_contents documents).Perm [library.jsonb content] := hstored ▸ (hperm.filter _).map _
  exact ⟨library.jsonb content, List.perm_singleton.mp hgmv, (library.status_jsonb content).trans hstatus⟩

theorem stored_ne_nil (release : Release library) : release.stored ≠ [] :=
  fun h => release.catalog.nonempty (List.map_eq_nil_iff.mp h)

theorem stored_doc_ids (release : Release library) :
    (release.stored.map CatalogDocument.doc_id) = doc_ids release.catalog := by
  unfold Release.stored doc_ids
  rw [List.map_map]
  rfl

theorem ordered_strict {revision : Text 1 128} {documents : List (CatalogDocument κ)}
    (hperm : documents.Perm release.stored) :
    (ordered (documents.map (KnowledgeEvidence.ofDocument revision))).Pairwise (evidence_key · < evidence_key ·) := by
  have hids : (documents.map CatalogDocument.doc_id).Nodup := by
    rw [(hperm.map CatalogDocument.doc_id).nodup_iff, stored_doc_ids]
    exact release.validated.unique_documents
  have hevidence : ((documents.map (KnowledgeEvidence.ofDocument revision)).map KnowledgeEvidence.doc_id).Nodup := by
    rw [List.map_map]
    exact hids
  refine insertionSort_key_strict (List.Nodup.of_map _ hevidence) fun x hx y hy heq => ?_
  have hdoc : x.doc_id = y.doc_id := Checked.ext (congrArg (fun key => (ofLex key).2) heq)
  exact List.inj_on_of_nodup_map hevidence hx hy hdoc

theorem retrieve_ok {stored : StoredKnowledgeCatalog κ} (hne : stored.evidence ≠ [])
    (hsame : ∀ item ∈ stored.evidence, item.revision.text = stored.revision)
    (hclarifies : Clarifies library
      ((stored.evidence.filter fun item => item.doc_id.text = GMV).map KnowledgeEvidence.content))
    {revision : Text 1 128} (hrevision : Checked.parse stored.revision = some revision) :
    retrieve library (some stored) =
      .ok ⟨revision, stored.content_sha256, ordered stored.evidence, ordered_ne_nil hne⟩ := by
  have hany : (stored.evidence.any fun item => item.revision.text ≠ stored.revision) = false :=
    List.any_eq_false.mpr fun item hitem h => of_decide_eq_true h (hsame item hitem)
  have hgmv : (stored.evidence.filter fun item => item.doc_id.text = GMV).map KnowledgeEvidence.content ≠ [] := by
    obtain ⟨content, hcontent, -⟩ := hclarifies
    exact hcontent ▸ List.cons_ne_nil _ _
  unfold retrieve
  dsimp only
  rw [dif_neg hne, hany, if_neg Bool.false_ne_true, if_neg hgmv, if_neg (not_not.mpr hclarifies), hrevision]

/-- The rows of a release in any order make its bundle, if its name is short enough for an evidence. -/
theorem retrieve_rows (hrows : rows.Perm (release.stored.map fun document =>
      ⟨release.revision_id, release.content_sha256, document⟩)) :
    if release.revision_id.text.length ≤ 128 then
      ∃ bundle, load_retail_catalog rows >>= retrieve library = .ok bundle ∧ Serves release bundle
    else load_retail_catalog rows >>= retrieve library =
      .error (KnowledgeCatalogInvalid "result_shape" "Knowledge view returned an invalid result shape") := by
  obtain ⟨documents, hperm, rfl⟩ := (perm_map_iff _).mp hrows
  have hne : documents ≠ [] := fun h => stored_ne_nil release (List.perm_nil.mp (h ▸ hperm).symm)
  rw [load_rows hne]
  split_ifs with hlength
  · have hnonempty : 1 ≤ release.revision_id.text.length := revision_id_nonempty release.revision_id
    have hchecked : (decide (1 ≤ release.revision_id.text.length) && decide (release.revision_id.text.length ≤ 128)) =
      true := by
      rw [decide_eq_true hnonempty, decide_eq_true hlength, Bool.and_true]
    obtain ⟨revision, hrevision⟩ : ∃ revision : Text 1 128, revision.text = release.revision_id.text :=
      ⟨⟨release.revision_id.text, hchecked⟩, rfl⟩
    have hevidence : documents.map (KnowledgeEvidence.ofDocument revision) ≠ [] := fun h =>
      hne (List.map_eq_nil_iff.mp h)
    have hserved : (ordered (documents.map (KnowledgeEvidence.ofDocument revision))).Perm
        (release.stored.map (KnowledgeEvidence.ofDocument revision)) :=
      (List.perm_insertionSort _ _).trans (hperm.map _)
    refine ⟨⟨revision, release.content_sha256, _, ordered_ne_nil hevidence⟩, ?_, hrevision, rfl, hserved,
      ordered_strict hperm, fun entry hentry => ?_⟩
    · rw [mapM_ofRow hrevision]
      refine retrieve_ok hevidence (fun item hitem => ?_) ?_ (hrevision ▸ Checked.parse_text revision)
      · obtain ⟨document, -, rfl⟩ := List.mem_map.mp hitem
        exact hrevision
      · exact (contents_gmv revision documents).symm ▸ clarifies_stored hperm
    · have hids : (release.stored.map (KnowledgeEvidence.ofDocument revision)).map KnowledgeEvidence.doc_id =
          doc_ids release.catalog := by
        rw [List.map_map, ← stored_doc_ids]
        rfl
      rw [(hserved.map KnowledgeEvidence.doc_id).mem_iff, hids]
      exact release.validated.sources entry hentry
  · have hrow : ∀ row ∈ documents.map fun document =>
        (⟨release.revision_id, release.content_sha256, document⟩ : ViewRow κ), KnowledgeEvidence.ofRow row = none := by
      intro row hrow
      obtain ⟨document, -, rfl⟩ := List.mem_map.mp hrow
      unfold KnowledgeEvidence.ofRow Checked.parse
      rw [dif_neg fun h => hlength (of_decide_eq_true (Bool.and_eq_true_iff.mp h).2)]
      rfl
    obtain ⟨document, rest, rfl⟩ := List.exists_cons_of_ne_nil hne
    rw [List.map_cons, List.mapM_cons, hrow _ List.mem_cons_self]
    rfl

end Store

/-! ## The whole history -/

/-- **After every history of imports** that were answered, broken off or left without an answer, the views serve
exactly the last release. -/
theorem knowledge_served (library : CatalogLibrary κ) (history : List (ImportRequest × Fate)) {rows : List (ViewRow κ)}
    (hrows : rows.Perm (retail_documents (imports library history))) :
    (∀ request fate, attempt library request fate (imports library history) =
      (((Releases.run library history).attempt request fate).1,
        ((Releases.run library history).attempt request fate).2.tables)) ∧
    match (Releases.run library history).active with
    | none =>
      load_retail_catalog rows >>= retrieve library =
        .error (KnowledgeRevisionUnavailable "revision_missing" "no active Knowledge revision is available") ∧
      business_value_aliases (imports library history) = []
    | some release =>
      (if release.revision_id.text.length ≤ 128 then
        ∃ bundle, load_retail_catalog rows >>= retrieve library = .ok bundle ∧ Serves release bundle
      else load_retail_catalog rows >>= retrieve library =
        .error (KnowledgeCatalogInvalid "result_shape" "Knowledge view returned an invalid result shape")) ∧
      business_value_aliases (imports library history) = release.catalog.aliases.map fun entry =>
        ⟨release.revision_id, release.content_sha256, release.catalog.data_manifest_sha256, entry⟩ := by
  rw [Releases.imports_run] at hrows ⊢
  refine ⟨fun request fate => Releases.attempt_publishes request fate _, ?_⟩
  cases hactive : (Releases.run library history).active with
  | none =>
    rw [Releases.active_none hactive] at hrows ⊢
    rw [List.perm_nil.mp hrows]
    exact ⟨rfl, rfl⟩
  | some release =>
    rw [Releases.retail_documents_active hactive] at hrows
    exact ⟨retrieve_rows hrows, Releases.business_value_aliases_active hactive⟩

/-! ## A second catalog -/

def gmv_document : CatalogDocument (Option String) where
  doc_id := ⟨"metric.gmv", by decide⟩
  kind := .metric
  title := ⟨"Gross merchandise value", by decide⟩
  content := some "clarification_required"
  source_type := ⟨"metric", by decide⟩
  source_path := ⟨"docs/metrics.md", by decide⟩
  source_sha256 := HexDigest.ofNat 7
  allowed_profiles := [.retail]
  profiled := List.cons_ne_nil _ _

def orders_document : CatalogDocument (Option String) :=
  { gmv_document with
    doc_id := ⟨"table.orders", by decide⟩
    kind := .table
    content := none }

/-- Two catalogs under their file contents, the second with a document more. -/
def two_catalogs : CatalogLibrary (Option String) where
  catalog_file
    | [1] => some ⟨⟨"retail-catalog-v1", by decide⟩, HexDigest.ofNat 1, [gmv_document], [], List.cons_ne_nil _ _⟩
    | [2] => some ⟨⟨"retail-catalog-v2", by decide⟩, HexDigest.ofNat 1, [gmv_document, orders_document], [],
        List.cons_ne_nil _ _⟩
    | _ => none
  content_sha256 catalog := HexDigest.ofNat catalog.documents.length
  sha256 data := HexDigest.ofNat (data.map UInt8.toNat).sum
  status := id
  jsonb := id
  status_jsonb _ := rfl

def import_of (byte : UInt8) : ImportRequest := ⟨[byte], "data/knowledge/retail_catalog.json", fun _ => []⟩

/-- The second import breaks off, is tried again without an answer, and the first catalog is imported once more. -/
def two_imports : List (ImportRequest × Fate) :=
  [(import_of 1, .answered), (import_of 2, .broken), (import_of 2, .unanswered), (import_of 1, .answered)]

theorem two_imports_active :
    (Releases.run two_catalogs two_imports).active.map (fun release => release.revision_id.text) =
      some "retail-catalog-v2" := by
  decide +kernel

theorem knowledge_served_second : ∃ bundle,
    load_retail_catalog (retail_documents (imports two_catalogs two_imports)) >>= retrieve two_catalogs = .ok bundle ∧
      bundle.catalog_revision.text = "retail-catalog-v2" := by
  obtain ⟨release, hactive, hrevision⟩ := Option.map_eq_some_iff.mp two_imports_active
  have hserved := (knowledge_served two_catalogs two_imports (List.Perm.refl _)).2
  rw [hactive] at hserved
  have hlength : release.revision_id.text.length ≤ 128 := by
    rw [hrevision]
    decide
  have hbundle := hserved.1
  rw [if_pos hlength] at hbundle
  obtain ⟨bundle, hok, hserves⟩ := hbundle
  exact ⟨bundle, hok, hserves.revision.trans hrevision⟩

end CommerceAgent.Knowledge
