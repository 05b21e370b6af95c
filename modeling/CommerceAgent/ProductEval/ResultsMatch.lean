import CommerceAgent.ProductEval.Matching

/-!
# The comparison finds the matches

A mapping of the columns is tried on tables with normal forms, and the first that pairs the rows ends the search.
-/

open CommerceAgent.Lib

namespace CommerceAgent.ProductEval

variable {library : ScoringLibrary} {kinds : List Kind} {ordered : Bool} {width : ℕ}
variable {reference agent : List (List Cell)} {mapping : List ℕ}

/-! ## Texts of rows -/

theorem dumps_injective : Function.Injective dumps := by
  intro row row' h
  have htext := String.ofList_injective h
  have hdistinct (row : List (Option String)) :
      (JsonValue.arr (φ := Unit) (row.map fun cell => cell.elim .null .str)).Distinct := by
    refine JsonValue.distinctItems_iff.mpr fun value hvalue => ?_
    obtain ⟨cell, -, rfl⟩ := List.mem_map.mp hvalue
    cases cell <;> trivial
  refine JsonValue.sortKeys_arr_inj (fun cell cell' hcell => ?_)
    (JsonValue.dumps_inj FloatText.half (hdistinct row) (hdistinct row') htext)
  cases cell with
  | none =>
    cases cell' with
    | none => rfl
    | some text => cases hcell
  | some text =>
    cases cell' with
    | none => cases hcell
    | some text' =>
      obtain rfl := JsonValue.str.inj hcell
      rfl

theorem rows_equal_iff {rows rows' : List (List (Option String))} :
    rows_equal ordered rows rows' = true ↔ if ordered then rows = rows' else rows.Perm rows' := by
  unfold rows_equal
  cases ordered with
  | true => simp
  | false => simp [insertionSort_inj, List.map_perm_map_iff dumps_injective]

theorem paired_iff {α : Type} {rows : List α} (f : List Cell → α) :
    (if ordered then rows = agent.map f else rows.Perm (agent.map f)) ↔
      ∃ paired : List (List Cell), (if ordered then paired = agent else paired.Perm agent) ∧ rows = paired.map f := by
  cases ordered with
  | true => simp
  | false => exact perm_map_iff f

/-! ## Tables in normal form -/

theorem mem_of_paired {paired : List (List Cell)} (h : if ordered then paired = agent else paired.Perm agent)
    {cells : List Cell} : cells ∈ paired ↔ cells ∈ agent := by
  cases ordered with
  | true => rw [show paired = agent from h]
  | false => exact List.Perm.mem_iff h

theorem table_readable (hraises : ¬ TableRaises library kinds reference)
    (hread : ∀ cells ∈ reference, ¬ RowUnreadable library kinds cells) {cells : List Cell}
      (hcells : cells ∈ reference) :
    ∀ entry ∈ kinds.zip cells, Readable library entry :=
  (row_normal kinds cells).mpr
    ⟨fun hraise => hraises ⟨cells, reached_of_mem hread hcells, hraise⟩, hread cells hcells⟩

variable (library) in
theorem normalize_table (hlength : ∀ cells ∈ reference, cells.length = kinds.length) :
    ∀ cells ∈ reference, Steps (normalize_row library kinds) (RowRaises library kinds) (RowUnreadable library kinds)
      (normalRow library kinds) cells :=
  fun cells hcells => normalize_row_steps (hlength cells hcells)

theorem positions_exist {α : Type} (hmapping : mapping.Perm (List.range width)) {cells : List α}
    (hcells : cells.length = width) : ∀ position ∈ mapping, (cells[position]?).isSome = true := by
  intro position hposition
  have hlt : position < cells.length := by
    rw [hcells]
    exact List.mem_range.mp (hmapping.mem_iff.mp hposition)
  rw [List.getElem?_eq_getElem hlt]
  rfl

theorem length_rearranged {α : Type} (hmapping : mapping.Perm (List.range width)) {cells : List α}
    (hcells : cells.length = width) : (rearranged mapping cells).length = width := by
  unfold rearranged
  rw [List.filterMap_length_eq_length.mpr (positions_exist hmapping hcells), hmapping.length_eq, List.length_range]

structure Shaped (kinds : List Kind) (width : ℕ) (reference agent : List (List Cell)) : Prop where
  kinds : kinds.length = width
  reference : ∀ cells ∈ reference, cells.length = width
  agent : ∀ cells ∈ agent, cells.length = width

variable (hshape : Shaped kinds width reference agent) (hmapping : mapping.Perm (List.range width))

include hshape hmapping

theorem rearranged_rows : ∀ cells ∈ agent.map (rearranged mapping), cells.length = kinds.length := by
  intro row hrow
  obtain ⟨cells, hcells, rfl⟩ := List.mem_map.mp hrow
  rw [length_rearranged hmapping (hshape.agent cells hcells), hshape.kinds]

variable (ordered) in
theorem normal_tables (hreads : ∀ cells ∈ reference, ∀ entry ∈ kinds.zip cells, Readable library entry)
    (hagent : ∀ cells ∈ agent.map (rearranged mapping), ∀ entry ∈ kinds.zip cells, Readable library entry) :
    rows_equal ordered (reference.map (normalRow library kinds))
        ((agent.map (rearranged mapping)).map (normalRow library kinds)) = true ↔
      TablesPaired (CellsAlike library) kinds ordered reference agent mapping := by
  rw [rows_equal_iff, List.map_map, paired_iff]
  unfold TablesPaired
  refine exists_congr fun paired => and_congr_right fun hpaired => ?_
  have hmem {cells : List Cell} (hcells : cells ∈ paired) : cells ∈ agent := (mem_of_paired hpaired).mp hcells
  rw [← List.forall₂_eq_eq_eq, List.forall₂_map_left_iff, List.forall₂_map_right_iff, List.forall₂_iff_zip,
    List.forall₂_iff_zip]
  refine and_congr_right fun _ => forall_congr' fun cells => forall_congr' fun cells' => ?_
  refine imp_congr_right fun hzip => ?_
  have hcells := (List.of_mem_zip hzip).1
  have hcells' := hmem (List.of_mem_zip hzip).2
  have hlength : cells.length = kinds.length := (hshape.reference cells hcells).trans hshape.kinds.symm
  have hrearranged := List.mem_map_of_mem (f := rearranged mapping) hcells'
  rw [Function.comp_apply, normalRow_eq_iff hlength (rearranged_rows hshape hmapping _ hrearranged)
    (hreads cells hcells) (hagent _ hrearranged)]
  have hwidth : cells'.length = mapping.length := by
    rw [hshape.agent cells' hcells', hmapping.length_eq, List.length_range]
  exact (and_iff_right hwidth).symm

omit hmapping in
theorem TablesPaired.readable (h : TablesPaired (CellsAlike library) kinds ordered reference agent mapping) :
    (∀ cells ∈ reference, ¬ RowUnreadable library kinds cells) ∧
      ∀ cells ∈ agent.map (rearranged mapping), ¬ RowUnreadable library kinds cells := by
  obtain ⟨paired, hpaired, hrows⟩ := h
  have hlength := hrows.length_eq
  have hread {cells cells' : List Cell} (hmem : (cells, cells') ∈ reference.zip paired) :
      ¬ RowUnreadable library kinds cells ∧ ¬ RowUnreadable library kinds (rearranged mapping cells') :=
    (List.forall₂_zip hrows hmem).2.readable ((hshape.reference cells (List.of_mem_zip hmem).1).trans hshape.kinds.symm)
  constructor
  · intro cells hcells
    obtain ⟨index, hindex, rfl⟩ := List.mem_iff_getElem.mp hcells
    have hmem : (reference[index], paired[index]) ∈ reference.zip paired := by
      rw [List.mem_iff_getElem]
      exact ⟨index, by rw [List.length_zip]; omega, List.getElem_zip⟩
    exact (hread hmem).1
  · intro row hrow
    obtain ⟨cells, hcells, rfl⟩ := List.mem_map.mp hrow
    obtain ⟨index, hindex, rfl⟩ := List.mem_iff_getElem.mp ((mem_of_paired hpaired).mpr hcells)
    have hmem : (reference[index], paired[index]) ∈ reference.zip paired := by
      rw [List.mem_iff_getElem]
      exact ⟨index, by rw [List.length_zip]; omega, List.getElem_zip⟩
    exact (hread hmem).2

/-! ## One mapping -/

theorem mapping_matches_ok [DecidablePred (TablesPaired (CellsAlike library) kinds ordered reference agent)]
    (hreads : ∀ cells ∈ reference, ∀ entry ∈ kinds.zip cells, Readable library entry)
    (hraises : ¬ TableRaises library kinds (agent.map (rearranged mapping))) :
    mapping_matches library kinds ordered (reference.map (normalRow library kinds)) agent mapping =
      .ok (decide (TablesPaired (CellsAlike library) kinds ordered reference agent mapping)) := by
  classical
  have hcollect := collect_ok (normalize_table library (rearranged_rows hshape hmapping))
    fun cells hreached hraise => hraises ⟨cells, hreached, hraise⟩
  unfold mapping_matches
  rw [hcollect, ok_bind]
  by_cases hstop : ∃ cells ∈ agent.map (rearranged mapping), RowUnreadable library kinds cells
  · rw [if_pos hstop, decide_eq_false]
    · rfl
    · intro hpaired
      obtain ⟨cells, hcells, hunread⟩ := hstop
      exact (hpaired.readable hshape).2 cells hcells hunread
  · rw [if_neg hstop]
    have hread : ∀ cells ∈ agent.map (rearranged mapping), ¬ RowUnreadable library kinds cells :=
      fun cells hcells hunread => hstop ⟨cells, hcells, hunread⟩
    have hequal := normal_tables ordered hshape hmapping hreads
      fun cells hcells => table_readable hraises hread hcells
    exact congrArg Except.ok (Bool.eq_iff_iff.mpr (hequal.trans decide_eq_true_iff.symm))

theorem mapping_matches_error (rows : List (List (Option String)))
    (hraises : TableRaises library kinds (agent.map (rearranged mapping))) :
    ∃ e, mapping_matches library kinds ordered rows agent mapping = .error e := by
  obtain ⟨cells, hreached, hraise⟩ := hraises
  obtain ⟨e, he⟩ := collect_error (normalize_table library (rearranged_rows hshape hmapping)) hreached hraise
  refine ⟨e, ?_⟩
  unfold mapping_matches
  rw [he]
  rfl

/-! ## The search -/

omit hmapping

theorem search_ok [DecidablePred (TablesPaired (CellsAlike library) kinds ordered reference agent)]
    (hreads : ∀ cells ∈ reference, ∀ entry ∈ kinds.zip cells, Readable library entry)
    (hagent : ∀ mapping, Reached (TablesPaired (CellsAlike library) kinds ordered reference agent)
      (permutations (List.range width)) mapping → ¬ TableRaises library kinds (agent.map (rearranged mapping))) :
    ∃ found, (permutations (List.range width)).anyM
        (mapping_matches library kinds ordered (reference.map (normalRow library kinds)) agent) = .ok found ∧
      (found = true ↔ AnyMapping (CellsAlike library) kinds ordered width reference agent) := by
  have htried : ∀ mapping, Reached (TablesPaired (CellsAlike library) kinds ordered reference agent)
      (permutations (List.range width)) mapping →
      mapping_matches library kinds ordered (reference.map (normalRow library kinds)) agent mapping =
        .ok (decide (TablesPaired (CellsAlike library) kinds ordered reference agent mapping)) :=
          fun mapping hreached =>
    mapping_matches_ok hshape (mem_permutations.mp hreached.mem) hreads (hagent mapping hreached)
  refine ⟨_, anyM_ok htried, ?_⟩
  rw [decide_eq_true_iff]
  unfold AnyMapping
  simp only [mem_permutations]

theorem search_error [DecidablePred (TablesPaired (CellsAlike library) kinds ordered reference agent)]
    (hreads : ∀ cells ∈ reference, ∀ entry ∈ kinds.zip cells, Readable library entry)
    (hreached : Reached (TablesPaired (CellsAlike library) kinds ordered reference agent)
      (permutations (List.range width)) mapping)
    (hraises : TableRaises library kinds (agent.map (rearranged mapping))) :
    ∃ e, (permutations (List.range width)).anyM
        (mapping_matches library kinds ordered (reference.map (normalRow library kinds)) agent) = .error e := by
  refine anyM_error (fun mapping hmem => ?_) hreached
    (mapping_matches_error hshape (mem_permutations.mp hreached.mem) _ hraises)
  by_cases hraise : TableRaises library kinds (agent.map (rearranged mapping))
  · exact Or.inl (mapping_matches_error hshape (mem_permutations.mp hmem) _ hraise)
  · exact Or.inr (mapping_matches_ok hshape (mem_permutations.mp hmem) hreads hraise)

/-! ## Kinds of columns -/

omit hshape

/-- The kind found so far stays, and each cell that is not null is of it. -/
theorem column_kind_some {kind result : Option Kind} {cells : List Cell} (h : column_kind kind cells = some result) :
    (∀ k, kind = some k → result = some k) ∧ ∀ value ∈ cells, value ≠ .null → result = some (cell_kind value) := by
  induction cells generalizing kind with
  | nil =>
    obtain rfl := Option.some.inj h
    exact ⟨fun k hk => hk, fun value hvalue => by cases hvalue⟩
  | cons value cells ih =>
    unfold column_kind at h
    split_ifs at h with hnull hkind
    · obtain ⟨hkeep, hcells⟩ := ih h
      exact ⟨hkeep, List.forall_mem_cons.mpr ⟨fun hne => absurd hnull hne, hcells⟩⟩
    · obtain ⟨hkeep, hcells⟩ := ih h
      have hresult : result = some (cell_kind value) := hkeep _ rfl
      refine ⟨fun k hk => ?_, List.forall_mem_cons.mpr ⟨fun _ => hresult, hcells⟩⟩
      rcases hkind with hkind | hkind
      · rw [hkind] at hk
        cases hk
      · rw [hresult, ← hkind, hk]

theorem column_kind_none {kind : Option Kind} {cells : List Cell} (h : column_kind kind cells = none) :
    ¬ ∃ k, (∀ k', kind = some k' → k = k') ∧ ∀ value ∈ cells, value ≠ .null → k = cell_kind value := by
  rintro ⟨k, hfound, hcells⟩
  induction cells generalizing kind with
  | nil => cases h
  | cons value cells ih =>
    rw [List.forall_mem_cons] at hcells
    unfold column_kind at h
    split_ifs at h with hnull hkind
    · exact ih h hfound hcells.2
    · refine ih h (fun k' hk' => ?_) hcells.2
      rw [hcells.1 hnull]
      exact Option.some.inj hk'
    · refine hkind ?_
      cases kind with
      | none => exact Or.inl rfl
      | some k' => exact Or.inr (by rw [← hfound k' rfl, hcells.1 hnull])

theorem kinds_some (h : reference_column_kinds reference width = some kinds) : Fits kinds width reference := by
  have hall := mapM_eq_some.mp h
  refine ⟨by rw [← hall.length_eq, List.length_range], fun index hindex value hvalue hnull => ?_⟩
  have hlength : index < kinds.length := by
    rw [← hall.length_eq, List.length_range]
    exact hindex
  have hkind := hall.get (by rw [List.length_range]; exact hindex) hlength
  rw [List.get_eq_getElem, List.get_eq_getElem, List.getElem_range] at hkind
  obtain ⟨result, hresult, hget⟩ := Option.map_eq_some_iff.mp hkind
  rw [List.getElem?_eq_getElem hlength, ← hget, (column_kind_some hresult).2 value hvalue hnull]
  rfl

theorem kinds_none (h : reference_column_kinds reference width = none) : ¬ ∃ kinds, Fits kinds width reference := by
  rintro ⟨kinds, hlength, hfits⟩
  obtain ⟨index, hindex, hnone⟩ := mapM_eq_none.mp h
  rw [List.mem_range] at hindex
  have hlt : index < kinds.length := by rwa [hlength]
  refine column_kind_none (Option.map_eq_none_iff.mp hnone) ⟨kinds[index], by simp, fun value hvalue hnull => ?_⟩
  have hkind := hfits index hindex value hvalue hnull
  rw [List.getElem?_eq_getElem hlt] at hkind
  exact Option.some.inj hkind

theorem agree_of_kinds {kind kind' : Kind} {value other : Cell} (h : value ≠ .null → kind = kind') :
    CellsAgree library kind value other ↔ CellsAgree library kind' value other := by
  by_cases hnull : value = .null
  · unfold CellsAgree
    simp [hnull]
  · rw [h hnull]

theorem paired_of_fits {kinds' : List Kind} (hfits : Fits kinds width reference) (hfits' : Fits kinds' width reference)
    (hreference : ∀ cells ∈ reference, cells.length = width)
    (h : TablesPaired (CellsAgree library) kinds ordered reference agent mapping) :
    TablesPaired (CellsAgree library) kinds' ordered reference agent mapping := by
  obtain ⟨paired, hpaired, hrows⟩ := h
  refine ⟨paired, hpaired, List.forall₂_iff_zip.mpr ⟨hrows.length_eq, fun {cells cells'} hzip => ?_⟩⟩
  obtain ⟨hwidth, hrow⟩ := List.forall₂_zip hrows hzip
  have hcells := (List.of_mem_zip hzip).1
  have hlength := hreference cells hcells
  refine ⟨hwidth, List.forall₂_iff_get.mpr ⟨?_, fun index hindex hindex' => ?_⟩⟩
  · rw [← hrow.length_eq, List.length_zip, List.length_zip, hfits.1, hfits'.1]
  · have hcount : index < width := by
      rw [List.length_zip, hfits'.1, hlength, min_self] at hindex
      exact hindex
    have hagree := hrow.get (by rw [List.length_zip, hfits.1, hlength, min_self]; exact hcount) hindex'
    rw [List.get_eq_getElem, List.getElem_zip] at hagree ⊢
    refine (agree_of_kinds fun hnull => ?_).mp hagree
    have hvalue : cells[index] ∈ column reference index :=
      List.mem_filterMap.mpr ⟨cells, hcells, List.getElem?_eq_getElem (by rw [hlength]; exact hcount)⟩
    have hkind := hfits.2 index hcount _ hvalue hnull
    have hkind' := hfits'.2 index hcount _ hvalue hnull
    rw [List.getElem?_eq_getElem (by rw [hfits.1]; exact hcount)] at hkind
    rw [List.getElem?_eq_getElem (by rw [hfits'.1]; exact hcount)] at hkind'
    exact (Option.some.inj hkind).trans (Option.some.inj hkind').symm

/-! ## The comparison -/

theorem AnyMapping.shape {cells : Kind → Cell → Cell → Prop}
    (h : AnyMapping cells kinds ordered width reference agent) :
    reference.length = agent.length ∧ ∀ row ∈ agent, row.length = width := by
  obtain ⟨mapping, hmapping, paired, hpaired, hrows⟩ := h
  have hlength : paired.length = agent.length := by
    cases ordered with
    | true => rw [show paired = agent from hpaired]
    | false => exact List.Perm.length_eq hpaired
  refine ⟨hrows.length_eq.trans hlength, fun row hrow => ?_⟩
  obtain ⟨index, hindex, rfl⟩ := List.mem_iff_getElem.mp ((mem_of_paired hpaired).mpr hrow)
  have hpair := hrows.get (i := index) (by rw [hrows.length_eq]; exact hindex) hindex
  rw [List.get_eq_getElem, List.get_eq_getElem] at hpair
  rw [hpair.1, hmapping.length_eq, List.length_range]

theorem matches_iff (hreference : reference ≠ []) (hlength : ∀ cells ∈ reference, cells.length = width)
    (hfits : Fits kinds width reference) :
    Matches library ordered width reference agent ↔
      AnyMapping (CellsAgree library) kinds ordered width reference agent := by
  constructor
  · rintro (⟨-, hempty⟩ | ⟨kinds', hfits', mapping, hmapping, hpaired⟩)
    · exact absurd hempty hreference
    · exact ⟨mapping, hmapping, paired_of_fits hfits' hfits hlength hpaired⟩
  · exact fun h => Or.inr ⟨kinds, hfits, h⟩

/-- The comparison of tables of one shape, once the kinds are known. -/
def compare_rows (library : ScoringLibrary) (kinds : List Kind) (ordered : Bool) (width : ℕ)
    (reference agent : List (List Cell)) : Except Raised Bool := do
  match ← collect (normalize_row library kinds) reference with
  | none => return false
  | some normalized_reference =>
    (permutations (List.range width)).anyM (mapping_matches library kinds ordered normalized_reference agent)

variable (library ordered) in
theorem compare_rows_correct (hshape : Shaped kinds width reference agent) :
    (∃ result, compare_rows library kinds ordered width reference agent = .ok result ∧
      (result = true ↔ AnyMapping (CellsAgree library) kinds ordered width reference agent)) ↔
      Compared library kinds ordered width reference agent := by
  classical
  have hsteps := normalize_table library fun cells hcells =>
    (hshape.reference cells hcells).trans hshape.kinds.symm
  unfold compare_rows
  by_cases hraises : TableRaises library kinds reference
  · obtain ⟨cells, hreached, hraise⟩ := hraises
    obtain ⟨e, he⟩ := collect_error hsteps hreached hraise
    rw [he]
    exact iff_of_false (by rintro ⟨_, h, -⟩; cases h) fun h => h.reference_reads ⟨cells, hreached, hraise⟩
  rw [collect_ok hsteps fun cells hreached hraise => hraises ⟨cells, hreached, hraise⟩, ok_bind]
  by_cases hstop : ∃ cells ∈ reference, RowUnreadable library kinds cells
  · -- a row that is not read is not paired either
    have halike : ¬ AnyMapping (CellsAlike library) kinds ordered width reference agent := by
      rintro ⟨mapping, -, hpaired⟩
      obtain ⟨cells, hcells, hunread⟩ := hstop
      exact (hpaired.readable hshape).1 cells hcells hunread
    rw [if_pos hstop]
    constructor
    · rintro ⟨result, hresult, hiff⟩
      obtain rfl : false = result := Except.ok.inj hresult
      refine ⟨hraises, fun hread => ?_, fun hagree => absurd (hiff.mpr hagree) (by simp), fun h => absurd h halike⟩
      obtain ⟨cells, hcells, hunread⟩ := hstop
      exact absurd hunread (hread cells hcells)
    · intro h
      exact ⟨false, rfl, iff_of_false (by simp) fun hagree => halike (h.told_apart hagree)⟩
  rw [if_neg hstop]
  dsimp only
  have hread : ∀ cells ∈ reference, ¬ RowUnreadable library kinds cells := fun cells hcells hunread =>
    hstop ⟨cells, hcells, hunread⟩
  have hreads : ∀ cells ∈ reference, ∀ entry ∈ kinds.zip cells, Readable library entry := fun cells hcells =>
    table_readable hraises hread hcells
  by_cases hagent : ∀ mapping, Reached (TablesPaired (CellsAlike library) kinds ordered reference agent)
      (permutations (List.range width)) mapping → ¬ TableRaises library kinds (agent.map (rearranged mapping))
  · obtain ⟨found, hfound, hiff⟩ := search_ok hshape hreads hagent
    rw [hfound]
    constructor
    · rintro ⟨result, hresult, hcorrect⟩
      obtain rfl := Except.ok.inj hresult
      exact ⟨hraises, fun _ => hagent, fun h => hiff.mp (hcorrect.mpr h), fun h => hcorrect.mp (hiff.mpr h)⟩
    · intro h
      exact ⟨found, rfl, hiff.trans ⟨h.same_nan, h.told_apart⟩⟩
  · obtain ⟨mapping, hmapping⟩ := not_forall.mp hagent
    obtain ⟨hreached, hraise⟩ := Classical.not_imp.mp hmapping
    obtain ⟨e, he⟩ := search_error hshape hreads hreached (not_not.mp hraise)
    rw [he]
    exact iff_of_false (by rintro ⟨_, h, -⟩; cases h) fun h => hagent (h.agent_reads hread)

/-- The reference rows over the reference columns. -/
def positional (rows : List (Dict String Cell)) (columns : List String) : List (List Cell) :=
  rows.map fun row => columns.filterMap fun column => row.get? column

theorem canonical_ok {rows : List (Dict String Cell)} {columns : List String}
    (hover : ∀ row ∈ rows, ∀ column ∈ columns, column ∈ row.keys) :
    canonical_reference_rows rows columns = .ok (positional rows columns) ∧
      ∀ cells ∈ positional rows columns, cells.length = columns.length := by
  have hget {row : Dict String Cell} (hrow : row ∈ rows) {column : String} (hcolumn : column ∈ columns) :
      ∃ value, row.get? column = some value := Dict.mem_keys.mp (hover row hrow column hcolumn)
  have hsome {row : Dict String Cell} (hrow : row ∈ rows) :
      columns.filterMap (fun column => row.get? column) = columns.map fun column => (row.get? column).getD .null := by
    rw [← List.filterMap_eq_map]
    refine List.filterMap_congr fun column hcolumn => ?_
    obtain ⟨value, hvalue⟩ := hget hrow hcolumn
    rw [Function.comp_apply, hvalue, Option.getD_some]
  constructor
  · refine mapM_ok fun row hrow => ?_
    rw [hsome hrow]
    refine mapM_ok fun column hcolumn => ?_
    obtain ⟨value, hvalue⟩ := hget hrow hcolumn
    rw [hvalue]
    rfl
  · intro cells hcells
    obtain ⟨row, hrow, rfl⟩ := List.mem_map.mp hcells
    rw [hsome hrow, List.length_map]

theorem ok_false_correct (h : ¬ Matches library ordered width reference agent)
    (hsound : Sound library ordered width reference agent) :
    (∃ result, (.ok false : Except Raised Bool) = .ok result ∧
      (result = true ↔ Matches library ordered width reference agent)) ↔ Sound library ordered width reference agent :=
  iff_of_true ⟨false, rfl, iff_of_false (by simp) h⟩ hsound

/-- The comparison is right exactly when nothing that raises is reached, and neither the signs of zeros, nor integers
without a text, nor NaNs decide. -/
theorem results_match_sound (library : ScoringLibrary) (agent_rows reference_rows : List (Dict String Cell))
    (reference_columns : List String) (ordered : Bool)
    (hover : ∀ row ∈ reference_rows, ∀ column ∈ reference_columns, column ∈ row.keys) :
    (∃ result, results_match library agent_rows reference_rows reference_columns ordered = .ok result ∧
      (result = true ↔ Matches library ordered reference_columns.length (positional reference_rows reference_columns)
        (agent_rows.map Dict.values))) ↔
      Sound library ordered reference_columns.length (positional reference_rows reference_columns)
        (agent_rows.map Dict.values) := by
  obtain ⟨hcanonical, hlength⟩ := canonical_ok hover
  have hrows : (positional reference_rows reference_columns).length = reference_rows.length := List.length_map _
  have hagents : (agent_rows.map Dict.values).length = agent_rows.length := List.length_map _
  have hempty : positional reference_rows reference_columns = [] ↔ reference_rows = [] := List.map_eq_nil_iff
  unfold results_match
  generalize hreference : positional reference_rows reference_columns = reference at *
  generalize hagent : agent_rows.map Dict.values = agent at *
  by_cases hnone : reference_rows = []
  · have hnil := hempty.mpr hnone
    rw [if_pos hnone]
    refine iff_of_true ⟨_, rfl, ?_⟩ fun _ hne => absurd hnil hne
    rw [decide_eq_true_iff, ← List.length_eq_zero_iff, ← hagents, List.length_eq_zero_iff]
    constructor
    · exact fun h => Or.inl ⟨h, hnil⟩
    · rintro (⟨h, -⟩ | ⟨_, _, h⟩)
      · exact h
      · exact List.length_eq_zero_iff.mp (h.shape.1.symm.trans (List.length_eq_zero_iff.mpr hnil))
  have hne : reference ≠ [] := fun h => hnone (hempty.mp h)
  have hmatches (h : Matches library ordered reference_columns.length reference agent) :
      reference.length = agent.length ∧ ∀ row ∈ agent, row.length = reference_columns.length := by
    rcases h with ⟨-, hnil⟩ | ⟨_, _, h⟩
    · exact absurd hnil hne
    · exact h.shape
  rw [if_neg hnone]
  by_cases hsame : reference.length = agent.length
  case neg =>
    have hfalse := ok_false_correct (fun h => hsame (hmatches h).1)
      (show Sound library ordered reference_columns.length reference agent from fun _ _ h => absurd h hsame)
    by_cases hagentNone : agent_rows = []
    · rw [if_pos hagentNone]
      exact hfalse
    · rw [if_neg hagentNone, if_pos (by rw [← hrows, ← hagents]; exact hsame)]
      exact hfalse
  have hagentSome : agent_rows ≠ [] := by
    rw [← List.length_pos_iff, ← hagents, ← hsame]
    exact List.length_pos_iff.mpr hne
  rw [if_neg hagentSome, if_neg (by rw [← hrows, ← hagents]; exact not_not.mpr hsame), hcanonical, ok_bind]
  by_cases hwidth : ∀ cells ∈ agent, cells.length = reference_columns.length
  case neg =>
    have hany : agent.any (fun cells => cells.length ≠ reference_columns.length) = true := by
      simpa using hwidth
    rw [if_pos hany]
    exact ok_false_correct (fun h => hwidth (hmatches h).2) fun _ _ _ h => absurd h hwidth
  have hany : ¬ agent.any (fun cells => cells.length ≠ reference_columns.length) = true := by
    simpa using hwidth
  rw [if_neg hany]
  cases hkinds : reference_column_kinds reference reference_columns.length with
  | none =>
    refine ok_false_correct ?_ fun kinds _ _ _ h => ?_
    · rintro (⟨-, hnil⟩ | ⟨kinds, hfits, -⟩)
      · exact hne hnil
      · exact kinds_none hkinds ⟨kinds, hfits⟩
    · rw [hkinds] at h
      cases h
  | some kinds =>
    have hfits := kinds_some hkinds
    have hcompare := compare_rows_correct library ordered ⟨hfits.1, hlength, hwidth⟩
    rw [matches_iff hne hlength hfits]
    refine hcompare.trans ⟨fun h kinds' _ _ _ hkinds' => ?_, fun h => h kinds hne hsame hwidth hkinds⟩
    obtain rfl := Option.some.inj (hkinds.symm.trans hkinds')
    exact h

/-! ## Rearranged tables -/

theorem getElem?_filterMap {α β : Type} {f : α → Option β} {xs : List α} (h : ∀ x ∈ xs, (f x).isSome = true)
    (index : ℕ) :
    (xs.filterMap f)[index]? = (xs[index]?).bind f := by
  induction xs generalizing index with
  | nil => rfl
  | cons x xs ih =>
    obtain ⟨y, hy⟩ := Option.isSome_iff_exists.mp (h x List.mem_cons_self)
    rw [List.filterMap_cons_some hy]
    cases index with
    | zero => exact hy.symm
    | succ index => exact ih (fun z hz => h z (List.mem_cons_of_mem _ hz)) index

theorem rearranged_rearranged {order : List ℕ} (horder : order.Perm (List.range width)) {cells : List Cell}
    (hcells : cells.length = width) (mapping : List ℕ) :
    rearranged mapping (rearranged order cells) = rearranged (rearranged mapping order) cells := by
  unfold rearranged
  rw [List.filterMap_filterMap]
  refine List.filterMap_congr fun position _ => ?_
  exact getElem?_filterMap (positions_exist horder hcells) position

theorem rearranged_range (order : List ℕ) : rearranged (List.range order.length) order = order := by
  refine List.ext_getElem? fun index => ?_
  have hsome : ∀ position ∈ List.range order.length, (order[position]?).isSome = true := positions_exist (.refl _) rfl
  unfold rearranged
  rw [getElem?_filterMap hsome]
  by_cases hindex : index < order.length
  · rw [List.getElem?_range hindex, Option.bind_some]
  · rw [List.getElem?_eq_none (by rw [List.length_range]; exact not_lt.mp hindex),
      List.getElem?_eq_none (not_lt.mp hindex), Option.bind_none]

theorem rearranged_perm {order : List ℕ} (horder : order.Perm (List.range width))
    (hmapping : mapping.Perm (List.range width)) : (rearranged mapping order).Perm (List.range width) := by
  have hlength : order.length = width := by rw [horder.length_eq, List.length_range]
  have hperm : (rearranged mapping order).Perm (rearranged (List.range width) order) := hmapping.filterMap _
  rw [← hlength, rearranged_range] at hperm
  exact hperm.trans horder

theorem exists_rearranged {order : List ℕ} (horder : order.Perm (List.range width))
    (hmapping : mapping.Perm (List.range width)) :
    ∃ mapping' : List ℕ, mapping'.Perm (List.range width) ∧ rearranged mapping' order = mapping := by
  have hmem : ∀ position ∈ mapping, position ∈ order := fun position hposition =>
    horder.mem_iff.mpr (hmapping.mem_iff.mp hposition)
  have hlength : order.length = width := by rw [horder.length_eq, List.length_range]
  have hnodup : order.Nodup := horder.nodup_iff.mpr List.nodup_range
  refine ⟨mapping.map fun position => order.idxOf position, ?_, ?_⟩
  · have hindices : order.map (fun position => order.idxOf position) = List.range width := by
      refine List.ext_getElem (by rw [List.length_map, List.length_range, hlength]) fun index hindex _ => ?_
      rw [List.getElem_map, List.getElem_range, hnodup.idxOf_getElem]
    rw [← hindices]
    exact (hmapping.trans horder.symm).map _
  · unfold rearranged
    rw [List.filterMap_map]
    refine (List.filterMap_congr fun position hposition => ?_).trans List.filterMap_some
    exact List.getElem?_idxOf (hmem position hposition)

theorem paired_rearranged {cells : Kind → Cell → Cell → Prop} {order : List ℕ} (horder : order.Perm (List.range width))
    (hmapping : mapping.Perm (List.range width)) (hagent : ∀ row ∈ agent, row.length = width) :
    TablesPaired cells kinds ordered reference (agent.map (rearranged order)) mapping ↔
      TablesPaired cells kinds ordered reference agent (rearranged mapping order) := by
  have hlength : (rearranged mapping order).length = mapping.length := by
    rw [(rearranged_perm horder hmapping).length_eq, hmapping.length_eq]
  have hrow {row cells' : List Cell} (hmem : cells' ∈ agent) :
      ((rearranged order cells').length = mapping.length ∧
        RowsPaired cells kinds row (rearranged mapping (rearranged order cells'))) ↔
      (cells'.length = (rearranged mapping order).length ∧
        RowsPaired cells kinds row (rearranged (rearranged mapping order) cells')) := by
    rw [rearranged_rearranged horder (hagent cells' hmem), length_rearranged horder (hagent cells' hmem), hlength,
      hagent cells' hmem]
  unfold TablesPaired
  constructor
  · rintro ⟨rows, hrows, hpaired⟩
    obtain ⟨paired, hagent', rfl⟩ := (paired_iff (rearranged order)).mp hrows
    rw [List.forall₂_map_right_iff] at hpaired
    refine ⟨paired, hagent', List.forall₂_iff_zip.mpr ⟨hpaired.length_eq, fun {row cells'} hzip => ?_⟩⟩
    exact (hrow ((mem_of_paired hagent').mp (List.of_mem_zip hzip).2)).mp (List.forall₂_zip hpaired hzip)
  · rintro ⟨paired, hagent', hpaired⟩
    refine ⟨paired.map (rearranged order), (paired_iff (rearranged order)).mpr ⟨paired, hagent', rfl⟩, ?_⟩
    rw [List.forall₂_map_right_iff]
    refine List.forall₂_iff_zip.mpr ⟨hpaired.length_eq, fun {row cells'} hzip => ?_⟩
    exact (hrow ((mem_of_paired hagent').mp (List.of_mem_zip hzip).2)).mpr (List.forall₂_zip hpaired hzip)

/-- The same tables: the columns of the agent in another order, and, without an order of the rows, the rows of both. -/
structure SameTables (ordered : Bool) (reference agent reference' agent' : List (List Cell)) : Prop where
  columns : ∃ order : List ℕ, order.Perm (List.range order.length) ∧ (∀ row ∈ agent, row.length = order.length) ∧
    if ordered then agent' = agent.map (rearranged order) else agent'.Perm (agent.map (rearranged order))
  rows : if ordered then reference' = reference else reference'.Perm reference

theorem paired_perm {cells : Kind → Cell → Cell → Prop} {reference' agent' : List (List Cell)}
    (hreference : reference.Perm reference') (hagent : agent.Perm agent')
    (h : TablesPaired cells kinds false reference agent mapping) :
      TablesPaired cells kinds false reference' agent' mapping := by
  obtain ⟨paired, hpaired, hrows⟩ := h
  obtain ⟨paired', hrows', hperm⟩ := List.perm_comp_forall₂ hreference.symm hrows
  exact ⟨paired', hperm.trans (List.Perm.trans hpaired hagent), hrows'⟩

theorem column_perm {reference' : List (List Cell)}
    (h : if ordered then reference' = reference else reference'.Perm reference)
    (hfits : Fits kinds width reference) : Fits kinds width reference' := by
  refine ⟨hfits.1, fun index hindex value hvalue => hfits.2 index hindex value ?_⟩
  cases ordered with
  | true => rwa [show reference' = reference from h] at hvalue
  | false => exact (List.Perm.mem_iff (List.Perm.filterMap (fun row : List Cell => row[index]?) h)).mp hvalue

theorem anyMapping_rearranged {cells : Kind → Cell → Cell → Prop} {order : List ℕ}
    (horder : order.Perm (List.range order.length)) (hagent : ∀ row ∈ agent, row.length = order.length) :
    AnyMapping cells kinds ordered width reference (agent.map (rearranged order)) ↔
      AnyMapping cells kinds ordered width reference agent := by
  cases agent with
  | nil => rfl
  | cons first rest =>
    have hfirst := hagent first List.mem_cons_self
    have hwidth (h : first.length = width) :
      order.Perm (List.range width) ∧ ∀ row ∈ first :: rest, row.length = width := by
      rw [hfirst] at h
      rw [← h]
      exact ⟨horder, hagent⟩
    constructor
    · intro h
      have hrow := h.shape.2 _ (List.mem_map_of_mem List.mem_cons_self)
      rw [length_rearranged horder hfirst, ← hfirst] at hrow
      obtain ⟨horder', hrows⟩ := hwidth hrow
      obtain ⟨mapping, hmapping, hpaired⟩ := h
      exact ⟨_, rearranged_perm horder' hmapping, (paired_rearranged horder' hmapping hrows).mp hpaired⟩
    · intro h
      obtain ⟨horder', hrows⟩ := hwidth (h.shape.2 first List.mem_cons_self)
      obtain ⟨mapping, hmapping, hpaired⟩ := h
      obtain ⟨mapping', hmapping', rfl⟩ := exists_rearranged horder' hmapping
      exact ⟨mapping', hmapping', (paired_rearranged horder' hmapping' hrows).mpr hpaired⟩

/-- Whether tables match does not depend on the order of the columns, nor on an order of the rows that is not asked for.
-/
theorem SameTables.matches {reference' agent' : List (List Cell)}
    (h : SameTables ordered reference agent reference' agent') :
    Matches library ordered width reference' agent' ↔ Matches library ordered width reference agent := by
  obtain ⟨⟨order, horder, hlength, hagent⟩, hrows⟩ := h
  have hlengths : reference'.length = reference.length ∧ agent'.length = agent.length := by
    have hmapped : (agent.map (rearranged order)).length = agent.length := List.length_map _
    rw [← hmapped]
    cases ordered with
    | true =>
      rw [show reference' = reference from hrows, show agent' = agent.map (rearranged order) from hagent]
      exact ⟨rfl, rfl⟩
    | false => exact ⟨List.Perm.length_eq hrows, List.Perm.length_eq hagent⟩
  have hempty : agent' = [] ∧ reference' = [] ↔ agent = [] ∧ reference = [] := by
    rw [← List.length_eq_zero_iff, ← List.length_eq_zero_iff, hlengths.1, hlengths.2, List.length_eq_zero_iff,
      List.length_eq_zero_iff]
  have hback : if ordered then reference = reference' else reference.Perm reference' := by
    cases ordered with
    | true => exact Eq.symm hrows
    | false => exact List.Perm.symm hrows
  have hmapping (kinds : List Kind) : AnyMapping (CellsAgree library) kinds ordered width reference' agent' ↔
      AnyMapping (CellsAgree library) kinds ordered width reference agent := by
    rw [← anyMapping_rearranged horder hlength]
    cases ordered with
    | true => rw [show reference' = reference from hrows, show agent' = agent.map (rearranged order) from hagent]
    | false =>
      refine exists_congr fun mapping => and_congr_right fun _ => ?_
      exact ⟨paired_perm hrows hagent, paired_perm hback (List.Perm.symm hagent)⟩
  refine or_congr hempty (exists_congr fun kinds => and_congr ?_ (hmapping kinds))
  exact ⟨column_perm hback, column_perm hrows⟩

/-- The comparison is right exactly when it is sound, and then it does not depend on orders that do not count. -/
theorem results_match_correct (library : ScoringLibrary) (agent_rows reference_rows : List (Dict String Cell))
    (reference_columns : List String) (ordered : Bool)
    (hover : ∀ row ∈ reference_rows, ∀ column ∈ reference_columns, column ∈ row.keys) :
    ((∃ result, results_match library agent_rows reference_rows reference_columns ordered = .ok result ∧
      (result = true ↔ Matches library ordered reference_columns.length (positional reference_rows reference_columns)
        (agent_rows.map Dict.values))) ↔
      Sound library ordered reference_columns.length (positional reference_rows reference_columns)
        (agent_rows.map Dict.values)) ∧
    ∀ agent_rows' reference_rows' : List (Dict String Cell),
      (∀ row ∈ reference_rows', ∀ column ∈ reference_columns, column ∈ row.keys) →
      SameTables ordered (positional reference_rows reference_columns) (agent_rows.map Dict.values)
        (positional reference_rows' reference_columns) (agent_rows'.map Dict.values) →
      Sound library ordered reference_columns.length (positional reference_rows reference_columns)
        (agent_rows.map Dict.values) →
      Sound library ordered reference_columns.length (positional reference_rows' reference_columns)
        (agent_rows'.map Dict.values) →
      results_match library agent_rows' reference_rows' reference_columns ordered =
        results_match library agent_rows reference_rows reference_columns ordered := by
  refine ⟨results_match_sound library agent_rows reference_rows reference_columns ordered hover, ?_⟩
  intro agent_rows' reference_rows' hover' hsame hsound hsound'
  obtain ⟨result, hresult, hmatches⟩ :=
    (results_match_sound library agent_rows reference_rows reference_columns ordered hover).mpr hsound
  obtain ⟨result', hresult', hmatches'⟩ :=
    (results_match_sound library agent_rows' reference_rows' reference_columns ordered hover').mpr hsound'
  rw [hresult, hresult']
  exact congrArg Except.ok (Bool.eq_iff_iff.mpr (hmatches'.trans (hsame.matches.trans hmatches.symm)))

/-! ## Two prices -/

def asciiOnly : ScoringLibrary := ⟨fun _ => none⟩

/-- A table of one column. -/
def totals (values : List Cell) : List (Dict String Cell) := values.map fun value => Dict.empty.set "total" value

theorem totals_over (values : List Cell) : ∀ row ∈ totals values, ∀ column ∈ ["total"], column ∈ row.keys := by
  intro row hrow column hcolumn
  obtain ⟨value, -, rfl⟩ := List.mem_map.mp hrow
  exact hcolumn

theorem prices_match : Matches asciiOnly false 1 (positional (totals [.decimal "7.5", .int 8]) ["total"])
    ((totals [.text "8.00", .text "7.50"]).map Dict.values) := by
  have hcents : Cell.number asciiOnly (.text "7.50") = some (Decimal.finite false 750 (-2)).value :=
    congrArg (Option.bind · finite_number) (by decide +kernel :
      Numeral.read asciiOnly.unicode "7.50" = some (.finite false 750 (-2)))
  have hhalf : Cell.number asciiOnly (.decimal "7.5") = some (Decimal.finite false 75 (-1)).value :=
    congrArg (Option.bind · finite_number) (by decide +kernel :
      Numeral.read asciiOnly.unicode "7.5" = some (.finite false 75 (-1)))
  have height : Cell.number asciiOnly (.text "8.00") = some (Decimal.finite false 800 (-2)).value :=
    congrArg (Option.bind · finite_number) (by decide +kernel :
      Numeral.read asciiOnly.unicode "8.00" = some (.finite false 800 (-2)))
  have hfirst : CellsAgree asciiOnly .number (.decimal "7.5") (.text "7.50") := by
    refine Or.inr ⟨by simp, by simp, _, _, hhalf, hcents, congrArg (toPlaces 6) ?_⟩
    rw [Decimal.value_finite, Decimal.value_finite]
    norm_num
  have hsecond : CellsAgree asciiOnly .number (.int 8) (.text "8.00") := by
    refine Or.inr ⟨by simp, by simp, _, _, rfl, height, congrArg (toPlaces 6) ?_⟩
    rw [Decimal.value_finite]
    norm_num
  refine Or.inr ⟨[.number], ⟨rfl, by decide⟩, [0], .refl _, [[.text "7.50"], [.text "8.00"]], .swap _ _ _, ?_⟩
  exact .cons ⟨rfl, .cons hfirst .nil⟩ (.cons ⟨rfl, .cons hsecond .nil⟩ .nil)

theorem prices_swapped : SameTables false (positional (totals [.decimal "7.5", .int 8]) ["total"])
    ((totals [.text "8.00", .text "7.50"]).map Dict.values) (positional (totals [.decimal "7.5", .int 8]) ["total"])
    ((totals [.text "7.50", .text "8.00"]).map Dict.values) :=
  ⟨⟨[0], .refl _, by simp [totals, Dict.values, Dict.set, Dict.put, Dict.empty], .swap _ _ _⟩, .refl _⟩

theorem toOption_some {result : Except Raised Bool} {b : Bool} (h : result.toOption = some b) : result = .ok b := by
  cases result with
  | error e => cases h
  | ok b' =>
    obtain rfl : b' = b := Option.some.inj h
    rfl

theorem results_match_prices :
    Sound asciiOnly false 1 (positional (totals [.decimal "7.5", .int 8]) ["total"])
      ((totals [.text "8.00", .text "7.50"]).map Dict.values) ∧
    results_match asciiOnly (totals [.text "7.50", .text "8.00"]) (totals [.decimal "7.5", .int 8]) ["total"] false =
      results_match asciiOnly (totals [.text "8.00", .text "7.50"]) (totals [.decimal "7.5", .int 8])
        ["total"] false := by
  have hboth := results_match_correct asciiOnly (totals [.text "8.00", .text "7.50"]) (totals [.decimal "7.5", .int 8])
    ["total"] false (totals_over _)
  have hswapped := results_match_correct asciiOnly (totals [.text "7.50", .text "8.00"])
    (totals [.decimal "7.5", .int 8]) ["total"] false (totals_over _)
  have hsound := hboth.1.mp ⟨true, toOption_some (by decide +kernel), iff_of_true rfl prices_match⟩
  have hsound' := hswapped.1.mp
    ⟨true, toOption_some (by decide +kernel), iff_of_true rfl (prices_swapped.matches.mpr prices_match)⟩
  exact ⟨hsound, hboth.2 _ _ (totals_over _) prices_swapped hsound hsound'⟩

/-- An infinity among the answers raises. -/
theorem infinity_raises : ¬ ∃ result,
    results_match asciiOnly (totals [.text "Infinity"]) (totals [.int 0]) ["total"] false = .ok result ∧
      (result = true ↔ Matches asciiOnly false 1 (positional (totals [.int 0]) ["total"])
        ((totals [.text "Infinity"]).map Dict.values)) := by
  rintro ⟨result, hresult, -⟩
  have hraised : (results_match asciiOnly (totals [.text "Infinity"]) (totals [.int 0]) ["total"] false).toOption =
    none := by
    decide +kernel
  rw [hresult] at hraised
  cases hraised

end CommerceAgent.ProductEval
