import CommerceAgent.Lib.Decimal
import CommerceAgent.Evaluation.Contracts
import Mathlib.Data.List.Pairwise

/-!
# Binding spool records to attempts

`assign_attempts`, and exactly when its assignment is a conservative one.
-/

open CommerceAgent.Lib
open CommerceAgent.Operations (UUID Text)

namespace CommerceAgent.Evaluation

structure SpoolUsageRecord where
  attempt_id : UUID
  experiment_id : String
  task_id : String
  mode : String
  turns : ℕ
  prompt_tokens : ℕ
  completion_tokens : ℕ
  reasoning_tokens : ℕ
  cache_hit_tokens : ℕ
  cache_miss_tokens : ℕ
  total_tokens : ℕ
  cost_usd : Decimal
  price_snapshot_id : Text 1 128
  price_band : String
  first_recorded_at : Option Instant
  last_recorded_at : Option Instant
  deriving DecidableEq

structure AttemptRow where
  attempt_id : UUID
  experiment_id : String
  task_id : String
  mode : String
  started_at : Instant
  finished_at : Option Instant
  deriving DecidableEq

structure SpoolAssignment where
  assigned : Dict UUID SpoolUsageRecord
  unassigned : List SpoolUsageRecord
  ambiguous : List SpoolUsageRecord

def SpoolUsageRecord.key (record : SpoolUsageRecord) : String × String × String :=
  (record.experiment_id, record.task_id, record.mode)

def AttemptRow.key (attempt : AttemptRow) : String × String × String :=
  (attempt.experiment_id, attempt.task_id, attempt.mode)

/-! ## The source's pass -/

def in_window (grace : Timedelta) (record : SpoolUsageRecord) (attempt : AttemptRow) : Bool :=
  match record.last_recorded_at.or record.first_recorded_at with
  | none => true
  | some observed =>
    attempt.started_at - grace ≤ observed ∧ observed ≤ attempt.finished_at.getD attempt.started_at + grace

namespace SpoolAssignment

def empty : SpoolAssignment := ⟨Dict.empty, [], []⟩

def assign (result : SpoolAssignment) (attempt : AttemptRow) (record : SpoolUsageRecord) : SpoolAssignment :=
  { result with assigned := result.assigned.set attempt.attempt_id record }

def leave (result : SpoolAssignment) (records : List SpoolUsageRecord) : SpoolAssignment :=
  { result with unassigned := result.unassigned ++ records }

def doubt (result : SpoolAssignment) (record : SpoolUsageRecord) : SpoolAssignment :=
  { result with ambiguous := result.ambiguous ++ [record] }

end SpoolAssignment

/-- The candidates that no record has claimed yet, in whose window a record is. -/
def hits (grace : Timedelta) (candidates : List AttemptRow) (result : SpoolAssignment) (record : SpoolUsageRecord) :
    List AttemptRow :=
  candidates.filter fun attempt => attempt.attempt_id ∉ result.assigned.keys ∧ in_window grace record attempt

def assign_record (grace : Timedelta) (candidates : List AttemptRow) (result : SpoolAssignment)
    (record : SpoolUsageRecord) : SpoolAssignment :=
  match hits grace candidates result record with
  | [attempt] => result.assign attempt record
  | [] => result.leave [record]
  | _ => result.doubt record

def assign_group (grace : Timedelta) (candidates : List AttemptRow) (result : SpoolAssignment)
    (group : List SpoolUsageRecord) : SpoolAssignment :=
  match group, candidates with
  | [record], [attempt] =>
    if in_window grace record attempt then result.assign attempt record else result.leave [record]
  | group, [] => result.leave group
  | group, candidates => group.foldl (assign_record grace candidates) result

def assign_groups (grace : Timedelta) (attempts : List AttemptRow)
    (groups : List ((String × String × String) × List SpoolUsageRecord)) (result : SpoolAssignment) : SpoolAssignment :=
  groups.foldl (fun result group =>
    assign_group grace (members group.1 (group_by AttemptRow.key attempts)) result group.2) result

def assign_attempts (records : List SpoolUsageRecord) (attempts : List AttemptRow) (clock_grace : Timedelta) :
    SpoolAssignment :=
  assign_groups clock_grace attempts (group_by SpoolUsageRecord.key records) SpoolAssignment.empty

/-! ## What a conservative assignment is -/

section Conservative

variable (grace : Timedelta) (records : List SpoolUsageRecord) (attempts : List AttemptRow)

/-- An attempt is an in-window candidate of a record. -/
def Candidate (record : SpoolUsageRecord) (attempt : AttemptRow) : Prop :=
  attempt.key = record.key ∧ in_window grace record attempt

instance (record : SpoolUsageRecord) (attempt : AttemptRow) : Decidable (Candidate grace record attempt) :=
  inferInstanceAs (Decidable (_ ∧ _))

/-- The in-window candidates of a record. -/
def candidates (record : SpoolUsageRecord) : List AttemptRow :=
  attempts.filter fun attempt => Candidate grace record attempt

/-- The records of which an attempt is an in-window candidate. -/
def rivals (attempt : AttemptRow) : List SpoolUsageRecord :=
  records.filter fun record => Candidate grace record attempt

/-- Two results are the same but for the order of their parts. -/
structure SpoolAssignment.Same (a b : SpoolAssignment) : Prop where
  assigned : ∀ attempt_id, a.assigned.get? attempt_id = b.assigned.get? attempt_id
  unassigned : a.unassigned.Perm b.unassigned
  ambiguous : a.ambiguous.Perm b.ambiguous

/-- **A conservative assignment.** -/
structure Conservative (result : SpoolAssignment) : Prop where
  /-- A record is assigned to an attempt exactly when each is the other's only in-window candidate. -/
  exact_pairs : ∀ attempt_id record, result.assigned.get? attempt_id = some record ↔
    ∃ attempt, attempt.attempt_id = attempt_id ∧ candidates grace attempts record = [attempt] ∧
      rivals grace records attempt = [record]
  /-- No attempt receives two records. -/
  once : result.assigned.keys.Nodup
  /-- Every record ends in one of the three parts, -/
  complete : (result.assigned.values ++ result.unassigned ++ result.ambiguous).Perm records
  /-- and in no other. -/
  apart : ∀ record, (record ∈ result.assigned.values → record ∉ result.unassigned ∧ record ∉ result.ambiguous) ∧
    (record ∈ result.unassigned → record ∉ result.ambiguous)

end Conservative

/-- `assign_attempts` is conservative, and the order of its arguments plays no part. -/
structure AssignsConservatively (grace : Timedelta) (records : List SpoolUsageRecord) (attempts : List AttemptRow) :
    Prop where
  conservative : Conservative grace records attempts (assign_attempts records attempts grace)
  unordered : ∀ records' attempts', records'.Perm records → attempts'.Perm attempts →
    (assign_attempts records' attempts' grace).Same (assign_attempts records attempts grace)

/-- The id of the only in-window candidate of a record, with the record. -/
def sole_item (grace : Timedelta) (attempts : List AttemptRow) (record : SpoolUsageRecord) :
    Option (UUID × SpoolUsageRecord) :=
  match candidates grace attempts record with
  | [attempt] => some (attempt.attempt_id, record)
  | _ => none

/-- The ids of the attempts that are the only in-window candidate of a record. -/
def sole_ids (grace : Timedelta) (records : List SpoolUsageRecord) (attempts : List AttemptRow) : List UUID :=
  (records.filterMap (sole_item grace attempts)).map Prod.fst

/-- **No sole candidate is shared.** The second and third law say something only of lists in which
two rows have one id. -/
structure Unshared (grace : Timedelta) (records : List SpoolUsageRecord) (attempts : List AttemptRow) : Prop where
  /-- The only candidate of a record is no other record's candidate. -/
  sole : ∀ record ∈ records, ∀ attempt, candidates grace attempts record = [attempt] →
    rivals grace records attempt = [record]
  /-- No two records have only candidates of one id. -/
  distinct : (sole_ids grace records attempts).Nodup
  /-- Two candidates or more are left to a record that has as many, next to the only candidates of the others. -/
  several : ∀ record ∈ records, 2 ≤ (candidates grace attempts record).length →
    2 ≤ ((candidates grace attempts record).filter fun attempt =>
      attempt.attempt_id ∉ sole_ids grace records attempts).length

/-! ## One record and one group -/

section Pass

variable {grace : Timedelta} {records : List SpoolUsageRecord} {attempts : List AttemptRow}
  {record : SpoolUsageRecord} {result : SpoolAssignment}

theorem candidates_eq (attempts : List AttemptRow) (record : SpoolUsageRecord) :
    candidates grace attempts record =
      (members record.key (group_by AttemptRow.key attempts)).filter (in_window grace record) := by
  unfold candidates Candidate
  rw [members_group_by, List.filter_filter]
  refine List.filter_congr fun attempt _ => ?_
  by_cases hkey : attempt.key = record.key <;> simp [hkey]

theorem hits_members (grace : Timedelta) (attempts : List AttemptRow) (result : SpoolAssignment)
    (record : SpoolUsageRecord) :
    hits grace (members record.key (group_by AttemptRow.key attempts)) result record =
      (candidates grace attempts record).filter fun attempt => attempt.attempt_id ∉ result.assigned.keys := by
  unfold hits
  rw [candidates_eq, List.filter_filter]
  refine List.filter_congr fun attempt _ => ?_
  simp

theorem hits_first (record : SpoolUsageRecord) :
    hits grace (members record.key (group_by AttemptRow.key attempts)) SpoolAssignment.empty record =
      candidates grace attempts record := by
  rw [hits_members]
  exact List.filter_eq_self.mpr fun attempt _ => decide_eq_true List.not_mem_nil

theorem assign_record_several {candidates : List AttemptRow} (h : 2 ≤ (hits grace candidates result record).length) :
    assign_record grace candidates result record = result.doubt record := by
  unfold assign_record
  split
  · rename_i heq
    rw [heq, List.length_singleton] at h
    omega
  · rename_i heq
    rw [heq, List.length_nil] at h
    omega
  · rfl

theorem foldl_assign_record_nil (grace : Timedelta) (result : SpoolAssignment) (group : List SpoolUsageRecord) :
    group.foldl (assign_record grace []) result = result.leave group := by
  induction group generalizing result with
  | nil => simp [SpoolAssignment.leave]
  | cons record group ih =>
    rw [List.foldl_cons, ih]
    simp [assign_record, hits, SpoolAssignment.leave]

/-- The shortcut for one record and one attempt is a pass too, unless it takes an attempt that is claimed. -/
theorem assign_group_eq_foldl {candidates : List AttemptRow} {group : List SpoolUsageRecord}
    (hfree : ∀ record attempt, group = [record] → candidates = [attempt] → in_window grace record attempt →
      attempt.attempt_id ∉ result.assigned.keys) :
    assign_group grace candidates result group = group.foldl (assign_record grace candidates) result := by
  unfold assign_group
  split
  · rename_i record attempt
    rw [List.foldl_cons, List.foldl_nil]
    unfold assign_record hits
    split_ifs with hwindow
    · have hfresh := hfree record attempt rfl rfl hwindow
      simp [hwindow, hfresh]
    · simp [hwindow]
  · rw [foldl_assign_record_nil]
  · rfl

/-! ## Lists in which no sole candidate is shared -/

theorem sole_item_eq_some {item : UUID × SpoolUsageRecord} :
    sole_item grace attempts record = some item ↔
      ∃ attempt, candidates grace attempts record = [attempt] ∧ item = (attempt.attempt_id, record) := by
  unfold sole_item
  split
  · rename_i attempt heq
    simp [heq, eq_comm]
  · rename_i hne
    simp only [reduceCtorEq, false_iff, not_exists, not_and]
    exact fun attempt heq => absurd heq (hne attempt)

/-- The candidates of the records before a record of an unshared list leave its own ones alone. -/
structure Clear (grace : Timedelta) (attempts : List AttemptRow) (processed : List SpoolUsageRecord)
    (record : SpoolUsageRecord) : Prop where
  fresh : ∀ attempt, candidates grace attempts record = [attempt] →
    attempt.attempt_id ∉ sole_ids grace processed attempts
  several : 2 ≤ (candidates grace attempts record).length →
    2 ≤ ((candidates grace attempts record).filter fun attempt =>
      attempt.attempt_id ∉ sole_ids grace processed attempts).length

theorem sole_ids_append (processed rest : List SpoolUsageRecord) :
    sole_ids grace (processed ++ rest) attempts =
      sole_ids grace processed attempts ++ sole_ids grace rest attempts := by
  unfold sole_ids
  rw [List.filterMap_append, List.map_append]

theorem Unshared.clear {processed rest : List SpoolUsageRecord}
    (h : Unshared grace (processed ++ record :: rest) attempts) : Clear grace attempts processed record := by
  constructor
  · intro attempt hsole hmem
    have hdistinct := h.distinct
    rw [sole_ids_append] at hdistinct
    refine (List.nodup_append.mp hdistinct).2.2 _ hmem _ ?_ rfl
    have hitem : sole_item grace attempts record = some (attempt.attempt_id, record) :=
      sole_item_eq_some.mpr ⟨attempt, hsole, rfl⟩
    unfold sole_ids
    rw [List.filterMap_cons_some hitem]
    exact List.mem_cons_self
  · intro hlength
    refine (h.several record (by simp) hlength).trans (List.Sublist.length_le ?_)
    refine List.monotone_filter_right _ fun attempt hfree => ?_
    rw [decide_eq_true_eq] at hfree ⊢
    rw [sole_ids_append] at hfree
    exact fun hmem => hfree (List.mem_append_left _ hmem)

/-- Records that were processed, each after its own candidates alone. -/
structure Settled (grace : Timedelta) (attempts : List AttemptRow) (processed : List SpoolUsageRecord)
    (result : SpoolAssignment) : Prop where
  assigned : result.assigned.items = processed.filterMap (sole_item grace attempts)
  unassigned : result.unassigned = processed.filter fun record => (candidates grace attempts record).length = 0
  ambiguous : result.ambiguous = processed.filter fun record => 2 ≤ (candidates grace attempts record).length

variable {processed : List SpoolUsageRecord}

theorem Settled.keys (h : Settled grace attempts processed result) :
    result.assigned.keys = sole_ids grace processed attempts := by
  unfold Dict.keys sole_ids
  rw [h.assigned]

theorem Settled.assign_record (h : Settled grace attempts processed result)
    (hclear : Clear grace attempts processed record) :
    Settled grace attempts (processed ++ [record])
      (assign_record grace (members record.key (group_by AttemptRow.key attempts)) result record) := by
  have hhits := hits_members grace attempts result record
  rw [h.keys] at hhits
  unfold Evaluation.assign_record
  match hcandidates : candidates grace attempts record with
  | [] =>
    rw [hcandidates] at hhits
    rw [hhits, List.filter_nil]
    refine ⟨?_, ?_, ?_⟩
    · simp [SpoolAssignment.leave, h.assigned, sole_item, hcandidates]
    · simp [SpoolAssignment.leave, h.unassigned, hcandidates]
    · simp [SpoolAssignment.leave, h.ambiguous, hcandidates]
  | [attempt] =>
    have hfresh := hclear.fresh attempt hcandidates
    rw [hcandidates, List.filter_cons_of_pos (by simpa using hfresh), List.filter_nil] at hhits
    rw [hhits]
    refine ⟨?_, ?_, ?_⟩
    · unfold SpoolAssignment.assign
      dsimp only
      rw [Dict.set_items (h.keys ▸ hfresh), h.assigned]
      simp [sole_item, hcandidates]
    · simp [SpoolAssignment.assign, h.unassigned, hcandidates]
    · simp [SpoolAssignment.assign, h.ambiguous, hcandidates]
  | first :: second :: more =>
    have hseveral := hclear.several (by simp [hcandidates])
    rw [← hhits] at hseveral
    split
    · rename_i heq
      simp [heq] at hseveral
    · rename_i heq
      simp [heq] at hseveral
    · refine ⟨?_, ?_, ?_⟩
      · simp [SpoolAssignment.doubt, h.assigned, sole_item, hcandidates]
      · simp [SpoolAssignment.doubt, h.unassigned, hcandidates]
      · simp [SpoolAssignment.doubt, h.ambiguous, hcandidates]

theorem Settled.assign_group (h : Settled grace attempts processed result) {key : String × String × String}
    {group rest : List SpoolUsageRecord} (hkey : ∀ record ∈ group, record.key = key)
    (hunshared : Unshared grace (processed ++ (group ++ rest)) attempts) :
    Settled grace attempts (processed ++ group)
      (assign_group grace (members key (group_by AttemptRow.key attempts)) result group) := by
  rw [assign_group_eq_foldl]
  · induction group generalizing processed result with
    | nil => simpa using h
    | cons record group ih =>
      obtain ⟨rfl, hkey⟩ := List.forall_mem_cons.mp hkey
      have hstep := h.assign_record hunshared.clear
      have hrest := ih hstep hkey (by simpa using hunshared)
      simpa using hrest
  · intro record attempt hgroup hmembers hwindow
    subst hgroup
    obtain rfl := hkey record List.mem_cons_self
    have hcandidates : candidates grace attempts record = [attempt] := by
      rw [candidates_eq, hmembers, List.filter_cons_of_pos hwindow, List.filter_nil]
    rw [h.keys]
    exact hunshared.clear.fresh attempt hcandidates

theorem Settled.assign_groups {groups : List ((String × String × String) × List SpoolUsageRecord)}
    (h : Settled grace attempts processed result) (hkey : ∀ group ∈ groups, ∀ record ∈ group.2, record.key = group.1)
    (hunshared : Unshared grace (processed ++ groups.flatMap Prod.snd) attempts) :
    Settled grace attempts (processed ++ groups.flatMap Prod.snd) (assign_groups grace attempts groups result) := by
  unfold Evaluation.assign_groups
  induction groups generalizing processed result with
  | nil => simpa using h
  | cons group groups ih =>
    obtain ⟨hgroup, hgroups⟩ := List.forall_mem_cons.mp hkey
    rw [List.flatMap_cons] at hunshared
    have hstep := h.assign_group hgroup hunshared
    have hrest := ih hstep hgroups (by simpa using hunshared)
    rw [List.foldl_cons, List.flatMap_cons, ← List.append_assoc]
    exact hrest

theorem mem_candidates {attempt : AttemptRow} (hsole : candidates grace attempts record = [attempt]) :
    attempt ∈ attempts ∧ Candidate grace record attempt := by
  have hmem : attempt ∈ candidates grace attempts record := hsole ▸ List.mem_cons_self
  unfold candidates at hmem
  rwa [List.mem_filter, decide_eq_true_eq] at hmem

theorem nodup_sole_ids
    (hsole : ∀ record ∈ records, ∀ attempt, candidates grace attempts record = [attempt] →
      rivals grace records attempt = [record])
    (hinj : ∀ record ∈ records, ∀ attempt, candidates grace attempts record = [attempt] →
      ∀ record' ∈ records, ∀ attempt', candidates grace attempts record' = [attempt'] →
      attempt.attempt_id = attempt'.attempt_id → record = record') : (sole_ids grace records attempts).Nodup := by
  unfold sole_ids List.Nodup
  rw [List.pairwise_map, List.pairwise_filterMap, List.pairwise_iff_forall_sublist]
  intro record record' hsub item hitem item' hitem' heq
  obtain ⟨attempt, hcandidates, rfl⟩ := sole_item_eq_some.mp hitem
  obtain ⟨attempt', hcandidates', rfl⟩ := sole_item_eq_some.mp hitem'
  have hrecord : record ∈ records := hsub.subset List.mem_cons_self
  have hrecord' : record' ∈ records := hsub.subset (List.mem_cons_of_mem _ List.mem_cons_self)
  obtain rfl := hinj record hrecord attempt hcandidates record' hrecord' attempt' hcandidates' heq
  -- a record that stands in the list twice is its own rival
  have htwice := (hsub.filter fun record => decide (Candidate grace record attempt)).length_le
  have hrivals := hsole record hrecord attempt hcandidates
  unfold rivals at hrivals
  rw [hrivals] at htwice
  simp [(mem_candidates hcandidates).2] at htwice

theorem unshared_of_nodup (hids : (attempts.map AttemptRow.attempt_id).Nodup)
    (hsole : ∀ record ∈ records, ∀ attempt, candidates grace attempts record = [attempt] →
      rivals grace records attempt = [record]) : Unshared grace records attempts := by
  refine ⟨hsole, nodup_sole_ids hsole ?_, fun record hrecord hlength => hlength.trans_eq ?_⟩
  · intro record hrecord attempt hcandidates record' hrecord' attempt' hcandidates' heq
    obtain rfl := List.inj_on_of_nodup_map hids (mem_candidates hcandidates).1 (mem_candidates hcandidates').1 heq
    have hrivals := hsole record hrecord attempt hcandidates
    rw [hsole record' hrecord' attempt hcandidates'] at hrivals
    exact (List.singleton_inj.mp hrivals).symm
  · refine congrArg List.length (List.filter_eq_self.mpr fun attempt hattempt => decide_eq_true ?_).symm
    intro hmem
    obtain ⟨item, hitem, hid⟩ := List.mem_map.mp hmem
    obtain ⟨other, hother, hsome⟩ := List.mem_filterMap.mp hitem
    obtain ⟨sole, hcandidates, rfl⟩ := sole_item_eq_some.mp hsome
    obtain ⟨hin, hcandidate⟩ := List.mem_filter.mp hattempt
    obtain rfl := List.inj_on_of_nodup_map hids (mem_candidates hcandidates).1 hin hid
    have hrival : record ∈ rivals grace records sole := List.mem_filter.mpr ⟨hrecord, hcandidate⟩
    rw [hsole other hother sole hcandidates, List.mem_singleton] at hrival
    rw [hrival, hcandidates, List.length_singleton] at hlength
    omega

/-! ## Unshared candidates are enough -/

section Order

variable {records' : List SpoolUsageRecord} {attempts' : List AttemptRow}

theorem candidates_perm (grace : Timedelta) (hattempts : attempts'.Perm attempts) (record : SpoolUsageRecord) :
    (candidates grace attempts' record).Perm (candidates grace attempts record) := hattempts.filter _

theorem candidates_singleton (hattempts : attempts'.Perm attempts) {attempt : AttemptRow} :
    candidates grace attempts' record = [attempt] ↔ candidates grace attempts record = [attempt] := by
  have hperm := candidates_perm grace hattempts record
  constructor
  · intro h
    rw [h] at hperm
    exact List.singleton_perm.mp hperm |>.symm
  · intro h
    rw [h] at hperm
    exact List.perm_singleton.mp hperm

theorem rivals_singleton (hrecords : records'.Perm records) {attempt : AttemptRow} :
    rivals grace records' attempt = [record] ↔ rivals grace records attempt = [record] := by
  have hperm : (rivals grace records' attempt).Perm (rivals grace records attempt) := hrecords.filter _
  constructor
  · intro h
    rw [h] at hperm
    exact List.singleton_perm.mp hperm |>.symm
  · intro h
    rw [h] at hperm
    exact List.perm_singleton.mp hperm

theorem sole_item_perm (grace : Timedelta) (hattempts : attempts'.Perm attempts) (record : SpoolUsageRecord) :
    sole_item grace attempts' record = sole_item grace attempts record := by
  refine Option.ext fun item => ?_
  rw [sole_item_eq_some, sole_item_eq_some]
  simp only [candidates_singleton hattempts]

theorem sole_ids_perm (grace : Timedelta) (hrecords : records'.Perm records) (hattempts : attempts'.Perm attempts) :
    (sole_ids grace records' attempts').Perm (sole_ids grace records attempts) := by
  unfold sole_ids
  rw [funext (sole_item_perm grace hattempts)]
  exact (hrecords.filterMap _).map _

theorem Unshared.perm (h : Unshared grace records attempts) (hrecords : records'.Perm records)
    (hattempts : attempts'.Perm attempts) : Unshared grace records' attempts' := by
  have hids := sole_ids_perm grace hrecords hattempts
  refine ⟨fun record hrecord attempt hsole => ?_, hids.nodup_iff.mpr h.distinct, fun record hrecord hlength => ?_⟩
  · rw [rivals_singleton hrecords]
    exact h.sole record (hrecords.mem_iff.mp hrecord) attempt ((candidates_singleton hattempts).mp hsole)
  · have hperm := candidates_perm grace hattempts record
    rw [hperm.length_eq] at hlength
    refine (h.several record (hrecords.mem_iff.mp hrecord) hlength).trans_eq ?_
    simp only [hids.mem_iff]
    exact (hperm.filter _).length_eq.symm

end Order

/-- The order in which the groups hand their records over. -/
def in_groups (records : List SpoolUsageRecord) : List SpoolUsageRecord :=
  (group_by SpoolUsageRecord.key records).flatMap Prod.snd

theorem in_groups_perm (records : List SpoolUsageRecord) : (in_groups records).Perm records :=
  group_by_flatten SpoolUsageRecord.key records

theorem group_key {group : (String × String × String) × List SpoolUsageRecord}
    (h : group ∈ group_by SpoolUsageRecord.key records) : ∀ record ∈ group.2, record.key = group.1 := by
  intro record hrecord
  rw [(mem_group_by h).2, List.mem_filter, decide_eq_true_eq] at hrecord
  exact hrecord.2

theorem Unshared.settled (h : Unshared grace records attempts) :
    Settled grace attempts (in_groups records) (assign_attempts records attempts grace) := by
  have hnil : Settled grace attempts [] SpoolAssignment.empty := ⟨rfl, rfl, rfl⟩
  exact hnil.assign_groups (fun group hgroup => group_key hgroup)
    (h.perm (in_groups_perm records) (List.Perm.refl attempts))

theorem Settled.values (h : Settled grace attempts processed result) :
    result.assigned.values = processed.filter fun record => (candidates grace attempts record).length = 1 := by
  unfold Dict.values
  rw [h.assigned]
  clear h
  induction processed with
  | nil => rfl
  | cons record processed ih =>
    match hcandidates : candidates grace attempts record with
    | [] => simpa [sole_item, hcandidates] using ih
    | [attempt] => simpa [sole_item, hcandidates] using ih
    | _ :: _ :: _ => simpa [sole_item, hcandidates] using ih

theorem Settled.get? (h : Settled grace attempts processed result) (hperm : processed.Perm records)
    (attempt_id : UUID) : result.assigned.get? attempt_id = some record ↔
      ∃ attempt, attempt.attempt_id = attempt_id ∧ candidates grace attempts record = [attempt] ∧ record ∈ records := by
  rw [Dict.get?_eq_some, h.assigned, List.mem_filterMap]
  simp only [sole_item_eq_some, hperm.mem_iff]
  constructor
  · rintro ⟨record, hrecord, attempt, hsole, hitem⟩
    cases hitem
    exact ⟨attempt, rfl, hsole, hrecord⟩
  · rintro ⟨attempt, rfl, hsole, hrecord⟩
    exact ⟨record, hrecord, attempt, hsole, rfl⟩

theorem Settled.parts_perm (h : Settled grace attempts processed result) :
    (result.assigned.values ++ result.unassigned ++ result.ambiguous).Perm processed := by
  rw [h.values, h.unassigned, h.ambiguous, List.append_assoc]
  have hone := List.filter_append_perm (fun record => decide ((candidates grace attempts record).length = 1)) processed
  have hzero := List.filter_append_perm (fun record => decide ((candidates grace attempts record).length = 0))
    (processed.filter fun record => !decide ((candidates grace attempts record).length = 1))
  rw [List.filter_filter, List.filter_filter] at hzero
  refine ((List.perm_append_left_iff _).mpr ?_).trans hone
  refine List.Perm.trans (List.Perm.of_eq ?_) hzero
  congr 1
  all_goals
    refine List.filter_congr fun record _ => Bool.eq_iff_iff.mpr ?_
    simp only [Bool.and_eq_true, Bool.not_eq_true', decide_eq_true_eq, decide_eq_false_iff_not]
    omega

theorem Unshared.conservative (h : Unshared grace records attempts) :
    Conservative grace records attempts (assign_attempts records attempts grace) := by
  have hsettled := h.settled
  have hperm := in_groups_perm records
  refine ⟨fun attempt_id record => ?_, Dict.nodup _, hsettled.parts_perm.trans hperm, fun record => ?_⟩
  · rw [hsettled.get? hperm]
    refine exists_congr fun attempt => and_congr_right fun _ => and_congr_right fun hsole => ?_
    constructor
    · exact fun hrecord => h.sole record hrecord attempt hsole
    · intro hrivals
      have hmem : record ∈ rivals grace records attempt := hrivals ▸ List.mem_cons_self
      exact List.mem_of_mem_filter hmem
  · rw [hsettled.values, hsettled.unassigned, hsettled.ambiguous]
    simp only [List.mem_filter, decide_eq_true_eq]
    omega

theorem Unshared.assigns_conservatively (h : Unshared grace records attempts) :
    AssignsConservatively grace records attempts := by
  refine ⟨h.conservative, fun records' attempts' hrecords hattempts => ?_⟩
  have hsettled := h.settled
  have hsettled' := (h.perm hrecords hattempts).settled
  have hperm := ((in_groups_perm records').trans hrecords).trans (in_groups_perm records).symm
  have hlength := fun record => (candidates_perm grace hattempts record).length_eq
  refine ⟨fun attempt_id => Option.ext fun record => ?_, ?_, ?_⟩
  · rw [hsettled.get? (in_groups_perm records), hsettled'.get? ((in_groups_perm records').trans hrecords)]
    simp only [candidates_singleton hattempts]
  · rw [hsettled.unassigned, hsettled'.unassigned]
    simp only [hlength]
    exact hperm.filter _
  · rw [hsettled.ambiguous, hsettled'.ambiguous]
    simp only [hlength]
    exact hperm.filter _

/-! ## And they are needed -/

def SpoolAssignment.size (result : SpoolAssignment) : ℕ :=
  result.assigned.items.length + result.unassigned.length + result.ambiguous.length

/-- What the processing of `n` more records does. Only a claimed attempt that is taken again loses a record. -/
structure Places (n : ℕ) (before after : SpoolAssignment) : Prop where
  size : after.size ≤ before.size + n
  kept : after.size = before.size + n → ∀ attempt_id record, before.assigned.get? attempt_id = some record →
    after.assigned.get? attempt_id = some record
  ambiguous : before.ambiguous ⊆ after.ambiguous

theorem Places.refl (result : SpoolAssignment) : Places 0 result result :=
  ⟨le_refl _, fun _ _ _ h => h, List.Subset.refl _⟩

theorem Places.trans {n m : ℕ} {a b c : SpoolAssignment} (h : Places n a b) (h' : Places m b c) :
    Places (n + m) a c := by
  have hsize := h.size
  have hsize' := h'.size
  refine ⟨by omega, fun htotal attempt_id record hget => ?_, List.Subset.trans h.ambiguous h'.ambiguous⟩
  exact h'.kept (by omega) attempt_id record (h.kept (by omega) attempt_id record hget)

theorem assign_places (attempt : AttemptRow) : Places 1 result (result.assign attempt record) := by
  have hitems : (result.assigned.set attempt.attempt_id record).items.length =
      result.assigned.items.length + if attempt.attempt_id ∈ result.assigned.keys then 0 else 1 := by
    have hkeys := congrArg List.length (Dict.keys_put attempt.attempt_id record result.assigned.items)
    rw [List.length_map] at hkeys
    unfold Dict.set Dict.keys
    dsimp only
    rw [hkeys]
    split_ifs <;> simp
  unfold SpoolAssignment.assign
  refine ⟨?_, ?_, List.Subset.refl _⟩
  · simp only [SpoolAssignment.size, hitems]
    split_ifs <;> omega
  · simp only [SpoolAssignment.size, hitems]
    split_ifs with hclaimed
    · omega
    · intro _ attempt_id kept hget
      have hne : attempt_id ≠ attempt.attempt_id := by
        rintro rfl
        exact hclaimed (Dict.mem_keys.mpr ⟨kept, hget⟩)
      rwa [Dict.get?_set_of_ne hne]

theorem leave_places (records : List SpoolUsageRecord) : Places records.length result (result.leave records) := by
  refine ⟨?_, fun _ _ _ h => h, List.Subset.refl _⟩
  simp only [SpoolAssignment.size, SpoolAssignment.leave, List.length_append]
  omega

theorem doubt_places : Places 1 result (result.doubt record) := by
  refine ⟨?_, fun _ _ _ h => h, List.subset_append_left _ _⟩
  simp only [SpoolAssignment.size, SpoolAssignment.doubt, List.length_append, List.length_singleton]
  omega

theorem assign_record_places (candidates : List AttemptRow) :
    Places 1 result (assign_record grace candidates result record) := by
  unfold assign_record
  split
  · exact assign_places _
  · exact leave_places [record]
  · exact doubt_places

theorem foldl_assign_record_places (grace : Timedelta) (result : SpoolAssignment) (candidates : List AttemptRow)
    (group : List SpoolUsageRecord) :
    Places group.length result (group.foldl (assign_record grace candidates) result) := by
  induction group generalizing result with
  | nil => exact Places.refl result
  | cons record group ih =>
    rw [List.length_cons, Nat.add_comm]
    exact (assign_record_places candidates).trans (ih _)

theorem assign_group_places (candidates : List AttemptRow) (group : List SpoolUsageRecord) :
    Places group.length result (assign_group grace candidates result group) := by
  unfold assign_group
  split
  · split_ifs
    · exact assign_places _
    · exact leave_places [_]
  · exact leave_places group
  · exact foldl_assign_record_places grace result candidates group

theorem assign_groups_places (grace : Timedelta) (attempts : List AttemptRow)
    (groups : List ((String × String × String) × List SpoolUsageRecord)) :
    Places (groups.flatMap Prod.snd).length result (assign_groups grace attempts groups result) := by
  unfold assign_groups
  induction groups generalizing result with
  | nil => exact Places.refl result
  | cons group groups ih =>
    rw [List.flatMap_cons, List.length_append]
    exact (assign_group_places _ group.2).trans ih

theorem assign_attempts_cons (grace : Timedelta) (attempts : List AttemptRow) (record : SpoolUsageRecord)
    (records : List SpoolUsageRecord) :
    Places records.length
      (assign_record grace (members record.key (group_by AttemptRow.key attempts)) SpoolAssignment.empty record)
      (assign_attempts (record :: records) attempts grace) := by
  have hlength := (in_groups_perm (record :: records)).length_eq
  unfold assign_attempts
  unfold in_groups at hlength
  rw [group_by_cons] at hlength ⊢
  rw [List.flatMap_cons, List.length_append, List.length_cons, List.length_cons] at hlength
  unfold assign_groups
  rw [List.foldl_cons, assign_group_eq_foldl, List.foldl_cons]
  · have hgroup := foldl_assign_record_places grace
      (assign_record grace (members record.key (group_by AttemptRow.key attempts))
      SpoolAssignment.empty record) (members record.key (group_by AttemptRow.key attempts))
      (records.filter fun other => other.key = record.key)
    have hrest := hgroup.trans (assign_groups_places grace attempts
      (group_by SpoolUsageRecord.key (records.filter fun other => other.key ≠ record.key)))
    have hsum := Nat.succ.inj ((Nat.succ_add _ _).symm.trans hlength)
    rw [← hsum]
    exact hrest
  · exact fun _ _ _ _ _ => List.not_mem_nil

/-- The records in an order that has one of them last. -/
def with_last (records : List SpoolUsageRecord) (record : SpoolUsageRecord) : List SpoolUsageRecord :=
  (records.filter fun other => other.key ≠ record.key) ++
    ((records.filter fun other => other.key = record.key) ++ [record])

theorem with_last_perm (records : List SpoolUsageRecord) (record : SpoolUsageRecord) :
    (with_last records record).Perm (record :: records) := by
  unfold with_last
  rw [← List.append_assoc]
  refine (List.perm_append_singleton record _).trans (List.Perm.cons record ?_)
  have hsplit := List.filter_append_perm (fun other => decide (other.key = record.key)) records
  refine List.perm_append_comm.trans ?_
  simpa only [decide_not] using hsplit

theorem assign_attempts_with_last (hlength : 2 ≤ (candidates grace attempts record).length)
    (records : List SpoolUsageRecord) :
    ∃ before, assign_attempts (with_last records record) attempts grace =
      assign_record grace (members record.key (group_by AttemptRow.key attempts)) before record := by
  unfold assign_attempts with_last
  rw [group_by_append (k := record.key)]
  · unfold assign_groups
    rw [List.foldl_append, List.foldl_cons, List.foldl_nil, assign_group_eq_foldl, List.foldl_append]
    · exact ⟨_, rfl⟩
    · intro _ attempt _ hmembers _
      rw [candidates_eq] at hlength
      have hle := List.length_filter_le (in_window grace record) (members record.key (group_by AttemptRow.key attempts))
      rw [hmembers, List.length_singleton] at hle
      rw [hmembers] at hlength
      omega
  · intro other hother
    simpa using (List.mem_filter.mp hother).2
  · intro other hother
    rcases List.mem_append.mp hother with hother | hother
    · simpa using (List.mem_filter.mp hother).2
    · rw [List.mem_singleton.mp hother]
  · simp

theorem AssignsConservatively.perm (h : AssignsConservatively grace records attempts) {records' : List SpoolUsageRecord}
    (hrecords : records'.Perm records) :
    (assign_attempts records' attempts grace).Same (assign_attempts records attempts grace) :=
  h.unordered records' attempts hrecords (List.Perm.refl attempts)

theorem SpoolAssignment.Same.size {a b : SpoolAssignment} (h : a.Same b) : a.size = b.size := by
  have hitems : a.assigned.items.Perm b.assigned.items := by
    refine (List.perm_ext_iff_of_nodup (List.Nodup.of_map _ a.assigned.nodup)
      (List.Nodup.of_map _ b.assigned.nodup)).mpr ?_
    rintro ⟨attempt_id, record⟩
    rw [← Dict.get?_eq_some, ← Dict.get?_eq_some, h.assigned]
  unfold SpoolAssignment.size
  rw [hitems.length_eq, h.unassigned.length_eq, h.ambiguous.length_eq]

theorem Conservative.size (h : Conservative grace records attempts result) : result.size = records.length := by
  have hlength := h.complete.length_eq
  unfold Dict.values at hlength
  rw [List.length_append, List.length_append, List.length_map] at hlength
  exact hlength

theorem AssignsConservatively.sole (h : AssignsConservatively grace records attempts) (hrecord : record ∈ records)
    {attempt : AttemptRow} (hsole : candidates grace attempts record = [attempt]) :
    rivals grace records attempt = [record] := by
  have hperm := (List.perm_cons_erase hrecord).symm
  have hsame := h.perm hperm
  -- when the record comes first, its candidate is free
  have hgrows := assign_attempts_cons grace attempts record (records.erase record)
  have hfirst : assign_record grace (members record.key (group_by AttemptRow.key attempts)) SpoolAssignment.empty
      record = SpoolAssignment.empty.assign attempt record := by
    unfold assign_record
    rw [hits_first, hsole]
  rw [hfirst] at hgrows
  have hsize : (assign_attempts (record :: records.erase record) attempts grace).size =
      (SpoolAssignment.empty.assign attempt record).size + (records.erase record).length := by
    rw [hsame.size, h.conservative.size, ← hperm.length_eq, List.length_cons, Nat.add_comm]
    rfl
  have hget := hgrows.kept hsize attempt.attempt_id record (Dict.get?_set_self _ _ _)
  rw [hsame.assigned] at hget
  obtain ⟨other, -, hother, hrivals⟩ := (h.conservative.exact_pairs _ _).mp hget
  rw [hsole] at hother
  cases hother
  exact hrivals

theorem AssignsConservatively.assigned (h : AssignsConservatively grace records attempts) (hrecord : record ∈ records)
    {attempt : AttemptRow} (hsole : candidates grace attempts record = [attempt]) :
    (assign_attempts records attempts grace).assigned.get? attempt.attempt_id = some record :=
  (h.conservative.exact_pairs _ _).mpr ⟨attempt, rfl, hsole, h.sole hrecord hsole⟩

theorem AssignsConservatively.distinct (h : AssignsConservatively grace records attempts) :
    (sole_ids grace records attempts).Nodup := by
  refine nodup_sole_ids (fun record hrecord attempt hsole => h.sole hrecord hsole) ?_
  intro record hrecord attempt hsole record' hrecord' attempt' hsole' heq
  have hget := h.assigned hrecord hsole
  rw [heq, h.assigned hrecord' hsole'] at hget
  exact (Option.some.inj hget).symm

theorem AssignsConservatively.several (h : AssignsConservatively grace records attempts) (hrecord : record ∈ records)
    (hlength : 2 ≤ (candidates grace attempts record).length) :
    2 ≤ ((candidates grace attempts record).filter fun attempt =>
      attempt.attempt_id ∉ sole_ids grace records attempts).length := by
  by_contra hfew
  have hperm := (List.perm_cons_erase hrecord).symm
  -- when it comes first, all its candidates are free
  have hambiguous : record ∈ (assign_attempts records attempts grace).ambiguous := by
    have hgrows := assign_attempts_cons grace attempts record (records.erase record)
    refine (h.perm hperm).ambiguous.mem_iff.mp (hgrows.ambiguous ?_)
    rw [assign_record_several]
    · exact List.mem_append_right _ List.mem_cons_self
    · rwa [hits_first]
  -- when it comes last, the others have taken theirs
  have hunassigned : record ∈ (assign_attempts records attempts grace).unassigned := by
    have hlast := h.perm ((with_last_perm (records.erase record) record).trans hperm)
    obtain ⟨before, heq⟩ := assign_attempts_with_last hlength (records.erase record)
    rw [heq] at hlast
    by_cases hmany : 2 ≤ (hits grace (members record.key (group_by AttemptRow.key attempts)) before record).length
    · rw [assign_record_several hmany] at hlast
      refine absurd (hmany.trans (List.Sublist.length_le ?_)) hfew
      rw [hits_members]
      refine List.monotone_filter_right _ fun attempt hfree => ?_
      rw [decide_eq_true_eq] at hfree ⊢
      intro hmem
      obtain ⟨item, hitem, hid⟩ := List.mem_map.mp hmem
      obtain ⟨other, hother, hsome⟩ := List.mem_filterMap.mp hitem
      obtain ⟨sole, hsole, rfl⟩ := sole_item_eq_some.mp hsome
      have hget := (hlast.assigned sole.attempt_id).trans (h.assigned hother hsole)
      exact hfree (Dict.mem_keys.mpr ⟨other, hid ▸ hget⟩)
    refine hlast.unassigned.mem_iff.mp ?_
    unfold assign_record at hlast ⊢
    split
    · rename_i attempt hhits
      rw [hhits] at hlast
      have hget := (hlast.assigned attempt.attempt_id).symm.trans (Dict.get?_set_self _ _ _)
      obtain ⟨sole, -, hsole, -⟩ := (h.conservative.exact_pairs _ _).mp hget
      rw [hsole, List.length_singleton] at hlength
      omega
    · exact List.mem_append_right _ List.mem_cons_self
    · rename_i hnot_one hnot_none
      match hhits : hits grace (members record.key (group_by AttemptRow.key attempts)) before record with
      | [] => exact absurd hhits hnot_none
      | [attempt] => exact absurd hhits (hnot_one attempt)
      | _ :: _ :: _ => exact absurd (by simp [hhits]) hmany
  exact (h.conservative.apart record).2 hunassigned hambiguous

theorem AssignsConservatively.unshared (h : AssignsConservatively grace records attempts) :
    Unshared grace records attempts :=
  ⟨fun _ hrecord _ hsole => h.sole hrecord hsole, h.distinct, fun _ hrecord hlength => h.several hrecord hlength⟩

end Pass

/-- **Exactly the lists in which no sole candidate is shared are assigned conservatively.** -/
theorem assigns_conservatively_iff (grace : Timedelta) (records : List SpoolUsageRecord) (attempts : List AttemptRow) :
    AssignsConservatively grace records attempts ↔ Unshared grace records attempts :=
  ⟨fun h => h.unshared, fun h => h.assigns_conservatively⟩

/-! ## Two sessions in one window -/

def sampleAttempt : AttemptRow := ⟨1, "experiment-1", "task-1", "a", 0, some 60000000⟩

/-- A session of the sample attempt's task. -/
def sampleRecord (attempt_id : UUID) : SpoolUsageRecord where
  attempt_id := attempt_id
  experiment_id := "experiment-1"
  task_id := "task-1"
  mode := "a"
  turns := 1
  prompt_tokens := 10
  completion_tokens := 2
  reasoning_tokens := 0
  cache_hit_tokens := 0
  cache_miss_tokens := 10
  total_tokens := 12
  cost_usd := .finite false 1 (-3)
  price_snapshot_id := ⟨"deepseek-prices-1", by decide⟩
  price_band := "peak"
  first_recorded_at := some 30000000
  last_recorded_at := some 30000000

/-- The first of two sessions in the window of one attempt is assigned to it. -/
theorem first_session_assigned :
    ¬ AssignsConservatively 60000000 [sampleRecord 2, sampleRecord 3] [sampleAttempt] := by
  intro h
  have hassigned : (assign_attempts [sampleRecord 2, sampleRecord 3] [sampleAttempt] 60000000).assigned.get? 1 =
      some (sampleRecord 2) := by decide
  obtain ⟨attempt, -, hsole, hrivals⟩ := (h.conservative.exact_pairs 1 (sampleRecord 2)).mp hassigned
  have hcandidates : candidates 60000000 [sampleAttempt] (sampleRecord 2) = [sampleAttempt] := by decide
  rw [hcandidates] at hsole
  cases hsole
  exact absurd hrivals (by decide)

end CommerceAgent.Evaluation
