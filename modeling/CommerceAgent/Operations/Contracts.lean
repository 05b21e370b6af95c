import CommerceAgent.Lib.Json
import CommerceAgent.Lib.Calendar

/-!
# Contracts of the controlled operations

The immutable values that the workflow, its stores and its callers exchange. What a
contract checks when it is built is a field of its structure.
-/

open CommerceAgent.Lib

namespace CommerceAgent.Operations

/-! ## Errors -/

inductive ErrorKind where
  | contract
  | authorization
  | approval
  | conflict
  | infrastructure
  deriving DecidableEq, Repr

/-- What a call raises: a stable public error, or an exception of the language. -/
inductive Raised where
  | operation (kind : ErrorKind) (reason_code : String) (retryable : Bool)
  | exception (name : String)
  deriving DecidableEq, Repr

def OperationContractError (reason_code : String) : Raised := .operation .contract reason_code false
def OperationAuthorizationError (reason_code : String) : Raised := .operation .authorization reason_code false
def ApprovalError (reason_code : String) : Raised := .operation .approval reason_code false
def OperationConflictError (reason_code : String) : Raised := .operation .conflict reason_code false
def OperationInfrastructureError (reason_code : String) (retryable : Bool) : Raised :=
  .operation .infrastructure reason_code retryable

/-! ## Identifiers and digests -/

abbrev UUID := BitVec 128

instance : LawfulBEq UUID := inferInstance

/-- `str(uuid).lower()`. -/
def UUID.text (u : UUID) : String :=
  let ds := fixedText 16 32 u.toNat
  String.ofList (ds.take 8 ++ '-' :: (ds.drop 8).take 4 ++ '-' :: (ds.drop 12).take 4 ++
    '-' :: (ds.drop 16).take 4 ++ '-' :: ds.drop 20)

def UUID.parse (s : String) : Option UUID := do
  let ds := s.toList.filter (· ≠ '-')
  if ds.length = 32 then some (BitVec.ofNat 128 (← hexValue ds)) else none

theorem UUID.length_text (u : UUID) : u.text.toList.length = 36 := by
  unfold UUID.text
  have hlen := length_fixedText 16 32 u.toNat
  simp only [String.toList_ofList, List.length_append, List.length_cons, List.length_take, List.length_drop, hlen]
  omega

theorem UUID.parse_text (u : UUID) : UUID.parse u.text = some u := by
  have hdash : ∀ c ∈ fixedText 16 32 u.toNat, c ≠ '-' := by
    intro c hc
    have := mem_fixedText_sixteen hc
    rintro rfl
    revert this
    decide
  have hfilter (cs : List Char) (h : cs ⊆ fixedText 16 32 u.toNat) : cs.filter (· ≠ '-') = cs :=
    List.filter_eq_self.mpr fun c hc => by simpa using hdash c (h hc)
  have hchars : u.text.toList.filter (· ≠ '-') = fixedText 16 32 u.toNat := by
    simp only [UUID.text, String.toList_ofList, List.filter_append, List.filter_cons, List.append_assoc,
      ne_eq, not_true, decide_false, Bool.false_eq_true, if_false, List.cons_append]
    rw [hfilter _ (List.take_subset _ _), hfilter _ (List.Subset.trans (List.take_subset _ _) (List.drop_subset _ _)),
      hfilter _ (List.Subset.trans (List.take_subset _ _) (List.drop_subset _ _)),
      hfilter _ (List.Subset.trans (List.take_subset _ _) (List.drop_subset _ _)), hfilter _ (List.drop_subset _ _)]
    generalize fixedText 16 32 u.toNat = ds
    have step (n k : ℕ) : (ds.drop n).take k ++ ds.drop (n + k) = ds.drop n := by
      rw [← List.drop_drop]
      exact List.take_append_drop k _
    rw [step 16 4, step 12 4, step 8 4, List.take_append_drop]
  rw [UUID.parse, hchars, if_pos (length_fixedText ..), hexValue_fixedText]
  simp only [Option.bind_eq_bind, Option.bind_some, Option.some.injEq]
  exact BitVec.eq_of_toNat_eq (by simp [Nat.mod_eq_of_lt u.isLt])

instance : Json.Codec UUID where
  toJson u := .str u.text
  ofJson
    | .str s => UUID.parse s
    | _ => none
  ofJson_toJson u := UUID.parse_text u

/-! ## Checked texts -/

/-- A text that passes the check of its field. -/
structure Checked (ok : String → Bool) where
  text : String
  passes : ok text = true
  deriving DecidableEq

namespace Checked

variable {ok : String → Bool}

theorem ext {a b : Checked ok} (h : a.text = b.text) : a = b := by
  cases a
  cases b
  simp_all

def parse (s : String) : Option (Checked ok) := if h : ok s = true then some ⟨s, h⟩ else none

@[simp] theorem parse_text (t : Checked ok) : (parse t.text : Option (Checked ok)) = some t := by
  rw [parse, dif_pos t.passes]

instance : Json.Codec (Checked ok) where
  toJson t := .str t.text
  ofJson
    | .str s => parse s
    | _ => none
  ofJson_toJson t := parse_text t

end Checked

/-- `Field(min_length=lo, max_length=hi)`. -/
abbrev Text (lo hi : ℕ) := Checked fun s => lo ≤ s.length && s.length ≤ hi

/-- `^[first][rest]{lo,hi}$`. -/
def matchesPattern (first rest : Char → Bool) (lo hi : ℕ) (s : String) : Bool :=
  match s.toList with
  | [] => false
  | c :: cs => first c && cs.all rest && lo ≤ cs.length && cs.length ≤ hi

def lowerCase (c : Char) : Bool := 'a' ≤ c && c ≤ 'z'

def codeChar (c : Char) : Bool := lowerCase c || c.isDigit || c == '_'

def nameChar (c : Char) : Bool := codeChar c || c == '.' || c == '-'

/-- `^[a-z][a-z0-9_.-]{lo,hi}$`. -/
abbrev Name (lo hi : ℕ) := Checked (matchesPattern lowerCase nameChar lo hi)

/-- `^[a-z][a-z0-9_]{lo,hi}$`. -/
abbrev Code (lo hi : ℕ) := Checked (matchesPattern lowerCase codeChar lo hi)

/-- `^[A-Za-z0-9][A-Za-z0-9_.:-]+$`, of 8 to 128 characters. -/
abbrev IdempotencyKey := Checked fun s =>
  8 ≤ s.length && s.length ≤ 128 &&
    matchesPattern Char.isAlphanum (fun c => c.isAlphanum || ['_', '.', ':', '-'].elem c) 1 127 s

def isHexDigest (s : String) : Bool :=
  s.length == 64 && s.toList.all fun c => "0123456789abcdef".toList.elem c

/-- `^[0-9a-f]{64}$`. -/
abbrev HexDigest := Checked isHexDigest

/-- The digest that writes a number. -/
def HexDigest.ofNat (n : ℕ) : HexDigest where
  text := String.ofList (fixedText 16 64 n)
  passes := by
    rw [isHexDigest, Bool.and_eq_true, List.all_eq_true]
    refine ⟨by simp, ?_⟩
    intro c hc
    rw [String.toList_ofList] at hc
    exact List.elem_eq_true_of_mem (mem_fixedText_sixteen hc)

/-! ## Time -/

/-- Microseconds in one second. -/
def second : ℕ := 1000000

/-- An aware `datetime`: its instant, in microseconds since 0001-01-01T00:00:00Z, and its
offset from UTC in minutes. It compares by its instant. -/
structure Datetime where
  instant : ℕ
  utcoffset : ℤ
  inRange : instant < Calendar.maxDays * 86400 * second
  localInRange : 0 ≤ (instant : ℤ) + utcoffset * (60 * second) ∧
    (instant : ℤ) + utcoffset * (60 * second) < Calendar.maxDays * 86400 * second
  deriving DecidableEq, Repr

namespace Datetime

def utc (instant : ℕ) (h : instant < Calendar.maxDays * 86400 * second) : Datetime :=
  ⟨instant, 0, h, by rw [zero_mul, add_zero]; exact ⟨by omega, by exact_mod_cast h⟩⟩

/-- `value + timedelta(...)`, which overflows past the year 9999. -/
def add (value : Datetime) (microseconds : ℕ) : Except Raised Datetime :=
  if h : value.instant + microseconds < Calendar.maxDays * 86400 * second ∧
      (value.instant : ℤ) + microseconds + value.utcoffset * (60 * second) < Calendar.maxDays * 86400 * second then
    .ok ⟨value.instant + microseconds, value.utcoffset, h.1,
      ⟨by have := value.localInRange.1; push_cast; omega, by push_cast; omega⟩⟩
  else .error (.exception "OverflowError")

theorem add_instant {value result : Datetime} {microseconds : ℕ} (h : value.add microseconds = .ok result) :
    result.instant = value.instant + microseconds := by
  unfold add at h
  split at h
  · injection h with h
    rw [← h]
  · cases h

/-- `timedelta(hours=n)`. -/
def hours (n : ℕ) : ℕ := n * 3600 * second

/-- `timedelta(minutes=n)`. -/
def minutes (n : ℕ) : ℕ := n * 60 * second

/-- `value.astimezone(UTC).isoformat(timespec="seconds").replace("+00:00", "Z")`. -/
def utc_z (value : Datetime) : String :=
  String.ofList (Calendar.isoText (value.instant / second) ++ ['Z'])

theorem seconds_lt (value : Datetime) : value.instant / second < Calendar.maxDays * 86400 :=
  (Nat.div_lt_iff_lt_mul (by decide)).mpr value.inRange

theorem utc_z_inj {a b : Datetime} : a.utc_z = b.utc_z ↔ a.instant / second = b.instant / second := by
  constructor
  · intro h
    exact (Calendar.isoText_append_inj a.seconds_lt b.seconds_lt (String.ofList_inj.mp h)).1
  · intro h
    rw [utc_z, utc_z, h]

/-- The JSON form of a contract's datetime. -/
def isoformat (value : Datetime) : String :=
  let wall := ((value.instant : ℤ) + value.utcoffset * (60 * second)).toNat
  let fraction := if wall % second = 0 then [] else '.' :: fixedText 10 6 (wall % second)
  let zone :=
    if value.utcoffset = 0 then ['Z']
    else (if value.utcoffset < 0 then '-' else '+') ::
      (fixedText 10 2 (value.utcoffset.natAbs / 60) ++ ':' :: fixedText 10 2 (value.utcoffset.natAbs % 60))
  String.ofList (Calendar.isoText (wall / second) ++ fraction ++ zone)

end Datetime

/-! ## Enumerations -/

inductive ActorRole where
  | analyst
  | approver
  | data_admin
  deriving DecidableEq, Repr

inductive ProposalStatus where
  | pending
  | approved
  | rejected
  | expired
  | superseded
  deriving DecidableEq, Repr

inductive InvestigationStatus where
  | open
  | in_progress
  | blocked
  | resolved
  | closed
  deriving DecidableEq, Repr

def InvestigationStatus.value : InvestigationStatus → String
  | .open => "open"
  | .in_progress => "in_progress"
  | .blocked => "blocked"
  | .resolved => "resolved"
  | .closed => "closed"

inductive RiskDisposition where
  | confirmed
  | dismissed
  | inconclusive
  deriving DecidableEq, Repr

def RiskDisposition.value : RiskDisposition → String
  | .confirmed => "confirmed"
  | .dismissed => "dismissed"
  | .inconclusive => "inconclusive"

inductive CalendarWindow where
  | week
  | month
  deriving DecidableEq, Repr

def CalendarWindow.value : CalendarWindow → String
  | .week => "week"
  | .month => "month"

inductive AlertComparator where
  | greater_than
  | greater_than_or_equal
  deriving DecidableEq, Repr

def AlertComparator.value : AlertComparator → String
  | .greater_than => "greater_than"
  | .greater_than_or_equal => "greater_than_or_equal"

inductive Priority where
  | low
  | medium
  | high
  deriving DecidableEq, Repr

def Priority.value : Priority → String
  | .low => "low"
  | .medium => "medium"
  | .high => "high"

/-! ## References -/

/-- A dict from names to versions: it compares and serialises by its sorted entries. -/
structure TargetVersions where
  entries : List (String × ℤ)
  sorted : entries.Pairwise fun a b => a.1 < b.1
  deriving DecidableEq

theorem task_sorted (version : ℕ) :
    [("investigation_task", (version : ℤ))].Pairwise fun a b : String × ℤ => a.1 < b.1 := List.pairwise_singleton _ _

theorem rule_sorted : [("metric_alert_rule", 0)].Pairwise fun a b : String × ℤ => a.1 < b.1 := List.pairwise_singleton _ _

theorem risk_sorted : [("investigation_task", 0), ("risk_annotation", 0)].Pairwise fun a b : String × ℤ => a.1 < b.1 := by
  decide

def TargetVersions.get? (v : TargetVersions) (name : String) : Option ℤ := v.entries.lookup name

structure ActorContext where
  actor_id : UUID
  role : ActorRole
  deriving DecidableEq, Repr

structure EvidenceRef where
  kind : Name 1 63
  ref : Text 1 256
  digest : HexDigest
  deriving DecidableEq

/-- `evidence_refs: tuple[EvidenceRef, ...] = Field(min_length=1, max_length=32)`, unique. -/
structure EvidenceRefs where
  items : List EvidenceRef
  size : 1 ≤ items.length ∧ items.length ≤ 32
  unique : items.Nodup
  deriving DecidableEq

theorem EvidenceRefs.items_inj {a b : EvidenceRefs} : a.items = b.items ↔ a = b := by
  cases a
  cases b
  simp

structure ProposalRef where
  proposal_id : UUID
  version : ℕ
  positive : 1 ≤ version
  deriving DecidableEq

theorem first_version : 1 ≤ 1 := le_refl 1

/-- The key of a proposal version in the stores. -/
def ProposalRef.key (ref : ProposalRef) : UUID × ℕ := (ref.proposal_id, ref.version)

theorem ProposalRef.key_inj {a b : ProposalRef} : a.key = b.key ↔ a = b := by
  cases a
  cases b
  simp [ProposalRef.key]

def ProposalRef.next (ref : ProposalRef) : ProposalRef := ⟨ref.proposal_id, ref.version + 1, by omega⟩

structure MetricRef where
  name : Name 2 127
  revision : Text 1 128
  deriving DecidableEq

/-- A seller reference; its namespace is always `product:seller-target`. -/
structure SellerRef where
  token : Text 8 4096
  deriving DecidableEq

structure InvestigationTaskRef where
  task_id : UUID
  version : ℕ
  deriving DecidableEq

structure AlertBacktestRef where
  backtest_id : UUID
  rule_spec_sha256 : HexDigest
  deriving DecidableEq

structure AlertHitRef where
  hit_id : UUID
  evidence_digest : HexDigest
  deriving DecidableEq

/-! ## Proposals, decisions and executions -/

structure CommandPreview where
  command_type : String
  title : String
  public_summary : String
  target_versions : TargetVersions
  affected_rows : ℕ
  deriving DecidableEq

structure ExecutionGrant where
  proposal_id : UUID
  proposal_version : ℕ
  positive : 1 ≤ proposal_version
  payload_sha256 : HexDigest
  requester_id : UUID
  approver_id : UUID
  target_versions : TargetVersions
  expires_at : Datetime
  nonce : Text 4 128
  key_version : ℕ
  signature : HexDigest
  deriving DecidableEq

def ExecutionGrant.proposal_ref (grant : ExecutionGrant) : ProposalRef :=
  ⟨grant.proposal_id, grant.proposal_version, grant.positive⟩

structure ProposalSnapshot where
  proposal_ref : ProposalRef
  status : ProposalStatus
  requester_id : UUID
  command_type : String
  payload_sha256 : HexDigest
  preview : CommandPreview
  created_at : Datetime
  expires_at : Datetime
  increasing : created_at.instant < expires_at.instant
  deriving DecidableEq

inductive Decision where
  | approve
  | reject
  deriving DecidableEq, Repr

structure DecisionRequest where
  actor : ActorContext
  proposal_ref : ProposalRef
  decision : Decision
  reason : Option (Text 1 1000)
  deriving DecidableEq

/-- A decision is an approval with its grant, or a rejection without one. -/
structure DecisionReceipt where
  proposal_ref : ProposalRef
  status : ProposalStatus
  approver_id : UUID
  decided_at : Datetime
  reason : Option (Text 1 1000)
  grant : Option ExecutionGrant
  consistent : (status = .approved ∧ grant.isSome) ∨ (status = .rejected ∧ grant = none)
  deriving DecidableEq

structure ExecuteRequest where
  actor : ActorContext
  grant : ExecutionGrant
  deriving DecidableEq

/-- A receipt always reports success, and advances the version of its target. -/
structure ExecutionReceipt where
  execution_id : UUID
  proposal_ref : ProposalRef
  command_type : String
  before_version : ℕ
  after_version : ℕ
  advance : before_version < after_version
  committed_at : Datetime
  public_summary : String
  audit_ref : String
  deriving DecidableEq

end CommerceAgent.Operations
