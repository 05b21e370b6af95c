import CommerceAgent.Lib.Permutations
import CommerceAgent.Lib.Raising
import CommerceAgent.Operations.Contracts
import Mathlib.Data.Finset.Card
import Mathlib.Data.List.DropRight
import Mathlib.Data.Prod.Lex

/-!
# The resolver of business values

`BusinessValueResolver._resolve_text`: a text is matched exactly, in normal form, by an alias, and by similarity.
-/

open CommerceAgent.Lib
open CommerceAgent.Operations (Text HexDigest Checked)

namespace CommerceAgent.ValueResolver

/-! ## Contracts -/

inductive ValueDomain where
  | customer_state
  | seller_state
  | order_status
  | payment_type
  | product_category
  | customer_city
  | seller_city
  | seller_id
  | order_id
  deriving DecidableEq, Repr

def ValueDomain.value : ValueDomain → String
  | .customer_state => "customer_state"
  | .seller_state => "seller_state"
  | .order_status => "order_status"
  | .payment_type => "payment_type"
  | .product_category => "product_category"
  | .customer_city => "customer_city"
  | .seller_city => "seller_city"
  | .seller_id => "seller_id"
  | .order_id => "order_id"

inductive ResolutionStatus where
  | resolved
  | ambiguous
  | not_found
  | too_broad
  deriving DecidableEq, Repr

inductive MatchMethod where
  | exact
  | normalized_exact
  | by_alias
  | prefix_match
  | trigram
  deriving DecidableEq, Repr

inductive Confidence where
  | high
  | medium
  | low
  deriving DecidableEq, Repr

structure ValueResolutionRequest where
  domain : ValueDomain
  raw_text : Text 1 256

structure StoredRevision where
  data_manifest_sha256 : String
  catalog_revision : String

structure StoredValue where
  canonical_value : String
  display_label : String
  support_count : ℤ
  deriving DecidableEq

structure StoredAlias where
  normalized_alias : String
  canonical_value : String
  display_label : String
  deriving DecidableEq

structure TextDomainSnapshot where
  values : List StoredValue
  aliases : List StoredAlias
  revision : StoredRevision

structure ValueCandidate where
  canonical_value : String
  display_label : String
  match_method : MatchMethod
  confidence : Confidence
  support_count : ℤ
  evidence_ref : String
  named : canonical_value ≠ "" ∧ display_label ≠ ""
  supported : 1 ≤ support_count

/-- What a result may hold under its status. -/
def FitsStatus (status : ResolutionStatus) (count : ℕ) : Prop :=
  match status with
  | .resolved => count = 1
  | .ambiguous => 1 ≤ count ∧ count ≤ 10
  | .not_found => count = 0
  | .too_broad => count = 0

instance : (status : ResolutionStatus) → (count : ℕ) → Decidable (FitsStatus status count)
  | .resolved, count => inferInstanceAs (Decidable (count = 1))
  | .ambiguous, count => inferInstanceAs (Decidable (1 ≤ count ∧ count ≤ 10))
  | .not_found, count => inferInstanceAs (Decidable (count = 0))
  | .too_broad, count => inferInstanceAs (Decidable (count = 0))

structure ValueResolutionResult where
  status : ResolutionStatus
  domain : ValueDomain
  normalized_input : String
  candidates : List ValueCandidate
  data_manifest_sha256 : HexDigest
  catalog_revision : Text 1 128
  shape : FitsStatus status candidates.length

/-- A `ValueResolutionDataError`, or what pydantic raises. -/
inductive Raised where
  | data (reason_code message : String)
  | validation
  deriving DecidableEq

/-! ## Matching -/

/-- What the code uses of Python. -/
structure Python where
  nfkc : String → String
  nfkd : String → String
  casefold : String → String
  isspace : Char → Bool
  combining : Char → Bool
  /-- `sha256(text.encode("utf-8")).hexdigest()`. -/
  sha256 : String → HexDigest
  /-- The float of a quotient. -/
  true_divide : ℕ → ℕ → ℚ

namespace Python

variable (python : Python)

/-- `re.sub(r"\s+", " ", text)`, behind a blank or not. -/
def collapse : Bool → List Char → List Char
  | _, [] => []
  | blank, c :: cs =>
    if python.isspace c then if blank then collapse true cs else ' ' :: collapse true cs
    else c :: collapse false cs

def strip (text : String) : String :=
  String.ofList ((text.toList.dropWhile python.isspace).rdropWhile python.isspace)

def normalize_text (value : String) : String :=
  python.strip (String.ofList (python.collapse false (python.casefold (python.nfkc value)).toList))

def normalize_city (value : String) : String :=
  String.ofList ((python.nfkd (python.normalize_text value)).toList.filter fun c => !python.combining c)

end Python

def trigrams (value : String) : Finset (List Char) :=
  let padded := ' ' :: ' ' :: (value.toList ++ [' ', ' '])
  ((List.range (padded.length - 2)).map fun index => (padded.drop index).take 3).toFinset

def trigram_dice (python : Python) (left right : String) : ℚ :=
  if left = right then 1
  else if left = "" ∨ right = "" then 0
  else
    let left_trigrams := trigrams left
    let right_trigrams := trigrams right
    python.true_divide (2 * (left_trigrams ∩ right_trigrams).card) (left_trigrams.card + right_trigrams.card)

/-! ## The resolver -/

def MAX_DOMAIN_VALUES : ℕ := 10000
def MAX_CANDIDATES : ℕ := 10

/-- The float `0.35`. -/
def TRIGRAM_THRESHOLD : ℚ := 3152519739159347 / 9007199254740992

/-- The float `0.70`. -/
def MEDIUM_THRESHOLD : ℚ := 3152519739159347 / 4503599627370496

section

variable (python : Python) (request : ValueResolutionRequest)

def candidate (value : StoredValue) (method : MatchMethod) (confidence : Confidence) : Except Raised ValueCandidate :=
  if h : (value.canonical_value ≠ "" ∧ value.display_label ≠ "") ∧ 1 ≤ value.support_count then
    .ok {
      canonical_value := value.canonical_value
      display_label := value.display_label
      match_method := method
      confidence := confidence
      support_count := value.support_count
      evidence_ref := s!"value:{request.domain.value}:" ++
        String.ofList ((python.sha256 value.canonical_value).text.toList.take 16)
      named := h.1
      supported := h.2 }
  else .error .validation

def result (normalized_input : String) (status : ResolutionStatus) (candidates : List ValueCandidate)
    (revision : StoredRevision) : Except Raised ValueResolutionResult :=
  match (Checked.parse revision.data_manifest_sha256 : Option HexDigest),
    (Checked.parse revision.catalog_revision : Option (Text 1 128)) with
  | some data_manifest_sha256, some catalog_revision =>
    if h : FitsStatus status candidates.length then
      .ok ⟨status, request.domain, normalized_input, candidates, data_manifest_sha256, catalog_revision, h⟩
    else .error .validation
  | _, _ => .error .validation

/-- `(-item.support_count, item.canonical_value)`. -/
def support_key (item : StoredValue) : ℤ ×ₗ String := toLex (-item.support_count, item.canonical_value)

def matched_result (normalized_input : String) (values : List StoredValue) (method : MatchMethod)
    (revision : StoredRevision) : Except Raised ValueResolutionResult := do
  let ordered := values.insertionSort (support_key · ≤ support_key ·)
  let candidates ← (ordered.take MAX_CANDIDATES).mapM fun item => candidate python request item method .high
  result request normalized_input (if ordered.length = 1 then .resolved else .ambiguous) candidates revision

def normalizer : String → String :=
  if request.domain ∈ [ValueDomain.customer_city, .seller_city] then python.normalize_city else python.normalize_text

def score (item : StoredValue) : ℚ :=
  trigram_dice python (normalizer python request request.raw_text.text) (normalizer python request item.canonical_value)

/-- `(-score, -item.support_count, item.canonical_value)`. -/
def score_key (item : StoredValue) : ℚ ×ₗ (ℤ ×ₗ String) := toLex (-score python request item, support_key item)

def exact_matches (values : List StoredValue) : List StoredValue :=
  values.filter fun item => item.canonical_value = python.strip request.raw_text.text

def normalized_matches (values : List StoredValue) : List StoredValue :=
  values.filter fun item =>
    normalizer python request item.canonical_value = normalizer python request request.raw_text.text

def alias_matches (aliases : List StoredAlias) : List StoredAlias :=
  aliases.filter fun known =>
    python.normalize_text known.normalized_alias = python.normalize_text request.raw_text.text

def similar (values : List StoredValue) : List StoredValue :=
  values.filter fun item => TRIGRAM_THRESHOLD ≤ score python request item

/-- The aliases that match name one value, which is stored. -/
def alias_result (snapshot : TextDomainSnapshot) (first : StoredAlias) (aliases : List StoredAlias) :
    Except Raised ValueResolutionResult :=
  if ∃ known ∈ aliases, known.canonical_value ≠ first.canonical_value then
    .error (.data "alias_collision" "one normalized alias maps to multiple canonical values")
  else
    match snapshot.values.find? fun item => item.canonical_value = first.canonical_value with
    | none => .error (.data "alias_target_missing" "an alias references a missing canonical value")
    | some stored =>
      matched_result python request (normalizer python request request.raw_text.text)
        [⟨stored.canonical_value, first.display_label, stored.support_count⟩] .by_alias snapshot.revision

def trigram_result (snapshot : TextDomainSnapshot) : Except Raised ValueResolutionResult := do
  let scored := (similar python request snapshot.values).insertionSort
    (score_key python request · ≤ score_key python request ·)
  let candidates ← (scored.take MAX_CANDIDATES).mapM fun item =>
    candidate python request item .trigram (if MEDIUM_THRESHOLD ≤ score python request item then .medium else .low)
  result request (normalizer python request request.raw_text.text)
    (if candidates.isEmpty then .not_found else .ambiguous) candidates snapshot.revision

/-- `_resolve_text(request)`, of the snapshot that the store gives. -/
def resolve_text (snapshot : TextDomainSnapshot) : Except Raised ValueResolutionResult :=
  let normalized_input := normalizer python request request.raw_text.text
  if MAX_DOMAIN_VALUES < snapshot.values.length then
    .error (.data "domain_cardinality" "value domain exceeds the reviewed cardinality limit")
  else
    match exact_matches python request snapshot.values with
    | item :: rest => matched_result python request normalized_input (item :: rest) .exact snapshot.revision
    | [] =>
      match normalized_matches python request snapshot.values with
      | item :: rest => matched_result python request normalized_input
        (item :: rest) .normalized_exact snapshot.revision
      | [] =>
        match alias_matches python request snapshot.aliases with
        | first :: rest => alias_result python request snapshot first (first :: rest)
        | [] => trigram_result python request snapshot

/-! ## The tiers -/

/-- The first tier in which something matches. -/
def tier (snapshot : TextDomainSnapshot) : MatchMethod :=
  if exact_matches python request snapshot.values ≠ [] then .exact
  else if normalized_matches python request snapshot.values ≠ [] then .normalized_exact
  else if alias_matches python request snapshot.aliases ≠ [] then .by_alias
  else .trigram

/-- The values that the first tier matches. -/
def matched (snapshot : TextDomainSnapshot) : List StoredValue :=
  match tier python request snapshot with
  | .exact => exact_matches python request snapshot.values
  | .normalized_exact => normalized_matches python request snapshot.values
  | .by_alias => snapshot.values.filter fun item =>
      ∃ known ∈ alias_matches python request snapshot.aliases, known.canonical_value = item.canonical_value
  | .prefix_match => []
  | .trigram => similar python request snapshot.values

/-- The aliases that match name several values, or a missing one. -/
def AliasFault (snapshot : TextDomainSnapshot) : Prop :=
  tier python request snapshot = .by_alias ∧
    ((∃ known ∈ alias_matches python request snapshot.aliases, ∃ other ∈ alias_matches python request snapshot.aliases,
        known.canonical_value ≠ other.canonical_value) ∨
      ∃ known ∈ alias_matches python request snapshot.aliases,
        ∀ item ∈ snapshot.values, item.canonical_value ≠ known.canonical_value)

/-- How a tier ranks its matches. -/
def Outranks : MatchMethod → StoredValue → StoredValue → Prop
  | .trigram, item, other => score_key python request item < score_key python request other
  | _, item, other => support_key item < support_key other

/-- The best matches of the first tier, best first. -/
def Best (snapshot : TextDomainSnapshot) (items : List StoredValue) : Prop :=
  ∃ ranking : List StoredValue, ranking.Perm (matched python request snapshot) ∧
    ranking.Pairwise (Outranks python request (tier python request snapshot)) ∧ items = ranking.take MAX_CANDIDATES

/-- A label that a candidate may carry. -/
def Labelled (snapshot : TextDomainSnapshot) (item : StoredValue) (label : String) : Prop :=
  if tier python request snapshot = .by_alias then
    ∃ known ∈ alias_matches python request snapshot.aliases, known.display_label = label
  else item.display_label = label

/-- A candidate stands for a stored value. -/
structure StandsFor (snapshot : TextDomainSnapshot) (item : StoredValue) (shown : ValueCandidate) : Prop where
  stored : item ∈ snapshot.values
  canonical_value : shown.canonical_value = item.canonical_value
  support_count : shown.support_count = item.support_count
  match_method : shown.match_method = tier python request snapshot
  display_label : Labelled python request snapshot item shown.display_label

/-- The result that a text should have. -/
structure Describes (snapshot : TextDomainSnapshot) (found : ValueResolutionResult) : Prop where
  /-- A text is resolved exactly to the only value that a tier before the similarity matches. -/
  resolved : ∀ c, (found.status = .resolved ∧ found.candidates.map (·.canonical_value) = [c]) ↔
    tier python request snapshot ≠ .trigram ∧ (matched python request snapshot).map (·.canonical_value) = [c]
  best : ∃ items, Best python request snapshot items ∧
    List.Forall₂ (StandsFor python request snapshot) items found.candidates
  distinct : (found.candidates.map (·.canonical_value)).Nodup
  few : found.candidates.length ≤ MAX_CANDIDATES

/-- The same values and aliases, listed in another order. -/
structure SameStored (snapshot other : TextDomainSnapshot) : Prop where
  values : other.values.Perm snapshot.values
  aliases : other.aliases.Perm snapshot.aliases
  revision : other.revision = snapshot.revision

/-- A text is resolved as it should be. -/
structure ResolvesText (snapshot : TextDomainSnapshot) : Prop where
  data_error : AliasFault python request snapshot →
    ∃ reason_code message, resolve_text python request snapshot = .error (.data reason_code message)
  described : ¬AliasFault python request snapshot →
    ∃ found, resolve_text python request snapshot = .ok found ∧ Describes python request snapshot found
  order_free : ∀ other, SameStored snapshot other →
    resolve_text python request other = resolve_text python request snapshot

/-! ## What the contracts ask of a snapshot -/

/-- The revision passes the checks of a result. -/
def Revised (revision : StoredRevision) : Prop :=
  (Checked.parse revision.data_manifest_sha256 : Option HexDigest).isSome ∧
    (Checked.parse revision.catalog_revision : Option (Text 1 128)).isSome

/-- A candidate of the value can be built. -/
def Candid (item : StoredValue) : Prop :=
  (item.canonical_value ≠ "" ∧ item.display_label ≠ "") ∧ 1 ≤ item.support_count

/-- The matching aliases give the value one label. -/
def OneLabel (snapshot : TextDomainSnapshot) : Prop :=
  ∀ known ∈ alias_matches python request snapshot.aliases, ∀ other ∈ alias_matches python request snapshot.aliases,
    known.display_label = other.display_label

/-- A result can be built, and the order of the aliases does not show in it. -/
structure Presentable (snapshot : TextDomainSnapshot) : Prop where
  revised : Revised snapshot.revision
  candid : ∃ items, Best python request snapshot items ∧ ∀ item ∈ items, ∀ label,
    Labelled python request snapshot item label → Candid { item with display_label := label }
  one_label : tier python request snapshot = .by_alias → OneLabel python request snapshot

/-! ## Every tier presents its best matches -/

def confidence : MatchMethod → StoredValue → Confidence
  | .trigram, item => if MEDIUM_THRESHOLD ≤ score python request item then .medium else .low
  | _, _ => .high

/-- The result of a tier whose best matches are given. -/
def present (method : MatchMethod) (status : ResolutionStatus) (items : List StoredValue) (revision : StoredRevision) :
    Except Raised ValueResolutionResult := do
  let candidates ← items.mapM fun item => candidate python request item method (confidence python request method item)
  result request (normalizer python request request.raw_text.text) status candidates revision

def ranked (snapshot : TextDomainSnapshot) : List StoredValue :=
  match tier python request snapshot with
  | .trigram => (matched python request snapshot).insertionSort
      (score_key python request · ≤ score_key python request ·)
  | _ => (matched python request snapshot).insertionSort (support_key · ≤ support_key ·)

/-- The label of the first alias that matches. -/
def relabelled (snapshot : TextDomainSnapshot) (item : StoredValue) : StoredValue :=
  match tier python request snapshot, alias_matches python request snapshot.aliases with
  | .by_alias, first :: _ => { item with display_label := first.display_label }
  | _, _ => item

def outcome (snapshot : TextDomainSnapshot) : ResolutionStatus :=
  if tier python request snapshot = .trigram then
    if matched python request snapshot = [] then .not_found else .ambiguous
  else if (matched python request snapshot).length = 1 then .resolved else .ambiguous

/-- What the code raises when the aliases name several values, or a missing one. -/
def alias_error (snapshot : TextDomainSnapshot) : Raised :=
  if ∃ known ∈ alias_matches python request snapshot.aliases,
      ∃ other ∈ alias_matches python request snapshot.aliases, known.canonical_value ≠ other.canonical_value then
    .data "alias_collision" "one normalized alias maps to multiple canonical values"
  else .data "alias_target_missing" "an alias references a missing canonical value"

variable {python request}

theorem candidate_ok {item : StoredValue} {method : MatchMethod} {confidence : Confidence} (h : Candid item) :
    ∃ shown, candidate python request item method confidence = .ok shown := by
  unfold candidate
  exact ⟨_, dif_pos h⟩

theorem candidate_spec {item : StoredValue} {method : MatchMethod} {confidence : Confidence} {shown : ValueCandidate}
    (h : candidate python request item method confidence = .ok shown) :
    Candid item ∧ shown.canonical_value = item.canonical_value ∧ shown.display_label = item.display_label ∧
      shown.support_count = item.support_count ∧ shown.match_method = method := by
  unfold candidate at h
  split at h
  · rename_i hcandid
    obtain rfl := Except.ok.inj h
    exact ⟨hcandid, rfl, rfl, rfl, rfl⟩
  · cases h

theorem result_ok_iff {normalized_input : String} {status : ResolutionStatus} {candidates : List ValueCandidate}
    {revision : StoredRevision} : (∃ found, result request normalized_input status candidates revision = .ok found) ↔
      Revised revision ∧ FitsStatus status candidates.length := by
  unfold result Revised
  cases hdata : (Checked.parse revision.data_manifest_sha256 : Option HexDigest) with
  | none => exact iff_of_false (fun ⟨found, h⟩ => by cases h) fun h => Bool.noConfusion h.1.1
  | some data =>
    cases hcatalog : (Checked.parse revision.catalog_revision : Option (Text 1 128)) with
    | none => exact iff_of_false (fun ⟨found, h⟩ => by cases h) fun h => Bool.noConfusion h.1.2
    | some catalog =>
      constructor
      · rintro ⟨found, h⟩
        simp only at h
        split at h
        · rename_i hfits
          exact ⟨⟨rfl, rfl⟩, hfits⟩
        · cases h
      · rintro ⟨-, hfits⟩
        exact ⟨_, dif_pos hfits⟩

theorem result_spec {normalized_input : String} {status : ResolutionStatus} {candidates : List ValueCandidate}
    {revision : StoredRevision} {found : ValueResolutionResult}
    (h : result request normalized_input status candidates revision = .ok found) :
    found.status = status ∧ found.candidates = candidates := by
  unfold result at h
  split at h
  · split at h
    · obtain rfl := Except.ok.inj h
      exact ⟨rfl, rfl⟩
    · cases h
  · cases h

/-- What a presented result shows of its items. -/
def Shows (method : MatchMethod) (item : StoredValue) (shown : ValueCandidate) : Prop :=
  Candid item ∧ shown.canonical_value = item.canonical_value ∧ shown.display_label = item.display_label ∧
    shown.support_count = item.support_count ∧ shown.match_method = method

theorem present_spec {method : MatchMethod} {status : ResolutionStatus} {items : List StoredValue}
    {revision : StoredRevision} {found : ValueResolutionResult}
    (h : present python request method status items revision = .ok found) :
    Revised revision ∧ found.status = status ∧ List.Forall₂ (Shows method) items found.candidates := by
  obtain ⟨candidates, hcandidates, hresult⟩ := except_bind_ok h
  obtain ⟨hstatus, hfound⟩ := result_spec hresult
  refine ⟨(result_ok_iff.mp ⟨found, hresult⟩).1, hstatus, ?_⟩
  rw [hfound]
  exact (mapM_eq_ok.mp hcandidates).imp fun item shown hshown => candidate_spec hshown

theorem present_ok {method : MatchMethod} {status : ResolutionStatus} {items : List StoredValue}
    {revision : StoredRevision} (hrevised : Revised revision) (hitems : ∀ item ∈ items, Candid item)
    (hfits : FitsStatus status items.length) :
      ∃ found, present python request method status items revision = .ok found := by
  have hshows : ∀ item ∈ items, ∃ shown,
      candidate python request item method (confidence python request method item) = .ok shown ∧ True := by
    intro item hmem
    obtain ⟨shown, hshown⟩ := candidate_ok (hitems item hmem)
    exact ⟨shown, hshown, trivial⟩
  obtain ⟨candidates, hcandidates, hall⟩ := mapM_forall₂ hshows
  obtain ⟨found, hfound⟩ := result_ok_iff.mpr ⟨hrevised, hall.length_eq ▸ hfits⟩
  refine ⟨found, ?_⟩
  unfold present
  rw [hcandidates, ok_bind]
  exact hfound

theorem matched_result_eq {values : List StoredValue} {method : MatchMethod} {revision : StoredRevision}
    (h : method ≠ .trigram) :
    matched_result python request (normalizer python request request.raw_text.text) values method revision =
      present python request method (if values.length = 1 then .resolved else .ambiguous)
        ((values.insertionSort (support_key · ≤ support_key ·)).take MAX_CANDIDATES) revision := by
  have hconfidence (item : StoredValue) : confidence python request method item = .high := by
    cases method with
    | trigram => exact absurd rfl h
    | _ => rfl
  unfold matched_result present
  simp only [hconfidence, List.length_insertionSort]

variable {snapshot : TextDomainSnapshot}

theorem matched_sublist : (matched python request snapshot).Sublist snapshot.values := by
  unfold matched
  split
  · exact List.filter_sublist
  · exact List.filter_sublist
  · exact List.filter_sublist
  · exact List.nil_sublist _
  · exact List.filter_sublist

theorem matched_by_alias (hdistinct : (snapshot.values.map (·.canonical_value)).Nodup)
    (htier : tier python request snapshot = .by_alias) (hfault : ¬AliasFault python request snapshot)
    {first : StoredAlias} {rest : List StoredAlias}
    (hfirst : alias_matches python request snapshot.aliases = first :: rest) :
    (∀ known ∈ first :: rest, known.canonical_value = first.canonical_value) ∧
      ∃ stored, matched python request snapshot = [stored] ∧
        (snapshot.values.find? fun item => item.canonical_value = first.canonical_value) = some stored := by
  have hone : ∀ known ∈ first :: rest, known.canonical_value = first.canonical_value := by
    intro known hknown
    by_contra hne
    exact hfault ⟨htier, Or.inl ⟨known, hfirst ▸ hknown, first, hfirst ▸ List.mem_cons_self, hne⟩⟩
  refine ⟨hone, ?_⟩
  cases hfind : snapshot.values.find? fun item => item.canonical_value = first.canonical_value with
  | none =>
    refine absurd ⟨htier, Or.inr ⟨first, hfirst ▸ List.mem_cons_self, fun item hitem => ?_⟩⟩ hfault
    simpa using List.find?_eq_none.mp hfind item hitem
  | some stored =>
    refine ⟨stored, ?_, rfl⟩
    have hstored : stored.canonical_value = first.canonical_value := by
      simpa using List.find?_some hfind
    have hmatched : matched python request snapshot =
        snapshot.values.filter fun item => item.canonical_value = stored.canonical_value := by
      unfold matched
      rw [htier]
      refine List.filter_congr fun item _ => decide_eq_decide.mpr ?_
      rw [hfirst, hstored]
      constructor
      · rintro ⟨known, hknown, heq⟩
        exact heq.symm.trans (hone known hknown)
      · exact fun heq => ⟨first, List.mem_cons_self, heq.symm⟩
    rw [hmatched]
    exact filter_key_eq hdistinct (List.mem_of_find?_eq_some hfind)

theorem resolve_text_eq (hdistinct : (snapshot.values.map (·.canonical_value)).Nodup)
    (hsize : snapshot.values.length ≤ MAX_DOMAIN_VALUES) (hfault : ¬AliasFault python request snapshot) :
    resolve_text python request snapshot = present python request (tier python request snapshot)
      (outcome python request snapshot)
      (((ranked python request snapshot).take MAX_CANDIDATES).map (relabelled python request snapshot))
      snapshot.revision := by
  unfold resolve_text
  rw [if_neg (not_lt.mpr hsize)]
  cases hexact : exact_matches python request snapshot.values with
  | cons item rest =>
    have htier : tier python request snapshot = .exact := by
      unfold tier
      rw [if_pos (hexact ▸ List.cons_ne_nil _ _)]
    have hmatched : matched python request snapshot = item :: rest := by
      unfold matched
      rw [htier]
      exact hexact
    unfold outcome ranked relabelled
    simp only [htier, hmatched, List.map_id']
    exact matched_result_eq MatchMethod.noConfusion
  | nil =>
    cases hnormalized : normalized_matches python request snapshot.values with
    | cons item rest =>
      have htier : tier python request snapshot = .normalized_exact := by
        unfold tier
        rw [if_neg (not_not.mpr hexact), if_pos (hnormalized ▸ List.cons_ne_nil _ _)]
      have hmatched : matched python request snapshot = item :: rest := by
        unfold matched
        rw [htier]
        exact hnormalized
      unfold outcome ranked relabelled
      simp only [htier, hmatched, List.map_id']
      exact matched_result_eq MatchMethod.noConfusion
    | nil =>
      cases haliases : alias_matches python request snapshot.aliases with
      | cons first rest =>
        have htier : tier python request snapshot = .by_alias := by
          unfold tier
          rw [if_neg (not_not.mpr hexact), if_neg (not_not.mpr hnormalized), if_pos (haliases ▸ List.cons_ne_nil _ _)]
        obtain ⟨hone, stored, hmatched, hfind⟩ := matched_by_alias hdistinct htier hfault haliases
        have hsame : ¬∃ known ∈ first :: rest, known.canonical_value ≠ first.canonical_value :=
          fun ⟨known, hknown, hne⟩ => hne (hone known hknown)
        unfold outcome ranked relabelled
        simp only [htier, hmatched, haliases]
        unfold alias_result
        rw [if_neg hsame, hfind]
        exact matched_result_eq MatchMethod.noConfusion
      | nil =>
        have htier : tier python request snapshot = .trigram := by
          unfold tier
          rw [if_neg (not_not.mpr hexact), if_neg (not_not.mpr hnormalized), if_neg (not_not.mpr haliases)]
        have hmatched : matched python request snapshot = similar python request snapshot.values := by
          unfold matched
          rw [htier]
        have hempty : (((similar python request snapshot.values).insertionSort
            (score_key python request · ≤ score_key python request ·)).take MAX_CANDIDATES).length = 0 ↔
            similar python request snapshot.values = [] := by
          rw [List.length_take, List.length_insertionSort, Nat.min_eq_zero_iff, List.length_eq_zero_iff]
          exact or_iff_right (by decide)
        unfold outcome ranked relabelled
        simp only [htier, hmatched, List.map_id', if_true]
        unfold present
        show trigram_result python request snapshot = _
        unfold trigram_result
        refine except_bind_congr fun candidates hcandidates => ?_
        have hlength := (mapM_eq_ok.mp hcandidates).length_eq
        have hstatus : candidates.isEmpty = true ↔ similar python request snapshot.values = [] := by
          rw [← hempty, hlength, List.isEmpty_iff, List.length_eq_zero_iff]
        simp only [hstatus]

theorem outranks_asymm {method : MatchMethod} {item other : StoredValue}
    (h : Outranks python request method item other) : ¬Outranks python request method other item := by
  cases method <;> exact lt_asymm h

theorem key_inj (hdistinct : (snapshot.values.map (·.canonical_value)).Nodup)
    {item other : StoredValue} (hitem : item ∈ matched python request snapshot)
    (hother : other ∈ matched python request snapshot)
    (h : item.canonical_value = other.canonical_value) : item = other :=
  List.inj_on_of_nodup_map hdistinct (matched_sublist.subset hitem) (matched_sublist.subset hother) h

theorem support_key_inj (hdistinct : (snapshot.values.map (·.canonical_value)).Nodup) :
    ∀ item ∈ matched python request snapshot, ∀ other ∈ matched python request snapshot,
      support_key item = support_key other → item = other := by
  intro item hitem other hother h
  exact key_inj hdistinct hitem hother (congrArg (fun key => (ofLex key).2) h)

theorem score_key_inj (hdistinct : (snapshot.values.map (·.canonical_value)).Nodup) :
    ∀ item ∈ matched python request snapshot, ∀ other ∈ matched python request snapshot,
      score_key python request item = score_key python request other → item = other := by
  intro item hitem other hother h
  exact key_inj hdistinct hitem hother (congrArg (fun key => (ofLex (ofLex key).2).2) h)

theorem ranked_perm : (ranked python request snapshot).Perm (matched python request snapshot) := by
  unfold ranked
  split <;> exact List.perm_insertionSort _ _

theorem ranked_outranks (hdistinct : (snapshot.values.map (·.canonical_value)).Nodup) :
    (ranked python request snapshot).Pairwise (Outranks python request (tier python request snapshot)) := by
  have hnodup : (matched python request snapshot).Nodup :=
    ((matched_sublist.map _).nodup hdistinct).of_map _
  unfold ranked
  cases htier : tier python request snapshot with
  | trigram => exact insertionSort_key_strict hnodup (score_key_inj hdistinct)
  | _ => exact insertionSort_key_strict hnodup (support_key_inj hdistinct)

theorem best_iff (hdistinct : (snapshot.values.map (·.canonical_value)).Nodup) {items : List StoredValue} :
    Best python request snapshot items ↔ items = (ranked python request snapshot).take MAX_CANDIDATES := by
  constructor
  · rintro ⟨ranking, hperm, hpairwise, rfl⟩
    have heq : ranking = ranked python request snapshot :=
      (hperm.trans ranked_perm.symm).eq_of_pairwise (fun _ _ _ _ h h' => absurd h' (outranks_asymm h)) hpairwise
        (ranked_outranks hdistinct)
    rw [heq]
  · rintro rfl
    exact ⟨_, ranked_perm, ranked_outranks hdistinct, rfl⟩

/-! ## The order of a snapshot -/

variable {other : TextDomainSnapshot}

theorem SameStored.aliases_perm (h : SameStored snapshot other) :
    (alias_matches python request other.aliases).Perm
      (alias_matches python request snapshot.aliases) :=
  h.aliases.filter _

theorem SameStored.symm (h : SameStored snapshot other) : SameStored other snapshot :=
  ⟨h.values.symm, h.aliases.symm, h.revision.symm⟩

theorem perm_eq_nil {α : Type} {xs ys : List α} (h : xs.Perm ys) : xs = [] ↔ ys = [] := by
  rw [← List.length_eq_zero_iff, ← List.length_eq_zero_iff, h.length_eq]

theorem SameStored.tier_eq (h : SameStored snapshot other) :
    tier python request other = tier python request snapshot := by
  have hexact : exact_matches python request other.values = [] ↔ exact_matches python request snapshot.values = [] :=
    perm_eq_nil (h.values.filter _)
  have hnormalized : normalized_matches python request other.values = [] ↔
      normalized_matches python request snapshot.values = [] := perm_eq_nil (h.values.filter _)
  have haliases := perm_eq_nil (@SameStored.aliases_perm python request _ _ h)
  unfold tier
  simp only [ne_eq, hexact, hnormalized, haliases]

theorem SameStored.fault (h : SameStored snapshot other) (hfault : AliasFault python request snapshot) :
    AliasFault python request other := by
  have hmem {known : StoredAlias} (hknown : known ∈ alias_matches python request snapshot.aliases) :
      known ∈ alias_matches python request other.aliases := h.aliases_perm.mem_iff.mpr hknown
  refine ⟨h.tier_eq.trans hfault.1, hfault.2.imp ?_ ?_⟩
  · rintro ⟨known, hknown, second, hsecond, hne⟩
    exact ⟨known, hmem hknown, second, hmem hsecond, hne⟩
  · rintro ⟨known, hknown, hmissing⟩
    exact ⟨known, hmem hknown, fun item hitem => hmissing item (h.values.mem_iff.mp hitem)⟩

theorem SameStored.matched_perm (h : SameStored snapshot other) :
    (matched python request other).Perm (matched python request snapshot) := by
  unfold matched
  rw [h.tier_eq]
  split
  · exact h.values.filter _
  · exact h.values.filter _
  · -- The values that an alias names are the same ones.
    have hnamed (item : StoredValue) :
        (∃ known ∈ alias_matches python request other.aliases, known.canonical_value = item.canonical_value) ↔
          ∃ known ∈ alias_matches python request snapshot.aliases,
            known.canonical_value = item.canonical_value :=
      exists_congr fun known => and_congr_left' h.aliases_perm.mem_iff
    simp only [hnamed]
    exact h.values.filter _
  · exact List.Perm.refl _
  · exact h.values.filter _

theorem SameStored.distinct (h : SameStored snapshot other)
    (hdistinct : (snapshot.values.map (·.canonical_value)).Nodup) : (other.values.map (·.canonical_value)).Nodup :=
  (h.values.map _).nodup_iff.mpr hdistinct

theorem SameStored.ranked_eq (h : SameStored snapshot other)
    (hdistinct : (snapshot.values.map (·.canonical_value)).Nodup) :
    ranked python request other = ranked python request snapshot := by
  have hperm := @SameStored.matched_perm python request _ _ h
  unfold ranked
  rw [h.tier_eq]
  split
  · exact (insertionSort_key_eq (score_key_inj hdistinct) hperm.symm).symm
  · exact (insertionSort_key_eq (support_key_inj hdistinct) hperm.symm).symm

theorem SameStored.outcome_eq (h : SameStored snapshot other) :
    outcome python request other = outcome python request snapshot := by
  have hperm := @SameStored.matched_perm python request _ _ h
  unfold outcome
  simp only [h.tier_eq, perm_eq_nil hperm, hperm.length_eq]

theorem SameStored.relabelled_eq (h : SameStored snapshot other)
    (hone : tier python request snapshot = .by_alias → OneLabel python request snapshot) (item : StoredValue) :
    relabelled python request other item = relabelled python request snapshot item := by
  unfold relabelled
  rw [h.tier_eq]
  cases htier : tier python request snapshot with
  | by_alias =>
    have hperm := @SameStored.aliases_perm python request _ _ h
    cases haliases : alias_matches python request snapshot.aliases with
    | nil => rw [perm_eq_nil hperm |>.mpr haliases]
    | cons first rest =>
      cases hothers : alias_matches python request other.aliases with
      | nil => rw [perm_eq_nil hperm |>.mp hothers] at haliases; cases haliases
      | cons known others =>
        have hknown : known ∈ alias_matches python request snapshot.aliases :=
          hperm.mem_iff.mp (hothers ▸ List.mem_cons_self)
        have hlabel := hone htier known hknown first (haliases ▸ List.mem_cons_self)
        simp only [hlabel]
  | _ => rfl

theorem resolve_text_by_alias (hsize : snapshot.values.length ≤ MAX_DOMAIN_VALUES)
    (htier : tier python request snapshot = .by_alias) :
    ∃ first rest, alias_matches python request snapshot.aliases = first :: rest ∧
      resolve_text python request snapshot = alias_result python request snapshot first (first :: rest) := by
  unfold tier at htier
  unfold resolve_text
  rw [if_neg (not_lt.mpr hsize)]
  split at htier
  · cases htier
  · rename_i hexact
    split at htier
    · cases htier
    · rename_i hnormalized
      split at htier
      · rename_i haliases
        obtain ⟨first, rest, hfirst⟩ := List.exists_cons_of_ne_nil haliases
        refine ⟨first, rest, hfirst, ?_⟩
        rw [not_not.mp hexact, not_not.mp hnormalized, hfirst]
      · cases htier

theorem resolve_text_fault (hsize : snapshot.values.length ≤ MAX_DOMAIN_VALUES)
    (hfault : AliasFault python request snapshot) :
    resolve_text python request snapshot = .error (alias_error python request snapshot) := by
  obtain ⟨first, rest, hfirst, heq⟩ := resolve_text_by_alias hsize hfault.1
  rw [heq]
  unfold alias_result alias_error
  by_cases hone : ∀ known ∈ first :: rest, known.canonical_value = first.canonical_value
  · have hsame : ¬∃ known ∈ first :: rest, known.canonical_value ≠ first.canonical_value :=
      fun ⟨known, hknown, hne⟩ => hne (hone known hknown)
    have hnone : ¬∃ known ∈ first :: rest, ∃ other ∈ first :: rest, known.canonical_value ≠ other.canonical_value :=
      fun ⟨known, hknown, other, hother, hne⟩ => hne ((hone known hknown).trans (hone other hother).symm)
    have hmissing : (snapshot.values.find? fun item => item.canonical_value = first.canonical_value) = none := by
      obtain hseveral | ⟨known, hknown, hmissing⟩ := hfault.2
      · exact absurd (hfirst ▸ hseveral) hnone
      · refine List.find?_eq_none.mpr fun item hitem => ?_
        rw [decide_eq_true_eq, ← hone known (hfirst ▸ hknown)]
        exact hmissing item hitem
    rw [if_neg hsame, hmissing, hfirst, if_neg hnone]
  · have hdiffer : ∃ known ∈ first :: rest, known.canonical_value ≠ first.canonical_value := by
      simpa using hone
    obtain ⟨known, hknown, hne⟩ := hdiffer
    rw [if_pos ⟨known, hknown, hne⟩, hfirst, if_pos ⟨known, hknown, first, List.mem_cons_self, hne⟩]

theorem SameStored.alias_error_eq (h : SameStored snapshot other) :
    alias_error python request other =
      alias_error python request snapshot := by
  have hmem := fun known => (@SameStored.aliases_perm python request _ _ h).mem_iff (a := known)
  unfold alias_error
  simp only [hmem]

theorem SameStored.length_le (h : SameStored snapshot other) (hsize : snapshot.values.length ≤ MAX_DOMAIN_VALUES) :
    other.values.length ≤ MAX_DOMAIN_VALUES := by
  rw [h.values.length_eq]
  exact hsize

/-! ## The result -/

theorem alias_matches_ne_nil (htier : tier python request snapshot = .by_alias) :
    alias_matches python request snapshot.aliases ≠ [] := by
  intro hnil
  unfold tier at htier
  rw [hnil, if_neg (not_not.mpr rfl)] at htier
  split_ifs at htier

theorem matched_ne_nil (hdistinct : (snapshot.values.map (·.canonical_value)).Nodup)
    (hfault : ¬AliasFault python request snapshot) (htier : tier python request snapshot ≠ .trigram) :
    matched python request snapshot ≠ [] := by
  by_cases halias : tier python request snapshot = .by_alias
  · obtain ⟨first, rest, hfirst⟩ := List.exists_cons_of_ne_nil (alias_matches_ne_nil halias)
    obtain ⟨-, stored, hmatched, -⟩ := matched_by_alias hdistinct halias hfault hfirst
    rw [hmatched]
    exact List.cons_ne_nil _ _
  · unfold matched
    unfold tier at htier halias ⊢
    split_ifs at htier halias ⊢ with hexact hnormalized
    · exact hexact
    · exact hnormalized
    · exact absurd rfl halias
    · exact absurd rfl htier

theorem fits_outcome (hdistinct : (snapshot.values.map (·.canonical_value)).Nodup)
    (hfault : ¬AliasFault python request snapshot) :
    FitsStatus (outcome python request snapshot)
      (((ranked python request snapshot).take MAX_CANDIDATES).map (relabelled python request snapshot)).length := by
  rw [List.length_map, List.length_take, ranked_perm.length_eq]
  have hpos (hne : matched python request snapshot ≠ []) :
      1 ≤ min MAX_CANDIDATES (matched python request snapshot).length :=
    le_min (by decide) (List.length_pos_iff.mpr hne)
  unfold outcome
  split
  · split
    · rename_i hnil
      rw [hnil]
      rfl
    · rename_i hne
      exact ⟨hpos hne, min_le_left _ _⟩
  · rename_i htier
    split
    · rename_i hone
      rw [hone]
      rfl
    · exact ⟨hpos (matched_ne_nil hdistinct hfault htier), min_le_left _ _⟩

theorem labelled_relabelled {item : StoredValue} :
    Labelled python request snapshot item (relabelled python request snapshot item).display_label := by
  unfold Labelled
  split
  · rename_i htier
    obtain ⟨first, rest, hfirst⟩ := List.exists_cons_of_ne_nil (alias_matches_ne_nil htier)
    unfold relabelled
    rw [htier, hfirst]
    exact ⟨first, List.mem_cons_self, rfl⟩
  · rename_i htier
    unfold relabelled
    split
    · rename_i h _
      exact absurd h htier
    · rfl

theorem relabelled_eq (item : StoredValue) :
    { item with display_label := (relabelled python request snapshot item).display_label } =
      relabelled python request snapshot item := by
  unfold relabelled
  split <;> rfl

theorem relabelled_unique (hone : tier python request snapshot = .by_alias → OneLabel python request snapshot)
    {item : StoredValue} {label : String} (h : Labelled python request snapshot item label) :
    { item with display_label := label } = relabelled python request snapshot item := by
  have hlabel := @labelled_relabelled python request snapshot item
  rw [← relabelled_eq]
  unfold Labelled at h hlabel
  split at h
  · rename_i htier
    rw [if_pos htier] at hlabel
    obtain ⟨known, hknown, rfl⟩ := h
    obtain ⟨second, hsecond, heq⟩ := hlabel
    rw [← heq, hone htier known hknown second hsecond]
  · rename_i htier
    rw [if_neg htier] at hlabel
    rw [← hlabel, h]

theorem forall₂_map_eq {α β γ : Type} {f : α → γ} {g : β → γ} {as : List α} {bs : List β}
    (h : List.Forall₂ (fun a b => g b = f a) as bs) : bs.map g = as.map f := by
  induction h with
  | nil => rfl
  | cons hab _ ih => rw [List.map_cons, List.map_cons, hab, ih]

theorem candidates_spec {found : ValueResolutionResult}
    (h : List.Forall₂ (Shows (tier python request snapshot))
      (((ranked python request snapshot).take MAX_CANDIDATES).map (relabelled python request snapshot))
        found.candidates) :
    List.Forall₂ (StandsFor python request snapshot) ((ranked python request snapshot).take MAX_CANDIDATES)
      found.candidates := by
  have hstored : ∀ item ∈ (ranked python request snapshot).take MAX_CANDIDATES, item ∈ snapshot.values :=
    fun item hitem => matched_sublist.subset (ranked_perm.mem_iff.mp (List.mem_of_mem_take hitem))
  refine ((List.forall₂_and_left _ _).mpr ⟨hstored, List.forall₂_map_left_iff.mp h⟩).imp ?_
  rintro item shown ⟨hmem, -, hcanonical, hlabel, hsupport, hmethod⟩
  rw [← relabelled_eq] at hcanonical hsupport
  exact ⟨hmem, hcanonical, hsupport, hmethod, hlabel ▸ labelled_relabelled⟩

theorem describes (hdistinct : (snapshot.values.map (·.canonical_value)).Nodup) {found : ValueResolutionResult}
    (hstatus : found.status = outcome python request snapshot)
    (h : List.Forall₂ (StandsFor python request snapshot) ((ranked python request snapshot).take MAX_CANDIDATES)
      found.candidates) : Describes python request snapshot found := by
  have hcanonical : found.candidates.map (·.canonical_value) =
      ((ranked python request snapshot).take MAX_CANDIDATES).map (·.canonical_value) :=
    forall₂_map_eq (h.imp fun item shown hstands => hstands.canonical_value)
  have hnodup : (((ranked python request snapshot).take MAX_CANDIDATES).map (·.canonical_value)).Nodup :=
    ((List.take_sublist _ _).map _).nodup ((ranked_perm.map _).nodup_iff.mpr ((matched_sublist.map _).nodup hdistinct))
  have hsingle {item : StoredValue} (hmatched : matched python request snapshot = [item]) :
      found.candidates.map (·.canonical_value) = [item.canonical_value] := by
    have hperm := @ranked_perm python request snapshot
    rw [hmatched, List.perm_singleton] at hperm
    rw [hcanonical, hperm]
    rfl
  refine ⟨fun c => ?_, ⟨_, (best_iff hdistinct).mpr rfl, h⟩, hcanonical ▸ hnodup, ?_⟩
  · constructor
    · rintro ⟨hresolved, hc⟩
      rw [hstatus] at hresolved
      unfold outcome at hresolved
      split_ifs at hresolved with htier _ hone
      obtain ⟨item, hitem⟩ := List.length_eq_one_iff.mp hone
      refine ⟨htier, ?_⟩
      rw [hitem, ← hc, hsingle hitem]
      rfl
    · rintro ⟨htier, hc⟩
      obtain ⟨item, hitem, rfl⟩ := List.map_eq_singleton_iff.mp hc
      refine ⟨?_, hsingle hitem⟩
      rw [hstatus]
      unfold outcome
      rw [if_neg htier, hitem]
      rfl
  · rw [← h.length_eq, List.length_take]
    exact min_le_left _ _

/-- The snapshot with an alias listed first. -/
def TextDomainSnapshot.led (snapshot : TextDomainSnapshot) (known : StoredAlias) : TextDomainSnapshot :=
  { snapshot with aliases := known :: snapshot.aliases.erase known }

theorem sameStored_led {known : StoredAlias} (h : known ∈ snapshot.aliases) :
    SameStored snapshot (snapshot.led known) :=
  ⟨List.Perm.refl _, (List.perm_cons_erase h).symm, rfl⟩

theorem first_label (hdistinct : (snapshot.values.map (·.canonical_value)).Nodup)
    (hsize : snapshot.values.length ≤ MAX_DOMAIN_VALUES) (hfault : ¬AliasFault python request snapshot)
    (htier : tier python request snapshot = .by_alias) {first : StoredAlias} {rest : List StoredAlias}
    (hfirst : alias_matches python request snapshot.aliases = first :: rest) {found : ValueResolutionResult}
    (hfound : resolve_text python request snapshot = .ok found) :
    found.candidates.map (·.display_label) = [first.display_label] := by
  obtain ⟨-, stored, hmatched, -⟩ := matched_by_alias hdistinct htier hfault hfirst
  have hperm := @ranked_perm python request snapshot
  rw [hmatched, List.perm_singleton] at hperm
  rw [resolve_text_eq hdistinct hsize hfault, hperm] at hfound
  obtain ⟨-, -, hshown⟩ := present_spec hfound
  rw [forall₂_map_eq (hshown.imp fun item shown h => h.2.2.1)]
  show [(relabelled python request snapshot stored).display_label] = _
  unfold relabelled
  rw [htier, hfirst]

/-- A result of an alias is free of the order when the matching aliases give one label. -/
theorem order_free_one_label (hdistinct : (snapshot.values.map (·.canonical_value)).Nodup)
    (hsize : snapshot.values.length ≤ MAX_DOMAIN_VALUES) (hfault : ¬AliasFault python request snapshot)
    (htier : tier python request snapshot = .by_alias) {found : ValueResolutionResult}
    (hfound : resolve_text python request snapshot = .ok found)
    (hfree : ∀ other, SameStored snapshot other →
      resolve_text python request other = resolve_text python request snapshot) :
    OneLabel python request snapshot := by
  have hlabel : ∀ known ∈ alias_matches python request snapshot.aliases,
      found.candidates.map (·.display_label) = [known.display_label] := by
    intro known hknown
    obtain ⟨hmem, hmatch⟩ := List.mem_filter.mp hknown
    have hsame := sameStored_led hmem
    have hfirst : alias_matches python request (snapshot.led known).aliases =
        known :: alias_matches python request (snapshot.aliases.erase known) := List.filter_cons_of_pos hmatch
    exact first_label (hsame.distinct hdistinct) (hsame.length_le hsize)
      (fun hother => hfault (hsame.symm.fault hother)) (hsame.tier_eq.trans htier) hfirst ((hfree _ hsame).trans hfound)
  intro known hknown other hother
  exact List.singleton_injective ((hlabel known hknown).symm.trans (hlabel other hother))

/-- A text is resolved as it should be exactly when the aliases are at fault or the matches can be presented. -/
theorem resolve_text_correct_iff (hdistinct : (snapshot.values.map (·.canonical_value)).Nodup)
    (hsize : snapshot.values.length ≤ MAX_DOMAIN_VALUES) :
    ResolvesText python request snapshot ↔ AliasFault python request snapshot ∨
      Presentable python request snapshot := by
  by_cases hfault : AliasFault python request snapshot
  · have hraised : ∃ reason_code message, alias_error python request snapshot = .data reason_code message := by
      unfold alias_error
      split <;> exact ⟨_, _, rfl⟩
    obtain ⟨reason_code, message, herror⟩ := hraised
    refine iff_of_true ⟨fun _ => ⟨reason_code, message, ?_⟩, fun h => absurd hfault h, fun other h => ?_⟩
      (Or.inl hfault)
    · rw [resolve_text_fault hsize hfault, herror]
    · rw [resolve_text_fault (h.length_le hsize) (h.fault hfault), resolve_text_fault hsize hfault, h.alias_error_eq]
  · rw [or_iff_right hfault]
    have heq := resolve_text_eq hdistinct hsize hfault
    constructor
    · intro h
      obtain ⟨found, hfound, -⟩ := h.described hfault
      have hone : tier python request snapshot = .by_alias → OneLabel python request snapshot :=
        fun htier => order_free_one_label hdistinct hsize hfault htier hfound h.order_free
      obtain ⟨hrevised, -, hshown⟩ := present_spec (heq ▸ hfound)
      refine ⟨hrevised, ⟨_, (best_iff hdistinct).mpr rfl, fun item hitem label hlabel => ?_⟩, hone⟩
      rw [relabelled_unique hone hlabel]
      have hcandid := (List.forall₂_and_left (p := Candid) _ _).mp (hshown.imp fun _ _ hshows => ⟨hshows.1, trivial⟩)
      exact hcandid.1 _ (List.mem_map_of_mem hitem)
    · rintro ⟨hrevised, ⟨items, hbest, hcandid⟩, hone⟩
      rw [best_iff hdistinct] at hbest
      have hitems : ∀ item ∈ ((ranked python request snapshot).take MAX_CANDIDATES).map
          (relabelled python request snapshot), Candid item := by
        intro item hitem
        obtain ⟨stored, hstored, rfl⟩ := List.mem_map.mp hitem
        rw [← relabelled_eq]
        exact hcandid stored (hbest ▸ hstored) _ labelled_relabelled
      obtain ⟨found, hfound⟩ := present_ok hrevised hitems (fits_outcome hdistinct hfault)
      obtain ⟨-, hstatus, hshown⟩ := present_spec hfound
      refine ⟨fun h => absurd h hfault, fun _ => ⟨found, heq.trans hfound,
        describes hdistinct hstatus (candidates_spec hshown)⟩, fun other h => ?_⟩
      rw [resolve_text_eq (h.distinct hdistinct) (h.length_le hsize) fun hother => hfault (h.symm.fault hother), heq,
        h.tier_eq, h.outcome_eq, h.ranked_eq hdistinct, h.revision, funext (h.relabelled_eq hone)]

end

/-- Python on ASCII texts, with the digest of `SP`. -/
def ascii_python : Python where
  nfkc := id
  nfkd := id
  casefold text := String.ofList (text.toList.map Char.toLower)
  isspace c := c ∈ [' ', '\t', '\n', '\r']
  combining _ := false
  sha256 _ := HexDigest.ofNat 0xf5aeb0b6798a7470cf56920ff59e499d0e5e8d0eda7049b533a97c5f31c93e8b
  true_divide n d := n / d

def sao_paulo : StoredValue := ⟨"SP", "Sao Paulo", 41746⟩

/-- One value that two aliases name after their normal form, each with a label of its own. -/
def two_labels : TextDomainSnapshot where
  values := [sao_paulo]
  aliases := [⟨"sampa", "SP", "Sao Paulo"⟩, ⟨"Sampa ", "SP", "Greater Sao Paulo"⟩]
  revision := ⟨(HexDigest.ofNat 0).text, "v1"⟩

def by_sampa : ValueResolutionRequest := ⟨.customer_state, ⟨"sampa", by decide⟩⟩

def by_code : ValueResolutionRequest := ⟨.customer_state, ⟨" SP", by decide⟩⟩

theorem resolve_text_correct_iff_exact : ResolvesText ascii_python by_code two_labels ↔
    AliasFault ascii_python by_code two_labels ∨ Presentable ascii_python by_code two_labels :=
  resolve_text_correct_iff (by decide) (by decide)

def labels (found : Except Raised ValueResolutionResult) : List String :=
  match found with
  | .ok found => found.candidates.map (·.display_label)
  | .error _ => []

/-- The label depends on the order of the two aliases. -/
theorem label_depends_on_order :
    (two_labels.values.map (·.canonical_value)).Nodup ∧ two_labels.values.length ≤ MAX_DOMAIN_VALUES ∧
      ¬ResolvesText ascii_python by_sampa two_labels := by
  refine ⟨by decide, by decide, fun h => ?_⟩
  have hsame := h.order_free { two_labels with aliases := two_labels.aliases.reverse }
    ⟨List.Perm.refl _, List.reverse_perm _, rfl⟩
  have hfirst : labels (resolve_text ascii_python by_sampa two_labels) = ["Sao Paulo"] := by decide +kernel
  have hsecond : labels (resolve_text ascii_python by_sampa { two_labels with aliases := two_labels.aliases.reverse }) =
      ["Greater Sao Paulo"] := by decide +kernel
  rw [hsame, hfirst] at hsecond
  exact absurd hsecond (by decide)

end CommerceAgent.ValueResolver
