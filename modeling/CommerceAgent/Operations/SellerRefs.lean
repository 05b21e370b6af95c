import CommerceAgent.Lib.Base64
import CommerceAgent.Lib.JsonLine
import CommerceAgent.Lib.Raising
import CommerceAgent.Operations.RoundTrip

/-!
# Seller references

A reference is a signed JSON payload in base64. `resolve` takes it apart again, and finds the seller by the digest of
its identity.
-/

open CommerceAgent.Lib

namespace CommerceAgent.Operations

variable {φ : Type}

/-! ## The keyring -/

structure SellerRefKeyring where
  keys : ℤ → Option (List UInt8)
  active_version : ℤ
  active : (keys active_version).isSome
  nonempty : ∀ version, ∀ key ∈ keys version, key ≠ []

namespace SellerRefKeyring

variable (crypto : Crypto) (keyring : SellerRefKeyring)

/-- The digest of an identity under a key. -/
def identity (crypto : Crypto) (key : List UInt8) (seller_id : String) : HexDigest :=
  crypto.hmac_sha256 key (utf8 "identity:" ++ utf8 seller_id)

def digest_identity (seller_id : String) (key_version : ℤ) : Except Raised HexDigest :=
  match keyring.keys key_version with
  | none => .error (OperationContractError "seller_ref_key_unavailable")
  | some key => .ok (identity crypto key seller_id)

def sign (payload : List UInt8) (key_version : ℤ) : Except Raised HexDigest :=
  match keyring.keys key_version with
  | none => .error (OperationContractError "seller_ref_key_unavailable")
  | some key => .ok (crypto.hmac_sha256 key (utf8 "reference:" ++ payload))

def verify (payload : List UInt8) (signature : String) (key_version : ℤ) : Except Raised Bool := do
  let expected ← keyring.sign crypto payload key_version
  return expected.text == signature

end SellerRefKeyring

/-! ## Payloads -/

/-- What the resolver uses of Python: JSON of bytes, `int` and `str` of a value, and ISO dates. -/
structure SellerLibrary (φ : Type) where
  floats : FloatText φ
  /-- `bytes.decode(json.detect_encoding(bytes))`. -/
  decode : List UInt8 → Option String
  /-- An object is detected as UTF-8 by its first two characters. -/
  decode_utf8 : ∀ text : List Char, decode (utf8 (String.ofList ('{' :: '"' :: text))) =
    some (String.ofList ('{' :: '"' :: text))
  /-- `value == 1`. -/
  is_one : JsonValue φ → Bool
  is_one_int : ∀ n, is_one (.int n) = (n == 1)
  /-- `int(value)`. -/
  int : JsonValue φ → Option ℤ
  int_int : ∀ n, int (.int n) = some n
  /-- `str(value)`. -/
  str : JsonValue φ → String
  str_str : ∀ s, str (.str s) = s
  fromisoformat : String → Option Datetime
  fromisoformat_utc_z : ∀ value : Datetime, ∃ parsed,
    fromisoformat value.utc_z = some parsed ∧ parsed.instant = value.instant / second * second

section

variable (library : SellerLibrary φ)

mutual

/-- `_canonical_value` does not take floats. -/
def has_float : JsonValue φ → Bool
  | .float _ => true
  | .arr xs => has_float_item xs
  | .obj kvs => has_float_field kvs
  | _ => false

def has_float_item : List (JsonValue φ) → Bool
  | [] => false
  | x :: xs => has_float x || has_float_item xs

def has_float_field : List (String × JsonValue φ) → Bool
  | [] => false
  | (_, v) :: kvs => has_float v || has_float_field kvs

end

/-- `canonical_json_bytes(payload)`. -/
def payload_bytes (payload : JsonValue φ) : Except Raised (List UInt8) :=
  if has_float payload then .error (OperationContractError "canonical_float_forbidden")
  else .ok (utf8 (String.ofList (payload.dumps library.floats 0)))

/-- `json.loads(bytes)`. -/
def loads_bytes (bytes : List UInt8) : Option (JsonValue φ) := do
  let text ← library.decode bytes
  JsonValue.loads library.floats text.toList

def datetime_from_utc_z : JsonValue φ → Option Datetime
  | .str value => if value.toList.getLast? = some 'Z' then library.fromisoformat value else none
  | _ => none

end

/-- `value == text`. -/
def is_text (text : String) : JsonValue φ → Bool
  | .str value => value == text
  | _ => false

def seller_namespace : String := "product:seller-target"

/-- The payload that `_issue` signs. -/
def seller_payload (evidence_digest : HexDigest) (expires_at : String) (key_version : ℤ) (seller_digest : HexDigest) :
    List (String × JsonValue φ) :=
  [("evidence_digest", .str evidence_digest.text), ("expires_at", .str expires_at), ("key_version", .int key_version),
    ("namespace", .str seller_namespace), ("schema_version", .int 1), ("seller_digest", .str seller_digest.text)]

def payload_keys : List String :=
  ["evidence_digest", "expires_at", "key_version", "namespace", "schema_version", "seller_digest"]

/-- `text.encode("ascii")`, of an ASCII text. -/
def ascii (text : String) : List UInt8 := text.toList.map fun c => UInt8.ofNat c.toNat

/-- `bytes.decode("ascii")`. -/
def decode_ascii (bytes : List UInt8) : Option String :=
  if bytes.all (fun b => b < 128) then some (String.ofList (bytes.map fun b => Char.ofNat b.toNat)) else none

/-- `bytes.rsplit(b".", 1)`, of two parts. -/
def rsplit (bytes : List UInt8) : Option (List UInt8 × List UInt8) :=
  match bytes.reverse.dropWhile (· ≠ 46) with
  | [] => none
  | _ :: front => some (front.reverse, (bytes.reverse.takeWhile (· ≠ 46)).reverse)

/-! ## The resolver -/

section Resolver

variable (library : SellerLibrary φ) (crypto : Crypto) (keyring : SellerRefKeyring)

def issue_seller_ref (seller_id : String) (evidence_digest : HexDigest) (expires_at : Datetime) :
    Except Raised SellerRef := do
  let key_version := keyring.active_version
  let seller_digest ← keyring.digest_identity crypto seller_id key_version
  let canonical ← payload_bytes library
    (.obj (seller_payload evidence_digest expires_at.utc_z key_version seller_digest))
  let signature ← keyring.sign crypto canonical key_version
  match Checked.parse (String.ofList (Base64.encode (canonical ++ 46 :: ascii signature.text))) with
  | some token => .ok ⟨token⟩
  | none => .error (.exception "ValidationError")

def seller_ref_invalid {α : Type} : Except Raised α := .error (OperationContractError "seller_ref_invalid")

def decode_seller_ref (token : String) : Except Raised (List (String × JsonValue φ)) :=
  match (Base64.decode token.toList).bind rsplit with
  | none => seller_ref_invalid
  | some (canonical, signature_bytes) =>
    match loads_bytes library canonical with
    | some (.obj payload) =>
      if ¬ (payload.map Prod.fst).Perm payload_keys then seller_ref_invalid
      else if ¬ (payload.lookup "schema_version").any library.is_one then seller_ref_invalid
      else match (payload.lookup "key_version").bind library.int, decode_ascii signature_bytes with
        | some key_version, some signature => do
          if ← keyring.verify crypto canonical signature key_version then
            if (← payload_bytes library (.obj payload)) = canonical then .ok payload else seller_ref_invalid
          else seller_ref_invalid
        | _, _ => seller_ref_invalid
    | _ => seller_ref_invalid

/-- The identities with the digest, unless a comparison raises. -/
def seller_matches (key_version : ℤ) (seller_digest : String) : List String → Except Raised (List String)
  | [] => .ok []
  | identity :: identities => do
    let digest ← keyring.digest_identity crypto identity key_version
    if seller_digest.toList.all (fun c => c.toNat < 128) then
      let matching ← seller_matches key_version seller_digest identities
      return if digest.text = seller_digest then identity :: matching else matching
    else .error (.exception "TypeError")

/-- `SellerTargetResolver.resolve`, at the time `now` of the clock. -/
def resolve_seller_ref (identities : List String) (now : Datetime) (reference : SellerRef)
    (expected_evidence_digest : HexDigest) : Except Raised PrivateSellerTarget := do
  let payload ← decode_seller_ref library crypto keyring reference.token.text
  match payload.lookup "namespace", payload.lookup "evidence_digest", payload.lookup "expires_at",
      payload.lookup "key_version", payload.lookup "seller_digest" with
  | some space, some evidence_digest, some expires_at, some key_version, some seller_digest =>
    if ¬ is_text seller_namespace space then
      .error (OperationContractError "seller_ref_namespace_mismatch")
    else if ¬ is_text expected_evidence_digest.text evidence_digest then
      .error (OperationContractError "seller_ref_evidence_mismatch")
    else match datetime_from_utc_z library expires_at with
      | none => seller_ref_invalid
      | some expires_at =>
        if expires_at.instant ≤ now.instant then .error (OperationContractError "seller_ref_expired")
        else match library.int key_version with
          | none => .error (.exception "ValueError")
          | some key_version =>
            match ← seller_matches crypto keyring key_version (library.str seller_digest) identities with
            | [] => .error (OperationContractError "seller_ref_not_found")
            | [seller_id] => .ok ⟨seller_id, expected_evidence_digest⟩
            | _ => .error (OperationContractError "seller_ref_not_unique")
  | _, _, _, _, _ => .error (.exception "KeyError")

end Resolver

/-! ## What is issued -/

/-- A call of `_issue`. -/
structure Issue where
  keyring : SellerRefKeyring
  seller_id : String
  evidence_digest : HexDigest
  expires_at : Datetime

namespace Issue

variable (library : SellerLibrary φ) (crypto : Crypto) (i : Issue)

def key : List UInt8 := (i.keyring.keys i.keyring.active_version).get i.keyring.active

def payload : List (String × JsonValue φ) :=
  seller_payload i.evidence_digest i.expires_at.utc_z i.keyring.active_version
    (SellerRefKeyring.identity crypto i.key i.seller_id)

/-- The bytes that are signed. -/
def canonical : List UInt8 := utf8 (String.ofList (JsonValue.dumps library.floats 0 (.obj (i.payload crypto))))

def signature : HexDigest := crypto.hmac_sha256 i.key (utf8 "reference:" ++ i.canonical library crypto)

def token_text : String :=
  String.ofList (Base64.encode (i.canonical library crypto ++ 46 :: ascii (i.signature library crypto).text))

/-- The end of the second before which the reference holds. -/
def expiry : ℕ := i.expires_at.instant / second * second

/-- The identities with the digest of the seller. -/
def same_digest (identities : List String) : List String :=
  identities.filter fun identity => SellerRefKeyring.identity crypto i.key identity =
    SellerRefKeyring.identity crypto i.key i.seller_id

end Issue

section Issued

variable {library : SellerLibrary φ} {crypto : Crypto} {keyring : SellerRefKeyring}

theorem keys_active (i : Issue) : i.keyring.keys i.keyring.active_version = some i.key := (Option.some_get _).symm

theorem sortKeys_payload (evidence_digest : HexDigest) (expires_at : String) (key_version : ℤ)
    (seller_digest : HexDigest) :
    (JsonValue.obj (seller_payload evidence_digest expires_at key_version seller_digest) : JsonValue φ).sortKeys =
      .obj (seller_payload evidence_digest expires_at key_version seller_digest) := by
  unfold seller_payload JsonValue.sortKeys
  refine congrArg JsonValue.obj (List.Pairwise.insertionSort_eq ?_)
  have hkeys : payload_keys.Pairwise (· ≤ ·) := by decide
  unfold JsonValue.key_le
  rw [← List.pairwise_map]
  exact hkeys

theorem distinct_payload (evidence_digest : HexDigest) (expires_at : String) (key_version : ℤ)
    (seller_digest : HexDigest) :
    (JsonValue.obj (seller_payload evidence_digest expires_at key_version seller_digest) : JsonValue φ).Distinct := by
  have hkeys : payload_keys.Nodup := by decide
  unfold seller_payload JsonValue.Distinct
  refine ⟨hkeys, ?_⟩
  simp [JsonValue.DistinctFields, JsonValue.Distinct]

variable (library crypto) in
theorem payload_bytes_issue (i : Issue) :
    payload_bytes library (.obj (i.payload crypto)) = .ok (i.canonical library crypto) := rfl

theorem loads_canonical (i : Issue) :
    loads_bytes library (i.canonical library crypto) = some (.obj (i.payload crypto)) := by
  have hread := JsonValue.loads_dumps library.floats 0 (distinct_payload (φ := φ) i.evidence_digest
    i.expires_at.utc_z i.keyring.active_version (SellerRefKeyring.identity crypto i.key i.seller_id))
  rw [sortKeys_payload] at hread
  obtain ⟨text, htext⟩ : ∃ text, JsonValue.dumps library.floats 0 (.obj (i.payload crypto)) = '{' :: '"' :: text := by
    unfold JsonValue.dumps Issue.payload
    rw [sortKeys_payload]
    unfold seller_payload JsonValue.write Json.quote
    exact ⟨_, rfl⟩
  unfold loads_bytes Issue.canonical
  rw [htext, library.decode_utf8, Option.bind_eq_bind, Option.bind_some, String.toList_ofList, ← htext]
  exact hread

/-! ## Tokens -/

theorem hex_digit (digest : HexDigest) {c : Char} (hc : c ∈ digest.text.toList) : c ∈ "0123456789abcdef".toList := by
  have hpasses := digest.passes
  rw [isHexDigest, Bool.and_eq_true, List.all_eq_true] at hpasses
  exact List.elem_iff.mp (hpasses.2 c hc)

theorem hex_ascii {c : Char} (hc : c ∈ "0123456789abcdef".toList) :
    c.toNat < 128 ∧ UInt8.ofNat c.toNat ≠ 46 ∧ Char.ofNat (UInt8.ofNat c.toNat).toNat = c ∧
      UInt8.ofNat c.toNat < 128 := by
  have hall : "0123456789abcdef".toList.all (fun c => (c.toNat < 128 ∧ UInt8.ofNat c.toNat ≠ 46 ∧
      Char.ofNat (UInt8.ofNat c.toNat).toNat = c ∧ UInt8.ofNat c.toNat < 128 : Bool)) = true := by decide
  exact of_decide_eq_true (List.all_eq_true.mp hall c hc)

theorem decode_ascii_digest (digest : HexDigest) : decode_ascii (ascii digest.text) = some digest.text := by
  have hsmall : (ascii digest.text).all (fun b => b < 128) = true := by
    rw [List.all_eq_true]
    intro b hb
    obtain ⟨c, hc, rfl⟩ := List.mem_map.mp hb
    exact decide_eq_true (hex_ascii (hex_digit digest hc)).2.2.2
  have hback : (ascii digest.text).map (fun b => Char.ofNat b.toNat) = digest.text.toList := by
    unfold ascii
    rw [List.map_map]
    refine (List.map_congr_left fun c hc => ?_).trans (List.map_id _)
    exact (hex_ascii (hex_digit digest hc)).2.2.1
  unfold decode_ascii
  rw [if_pos hsmall, hback, String.ofList_toList]

theorem rsplit_last {front back : List UInt8} (hback : 46 ∉ back) :
    rsplit (front ++ 46 :: back) = some (front, back) := by
  have hall : ∀ b ∈ back.reverse, (b ≠ 46 : Bool) = true := by
    intro b hb
    exact decide_eq_true fun h => hback (h ▸ List.mem_reverse.mp hb)
  have hreverse : (front ++ 46 :: back).reverse = back.reverse ++ 46 :: front.reverse := by simp
  unfold rsplit
  rw [hreverse, List.takeWhile_append_of_pos hall, List.dropWhile_append_of_pos hall]
  simp

theorem rsplit_signed (canonical : List UInt8) (digest : HexDigest) :
    rsplit (canonical ++ 46 :: ascii digest.text) = some (canonical, ascii digest.text) := by
  refine rsplit_last fun hmem => ?_
  obtain ⟨c, hc, hdot⟩ := List.mem_map.mp hmem
  exact (hex_ascii (hex_digit digest hc)).2.1 hdot

theorem seller_matches_eq {key : List UInt8} {key_version : ℤ} (hkey : keyring.keys key_version = some key)
    (identities : List String) (digest : HexDigest) :
    seller_matches crypto keyring key_version digest.text identities =
      .ok (identities.filter fun identity => SellerRefKeyring.identity crypto key identity = digest) := by
  have hascii : digest.text.toList.all (fun c => c.toNat < 128) = true := by
    rw [List.all_eq_true]
    intro c hc
    exact decide_eq_true (hex_ascii (hex_digit digest hc)).1
  have hsame : ∀ other : HexDigest, other.text = digest.text ↔ other = digest := fun other =>
    ⟨Checked.ext, fun h => h ▸ rfl⟩
  induction identities with
  | nil => rfl
  | cons identity identities ih =>
    unfold seller_matches SellerRefKeyring.digest_identity
    rw [hkey, ih, List.filter_cons]
    simp only [hascii, if_true, hsame, decide_eq_true_eq]
    rfl

/-! ## What a token decodes to -/

variable {later : SellerRefKeyring} {token : String} {fields : List (String × JsonValue φ)}

/-- The signed bytes of a token, and what stands in them. -/
structure Decoded (library : SellerLibrary φ) (crypto : Crypto) (later : SellerRefKeyring) (token : String)
    (fields : List (String × JsonValue φ)) (canonical signature_bytes : List UInt8) (key_version : ℤ)
    (signature : String) : Prop where
  split : (Base64.decode token.toList).bind rsplit = some (canonical, signature_bytes)
  loads : loads_bytes library canonical = some (.obj fields)
  keys : (fields.map Prod.fst).Perm payload_keys
  schema_version : (fields.lookup "schema_version").any library.is_one
  version : (fields.lookup "key_version").bind library.int = some key_version
  signed : decode_ascii signature_bytes = some signature
  verified : later.verify crypto canonical signature key_version = .ok true
  reencoded : payload_bytes library (.obj fields) = .ok canonical

theorem decode_seller_ref_ok : decode_seller_ref library crypto later token = .ok fields ↔
    ∃ canonical signature_bytes key_version signature,
      Decoded library crypto later token fields canonical signature_bytes key_version signature := by
  constructor
  · intro h
    unfold decode_seller_ref seller_ref_invalid at h
    split at h
    case h_1 => cases h
    case h_2 canonical signature_bytes hsplit =>
      split at h
      case h_2 => cases h
      case h_1 payload hloads =>
        split_ifs at h with hkeys hschema
        split at h
        case h_2 => cases h
        case h_1 key_version signature hversion hsignature =>
          obtain ⟨verified, hverified, h⟩ := except_bind_ok h
          split_ifs at h with htrue
          obtain ⟨bytes, hbytes, h⟩ := except_bind_ok h
          split_ifs at h with hcanonical
          obtain rfl := Except.ok.inj h
          exact ⟨canonical, signature_bytes, key_version, signature, hsplit, hloads, hkeys, hschema,
            hversion, hsignature, htrue ▸ hverified, hcanonical ▸ hbytes⟩
  · rintro ⟨canonical, signature_bytes, key_version, signature, h⟩
    unfold decode_seller_ref
    simp only [h.split, h.loads, h.version, h.signed]
    rw [if_neg (not_not.mpr h.keys), if_neg (not_not.mpr h.schema_version), h.verified, ok_bind, if_pos rfl,
      h.reencoded, ok_bind, if_pos rfl]

/-! ## What is issued is found -/

theorem issue_eq (i : Issue) :
    issue_seller_ref library crypto i.keyring i.seller_id i.evidence_digest i.expires_at =
      match Checked.parse (i.token_text library crypto) with
      | some token => .ok ⟨token⟩
      | none => .error (.exception "ValidationError") := by
  have hdigest : i.keyring.digest_identity crypto i.seller_id i.keyring.active_version =
      .ok (SellerRefKeyring.identity crypto i.key i.seller_id) := by
    unfold SellerRefKeyring.digest_identity
    rw [keys_active]
  have hsign : i.keyring.sign crypto (i.canonical library crypto) i.keyring.active_version =
      .ok (i.signature library crypto) := by
    unfold SellerRefKeyring.sign
    rw [keys_active]
    rfl
  have hbytes := payload_bytes_issue library crypto i
  unfold Issue.payload at hbytes
  unfold issue_seller_ref
  dsimp only
  rw [hdigest, ok_bind, hbytes, ok_bind, hsign, ok_bind, ← Issue.token_text]

theorem issue_ok {i : Issue} {reference : SellerRef}
    (h : issue_seller_ref library crypto i.keyring i.seller_id i.evidence_digest i.expires_at = .ok reference) :
    reference.token.text.toList =
      Base64.encode (i.canonical library crypto ++ 46 :: ascii (i.signature library crypto).text) := by
  rw [issue_eq] at h
  split at h
  case h_1 token htoken =>
    obtain rfl := Except.ok.inj h
    unfold Checked.parse at htoken
    split_ifs at htoken
    obtain rfl := Option.some.inj htoken
    exact String.toList_ofList
  case h_2 => cases h

variable (library crypto) in
theorem issue_fits (i : Issue) (hshort : (i.token_text library crypto).length ≤ 4096)
    (hlong : 8 ≤ (i.token_text library crypto).length) : ∃ reference,
    issue_seller_ref library crypto i.keyring i.seller_id i.evidence_digest i.expires_at = .ok reference := by
  have hfits : (8 ≤ (i.token_text library crypto).length && (i.token_text library crypto).length ≤ 4096 : Bool) =
      true := by
    rw [Bool.and_eq_true]
    exact ⟨decide_eq_true hlong, decide_eq_true hshort⟩
  refine ⟨⟨⟨_, hfits⟩⟩, (issue_eq i).trans ?_⟩
  unfold Checked.parse
  rw [dif_pos hfits]

theorem decode_issued {i : Issue} (hheld : later.keys i.keyring.active_version = some i.key)
    (htoken : token.toList =
      Base64.encode (i.canonical library crypto ++ 46 :: ascii (i.signature library crypto).text)) :
    decode_seller_ref library crypto later token = .ok (i.payload crypto) := by
  refine decode_seller_ref_ok.mpr ⟨i.canonical library crypto, ascii (i.signature library crypto).text,
    i.keyring.active_version, (i.signature library crypto).text, ?_, loads_canonical i, .refl _, ?_, ?_,
    decode_ascii_digest _, ?_, payload_bytes_issue library crypto i⟩
  · rw [htoken, Base64.decode_encode, Option.bind_some, rsplit_signed]
  · exact (library.is_one_int 1).trans (beq_self_eq_true _)
  · exact library.int_int _
  · unfold SellerRefKeyring.verify SellerRefKeyring.sign
    rw [hheld, ok_bind]
    exact congrArg Except.ok (beq_self_eq_true _)

theorem resolve_issued {i : Issue} {reference : SellerRef} {identities : List String} {now : Datetime}
    (hheld : later.keys i.keyring.active_version = some i.key)
    (hdecode : decode_seller_ref library crypto later reference.token.text = .ok (i.payload crypto))
    (expected : HexDigest) (target : PrivateSellerTarget) :
    resolve_seller_ref library crypto later identities now reference expected = .ok target ↔
      i.evidence_digest = expected ∧ now.instant < i.expiry ∧ ∃ seller_id,
        i.same_digest crypto identities = [seller_id] ∧ target = ⟨seller_id, expected⟩ := by
  obtain ⟨parsed, hparsed, hinstant⟩ := library.fromisoformat_utc_z i.expires_at
  change parsed.instant = i.expiry at hinstant
  have hnamespace : (i.payload crypto : List (String × JsonValue φ)).lookup "namespace" =
      some (.str seller_namespace) := rfl
  have hevidence : (i.payload crypto : List (String × JsonValue φ)).lookup "evidence_digest" =
      some (.str i.evidence_digest.text) := rfl
  have hexpires : (i.payload crypto : List (String × JsonValue φ)).lookup "expires_at" =
      some (.str i.expires_at.utc_z) := rfl
  have hversion : (i.payload crypto : List (String × JsonValue φ)).lookup "key_version" =
      some (.int i.keyring.active_version) := rfl
  have hseller : (i.payload crypto : List (String × JsonValue φ)).lookup "seller_digest" =
      some (.str (SellerRefKeyring.identity crypto i.key i.seller_id).text) := rfl
  have hdate : datetime_from_utc_z library (.str i.expires_at.utc_z) = some parsed := by
    have hlast : i.expires_at.utc_z.toList.getLast? = some 'Z' := by
      unfold Datetime.utc_z
      rw [String.toList_ofList, List.getLast?_concat]
    exact (if_pos hlast).trans hparsed
  have htext : is_text seller_namespace (.str seller_namespace : JsonValue φ) = true := beq_self_eq_true _
  unfold resolve_seller_ref
  rw [hdecode, ok_bind, hnamespace, hevidence, hexpires, hversion, hseller]
  dsimp only
  rw [if_neg (not_not.mpr htext), hdate, library.int_int, library.str_str]
  dsimp only
  rw [seller_matches_eq hheld, ok_bind, hinstant]
  change (if ¬ is_text expected.text (.str i.evidence_digest.text : JsonValue φ) = true then _ else
    if i.expiry ≤ now.instant then _ else match i.same_digest crypto identities with | [] => _ | [_] => _ | _ => _) =
    _ ↔ _
  have hexpected : is_text expected.text (.str i.evidence_digest.text : JsonValue φ) = true ↔
      i.evidence_digest = expected := beq_iff_eq.trans ⟨Checked.ext, fun h => h ▸ rfl⟩
  by_cases hsame : i.evidence_digest = expected
  case neg =>
    rw [if_pos (fun h => hsame (hexpected.mp h))]
    exact iff_of_false (by simp) fun h => hsame h.1
  rw [if_neg (not_not.mpr (hexpected.mpr hsame))]
  by_cases hlate : i.expiry ≤ now.instant
  case pos =>
    rw [if_pos hlate]
    exact iff_of_false (by simp) fun h => Nat.not_le.mpr h.2.1 hlate
  rw [if_neg hlate]
  constructor
  · intro h
    refine ⟨hsame, Nat.lt_of_not_le hlate, ?_⟩
    split at h
    case h_1 => cases h
    case h_2 seller_id hfound => exact ⟨seller_id, hfound, (Except.ok.inj h).symm⟩
    case h_3 => cases h
  · rintro ⟨-, -, seller_id, hfound, rfl⟩
    rw [hfound]

/-- The digests of the identities and of the sellers of the references differ, under each key. -/
def DistinctDigests (crypto : Crypto) (issued : Set Issue) (identities : List String) : Prop :=
  ∀ i ∈ issued, {seller_id | seller_id ∈ identities ∨ seller_id = i.seller_id}.InjOn
    (SellerRefKeyring.identity crypto i.key)

/-- The signature of the reference, if any, is one that `_issue` made of the same bytes under the same key. -/
def UnforgedRef (library : SellerLibrary φ) (crypto : Crypto) (later : SellerRefKeyring) (issued : Set Issue)
    (reference : SellerRef) : Prop :=
  ∀ canonical signature_bytes signature key_version,
    (Base64.decode reference.token.text.toList).bind rsplit = some (canonical, signature_bytes) →
    decode_ascii signature_bytes = some signature →
    later.verify crypto canonical signature key_version = .ok true →
    ∃ i ∈ issued, i.canonical library crypto = canonical ∧ later.keys key_version = some i.key

variable {issued : Set Issue} {identities : List String}

theorem same_digest_eq (hdistinct : DistinctDigests crypto issued identities) {i : Issue} (hi : i ∈ issued) :
    i.same_digest crypto identities = List.replicate (identities.count i.seller_id) i.seller_id := by
  rw [← List.filter_eq]
  refine List.filter_congr fun identity hmem => ?_
  rw [decide_eq_decide]
  exact ⟨fun h => hdistinct i hi (Or.inl hmem) (Or.inr rfl) h, fun h => h ▸ rfl⟩

theorem decode_unforged {reference : SellerRef} (hunforged : UnforgedRef library crypto later issued reference)
    (hdecode : decode_seller_ref library crypto later reference.token.text = .ok fields) :
    ∃ i ∈ issued, fields = i.payload crypto ∧ later.keys i.keyring.active_version = some i.key := by
  obtain ⟨canonical, signature_bytes, key_version, signature, h⟩ := decode_seller_ref_ok.mp hdecode
  obtain ⟨i, hi, rfl, hkey⟩ := hunforged _ _ _ _ h.split h.signed h.verified
  have hfields := Option.some.inj (h.loads.symm.trans (loads_canonical i))
  obtain rfl := JsonValue.obj.inj hfields
  have hversion := h.version.symm.trans (library.int_int i.keyring.active_version)
  exact ⟨i, hi, rfl, Option.some.inj hversion ▸ hkey⟩

/-- What was issued is not forged, where no other key of the keyring signs it alike. -/
theorem unforged_issued {i : Issue} (hi : i ∈ issued) {reference : SellerRef}
    (hissue : issue_seller_ref library crypto i.keyring i.seller_id i.evidence_digest i.expires_at = .ok reference)
    (hkeys : ∀ version key, later.keys version = some key →
      crypto.hmac_sha256 key (utf8 "reference:" ++ i.canonical library crypto) = i.signature library crypto →
        key = i.key) :
    UnforgedRef library crypto later issued reference := by
  rintro canonical signature_bytes signature key_version hsplit hsigned hverified
  rw [issue_ok hissue, Base64.decode_encode, Option.bind_some, rsplit_signed] at hsplit
  obtain ⟨rfl, rfl⟩ := Prod.mk.inj (Option.some.inj hsplit)
  rw [decode_ascii_digest] at hsigned
  obtain rfl := Option.some.inj hsigned
  unfold SellerRefKeyring.verify SellerRefKeyring.sign at hverified
  cases hkey : later.keys key_version with
  | none =>
    rw [hkey] at hverified
    cases hverified
  | some key =>
    rw [hkey] at hverified
    have hsame := eq_of_beq (Except.ok.inj hverified)
    exact ⟨i, hi, rfl, congrArg some (hkeys key_version key hkey (Checked.ext hsame)) ▸ rfl⟩

end Issued

/-- A reference that was issued resolves to its seller, with its evidence and before its expiry; and no token
resolves to anything else. -/
theorem resolve_exact (library : SellerLibrary φ) (crypto : Crypto) (issued : Set Issue) (later : SellerRefKeyring)
    (identities : List String) (now : Datetime) (hdistinct : DistinctDigests crypto issued identities) :
    (∀ i ∈ issued, ∀ reference,
      issue_seller_ref library crypto i.keyring i.seller_id i.evidence_digest i.expires_at = .ok reference →
      later.keys i.keyring.active_version = some i.key → identities.count i.seller_id = 1 →
      now.instant < i.expiry →
      resolve_seller_ref library crypto later identities now reference i.evidence_digest =
        .ok ⟨i.seller_id, i.evidence_digest⟩) ∧
    ∀ reference, UnforgedRef library crypto later issued reference → ∀ expected_evidence_digest target,
      resolve_seller_ref library crypto later identities now reference expected_evidence_digest = .ok target →
      ∃ i ∈ issued,
        decode_seller_ref library crypto later reference.token.text = .ok (i.payload crypto) ∧
        i.evidence_digest = expected_evidence_digest ∧ target = ⟨i.seller_id, expected_evidence_digest⟩ ∧
        now.instant < i.expiry := by
  constructor
  · intro i hi reference hissue hheld hcount hnow
    have hdecode := decode_issued hheld (issue_ok hissue)
    refine (resolve_issued hheld hdecode _ _).mpr ⟨rfl, hnow, i.seller_id, ?_, rfl⟩
    rw [same_digest_eq hdistinct hi, hcount]
    rfl
  · intro reference hunforged expected target hresolve
    obtain ⟨fields, hdecode, -⟩ := except_bind_ok hresolve
    obtain ⟨i, hi, rfl, hheld⟩ := decode_unforged hunforged hdecode
    obtain ⟨hevidence, hnow, seller_id, hfound, rfl⟩ := (resolve_issued hheld hdecode _ _).mp hresolve
    have hseller : seller_id ∈ i.same_digest crypto identities := hfound ▸ List.mem_singleton_self _
    rw [same_digest_eq hdistinct hi] at hseller
    obtain rfl := List.eq_of_mem_replicate hseller
    exact ⟨i, hi, hdecode, hevidence, rfl, hnow⟩

/-! ## A reference that resolves -/

def sampleLibrary : SellerLibrary Unit where
  floats := FloatText.half
  decode := ofUtf8
  decode_utf8 _ := ofUtf8_utf8 _
  is_one
    | .int n => n == 1
    | _ => false
  is_one_int _ := rfl
  int
    | .int n => some n
    | _ => none
  int_int _ := rfl
  str
    | .null => ""
    | .str s => s
    | _ => ""
  str_str _ := rfl
  fromisoformat := readTimestamp
  fromisoformat_utc_z value := ⟨value.truncate, readTimestamp_utc_z value, rfl⟩

/-- Two keys, the second of them newer. -/
def sellerKeyring (active_version : ℤ) (active : active_version = 1 ∨ active_version = 2) : SellerRefKeyring where
  keys version := if version = 1 then some [1] else if version = 2 then some [2] else none
  active_version := active_version
  active := by rcases active with rfl | rfl <;> rfl
  nonempty := by
    intro version key hkey
    split_ifs at hkey <;> cases hkey <;> exact List.cons_ne_nil _ _

/-- An authenticator that adds the bytes up. -/
def sumCrypto : Crypto :=
  { sampleCrypto with hmac_sha256 := fun key message => HexDigest.ofNat ((key ++ message).map UInt8.toNat).sum }

/-- A reference that was issued under the first key. -/
def sellerIssue (seller_id : String) : Issue := ⟨sellerKeyring 1 (.inl rfl), seller_id, HexDigest.ofNat 1, laterAt⟩

def sellerIssues : Set Issue := {sellerIssue "seller-1", sellerIssue "seller-2"}

theorem sellerIssue_length : ((sellerIssue "seller-1").token_text sampleLibrary sumCrypto).length = 455 := by
  have hbytes : ((sellerIssue "seller-1").canonical sampleLibrary sumCrypto ++
      46 :: ascii ((sellerIssue "seller-1").signature sampleLibrary sumCrypto).text).length = 341 := by decide +kernel
  unfold Issue.token_text
  rw [String.length_ofList, Base64.length_encode, hbytes]

theorem seller_digests : DistinctDigests sumCrypto sellerIssues ["seller-2", "seller-1"] := by
  rintro i hi a ha b hb hsame
  have hkey : i.key = [1] := by
    rcases hi with rfl | rfl <;> rfl
  have hnames : ∀ x ∈ {x | x ∈ ["seller-2", "seller-1"] ∨ x = i.seller_id}, x ∈ ["seller-2", "seller-1"] := by
    rintro x (hx | rfl)
    · exact hx
    · rcases hi with rfl | rfl
      · decide
      · decide
  have hdistinct : ∀ a ∈ ["seller-2", "seller-1"], ∀ b ∈ ["seller-2", "seller-1"],
      SellerRefKeyring.identity sumCrypto [1] a = SellerRefKeyring.identity sumCrypto [1] b → a = b := by
    decide +kernel
  rw [hkey] at hsame
  exact hdistinct a (hnames a ha) b (hnames b hb) hsame

/-- The reference resolves after the key was replaced, and to no seller but one of those that references were issued
for. -/
theorem resolve_seller_1 : ∃ reference,
    issue_seller_ref sampleLibrary sumCrypto (sellerKeyring 1 (.inl rfl)) "seller-1" (HexDigest.ofNat 1) laterAt =
      .ok reference ∧
    resolve_seller_ref sampleLibrary sumCrypto (sellerKeyring 2 (.inr rfl)) ["seller-2", "seller-1"] noon reference
      (HexDigest.ofNat 1) = .ok ⟨"seller-1", HexDigest.ofNat 1⟩ ∧
    ∀ expected target,
      resolve_seller_ref sampleLibrary sumCrypto (sellerKeyring 2 (.inr rfl)) ["seller-2", "seller-1"] noon reference
        expected = .ok target →
      ∃ i ∈ sellerIssues, i.evidence_digest = expected ∧ target = ⟨i.seller_id, expected⟩ ∧ noon.instant < i.expiry := by
  obtain ⟨reference, hissue⟩ := issue_fits sampleLibrary sumCrypto (sellerIssue "seller-1")
    (sellerIssue_length ▸ by decide) (sellerIssue_length ▸ by decide)
  have hmem : sellerIssue "seller-1" ∈ sellerIssues := .inl rfl
  have hunforged : UnforgedRef sampleLibrary sumCrypto (sellerKeyring 2 (.inr rfl)) sellerIssues reference := by
    refine unforged_issued hmem hissue fun version key hkey hsigned => ?_
    unfold sellerKeyring at hkey
    dsimp only at hkey
    split_ifs at hkey
    · exact (Option.some.inj hkey).symm
    · obtain rfl := Option.some.inj hkey
      exact absurd hsigned (by decide +kernel)
  obtain ⟨hresolves, honly⟩ := resolve_exact sampleLibrary sumCrypto sellerIssues (sellerKeyring 2 (.inr rfl))
    ["seller-2", "seller-1"] noon seller_digests
  refine ⟨reference, hissue, hresolves _ hmem reference hissue rfl (by decide) (by decide), ?_⟩
  intro expected target hresolve
  obtain ⟨i, hi, -, h⟩ := honly reference hunforged expected target hresolve
  exact ⟨i, hi, h⟩

end CommerceAgent.Operations
