/-
  NodeClient.Proofs.Request.EstimateFee
  ─────────────────────────────────────
  A fee estimate is only ever asked for a query.

  Whatever the version of a transaction is, the request writes the query version of the variant in
  its place and all other members as they are (`encode_asQuery`).  This version fits, so what is
  sent is read as a transaction of the same variant, and as nothing but a query
  (`params_send_query`).
-/
import NodeClient.Proofs.Codec.Restore
import NodeClient.Proofs.Transaction.Edits
import NodeClient.Request.Basic

namespace NodeClient

open Json

/-! ## §1. Overwriting a member. -/

namespace Json

/-- The members with another value for a key, in the same order. -/
def Members.overwrite (key : String) (v : Value) (ms : Members) : Members :=
  ms.map fun m => if m.1 = key then (m.1, v) else m

/-- The object with another value for a key. -/
def Value.overwrite (object : Value) (key : String) (v : Value) : Value :=
  match object with
  | .object ms => .object (Members.overwrite key v ms)
  | other => other

namespace Members

theorem overwrite_cons_self (key : String) (v w : Value) (ms : Members) :
    overwrite key v ((key, w) :: ms) = (key, v) :: overwrite key v ms := by
  rw [overwrite, List.map_cons, if_pos rfl]
  rfl

theorem overwrite_cons_of_ne {key k : String} (h : k ≠ key) (v w : Value) (ms : Members) :
    overwrite key v ((k, w) :: ms) = (k, w) :: overwrite key v ms := by
  rw [overwrite, List.map_cons, if_neg h]
  rfl

/-- Where the key does not occur there is nothing to overwrite. -/
theorem overwrite_of_not_mem {key : String} {ms : Members} (h : key ∉ ms.keys) (v : Value) :
    overwrite key v ms = ms := by
  induction ms with
  | nil => rfl
  | cons m ms ih =>
      obtain ⟨hfirst, hrest⟩ := not_or.mp (fun e => h (List.mem_cons.mpr e))
      rw [overwrite_cons_of_ne (Ne.symm hfirst), ih hrest]

end Members

end Json

/-! ## §2. Marking a transaction. -/

namespace Variant

/-- Payloads that differ in their version only are written with the same members but for that
one. -/
theorem toMembers_of_version {ρ κ : Type} {getHash : ρ → Option Hash}
    {getVersion : ρ → TransactionVersion} {rest : Fields ρ κ} {r r' : ρ}
    (hname : "version" ∉ rest.names) (hhash : getHash r' = getHash r)
    (hrest : rest.Alike r' r) :
    Fields.toMembers r'
        (.field (transactionHashField getHash) (.field (versionField getVersion) rest))
      = Members.overwrite "version" (.string (getVersion r').token) (Fields.toMembers r
        (.field (transactionHashField getHash) (.field (versionField getVersion) rest))) := by
  -- behind the hash, which is written or not, the version is the first member
  have hstep : ∀ x : ρ, Fields.toMembers x
        (.field (transactionHashField getHash) (.field (versionField getVersion) rest))
      = if (getHash x).isNone then
          ("version", .string (getVersion x).token) :: rest.toMembers x
        else
          ("transaction_hash", Word.codec.optional.encode (getHash x)) ::
            ("version", .string (getVersion x).token) :: rest.toMembers x := fun _ => rfl
  have hothers : Members.overwrite "version" (.string (getVersion r').token) (rest.toMembers r)
      = rest.toMembers r :=
    Members.overwrite_of_not_mem (fun h => hname ((Fields.keys_toMembers r rest).mem h)) _
  rw [hstep, hstep, hhash, Fields.toMembers_congr hrest]
  split
  · rw [Members.overwrite_cons_self, hothers]
  · rw [Members.overwrite_cons_of_ne (by decide), Members.overwrite_cons_self, hothers]

/-- Setting the version overwrites the member of that name. -/
theorem toMembers_setVersion (v : Variant) (n : TransactionVersion) (p : v.Payload) :
    v.record.fields.toMembers (v.header.setVersion n p)
      = Members.overwrite "version" (.string n.token) (v.record.fields.toMembers p) := by
  cases v <;> refine toMembers_of_version (by decide) rfl ?_ <;>
    repeat' first | exact trivial | exact rfl | apply And.intro

theorem withoutQuery_baseVersion (v : Variant) : v.baseVersion.withoutQuery = v.baseVersion := by
  cases v <;> rfl

theorem isQuery_withQuery_baseVersion (v : Variant) : v.baseVersion.withQuery.isQuery = true := by
  cases v <;> rfl

end Variant

namespace Transaction

/-- **Marking a transaction changes the version that is written and nothing else.** -/
theorem encode_asQuery (t : Transaction) :
    t.asQuery.encode
      = t.encode.overwrite "version" (.string t.variant.baseVersion.withQuery.token) := by
  have hpayload := t.variant.toMembers_setVersion t.variant.queryVersion t.payload
  rw [← t.variant.queryVersion_eq]
  show Value.object (("type", _) :: t.variant.record.fields.toMembers
      (t.variant.header.setVersion t.variant.queryVersion t.payload))
    = .object (Members.overwrite "version" _ (("type", _) :: _))
  rw [hpayload, Members.overwrite_cons_of_ne (by decide)]
  rfl

/-- The version is written once. -/
theorem count_version (t : Transaction) : t.toMembers.keys.count "version" = 1 := by
  have hmem : "version" ∈ (t.variant.record.fields.toMembers t.payload).keys := by
    by_contra hnone
    have hlookup := t.variant.lookup_version t.payload
    rw [Members.get?, Members.lookup_eq_none hnone] at hlookup
    cases hlookup
  rw [t.distinct_toMembers.count]
  exact if_pos (List.mem_cons_of_mem _ hmem)

/-- The version of a marked transaction fits. -/
theorem versionFits_asQuery (t : Transaction) : t.asQuery.VersionFits := by
  show (t.withVersion t.variant.queryVersion).version.withoutQuery = t.variant.baseVersion
  rw [version_withVersion, Variant.queryVersion_eq, TransactionVersion.withoutQuery_withQuery,
    Variant.withoutQuery_baseVersion]

/-- **A marked transaction comes back, unless a data availability mode is unknown.** -/
theorem ofValue_encode_asQuery (t u : Transaction) :
    ofValue t.asQuery.encode.normal = .ok u ↔ .unknown ∉ t.daModes ∧ t.asQuery = u := by
  have hback := ofValue_encode_of_fits t.versionFits_asQuery u
  rw [asQuery, daModes_withVersion] at hback
  exact hback

end Transaction

/-! ## §3. The request. -/

namespace EstimateFee

/-- **The parameters are the transaction with the query version of its variant in the place of its
own, the flag, and the block.  What is sent is read exactly if no data availability mode is
unknown, and then as a query of the same variant.** -/
theorem params_send_query (r : EstimateFee) :
    let t := r.transaction
    let sent := t.encode.overwrite "version" (.string t.variant.baseVersion.withQuery.token)
    r.params = .array [.array [sent], .array [.string "SKIP_VALIDATE"], r.block.encode] ∧
      t.toMembers.keys.count "version" = 1 ∧
      ((∃ u, Transaction.ofValue sent.normal = .ok u) ↔ .unknown ∉ t.daModes) ∧
      ∀ u, Transaction.ofValue sent.normal = .ok u →
        u.variant = t.variant ∧ u.version.isQuery = true ∧ u = t.withVersion u.version := by
  intro t sent
  have hsent : t.asQuery.encode = sent := t.encode_asQuery
  have hread := t.ofValue_encode_asQuery
  rw [hsent] at hread
  refine ⟨?_, t.count_version, ⟨?_, ?_⟩, ?_⟩
  · rw [← hsent]
    rfl
  · rintro ⟨u, hu⟩
    exact ((hread u).mp hu).1
  · intro hknown
    exact ⟨t.asQuery, (hread _).mpr ⟨hknown, rfl⟩⟩
  · intro u hu
    obtain ⟨_, rfl⟩ := (hread u).mp hu
    have hversion : t.asQuery.version = t.variant.queryVersion := t.version_withVersion _
    refine ⟨rfl, ?_, ?_⟩
    · rw [hversion, Variant.queryVersion_eq]
      exact t.variant.isQuery_withQuery_baseVersion
    · rw [hversion]
      rfl

/-- Asks for the fee of a message from L1 whose version is not known. -/
def unversioned : EstimateFee where
  block := .latest
  transaction := ⟨.l1HandlerV0, ⟨none, .unknown, ⟨3⟩, Word.zero, Word.zero, []⟩⟩

/-- The message is sent as a query. -/
theorem params_send_query_unversioned :
    ∃ sent u, unversioned.params
        = .array [.array [sent], .array [.string "SKIP_VALIDATE"], unversioned.block.encode] ∧
      Transaction.ofValue sent.normal = .ok u ∧ u.variant = .l1HandlerV0 ∧
      u.version.isQuery = true := by
  obtain ⟨hparams, _, hread, hquery⟩ := params_send_query unversioned
  obtain ⟨u, hu⟩ := hread.mpr (by decide)
  obtain ⟨hvariant, hversion, _⟩ := hquery u hu
  exact ⟨_, u, hparams, hu, hvariant, hversion⟩

end EstimateFee

end NodeClient
