/-
  NodeClient.Proofs.Request.Params
  ────────────────────────────────
  **The parameters identify the request.**

  Two requests of one kind have the same parameters only if they are the same.  What is left out
  makes no difference: no address and no keys are the only values that are not written, a hash
  that is not known is the only one in a transaction, and the two shapes of block selectors have
  different keys.  A fee estimate is asked for a query, so its parameters tell everything but the
  version of the transaction.

  Main result: `params_identify_request`.
-/
import NodeClient.Proofs.Request.BlockId
import NodeClient.Proofs.Transaction.Apart
import NodeClient.Proofs.Transaction.Edits
import NodeClient.Request.Basic

namespace NodeClient

open Json

/-! ## §1. Block selectors and words. -/

theorem BlockId.tellsApart : BlockId.codec.TellsApart := keepsAll.tellsApart

theorem Word.tellsApart {k : WordKind} : (codec (k := k)).TellsApart := keepsAll.tellsApart

/-! ## §2. Requests written as objects. -/

/-- What two objects with the same normal form have under a key is the same up to normal forms. -/
theorem member_eq_of_normal_eq {ms ms' : Members}
    (h : (Value.object ms).normal = (Value.object ms').normal) (hms : ms.Distinct)
    (hms' : ms'.Distinct) (key : String) {v v' : Value} (hv : ms.get? key = some v)
    (hv' : ms'.get? key = some v') : v.normal = v'.normal := by
  have hlook := lookup_of_normal_eq hms hms' h key
  rw [show ms.lookup key = some v from hv, show ms'.lookup key = some v' from hv'] at hlook
  exact Option.some.inj hlook

theorem GetBlock.eq_of_params {r r' : GetBlock} (h : r.params.normal = r'.params.normal) :
    r = r' := by
  have hkey : ["block_id"].Nodup := by decide
  have hblock := BlockId.tellsApart (member_eq_of_normal_eq h hkey hkey "block_id" rfl rfl)
  exact congrArg mk hblock

theorem Call.eq_of_params {r r' : Call} (h : r.params.normal = r'.params.normal) : r = r' := by
  -- the parameters hold the request in an object of its own
  have houter : ["request", "block_id"].Nodup := by decide
  have hinner : ["contract_address", "entry_point_selector", "calldata"].Nodup := by decide
  have hblock := BlockId.tellsApart
    (member_eq_of_normal_eq h houter houter "block_id" rfl rfl)
  have hrequest := member_eq_of_normal_eq h houter houter "request" rfl rfl
  have hcontract := Word.tellsApart
    (member_eq_of_normal_eq hrequest hinner hinner "contract_address" rfl rfl)
  have hselector := Word.tellsApart
    (member_eq_of_normal_eq hrequest hinner hinner "entry_point_selector" rfl rfl)
  have hcalldata := Word.tellsApart.list
    (member_eq_of_normal_eq hrequest hinner hinner "calldata" rfl rfl)
  obtain ⟨block, contract, selector, calldata⟩ := r
  obtain ⟨block', contract', selector', calldata'⟩ := r'
  rw [mk.injEq]
  exact ⟨hblock, hcontract, hselector, hcalldata⟩

namespace GetEvents

/-- The fields of a filter: an address that is not given and keys that are not are left out. -/
def filter : Fields GetEvents
    (BlockId → BlockId → UInt64 → Option Address → List (List FieldElement) → GetEvents) :=
  .field (.required "from_block" (·.fromBlock) BlockId.codec) <|
  .field (.required "to_block" (·.toBlock) BlockId.codec) <|
  .field (.required "chunk_size" (·.limit) Codec.u64) <|
  .field (.optional "address" (·.address) Word.codec) <|
  .field { name := "keys", get := (·.keys), codec := Word.codec.list.list,
           omits := List.isEmpty } .done

/-- The parameters are the filter, written field by field. -/
theorem params_eq (r : GetEvents) : r.params = .object [("filter", .object (filter.toMembers r))] := by
  obtain ⟨fromBlock, toBlock, address, keys, limit⟩ := r
  -- whether they are left out depends on their first constructor only
  cases address <;> cases keys <;> rfl

theorem filter_tellApart : filter.TellApart := by
  refine ⟨Field.tellsApart_required BlockId.tellsApart _ _,
    Field.tellsApart_required BlockId.tellsApart _ _,
    Field.tellsApart_required Codec.u64_keepsAll.tellsApart _ _,
    Field.tellsApart_optional Word.tellsApart Word.normal_encode_ne_null _ _, ⟨Word.tellsApart.list.list, ?_⟩, trivial⟩
  -- only the empty list is left out
  intro keys keys' hkeys hkeys'
  exact (List.isEmpty_iff.mp hkeys).trans (List.isEmpty_iff.mp hkeys').symm

theorem eq_of_params {r r' : GetEvents} (h : r.params.normal = r'.params.normal) : r = r' := by
  have hnames : filter.names.Nodup := by decide
  have hkey : ["filter"].Nodup := by decide
  rw [params_eq, params_eq] at h
  have hfilter := member_eq_of_normal_eq h hkey hkey "filter" rfl rfl
  -- the constructor takes the fields in another order
  have hwhole : ∀ r, filter.rebuild (fun f t n a k => mk f t a k n) r = r := fun _ => rfl
  exact Fields.eq_of_written filter_tellApart hnames hwhole fun key _ =>
    lookup_of_normal_eq (Fields.distinct_toMembers r hnames) (Fields.distinct_toMembers r' hnames)
      hfilter key

end GetEvents

/-! ## §3. Requests written as arrays. -/

theorem GetNonce.eq_of_params {r r' : GetNonce} (h : r.params.normal = r'.params.normal) :
    r = r' := by
  have hitems : Value.array [r.block.encode.normal, (Word.codec.encode r.contract).normal]
      = .array [r'.block.encode.normal, (Word.codec.encode r'.contract).normal] := h
  simp only [Value.array.injEq, List.cons.injEq, and_true] at hitems
  obtain ⟨block, contract⟩ := r
  obtain ⟨block', contract'⟩ := r'
  rw [mk.injEq]
  exact ⟨BlockId.tellsApart hitems.1, Word.keepsAll.tellsApart hitems.2⟩

theorem SubmitTransaction.eq_of_params {r r' : SubmitTransaction}
    (h : r.params.normal = r'.params.normal) : r = r' := by
  have hitems : Value.array [r.transaction.encode.normal]
      = .array [r'.transaction.encode.normal] := h
  simp only [Value.array.injEq, List.cons.injEq, and_true] at hitems
  exact congrArg mk (Transaction.tellsApart hitems)

/-- Transactions are marked alike exactly if they differ in their version only. -/
theorem Transaction.asQuery_eq_iff (t u : Transaction) :
    t.asQuery = u.asQuery ↔ u.variant = t.variant ∧ u = t.withVersion u.version := by
  constructor
  · intro hquery
    have hvariant : u.asQuery.variant = t.asQuery.variant :=
      congrArg Transaction.variant hquery.symm
    refine ⟨hvariant, ?_⟩
    calc u = u.asQuery.withVersion u.version := by
          rw [asQuery, withVersion_withVersion, withVersion_version]
      _ = t.asQuery.withVersion u.version := by rw [hquery]
      _ = t.withVersion u.version := by rw [asQuery, withVersion_withVersion]
  · rintro ⟨_, hu⟩
    rw [hu]
    exact (t.withVersion_withVersion _ _).symm

theorem EstimateFee.params_eq_iff (r r' : EstimateFee) :
    r.params.normal = r'.params.normal ↔
      r.block = r'.block ∧ r'.transaction.variant = r.transaction.variant ∧
        r'.transaction = r.transaction.withVersion r'.transaction.version := by
  rw [← Transaction.asQuery_eq_iff]
  constructor
  · intro h
    have hitems : Value.array [.array [r.transaction.asQuery.encode.normal],
          .array [.string "SKIP_VALIDATE"], r.block.encode.normal]
        = .array [.array [r'.transaction.asQuery.encode.normal],
          .array [.string "SKIP_VALIDATE"], r'.block.encode.normal] := h
    simp only [Value.array.injEq, List.cons.injEq, and_true, true_and] at hitems
    exact ⟨BlockId.tellsApart hitems.2, Transaction.tellsApart hitems.1⟩
  · rintro ⟨hblock, hquery⟩
    unfold params
    rw [hblock, hquery]

/-! ## §4. All requests. -/

/-- **Requests of one kind with the same parameters are the same; fee estimates with the same
parameters are for the same block and for transactions of one variant that differ in their version
at most.** -/
theorem params_identify_request :
    (∀ r r' : GetBlock, r.params.normal = r'.params.normal ↔ r = r') ∧
    (∀ r r' : Call, r.params.normal = r'.params.normal ↔ r = r') ∧
    (∀ r r' : GetEvents, r.params.normal = r'.params.normal ↔ r = r') ∧
    (∀ r r' : GetNonce, r.params.normal = r'.params.normal ↔ r = r') ∧
    (∀ r r' : SubmitTransaction, r.params.normal = r'.params.normal ↔ r = r') ∧
    ∀ r r' : EstimateFee, r.params.normal = r'.params.normal ↔
      r.block = r'.block ∧ r'.transaction.variant = r.transaction.variant ∧
        r'.transaction = r.transaction.withVersion r'.transaction.version := by
  refine ⟨?_, ?_, ?_, ?_, ?_, EstimateFee.params_eq_iff⟩
  · exact fun r r' => ⟨GetBlock.eq_of_params, fun h => h ▸ rfl⟩
  · exact fun r r' => ⟨Call.eq_of_params, fun h => h ▸ rfl⟩
  · exact fun r r' => ⟨GetEvents.eq_of_params, fun h => h ▸ rfl⟩
  · exact fun r r' => ⟨GetNonce.eq_of_params, fun h => h ▸ rfl⟩
  · exact fun r r' => ⟨SubmitTransaction.eq_of_params, fun h => h ▸ rfl⟩

end NodeClient
