/-
  NodeClient.Proofs.Reply.RoundTrip
  ─────────────────────────────────
  What comes back when a reply is written and read again.

  A reply is regular if no status, unit or mode in it is unknown and the version of each of its
  transactions fits.  Only regular replies are read, and they come back with the payloads of
  their messages in canonical form; so others do not come back, and a second pass of writing and
  reading changes nothing (`ReplyType.round_trip`).
-/
import NodeClient.Proofs.Codec.Restore
import NodeClient.Proofs.Scalar.Data
import NodeClient.Proofs.Transaction.Acceptance
import NodeClient.Reply.Basic
import NodeClient.Reply.Block

namespace NodeClient

open Json

/-! ## §1. Counters. -/

section

variable {ρ : Type} (r : ρ) (name : String)

/-- A counter comes back whether it is written or left out as zero. -/
theorem rereads_counterField (get : ρ → UInt64) (n : UInt64) :
    (counterField name get).Rereads r n ↔ get r = n := by
  unfold Field.Rereads
  by_cases hzero : get r = 0
  · have homit : (counterField name get).omits ((counterField name get).get r) = true :=
      beq_iff_eq.mpr hzero
    rw [if_pos homit, hzero]
    exact Option.some_inj
  · have hwritten : (counterField name get).omits ((counterField name get).get r) ≠ true :=
      fun h => hzero (beq_iff_eq.mp h)
    rw [if_neg hwritten]
    exact Codec.u64_keepsAll.rereads_required name get r n

/-- A counter that is always written comes back as well. -/
theorem rereads_steps (get : ρ → UInt64) (n : UInt64) :
    Field.Rereads { name, get, codec := .u64, absent := some 0 } r n ↔ get r = n :=
  Codec.u64_keepsAll.rereads_required name get r n

end

/-! ## §2. Replies that come back unchanged. -/

theorem Price.keepsAll : Price.record.codec.KeepsAll := by
  intro p q
  rw [Record.rereads_iff _ (by decide), true_and]
  simp only [record, Fields.rereads_field, Fields.rereads_done,
    Quantity.keepsAll.rereads_required, exists_eq_left']

theorem Submission.keepsAll : Submission.record.codec.KeepsAll := by
  intro s t
  rw [Record.rereads_iff _ (by decide), true_and]
  simp only [record, Fields.rereads_field, Fields.rereads_done, Word.keepsAll.rereads_required,
    exists_eq_left']

theorem BlockHashAndNumber.keepsAll : BlockHashAndNumber.record.codec.KeepsAll := by
  intro b c
  rw [Record.rereads_iff _ (by decide), true_and]
  simp only [record, Fields.rereads_field, Fields.rereads_done, Word.keepsAll.rereads_required,
    BlockNumber.keepsAll.rereads_required, exists_eq_left']

theorem DataAvailability.keepsAll : DataAvailability.record.codec.KeepsAll := by
  intro d e
  rw [Record.rereads_iff _ (by decide), true_and]
  simp only [record, Fields.rereads_field, Fields.rereads_done,
    Codec.u64_keepsAll.rereads_required, exists_eq_left']

theorem DataAvailability.normal_encode_ne_null (d : DataAvailability) :
    (record.codec.encode d).normal ≠ .null := by
  show Value.object _ ≠ .null
  exact Value.noConfusion

theorem ExecutionResources.keepsAll : ExecutionResources.record.codec.KeepsAll := by
  intro x y
  rw [Record.rereads_iff _ (by decide), true_and]
  simp only [record, Fields.rereads_field, Fields.rereads_done, rereads_steps,
    rereads_counterField,
    DataAvailability.keepsAll.rereads_optional DataAvailability.normal_encode_ne_null,
    exists_eq_left']

theorem TransactionEvent.keepsAll : TransactionEvent.record.codec.KeepsAll := by
  intro e f
  rw [Record.rereads_iff _ (by decide), true_and]
  simp only [record, Fields.rereads_field, Fields.rereads_done, Word.keepsAll.rereads_required,
    Word.keepsAll.rereads_optional Word.normal_encode_ne_null, Word.keepsAll.rereads_list,
    BlockNumber.keepsAll.rereads_optional BlockNumber.normal_encode_ne_null, exists_eq_left']

theorem EventsChunk.keepsAll : EventsChunk.record.codec.KeepsAll := by
  intro x y
  rw [Record.rereads_iff _ (by decide), true_and]
  simp only [record, Fields.rereads_field, Fields.rereads_done,
    TransactionEvent.keepsAll.rereads_list,
    Codec.text_keepsAll.rereads_optional Codec.normal_encode_text_ne_null, exists_eq_left']

/-! Fees and estimates come back if their unit is known. -/

/-- The unit is known. -/
def Fee.Regular (f : Fee) : Prop := f.unit ≠ .unknown

theorem Fee.lawful : record.fields.Lawful record.make := by
  repeat' first | exact trivial | exact rfl | intro _ | apply And.intro

theorem Fee.keeps : Fee.record.codec.Keeps Fee.Regular := by
  intro f g
  rw [Record.rereads_iff _ (by decide)]
  simp only [record, Fields.rereads_field, Fields.rereads_done, Quantity.keepsAll.rereads_required,
    Field.rereads_required FeeUnit.keeps, and_assoc, exists_and_left, exists_eq_left']
  rfl

theorem Fee.yields : Fee.record.codec.Yields Fee.Regular := fun _ _ h =>
  (Record.gives_of_decode lawful h (.there .here)).required FeeUnit.yields

/-- The unit is known. -/
def FeeEstimate.Regular (f : FeeEstimate) : Prop := f.unit ≠ .unknown

theorem FeeEstimate.lawful : record.fields.Lawful record.make := by
  repeat' first | exact trivial | exact rfl | intro _ | apply And.intro

theorem FeeEstimate.keeps : FeeEstimate.record.codec.Keeps FeeEstimate.Regular := by
  intro f g
  rw [Record.rereads_iff _ (by decide)]
  simp only [record, Fields.rereads_field, Fields.rereads_done, Quantity.keepsAll.rereads_required,
    Field.rereads_required FeeUnit.keeps, and_assoc, exists_and_left, exists_eq_left']
  rfl

theorem FeeEstimate.yields : FeeEstimate.record.codec.Yields FeeEstimate.Regular := fun _ _ h =>
  (Record.gives_of_decode lawful h (.there <| .there <| .there <| .there <| .there .here)).required
    FeeUnit.yields

/-! ## §3. Messages and receipts. -/

/-- A list keeps its items exactly if each of them is kept. -/
theorem map_eq_self_iff {α : Type} {f : α → α} {as : List α} :
    as.map f = as ↔ ∀ a ∈ as, f a = a := by
  have hid := List.map_eq_map_iff (f := f) (g := id) (l := as)
  rw [List.map_id] at hid
  exact hid

/-- The message with its payload in canonical form. -/
def Message.canonical (m : Message) : Message := { m with payload := m.payload.canonical }

theorem Message.canonical_eq_self_iff (m : Message) :
    m.canonical = m ↔ m.payload.canonical = m.payload := by
  constructor
  · intro h
    exact congrArg Message.payload h
  · intro h
    unfold canonical
    rw [h]

theorem Message.rereads_canonical (m : Message) : record.codec.Rereads m m.canonical := by
  rw [Record.rereads_iff _ (by decide)]
  simp only [record, Fields.rereads_field, Fields.rereads_done, Word.keepsAll.rereads_required,
    exists_eq_left']
  exact ⟨_, (Data.rereads_iff m.payload _).mpr rfl, rfl⟩

theorem Message.restores : Message.record.codec.Restores (fun _ => True) Message.canonical where
  comes_back := fun {m} _ => m.rereads_canonical
  yields := record.codec.yields_true
  encode_canonical m :=
    Record.encode_congr ⟨rfl, rfl, rfl, rfl, rfl, Data.encode_canonical m.payload, trivial⟩

namespace TransactionReceipt

/-- The unit of the fee and both states are known. -/
structure Regular (r : TransactionReceipt) : Prop where
  fee : r.actualFee.Regular
  execution : r.executionStatus ≠ .unknown
  finality : r.finalityStatus ≠ .unknown

/-- The receipt with the payloads of its messages in canonical form. -/
def canonical (r : TransactionReceipt) : TransactionReceipt :=
  { r with messagesSent := r.messagesSent.map Message.canonical }

/-- The payloads of the messages. -/
def payloads (r : TransactionReceipt) : List Data := r.messagesSent.map (·.payload)

theorem canonical_eq_self_iff (r : TransactionReceipt) :
    r.canonical = r ↔ ∀ d ∈ r.payloads, d.canonical = d := by
  have hmessages : r.canonical = r ↔ r.messagesSent.map Message.canonical = r.messagesSent := by
    constructor
    · intro h
      exact congrArg messagesSent h
    · intro h
      unfold canonical
      rw [h]
  rw [hmessages, map_eq_self_iff, payloads, List.forall_mem_map]
  exact forall₂_congr fun m _ => m.canonical_eq_self_iff

theorem lawful : record.fields.Lawful record.make := by
  repeat' first | exact trivial | exact rfl | intro _ | apply And.intro

theorem rereads_canonical {r : TransactionReceipt} (h : r.Regular) :
    record.codec.Rereads r r.canonical := by
  have hmessages : Message.record.codec.list.Rereads r.messagesSent _ :=
    Message.restores.list.comes_back fun _ _ => trivial
  rw [Record.rereads_iff _ (by decide)]
  simp only [record, Fields.rereads_field, Fields.rereads_done, Word.keepsAll.rereads_required,
    Word.keepsAll.rereads_optional Word.normal_encode_ne_null,
    BlockNumber.keepsAll.rereads_optional BlockNumber.normal_encode_ne_null,
    Codec.text_keepsAll.rereads_optional Codec.normal_encode_text_ne_null,
    TransactionType.keepsAll.rereads_required, Field.rereads_required Fee.keeps,
    Field.rereads_required ExecutionStatus.keeps, Field.rereads_required FinalityStatus.keeps,
    TransactionEvent.keepsAll.rereads_list, ExecutionResources.keepsAll.rereads_required,
    and_assoc, exists_and_left, exists_eq_left']
  -- what is left are the states and the messages
  exact ⟨h.fee, h.execution, h.finality, _, hmessages, rfl⟩

theorem regular_of_decode {v : Value} {r : TransactionReceipt}
    (h : record.decode v = .ok r) : r.Regular where
  fee := (Record.gives_of_decode lawful h (.there <| .there .here)).required Fee.yields
  execution := (Record.gives_of_decode lawful h (.there <| .there <| .there .here)).required
    ExecutionStatus.yields
  finality := (Record.gives_of_decode lawful h
    (.there <| .there <| .there <| .there .here)).required FinalityStatus.yields

theorem encode_canonical (r : TransactionReceipt) :
    record.codec.encode r.canonical = record.codec.encode r := by
  have hmessages : Message.record.codec.list.encode (r.messagesSent.map Message.canonical)
      = Message.record.codec.list.encode r.messagesSent :=
    Message.restores.list.encode_canonical r.messagesSent
  apply Record.encode_congr
  repeat' first | exact trivial | exact hmessages | exact rfl | apply And.intro

theorem restores : record.codec.Restores Regular canonical where
  comes_back := rereads_canonical
  yields := fun _ _ => regular_of_decode
  encode_canonical := encode_canonical

end TransactionReceipt

/-! ## §4. Blocks. -/

namespace Transaction

theorem decode_codec_eq_ok_iff {v : Value} {t : Transaction} :
    codec.decode v = .ok t ↔ ofValue v = .ok t := by
  show ((ofValue v).mapError _).mapError Mismatch.refused = .ok t ↔ _
  cases ofValue v <;> simp [Except.mapError]

theorem restores : codec.Restores Regular id where
  comes_back := fun h => decode_codec_eq_ok_iff.mpr h.comes_back
  yields := fun _ _ h => regular_of_ofValue (decode_codec_eq_ok_iff.mp h)
  encode_canonical _ := rfl

end Transaction

namespace BlockTransaction

/-- The transaction and the receipt are regular. -/
structure Regular (b : BlockTransaction) : Prop where
  transaction : b.transaction.Regular
  receipt : b.receipt.Regular

/-- The transaction with the receipt in canonical form. -/
def canonical (b : BlockTransaction) : BlockTransaction := { b with receipt := b.receipt.canonical }

theorem canonical_eq_self_iff (b : BlockTransaction) :
    b.canonical = b ↔ ∀ d ∈ b.receipt.payloads, d.canonical = d := by
  rw [← b.receipt.canonical_eq_self_iff]
  constructor
  · intro h
    exact congrArg receipt h
  · intro h
    unfold canonical
    rw [h]

theorem lawful : record.fields.Lawful record.make := by
  repeat' first | exact trivial | exact rfl | intro _ | apply And.intro

theorem restores : record.codec.Restores Regular canonical where
  comes_back := by
    intro b h
    rw [Record.rereads_iff _ (by decide)]
    exact ⟨_, Transaction.restores.comes_back h.transaction,
      _, TransactionReceipt.restores.comes_back h.receipt, rfl⟩
  yields := fun _ _ h =>
    { transaction := (Record.gives_of_decode lawful h .here).required Transaction.restores.yields
      receipt := (Record.gives_of_decode lawful h (.there .here)).required
        TransactionReceipt.restores.yields }
  encode_canonical b :=
    Record.encode_congr ⟨rfl, rfl, rfl, b.receipt.encode_canonical, trivial⟩

end BlockTransaction

namespace Block

/-- The status, if there is one, and the mode are known, and the transactions are regular. -/
structure Regular (b : Block) : Prop where
  status : ∀ s ∈ b.status, s ≠ .unknown
  daMode : b.l1DaMode ≠ .unknown
  transactions : ∀ t ∈ b.transactions, t.Regular

/-- The block with its transactions in canonical form. -/
def canonical (b : Block) : Block :=
  { b with transactions := b.transactions.map BlockTransaction.canonical }

/-- The payloads of the messages of all transactions. -/
def payloads (b : Block) : List Data := b.transactions.flatMap (·.receipt.payloads)

theorem canonical_eq_self_iff (b : Block) :
    b.canonical = b ↔ ∀ d ∈ b.payloads, d.canonical = d := by
  have htransactions :
      b.canonical = b ↔ b.transactions.map BlockTransaction.canonical = b.transactions := by
    constructor
    · intro h
      exact congrArg transactions h
    · intro h
      unfold canonical
      rw [h]
  rw [htransactions, map_eq_self_iff, payloads, List.forall_mem_flatMap]
  exact forall₂_congr fun t _ => t.canonical_eq_self_iff

theorem lawful : record.fields.Lawful record.make := by
  repeat' first | exact trivial | exact rfl | intro _ | apply And.intro

theorem rereads_canonical {b : Block} (h : b.Regular) : record.codec.Rereads b b.canonical := by
  have htransactions : BlockTransaction.record.codec.list.Rereads b.transactions _ :=
    BlockTransaction.restores.list.comes_back h.transactions
  rw [Record.rereads_iff _ (by decide)]
  simp only [record, Fields.rereads_field, Fields.rereads_done, Word.keepsAll.rereads_required,
    Word.keepsAll.rereads_optional Word.normal_encode_ne_null,
    BlockNumber.keepsAll.rereads_optional BlockNumber.normal_encode_ne_null,
    Codec.u64_keepsAll.rereads_required, Codec.text_keepsAll.rereads_required,
    Field.rereads_optional FinalityStatus.keeps Vocabulary.normal_encode_ne_null,
    Field.rereads_required BlockDaMode.keeps, Price.keepsAll.rereads_required, and_assoc,
    exists_and_left, exists_eq_left']
  -- what is left are the status, the mode and the transactions
  exact ⟨h.status, h.daMode, _, htransactions, rfl⟩

theorem has_daMode : record.fields.Has
    (.required "l1_da_mode" (·.l1DaMode) BlockDaMode.vocabulary.codec) := by
  repeat' first | exact .here | apply Fields.Has.there

theorem has_transactions : record.fields.Has
    (.list "transactions" (·.transactions) BlockTransaction.record.codec) := by
  repeat' first | exact .here | apply Fields.Has.there

theorem regular_of_decode {v : Value} {b : Block} (h : record.decode v = .ok b) : b.Regular where
  status := (Record.gives_of_decode lawful h .here).optional FinalityStatus.yields
  daMode := (Record.gives_of_decode lawful h has_daMode).required BlockDaMode.yields
  transactions :=
    (Record.gives_of_decode lawful h has_transactions).list BlockTransaction.restores.yields

theorem encode_canonical (b : Block) :
    record.codec.encode b.canonical = record.codec.encode b := by
  have htransactions :
      BlockTransaction.record.codec.list.encode (b.transactions.map BlockTransaction.canonical)
        = BlockTransaction.record.codec.list.encode b.transactions :=
    BlockTransaction.restores.list.encode_canonical b.transactions
  apply Record.encode_congr
  repeat' first | exact trivial | exact htransactions | exact rfl | apply And.intro

theorem restores : record.codec.Restores Regular canonical where
  comes_back := rereads_canonical
  yields := fun _ _ => regular_of_decode
  encode_canonical := encode_canonical

end Block

/-! ## §5. All replies. -/

/-- The types of replies, but for the synchronization state. -/
inductive ReplyType where
  | block | blockTransaction | receipt | message | event | resources | dataAvailability
  | fee | price | feeEstimate | submission | blockHashAndNumber | eventsChunk | callResult
  deriving Repr, DecidableEq

namespace ReplyType

/-- The replies of a type. -/
def Reply : ReplyType → Type
  | block => Block
  | blockTransaction => BlockTransaction
  | receipt => TransactionReceipt
  | message => Message
  | event => TransactionEvent
  | resources => ExecutionResources
  | dataAvailability => DataAvailability
  | fee => Fee
  | price => Price
  | feeEstimate => FeeEstimate
  | submission => Submission
  | blockHashAndNumber => BlockHashAndNumber
  | eventsChunk => EventsChunk
  | callResult => List FieldElement

/-- How the replies of a type are read and written. -/
def codec : (k : ReplyType) → Codec k.Reply
  | block => Block.record.codec
  | blockTransaction => BlockTransaction.record.codec
  | receipt => TransactionReceipt.record.codec
  | message => Message.record.codec
  | event => TransactionEvent.record.codec
  | resources => ExecutionResources.record.codec
  | dataAvailability => DataAvailability.record.codec
  | fee => Fee.record.codec
  | price => Price.record.codec
  | feeEstimate => FeeEstimate.record.codec
  | submission => Submission.record.codec
  | blockHashAndNumber => BlockHashAndNumber.record.codec
  | eventsChunk => EventsChunk.record.codec
  | callResult => callResultCodec

/-- No status, unit or mode in the reply is unknown, and the versions of its transactions fit. -/
def Regular : (k : ReplyType) → k.Reply → Prop
  | block => Block.Regular
  | blockTransaction => BlockTransaction.Regular
  | receipt => TransactionReceipt.Regular
  | fee => Fee.Regular
  | feeEstimate => FeeEstimate.Regular
  | _ => fun _ => True

/-- The payloads of the messages in the reply. -/
def payloads : (k : ReplyType) → k.Reply → List Data
  | block => Block.payloads
  | blockTransaction => fun b : BlockTransaction => b.receipt.payloads
  | receipt => TransactionReceipt.payloads
  | message => fun m : Message => [m.payload]
  | _ => fun _ => []

/-- The reply with the payloads of its messages in canonical form. -/
def canonical : (k : ReplyType) → k.Reply → k.Reply
  | block => Block.canonical
  | blockTransaction => BlockTransaction.canonical
  | receipt => TransactionReceipt.canonical
  | message => Message.canonical
  | _ => id

theorem restores (k : ReplyType) : k.codec.Restores k.Regular k.canonical := by
  cases k with
  | block => exact Block.restores
  | blockTransaction => exact BlockTransaction.restores
  | receipt => exact TransactionReceipt.restores
  | message => exact Message.restores
  | event => exact TransactionEvent.keepsAll.restores
  | resources => exact ExecutionResources.keepsAll.restores
  | dataAvailability => exact DataAvailability.keepsAll.restores
  | fee => exact Fee.keeps.restores Fee.yields
  | price => exact Price.keepsAll.restores
  | feeEstimate => exact FeeEstimate.keeps.restores FeeEstimate.yields
  | submission => exact Submission.keepsAll.restores
  | blockHashAndNumber => exact BlockHashAndNumber.keepsAll.restores
  | eventsChunk => exact EventsChunk.keepsAll.restores
  | callResult => exact Word.keepsAll.list.restores

/-- A reply is in canonical form exactly if all payloads in it are. -/
theorem canonical_eq_self_iff (k : ReplyType) (r : k.Reply) :
    k.canonical r = r ↔ ∀ d ∈ k.payloads r, d.canonical = d := by
  have hnone : (r = r) ↔ ∀ d ∈ ([] : List Data), d.canonical = d :=
    iff_of_true rfl (List.forall_mem_nil _)
  cases k with
  | block => exact Block.canonical_eq_self_iff r
  | blockTransaction => exact BlockTransaction.canonical_eq_self_iff r
  | receipt => exact TransactionReceipt.canonical_eq_self_iff r
  | message =>
      show Message.canonical r = r ↔ ∀ d ∈ [Message.payload r], d.canonical = d
      rw [List.forall_mem_singleton]
      exact Message.canonical_eq_self_iff r
  | _ => exact hnone

/-- **What is written for a regular reply is read as its canonical form, which is the reply itself
exactly if all payloads are canonical; what is written for any other reply is not read as it.
Whatever is read is regular, and the first time that it is written and read again brings it to a
form that is written alike and stays.** -/
theorem round_trip (k : ReplyType) :
    (∀ r, k.Regular r →
      k.codec.decode (k.codec.encode r).normal = .ok (k.canonical r) ∧
        (k.codec.decode (k.codec.encode r).normal = .ok r ↔
          ∀ d ∈ k.payloads r, d.canonical = d)) ∧
      (∀ r, ¬k.Regular r → k.codec.decode (k.codec.encode r).normal ≠ .ok r) ∧
      ∀ v r, k.codec.decode v = .ok r → k.Regular r ∧
        ∃ r', k.codec.decode (k.codec.encode r).normal = .ok r' ∧
          k.codec.encode r' = k.codec.encode r ∧
          k.codec.decode (k.codec.encode r').normal = .ok r' := by
  have hlaws := k.restores
  refine ⟨?_, ?_, ?_⟩
  · intro r hr
    refine ⟨hlaws.comes_back hr, ?_⟩
    rw [← k.canonical_eq_self_iff r]
    exact (hlaws.self_iff r).trans (and_iff_right hr)
  · intro r hr hself
    exact hr ((hlaws.self_iff r).mp hself).1
  · intro v r hdecode
    obtain ⟨hr, hfirst, hsecond⟩ := hlaws.settles hdecode
    exact ⟨hr, k.canonical r, hfirst, hlaws.encode_canonical r, hsecond⟩

/-- A payload without any byte that is not zero comes back as one zero byte, and a fee without a
known unit does not come back. -/
theorem round_trip_zero_payload :
    let sent : TransactionReceipt := { (default : TransactionReceipt) with
      actualFee := ⟨⟨1⟩, .wei⟩, executionStatus := .succeeded, finalityStatus := .acceptedOnL2,
      messagesSent := [⟨default, default, ⟨[0, 0]⟩⟩] }
    let received : TransactionReceipt :=
      { sent with messagesSent := [⟨default, default, ⟨[0]⟩⟩] }
    (receipt.codec.decode (receipt.codec.encode sent).normal = .ok received ∧
      receipt.codec.decode (receipt.codec.encode sent).normal ≠ .ok sent) ∧
      fee.codec.decode (fee.codec.encode ⟨⟨1⟩, .unknown⟩).normal ≠ .ok ⟨⟨1⟩, .unknown⟩ := by
  intro sent received
  have hunit : sent.actualFee.unit ≠ .unknown := by decide
  have hback := (round_trip receipt).1 sent ⟨hunit, by decide, by decide⟩
  refine ⟨⟨hback.1, ?_⟩, (round_trip fee).2.1 ⟨⟨1⟩, .unknown⟩ fun h => h rfl⟩
  intro hself
  have hzeros := hback.2.mp hself ⟨[0, 0]⟩ (List.mem_singleton.mpr rfl)
  exact absurd hzeros (by decide)

end ReplyType

end NodeClient
