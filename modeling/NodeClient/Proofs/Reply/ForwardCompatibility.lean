/-
  NodeClient.Proofs.Reply.ForwardCompatibility
  ────────────────────────────────────────────
  **Replies of nodes that tell more.**

  A newer node adds members that this client does not know, or writes null where an older one
  writes nothing (`Grown`).  Wherever in a reply this happens, the reply is read as before, or
  refused with the same error.

  Which members an object may get depends on what it is decoded as (`Opens`).  A structure asks
  for its fields.  A transaction asks for its type and for the fields of the variant that its
  header selects.  A header that selects none asks for the type and the version: one of them may
  be all that is missing (`version_completes_header`).

  The decoders that `Grown` speaks of are those of all structures, of transactions and of sync
  states, and those of lists and optional values of them; so it reaches every object of every
  reply, at any depth.

  Main result: `forward_compatible`.
-/
import NodeClient.Proofs.Codec.Additions
import NodeClient.Proofs.Reply.RoundTrip
import NodeClient.Proofs.Reply.SyncState
import NodeClient.Proofs.Transaction.Classification

namespace NodeClient

open Json

/-! ## §1. Values that hold others. -/

/-- Arrays and objects. -/
def Json.Value.isCompound : Value → Bool
  | .array _ | .object _ => true
  | _ => false

/-! ## §2. What a transaction and a sync state look at. -/

namespace Transaction

/-- The variant that a header tells. -/
def Header.variant? (h : Header) : Option Variant :=
  h.type?.bind fun type => Variant.of? type h.baseVersion

/-- The variant that the header in a value selects. -/
def selected? (v : Value) : Option Variant := (Header.record.decode v).toOption.bind Header.variant?

/-- A variant is selected by texts that stand in the object once. -/
theorem exists_header_of_selected {ms : Members} {variant : Variant}
    (h : selected? (.object ms) = some variant) :
    ∃ header : Header, ms.Sole "type" (.string header.type) ∧
      ms.Sole "version" (.string header.version) := by
  cases hdecode : Header.record.decode (.object ms) with
  | error e =>
      rw [selected?, hdecode] at h
      cases h
  | ok header => exact ⟨header, (Header.decode_object_iff ms header).mp hdecode⟩

/-- Such an object has a key of the header only as the type or as the version. -/
theorem not_mem_header_names {ms : Members} {variant : Variant} {key : String}
    (h : selected? (.object ms) = some variant) (htype : key ≠ "type")
    (hversion : ∀ s, ms.Sole "version" (.string s) → key ≠ "version") :
    key ∉ Header.record.fields.names := by
  obtain ⟨header, _, hsole⟩ := exists_header_of_selected h
  show key ∉ ["type", "version"]
  rw [List.mem_pair, not_or]
  exact ⟨htype, hversion _ hsole⟩

/-- **A transaction is read by its header and by the payload of the variant that is selected.** -/
theorem ofValue_congr {v w : Value} (hheader : Header.record.decode w = Header.record.decode v)
    (hpayload : ∀ variant, selected? v = some variant →
      variant.record.decode w = variant.record.decode v) : ofValue w = ofValue v := by
  cases hdecode : Header.record.decode v with
  | error cause =>
      rw [ofValue_of_headless hdecode, ofValue_of_headless (hheader.trans hdecode)]
  | ok h =>
      have hdecode' := hheader.trans hdecode
      cases htype : h.type? with
      | none => rw [ofValue_of_unhandled hdecode htype, ofValue_of_unhandled hdecode' htype]
      | some type =>
          cases hvariant : Variant.of? type h.baseVersion with
          | none =>
              rw [ofValue_of_unsupported hdecode htype hvariant,
                ofValue_of_unsupported hdecode' htype hvariant]
          | some variant =>
              have hselected : selected? v = some variant := by
                rw [selected?, hdecode]
                show h.type?.bind _ = _
                rw [htype]
                exact hvariant
              rw [ofValue_of_supported hdecode htype hvariant,
                ofValue_of_supported hdecode' htype hvariant, hpayload variant hselected]

/-- Without a variant only the header counts. -/
theorem ofValue_of_unselected {v w : Value} (hnone : selected? v = none)
    (hheader : Header.record.decode w = Header.record.decode v) : ofValue w = ofValue v := by
  refine ofValue_congr hheader fun variant hselected => ?_
  rw [hnone] at hselected
  cases hselected

/-- With a variant its payload counts as well. -/
theorem ofValue_of_selected {v w : Value} {variant : Variant} (h : selected? v = some variant)
    (hheader : Header.record.decode w = Header.record.decode v)
    (hpayload : variant.record.decode w = variant.record.decode v) : ofValue w = ofValue v := by
  refine ofValue_congr hheader fun variant' hselected => ?_
  rw [h] at hselected
  cases hselected
  exact hpayload

end Transaction

namespace SyncState

/-- The keys of a sync state. -/
def memberNames : List String :=
  ["syncing", "starting_block_hash", "starting_block_num", "current_block_hash",
    "current_block_num", "highest_block_hash", "highest_block_num"]

/-- **A sync state is read by what its keys stand for.** -/
theorem ofValue_congr {ms ms' : Members}
    (h : ∀ key ∈ memberNames, ms'.get? key = ms.get? key) :
    ofValue (.object ms') = ofValue (.object ms) := by
  have hidle : isIdleObject ms' = isIdleObject ms := by
    unfold isIdleObject
    rw [h "syncing" (by decide), h "starting_block_hash" (by decide)]
  have hnumber : ∀ key ∈ memberNames, ∀ field,
      numberMember ms' key field = numberMember ms key field := by
    intro key hkey field
    unfold numberMember
    rw [h key hkey]
  have hhash : ∀ key ∈ memberNames, ∀ field,
      hashMember ms' key field = hashMember ms key field := by
    intro key hkey field
    unfold hashMember
    rw [h key hkey]
  have hprogress : ofProgress ms' = ofProgress ms := by
    unfold ofProgress
    rw [hnumber "starting_block_num" (by decide), hhash "starting_block_hash" (by decide),
      hnumber "current_block_num" (by decide), hhash "current_block_hash" (by decide),
      hnumber "highest_block_num" (by decide), hhash "highest_block_hash" (by decide)]
  show (if isIdleObject ms' then _ else _) = (if isIdleObject ms then _ else _)
  rw [hidle, hprogress]

end SyncState

/-! ## §3. Structures. -/

/-- What an object in a reply can be decoded as, but for whole transactions and sync states. -/
inductive Structure where
  | block | blockTransaction | receipt | message | event | resources | dataAvailability
  | fee | price | feeEstimate | submission | blockHashAndNumber | eventsChunk
  | payload (variant : Variant) | resourceBound | resourceBounds
  deriving Repr, DecidableEq

namespace Structure

/-- The values of a structure. -/
def Shape : Structure → Type
  | block => Block
  | blockTransaction => BlockTransaction
  | receipt => TransactionReceipt
  | message => Message
  | event => TransactionEvent
  | resources => ExecutionResources
  | dataAvailability => DataAvailability
  | fee => Fee
  | price => Price
  | feeEstimate => FeeEstimate
  | submission => Submission
  | blockHashAndNumber => BlockHashAndNumber
  | eventsChunk => EventsChunk
  | payload variant => variant.Payload
  | resourceBound => ResourceBound
  | resourceBounds => ResourceBounds

/-- The fields of a structure. -/
def record : (s : Structure) → Record s.Shape
  | block => Block.record
  | blockTransaction => BlockTransaction.record
  | receipt => TransactionReceipt.record
  | message => Message.record
  | event => TransactionEvent.record
  | resources => ExecutionResources.record
  | dataAvailability => DataAvailability.record
  | fee => Fee.record
  | price => Price.record
  | feeEstimate => FeeEstimate.record
  | submission => Submission.record
  | blockHashAndNumber => BlockHashAndNumber.record
  | eventsChunk => EventsChunk.record
  | payload variant => variant.record
  | resourceBound => ResourceBound.record
  | resourceBounds => ResourceBounds.record

theorem names_nodup (s : Structure) : s.record.fields.names.Nodup := by
  cases s with
  | payload variant => exact variant.names_nodup
  | _ => decide

end Structure

/-- The members are read as the fields of a record, and the decoder asks for the keys in `names`
only. -/
inductive Opens : {ε α ρ : Type} → (decode : Value → Except ε α) → Members →
    (names : List String) → Record ρ → Prop where
  | plain (s : Structure) {ms : Members} :
      Opens s.record.decode ms s.record.fields.names s.record
  /-- The header of a transaction selects a variant, whose fields are then read. -/
  | selected {ms : Members} {variant : Variant}
      (told : Transaction.selected? (.object ms) = some variant) :
      Opens Transaction.ofValue ms ("type" :: variant.record.fields.names) variant.record
  /-- The header of a transaction selects no variant, and nothing but the header is read. -/
  | unselected {ms : Members} (untold : Transaction.selected? (.object ms) = none) :
      Opens Transaction.ofValue ms Transaction.Header.record.fields.names
        Transaction.Header.record

namespace Opens

variable {ε α ρ β : Type} {decode : Value → Except ε α} {names : List String} {r : Record ρ}
  {before after : Members} {key name : String} {v w : Value}

/-- A key that the decoder does not ask for. -/
theorem foreign (h : Opens decode (before ++ after) names r) (hkey : key ∉ names) (v : Value) :
    decode (.object (before ++ (key, v) :: after)) = decode (.object (before ++ after)) := by
  cases h with
  | plain s => exact Record.decode_foreign hkey v
  | @selected _ variant hselected =>
      obtain ⟨htype, hnames⟩ := not_or.mp (List.mem_cons.not.mp hkey)
      -- every payload has a version, so a key that is aside from it is aside from the header
      have hversion : key ≠ "version" := fun e => hnames (e ▸ variant.has_version.name_mem)
      have haside := Transaction.not_mem_header_names hselected htype fun _ _ => hversion
      exact Transaction.ofValue_of_selected hselected (Record.decode_foreign haside v)
        (Record.decode_foreign hnames v)
  | unselected hnone => exact Transaction.ofValue_of_unselected hnone (Record.decode_foreign hkey v)

theorem names_nodup {ms : Members} (h : Opens decode ms names r) : r.fields.names.Nodup := by
  cases h with
  | plain s => exact s.names_nodup
  | @selected _ variant _ => exact variant.names_nodup
  | unselected _ => decide

/-- Null under the name of an optional field that is not there. -/
theorem null (h : Opens decode (before ++ after) names r) {get : ρ → Option β} {c : Codec β}
    (hf : r.fields.Has (.optional name get c)) (habsent : name ∉ Members.keys (before ++ after)) :
    decode (.object (before ++ (name, .null) :: after)) = decode (.object (before ++ after)) := by
  have hrecord := Record.decode_null h.names_nodup hf habsent
  cases h with
  | plain s => exact hrecord
  | @selected _ variant hselected =>
      have htype : name ≠ "type" := fun e => variant.type_not_mem_names (e ▸ hf.name_mem)
      have haside := Transaction.not_mem_header_names hselected htype
        fun s hsole e => habsent (e ▸ hsole.mem_keys)
      exact Transaction.ofValue_of_selected hselected (Record.decode_foreign haside .null) hrecord
  | unselected hnone => exact Transaction.ofValue_of_unselected hnone hrecord

/-- Something inside that is read as before. -/
theorem member {f : Field ρ β} (h : Opens decode (before ++ (f.name, v) :: after) names r)
    (hf : r.fields.Has f) (hcompound : v.isCompound = true)
    (hsame : f.codec.decode w = f.codec.decode v) :
    decode (.object (before ++ (f.name, w) :: after))
      = decode (.object (before ++ (f.name, v) :: after)) := by
  have hrecord : r.decode (.object (before ++ (f.name, w) :: after))
      = r.decode (.object (before ++ (f.name, v) :: after)) :=
    Record.decode_replace h.names_nodup hf hsame
  cases h with
  | plain s => exact hrecord
  | @selected _ variant hselected =>
      have htype : f.name ≠ "type" := fun e => variant.type_not_mem_names (e ▸ hf.name_mem)
      -- the version is a text, and nothing can happen inside a text
      have hversion : ∀ s, Members.Sole (before ++ (f.name, v) :: after) "version" (.string s) →
          f.name ≠ "version" := by
        intro s hsole e
        have htext : v = .string s :=
          hsole.eq_of_mem (e ▸ List.mem_append_right before List.mem_cons_self)
        rw [htext] at hcompound
        cases hcompound
      have haside := Transaction.not_mem_header_names hselected htype hversion
      exact Transaction.ofValue_of_selected hselected (Record.decode_replace_foreign haside) hrecord
  | unselected hnone => exact Transaction.ofValue_of_unselected hnone hrecord

end Opens

/-! ## §4. Replies that tell more. -/

/-- The second value is the first with one member more, somewhere in it, that the decoder does not
ask for. -/
inductive Grown : {ε α : Type} → (decode : Value → Except ε α) → Value → Value → Prop where
  /-- An object gets a member under a key that is not asked for, with any value. -/
  | foreign {ε α ρ : Type} {decode : Value → Except ε α} {names : List String} {r : Record ρ}
      (before after : Members) {key : String} (value : Value)
      (opens : Opens decode (before ++ after) names r) (aside : key ∉ names) :
      Grown decode (.object (before ++ after)) (.object (before ++ (key, value) :: after))
  /-- An object gets null for an optional field that was not there. -/
  | null {ε α ρ β : Type} {decode : Value → Except ε α} {names : List String} {r : Record ρ}
      (before after : Members) {name : String} {get : ρ → Option β} {c : Codec β}
      (opens : Opens decode (before ++ after) names r) (has : r.fields.Has (.optional name get c))
      (absent : name ∉ Members.keys (before ++ after)) :
      Grown decode (.object (before ++ after)) (.object (before ++ (name, .null) :: after))
  /-- A sync state gets a member that is none of the seven. -/
  | syncState (before after : Members) {key : String} (value : Value)
      (aside : key ∉ SyncState.memberNames) :
      Grown SyncState.ofValue (.object (before ++ after))
        (.object (before ++ (key, value) :: after))
  /-- It happens inside the value of a field. -/
  | member {ε α ρ β : Type} {decode : Value → Except ε α} {names : List String} {r : Record ρ}
      (before after : Members) {f : Field ρ β} {v w : Value}
      (opens : Opens decode (before ++ (f.name, v) :: after) names r) (has : r.fields.Has f)
      (inside : Grown f.codec.decode v w) :
      Grown decode (.object (before ++ (f.name, v) :: after))
        (.object (before ++ (f.name, w) :: after))
  /-- It happens inside an item of a structure that is written as an array. -/
  | item {β : Type} (s : Structure) (before after : List Value) {f : Field s.Shape β} {v w : Value}
      (at_place : s.record.fields.At f before.length) (inside : Grown f.codec.decode v w) :
      Grown s.record.decode (.array (before ++ v :: after)) (.array (before ++ w :: after))
  /-- It happens inside an item of a list. -/
  | listed {α : Type} {c : Codec α} (before after : List Value) {v w : Value}
      (inside : Grown c.decode v w) :
      Grown c.list.decode (.array (before ++ v :: after)) (.array (before ++ w :: after))
  /-- It happens inside a value that may be null but is not. -/
  | present {α : Type} {c : Codec α} {v w : Value} (inside : Grown c.decode v w) :
      Grown c.optional.decode v w
  /-- It happens inside a value of a type that is decoded from whole values. -/
  | whole {ε α : Type} {decode : Value → Except ε α} {message : ε → String} {encode : α → Value}
      {v w : Value} (inside : Grown decode v w) :
      Grown (Codec.ofValue (fun v => (decode v).mapError message) encode).decode v w

namespace Grown

variable {ε α : Type} {decode : Value → Except ε α} {v w : Value}

theorem isCompound (h : Grown decode v w) : v.isCompound = true ∧ w.isCompound = true := by
  induction h with
  | foreign => exact ⟨rfl, rfl⟩
  | null => exact ⟨rfl, rfl⟩
  | syncState => exact ⟨rfl, rfl⟩
  | member => exact ⟨rfl, rfl⟩
  | item => exact ⟨rfl, rfl⟩
  | listed => exact ⟨rfl, rfl⟩
  | present _ ih => exact ih
  | whole _ ih => exact ih

end Grown

/-- **A reply that tells more is read as before, or refused with the same error.** -/
theorem forward_compatible {ε α : Type} {decode : Value → Except ε α} {v w : Value}
    (h : Grown decode v w) : decode w = decode v := by
  -- the induction goes from the object that has grown to the whole reply around it
  induction h with
  | foreign before after value opens aside => exact opens.foreign aside value
  | null before after opens has absent => exact opens.null has absent
  | @syncState before after key value aside =>
      refine SyncState.ofValue_congr fun k hk => ?_
      have hne : k ≠ key := fun e => aside (e ▸ hk)
      exact Members.get?_insert_of_ne hne value before after
  | member before after opens has inside ih => exact opens.member has inside.isCompound.1 ih
  | item s before after at_place _ ih => exact Record.decode_item at_place ih
  | listed before after _ ih => exact Codec.decode_list_replace ih before after
  | present inside ih =>
      have hnull : ∀ {v : Value}, v.isCompound = true → v ≠ .null := by
        rintro _ hcompound rfl
        cases hcompound
      obtain ⟨hv, hw⟩ := inside.isCompound
      rw [Codec.decode_optional_of_ne_null (hnull hv), Codec.decode_optional_of_ne_null (hnull hw),
        ih]
  | @whole _ _ decode message encode v w _ ih =>
      show ((decode w).mapError message).mapError _ = ((decode v).mapError message).mapError _
      rw [ih]

/-- A pending block with one transaction. -/
def pendingBlock (transaction : Value) : Value := .object [
  ("parent_hash", .string "0x1"), ("timestamp", .ofNat 5), ("sequencer_address", .string "0x2"),
  ("l1_gas_price", .object [("price_in_fri", .string "0x3"), ("price_in_wei", .string "0x4")]),
  ("l1_data_gas_price", .object [("price_in_fri", .string "0x5"), ("price_in_wei", .string "0x6")]),
  ("l1_da_mode", .string "BLOB"), ("starknet_version", .string "0.13.3"),
  ("transactions", .array [.object [
    ("transaction", transaction),
    ("receipt", .object [
      ("type", .string "INVOKE"), ("transaction_hash", .string "0x7"),
      ("actual_fee", .object [("amount", .string "0x8"), ("unit", .string "WEI")]),
      ("execution_status", .string "SUCCEEDED"), ("finality_status", .string "ACCEPTED_ON_L2"),
      ("execution_resources", .object [])])]])]

/-- A transaction of version 1, with what else a node tells of it. -/
def invokeWith (extra : Members) : Value := .object ([
  ("max_fee", .string "0x1000"), ("nonce", .string "0x3"), ("sender_address", .string "0x123")]
    ++ extra ++ [("type", .string "INVOKE"), ("version", .string "0x1")])

/-- A tip belongs to version 3.  In a transaction of version 1 anything may stand under its name,
also in the middle of a block. -/
theorem forward_compatible_tip :
    Grown Block.record.decode (pendingBlock (invokeWith []))
        (pendingBlock (invokeWith [("tip", .array [])])) ∧
      Block.record.decode (pendingBlock (invokeWith [("tip", .array [])]))
        = Block.record.decode (pendingBlock (invokeWith [])) ∧
      ∃ b, Block.record.decode (pendingBlock (invokeWith [])) = .ok b := by
  have hselected : Transaction.selected? (invokeWith []) = some .invokeV1 := rfl
  have htransaction : Grown Transaction.codec.decode (invokeWith [])
      (invokeWith [("tip", .array [])]) :=
    .whole (.foreign [("max_fee", _), ("nonce", _), ("sender_address", _)] _ (.array [])
      (.selected hselected) (by decide))
  have hblock : Grown Block.record.decode (pendingBlock (invokeWith []))
      (pendingBlock (invokeWith [("tip", .array [])])) :=
    .member [_, _, _, _, _, _, _] [] (.plain .block) Block.has_transactions
      (.listed [] [] (.member [] [_] (.plain .blockTransaction) .here htransaction))
  exact ⟨hblock, forward_compatible hblock, _, rfl⟩

/-- Without a version no variant is selected; then the version, though it is not the type and
belongs to no variant, is asked for. -/
theorem version_completes_header :
    let selected := Transaction.selected? (.object [("type", .string "INVOKE")])
    "version" ∉ "type" :: (selected.map fun variant => variant.record.fields.names).getD [] ∧
      Transaction.ofValue (.object [("type", .string "INVOKE"), ("version", .string "0x1")])
        ≠ Transaction.ofValue (.object [("type", .string "INVOKE")]) := by
  refine ⟨by decide, ?_⟩
  have hbefore : Transaction.ofValue (.object [("type", .string "INVOKE")])
      = .error (.invalidJson (.missingField "version")) := rfl
  have hafter : Transaction.ofValue (.object [("type", .string "INVOKE"),
      ("version", .string "0x1")]) = .error (.invalidJson (.missingField "sender_address")) := rfl
  rw [hbefore, hafter]
  intro hsame
  injection hsame with hsame
  injection hsame with hsame
  injection hsame with hsame
  exact absurd hsame (by decide)

end NodeClient
