/-
  NodeClient.Proofs.Transaction.Edits
  ───────────────────────────────────
  What a client does to a transaction between reading and sending it.

  A transaction is marked as a query, copied, given a hash or relieved of it, and written and read
  again.  Only regular transactions are read, every edit leaves a regular one, and on a regular
  one each edit is a change of version and hash (`Edit.apply_of_regular`).  So a whole run of edits
  is one such change (`Edit.run_of_regular`), and no edit in it fails.
-/
import NodeClient.Proofs.Transaction.Acceptance

namespace NodeClient

open Json

/-! ## §1. Versions and their query counterparts. -/

namespace TransactionVersion

/-- A version is one without query marker or the query counterpart of one. -/
theorem eq_withoutQuery_or (n : TransactionVersion) :
    n = n.withoutQuery ∨ n = n.withoutQuery.withQuery := by
  cases n <;> decide

@[simp] theorem withQuery_withoutQuery (n : TransactionVersion) :
    n.withoutQuery.withQuery = n.withQuery := by
  cases n <;> rfl

@[simp] theorem withoutQuery_withQuery (n : TransactionVersion) :
    n.withQuery.withoutQuery = n.withoutQuery := by
  cases n <;> rfl

@[simp] theorem withQuery_withQuery (n : TransactionVersion) :
    n.withQuery.withQuery = n.withQuery := by
  cases n <;> rfl

end TransactionVersion

/-! ## §2. The version and the hash of a transaction. -/

/-- Version and hash are two places in the payload, each of which keeps what it is set to and
leaves everything else. -/
structure Variant.Header.Lawful {ρ : Type} (h : Variant.Header ρ) : Prop where
  version_setVersion : ∀ n p, h.version (h.setVersion n p) = n
  version_setHash : ∀ x p, h.version (h.setHash x p) = h.version p
  hash_setVersion : ∀ n p, h.hash (h.setVersion n p) = h.hash p
  hash_setHash : ∀ x p, h.hash (h.setHash x p) = x
  setVersion_version : ∀ p, h.setVersion (h.version p) p = p
  setHash_hash : ∀ p, h.setHash (h.hash p) p = p
  setVersion_setVersion : ∀ n m p, h.setVersion n (h.setVersion m p) = h.setVersion n p
  setHash_setHash : ∀ x y p, h.setHash x (h.setHash y p) = h.setHash x p
  setVersion_setHash : ∀ n x p, h.setVersion n (h.setHash x p) = h.setHash x (h.setVersion n p)

theorem Variant.header_lawful (v : Variant) : v.header.Lawful := by
  cases v <;> constructor <;> intros <;> rfl

namespace Transaction

variable (t : Transaction) (n m : TransactionVersion) (x y : Option Hash)

@[simp] theorem version_withVersion : (t.withVersion n).version = n :=
  t.variant.header_lawful.version_setVersion n t.payload

@[simp] theorem version_withHash : (t.withHash x).version = t.version :=
  t.variant.header_lawful.version_setHash x t.payload

@[simp] theorem hash_withVersion : (t.withVersion n).hash = t.hash :=
  t.variant.header_lawful.hash_setVersion n t.payload

@[simp] theorem hash_withHash : (t.withHash x).hash = x :=
  t.variant.header_lawful.hash_setHash x t.payload

@[simp] theorem withVersion_version : t.withVersion t.version = t :=
  congrArg (mk t.variant) (t.variant.header_lawful.setVersion_version t.payload)

@[simp] theorem withHash_hash : t.withHash t.hash = t :=
  congrArg (mk t.variant) (t.variant.header_lawful.setHash_hash t.payload)

@[simp] theorem withVersion_withVersion : (t.withVersion m).withVersion n = t.withVersion n :=
  congrArg (mk t.variant) (t.variant.header_lawful.setVersion_setVersion n m t.payload)

@[simp] theorem withHash_withHash : (t.withHash y).withHash x = t.withHash x :=
  congrArg (mk t.variant) (t.variant.header_lawful.setHash_setHash x y t.payload)

@[simp] theorem withVersion_withHash :
    (t.withHash x).withVersion n = (t.withVersion n).withHash x :=
  congrArg (mk t.variant) (t.variant.header_lawful.setVersion_setHash n x t.payload)

@[simp] theorem daModes_withVersion : (t.withVersion n).daModes = t.daModes := by
  obtain ⟨variant, p⟩ := t
  cases variant <;> rfl

@[simp] theorem daModes_withHash : (t.withHash x).daModes = t.daModes := by
  obtain ⟨variant, p⟩ := t
  cases variant <;> rfl

/-- A version that fits stays fitting when only its query marker changes. -/
theorem Regular.withVersion {t : Transaction} (h : t.Regular) {n : TransactionVersion}
    (hn : n.withoutQuery = t.version.withoutQuery) : (t.withVersion n).Regular where
  fits := by
    rw [VersionFits, version_withVersion, hn]
    exact h.fits
  modes := by
    rw [daModes_withVersion]
    exact h.modes

theorem Regular.withHash {t : Transaction} (h : t.Regular) (x : Option Hash) :
    (t.withHash x).Regular where
  fits := by
    rw [VersionFits, version_withHash]
    exact h.fits
  modes := by
    rw [daModes_withHash]
    exact h.modes

/-- Marking a transaction whose version fits sets the query counterpart of this version. -/
theorem asQuery_of_fits {t : Transaction} (h : t.VersionFits) :
    t.asQuery = t.withVersion t.version.withQuery := by
  rw [asQuery, Variant.queryVersion_eq, ← h, TransactionVersion.withQuery_withoutQuery]

/-! ## §3. Edits. -/

/-- An independent copy, ready to be sent. -/
def preFlightCopy (t : Transaction) : Transaction := t

/-- A copy that is marked as a query. -/
def toQuery (t : Transaction) : Transaction := t.preFlightCopy.asQuery

end Transaction

/-- What is done to a transaction. -/
inductive Edit where
  /-- It is marked as a query in its place. -/
  | markQuery
  /-- Its copy marked as a query takes its place. -/
  | toQuery
  /-- Its pre-flight copy takes its place. -/
  | preFlightCopy
  | setHash (x : Hash)
  | clearHash
  /-- What is written for it is read and takes its place. -/
  | recode
  deriving DecidableEq

namespace Edit

/-- The transaction after an edit. -/
def apply : Edit → Transaction → Except TransactionError Transaction
  | markQuery, t => .ok t.asQuery
  | toQuery, t => .ok t.toQuery
  | preFlightCopy, t => .ok t.preFlightCopy
  | setHash x, t => .ok (t.withHash (some x))
  | clearHash, t => .ok (t.withHash none)
  | recode, t => Transaction.ofValue t.encode.normal

/-- Whether the edit makes the transaction a query. -/
def marks : Edit → Bool
  | markQuery | toQuery => true
  | _ => false

/-- The hash after an edit. -/
def hashAfter : Option Hash → Edit → Option Hash
  | _, setHash x => some x
  | _, clearHash => none
  | x, _ => x

/-- The transactions after edits, one after the other. -/
def run (edits : List Edit) (t : Transaction) : Except TransactionError Transaction :=
  edits.foldlM (fun t e => e.apply t) t

/-- The transaction with the version and the hash that edits leave. -/
def settled (edits : List Edit) (t : Transaction) : Transaction :=
  (t.withVersion (if edits.any marks then t.version.withQuery else t.version)).withHash
    (edits.foldl hashAfter t.hash)

/-- The edited transaction is regular if the first one was. -/
theorem regular_settled {t : Transaction} (h : t.Regular) (edits : List Edit) :
    (settled edits t).Regular := by
  refine (h.withVersion ?_).withHash _
  split
  · exact TransactionVersion.withoutQuery_withQuery t.version
  · rfl

/-- **One edit of a regular transaction changes version and hash and nothing else.** -/
theorem apply_of_regular {t : Transaction} (h : t.Regular) (e : Edit) :
    e.apply t = .ok (settled [e] t) := by
  have hquery : t.asQuery = (t.withVersion t.version.withQuery).withHash t.hash := by
    rw [Transaction.asQuery_of_fits h.fits]
    simpa using ((t.withVersion t.version.withQuery).withHash_hash).symm
  have hself : (t.withVersion t.version).withHash t.hash = t := by simp
  cases e with
  | markQuery => exact congrArg Except.ok hquery
  | toQuery => exact congrArg Except.ok hquery
  | preFlightCopy => exact congrArg Except.ok hself.symm
  | setHash x =>
      show Except.ok (t.withHash (some x)) = .ok ((t.withVersion t.version).withHash (some x))
      rw [t.withVersion_version]
  | clearHash =>
      show Except.ok (t.withHash none) = .ok ((t.withVersion t.version).withHash none)
      rw [t.withVersion_version]
  | recode => exact h.comes_back.trans (congrArg Except.ok hself.symm)

/-- A change by one edit and then by others is the change by all of them. -/
theorem settled_settled (e : Edit) (edits : List Edit) (t : Transaction) :
    settled edits (settled [e] t) = settled (e :: edits) t := by
  have hversion : (settled [e] t).version
      = if e.marks then t.version.withQuery else t.version := by
    simp [settled]
  have hhash : (settled [e] t).hash = hashAfter t.hash e := by
    simp [settled]
  -- the last version and the last hash are those that stay
  have hlast : ∀ n x, ((settled [e] t).withVersion n).withHash x = (t.withVersion n).withHash x := by
    intro n x
    simp [settled]
  have hmarks : (if edits.any marks then (settled [e] t).version.withQuery
        else (settled [e] t).version)
      = if (e :: edits).any marks then t.version.withQuery else t.version := by
    rw [hversion, List.any_cons]
    cases e.marks <;> cases edits.any marks <;> simp
  rw [settled, hlast, hmarks, hhash]
  rfl

/-- **A run of edits of a regular transaction changes version and hash and nothing else.** -/
theorem run_of_regular {t : Transaction} (h : t.Regular) (edits : List Edit) :
    run edits t = .ok (settled edits t) := by
  induction edits generalizing t with
  | nil =>
      show Except.ok t = .ok ((t.withVersion t.version).withHash t.hash)
      simp
  | cons e edits ih =>
      show (e.apply t).bind (run edits) = _
      rw [apply_of_regular h]
      show run edits (settled [e] t) = _
      rw [ih (regular_settled h [e]), settled_settled]

/-- **Whatever is done to a transaction that has been read, it stays of the variant that was told
when it was read.  Its version is the first one, or the query counterpart of it as soon as it has
been marked; nothing but version and hash has changed; and it comes back when it is written and
read again.** -/
theorem run_keeps_envelope {v : Value} {t₀ : Transaction} (h : Transaction.ofValue v = .ok t₀)
    (edits : List Edit) :
    ∃ t, run edits t₀ = .ok t ∧ t.variant = t₀.variant ∧ t.type = t₀.type ∧
      t.version = (if edits.any marks then t₀.version.withQuery else t₀.version) ∧
      (t.version = t.variant.baseVersion ∨ t.version = t.variant.baseVersion.withQuery) ∧
      t = (t₀.withVersion t.version).withHash t.hash ∧
      Transaction.ofValue t.encode.normal = .ok t := by
  have hfirst : t₀.Regular := Transaction.regular_of_ofValue h
  have hlast : (settled edits t₀).Regular := regular_settled hfirst edits
  refine ⟨settled edits t₀, run_of_regular hfirst edits, rfl, rfl, ?_, ?_, ?_, hlast.comes_back⟩
  · simp [settled]
  · have hversion := (settled edits t₀).version.eq_withoutQuery_or
    rw [hlast.fits] at hversion
    exact hversion
  · simp [settled]

/-- A message from L1 as it may be listed, without a hash and without calldata. -/
def l1Message : Value := .object [
  ("contract_address", .string "0x1"), ("entry_point_selector", .string "0x2"),
  ("nonce", .string "0x3"), ("type", .string " l1_handler "), ("version", .string "0x0")]

/-- Edits of the message, one of which makes it a query between two readings. -/
theorem run_keeps_envelope_l1Message :
    ∃ t₀ t, Transaction.ofValue l1Message = .ok t₀ ∧
      run [.recode, .setHash Word.zero, .markQuery, .recode, .clearHash] t₀ = .ok t ∧
      t.variant = .l1HandlerV0 ∧ t.version = .v0Query := by
  have hread : ∃ t₀, Transaction.ofValue l1Message = .ok t₀ ∧ t₀.variant = .l1HandlerV0 ∧
      t₀.version = .v0 := ⟨_, rfl, rfl, rfl⟩
  obtain ⟨t₀, hread, hvariant, hversion⟩ := hread
  obtain ⟨t, hrun, hvariant', _, hversion', _⟩ := run_keeps_envelope hread
    [.recode, .setHash Word.zero, .markQuery, .recode, .clearHash]
  refine ⟨t₀, t, hread, hrun, hvariant'.trans hvariant, ?_⟩
  rw [hversion', hversion]
  rfl

end Edit

end NodeClient
