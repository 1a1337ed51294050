/-
  NodeClient.Proofs.Token.Vocabulary
  ──────────────────────────────────
  Which texts stand for which value of an enumeration.

  In a clear vocabulary no two tokens are the same up to case and none has white space at its
  ends.  Then the order in which tokens are tried does not count (`parse_eq_ok_iff`), and exactly
  the values that are read at all come back from their tokens (`Clear.keeps`).
-/
import NodeClient.Proofs.Codec.Yield
import NodeClient.Token.Status
import NodeClient.Transaction.Version

namespace NodeClient

open Json

namespace Text

theorem equalsIgnoringCase_iff {s t : List Char} :
    equalsIgnoringCase s t = true ↔ s.map Char.toLower = t.map Char.toLower := beq_iff_eq

end Text

namespace Vocabulary

variable {α : Type}

/-! ## §1. Clear vocabularies. -/

/-- Every value has a token, which is its own up to case and has no white space at its ends. -/
structure Clear (v : Vocabulary α) : Prop where
  total : ∀ a, a ∈ v.all
  trimmed : ∀ a, Text.trim (v.token a).toList = (v.token a).toList
  apart : ∀ a b, Text.equalsIgnoringCase (v.token a).toList (v.token b).toList = true → a = b

variable {v : Vocabulary α}

/-- **A text reads as the one value, if it is read at all, whose token it is up to case and the
white space around it.** -/
theorem parse_eq_ok_iff (h : v.Clear) (s : String) (a : α) :
    v.parse s = .ok a ↔ a ∈ v.readable ∧
      Text.equalsIgnoringCase (Text.trim s.toList) (v.token a).toList = true := by
  cases hfind : v.readable.find? fun a =>
      Text.equalsIgnoringCase (Text.trim s.toList) (v.token a).toList with
  | none =>
      have hparse : v.parse s = .error ⟨v.label, s⟩ := by
        unfold parse
        simp only [hfind]
      rw [List.find?_eq_none] at hfind
      rw [hparse]
      constructor
      · intro herr
        cases herr
      · rintro ⟨hmem, heq⟩
        exact absurd heq (hfind a hmem)
  | some b =>
      have hparse : v.parse s = .ok b := by
        unfold parse
        simp only [hfind]
      have hb := List.find?_some hfind
      have hmem := List.mem_of_find?_eq_some hfind
      rw [hparse, Except.ok.injEq]
      constructor
      · rintro rfl
        exact ⟨hmem, hb⟩
      · rintro ⟨_, ha⟩
        refine h.apart b a (Text.equalsIgnoringCase_iff.mpr ?_)
        rw [← Text.equalsIgnoringCase_iff.mp hb, Text.equalsIgnoringCase_iff.mp ha]

theorem parse_token_iff (h : v.Clear) (a b : α) :
    v.parse (v.token a) = .ok b ↔ a ∈ v.readable ∧ a = b := by
  rw [parse_eq_ok_iff h, h.trimmed]
  constructor
  · rintro ⟨hmem, heq⟩
    have hab : a = b := h.apart a b heq
    exact ⟨hab ▸ hmem, hab⟩
  · rintro ⟨hmem, rfl⟩
    exact ⟨hmem, Text.equalsIgnoringCase_iff.mpr rfl⟩

/-- No two values have the same token. -/
theorem Clear.token_eq_iff (h : v.Clear) (a b : α) : v.token a = v.token b ↔ a = b := by
  constructor
  · intro htoken
    refine h.apart a b ?_
    rw [htoken]
    exact Text.equalsIgnoringCase_iff.mpr rfl
  · intro hvalue
    rw [hvalue]

/-- **Exactly the values that are read at all come back from their tokens.** -/
theorem Clear.keeps (h : v.Clear) : v.codec.Keeps (· ∈ v.readable) := by
  intro a b
  unfold codec
  rw [Codec.rereads_ofText, ← parse_token_iff h a b]
  cases v.parse (v.token a) <;> simp [Except.mapError]

/-- If the unknown value is not read, it is the only one. -/
theorem mem_readable_iff (h : v.Clear) (hnodup : v.unknown ∉ v.known)
    (hunknown : v.readsUnknown = false) (a : α) : a ∈ v.readable ↔ a ≠ v.unknown := by
  have ha : a = v.unknown ∨ a ∈ v.known := List.mem_cons.mp (h.total a)
  rw [readable, hunknown, if_neg Bool.false_ne_true]
  constructor
  · rintro hmem rfl
    exact hnodup hmem
  · intro hne
    exact ha.resolve_left hne

/-- If the unknown value is read, every value is. -/
theorem mem_readable (h : v.Clear) (hunknown : v.readsUnknown = true) (a : α) :
    a ∈ v.readable := by
  rw [readable, if_pos hunknown, List.mem_append, List.mem_singleton]
  exact (List.mem_cons.mp (h.total a)).symm

/-- A value of JSON reads as `a` exactly if it is a text that does. -/
theorem decode_codec_eq_ok_iff {value : Value} {a : α} :
    v.codec.decode value = .ok a ↔ ∃ s, value = .string s ∧ v.parse s = .ok a := by
  unfold codec
  rw [Codec.decode_ofText_eq_ok_iff]
  refine exists_congr fun s => and_congr_right' ?_
  cases v.parse s <;> simp [Except.mapError]

/-- If the unknown value is read, every value comes back. -/
theorem Clear.keepsAll (h : v.Clear) (hunknown : v.readsUnknown = true) : v.codec.KeepsAll := by
  intro a b
  rw [h.keeps a b]
  exact and_congr_left' (iff_true_intro (mem_readable h hunknown a))

/-- If the unknown value is not read, exactly the others come back. -/
theorem Clear.keeps_known (h : v.Clear) (hnodup : v.unknown ∉ v.known)
    (hunknown : v.readsUnknown = false) : v.codec.Keeps (· ≠ v.unknown) := by
  intro a b
  rw [h.keeps a b]
  exact and_congr_left' (mem_readable_iff h hnodup hunknown a)

/-- If the unknown value is not accepted, no value of JSON is read as it. -/
theorem Clear.yields_known (h : v.Clear) (hnodup : v.unknown ∉ v.known)
    (hunknown : v.readsUnknown = false) : v.codec.Yields (· ≠ v.unknown) := by
  intro value a hdecode
  obtain ⟨s, _, hs⟩ := decode_codec_eq_ok_iff.mp hdecode
  exact (mem_readable_iff h hnodup hunknown a).mp ((parse_eq_ok_iff h s a).mp hs).1

/-- The text is the token of the value, up to case and the white space around it. -/
def StandsFor (v : Vocabulary α) (s : String) (a : α) : Prop :=
  Text.equalsIgnoringCase (Text.trim s.toList) (v.token a).toList = true

instance (v : Vocabulary α) (s : String) (a : α) : Decidable (v.StandsFor s a) :=
  inferInstanceAs (Decidable (_ = true))

/-- If the unknown value is read, a text reads as the value that it stands for. -/
theorem Clear.parse_iff_standsFor (h : v.Clear) (hunknown : v.readsUnknown = true) (s : String)
    (a : α) : v.parse s = .ok a ↔ v.StandsFor s a := by
  rw [parse_eq_ok_iff h]
  exact and_iff_right (mem_readable h hunknown a)

/-- A token is written as a text, which is not null. -/
theorem normal_encode_ne_null (a : α) : (v.codec.encode a).normal ≠ .null := by
  show Value.string (v.token a) ≠ .null
  exact Value.noConfusion

end Vocabulary

/-! ## §2. The vocabularies. -/

theorem TransactionType.clear : TransactionType.vocabulary.Clear where
  total := by intro a; cases a <;> decide
  trimmed := by intro a; cases a <;> rfl
  apart := by intro a b; cases a <;> cases b <;> first | exact fun _ => rfl | decide

theorem TransactionVersion.clear : TransactionVersion.vocabulary.Clear where
  total := by intro a; cases a <;> decide
  trimmed := by intro a; cases a <;> rfl
  apart := by intro a b; cases a <;> cases b <;> first | exact fun _ => rfl | decide

theorem TxDaMode.clear : TxDaMode.vocabulary.Clear where
  total := by intro a; cases a <;> decide
  trimmed := by intro a; cases a <;> rfl
  apart := by intro a b; cases a <;> cases b <;> first | exact fun _ => rfl | decide

theorem FinalityStatus.clear : FinalityStatus.vocabulary.Clear where
  total := by intro a; cases a <;> decide
  trimmed := by intro a; cases a <;> rfl
  apart := by intro a b; cases a <;> cases b <;> first | exact fun _ => rfl | decide

theorem ExecutionStatus.clear : ExecutionStatus.vocabulary.Clear where
  total := by intro a; cases a <;> decide
  trimmed := by intro a; cases a <;> rfl
  apart := by intro a b; cases a <;> cases b <;> first | exact fun _ => rfl | decide

theorem FeeUnit.clear : FeeUnit.vocabulary.Clear where
  total := by intro a; cases a <;> decide
  trimmed := by intro a; cases a <;> rfl
  apart := by intro a b; cases a <;> cases b <;> first | exact fun _ => rfl | decide

theorem BlockDaMode.clear : BlockDaMode.vocabulary.Clear where
  total := by intro a; cases a <;> decide
  trimmed := by intro a; cases a <;> rfl
  apart := by intro a b; cases a <;> cases b <;> first | exact fun _ => rfl | decide

/-! Types and versions come back with their unknown value.  The enumerations of what a node reports
are read, and come back, without it. -/

theorem TransactionType.keepsAll : TransactionType.vocabulary.codec.KeepsAll := clear.keepsAll rfl

theorem TransactionVersion.keepsAll : TransactionVersion.vocabulary.codec.KeepsAll :=
  clear.keepsAll rfl

theorem TxDaMode.keeps : TxDaMode.vocabulary.codec.Keeps (· ≠ .unknown) :=
  clear.keeps_known (by decide) rfl

theorem TxDaMode.yields : TxDaMode.vocabulary.codec.Yields (· ≠ .unknown) :=
  clear.yields_known (by decide) rfl

theorem FinalityStatus.keeps : FinalityStatus.vocabulary.codec.Keeps (· ≠ .unknown) :=
  clear.keeps_known (by decide) rfl

theorem FinalityStatus.yields : FinalityStatus.vocabulary.codec.Yields (· ≠ .unknown) :=
  clear.yields_known (by decide) rfl

theorem ExecutionStatus.keeps : ExecutionStatus.vocabulary.codec.Keeps (· ≠ .unknown) :=
  clear.keeps_known (by decide) rfl

theorem ExecutionStatus.yields : ExecutionStatus.vocabulary.codec.Yields (· ≠ .unknown) :=
  clear.yields_known (by decide) rfl

theorem FeeUnit.keeps : FeeUnit.vocabulary.codec.Keeps (· ≠ .unknown) :=
  clear.keeps_known (by decide) rfl

theorem FeeUnit.yields : FeeUnit.vocabulary.codec.Yields (· ≠ .unknown) :=
  clear.yields_known (by decide) rfl

theorem BlockDaMode.keeps : BlockDaMode.vocabulary.codec.Keeps (· ≠ .unknown) :=
  clear.keeps_known (by decide) rfl

theorem BlockDaMode.yields : BlockDaMode.vocabulary.codec.Yields (· ≠ .unknown) :=
  clear.yields_known (by decide) rfl

end NodeClient
