/-
  NodeClient.Proofs.Request.BlockId
  ─────────────────────────────────
  **Which texts and which values of JSON select a block.**

  A text selects a block by a tag, by the marker with the digits of a hash behind it, or by a
  decimal number (`Names`).  The three do not overlap, so the order in which they are tried only
  decides how a text is reported that names no block.

  A value of JSON selects a block by a tag, else by a good hash, else by a good number
  (`Selects`).  Here the order counts: an object can hold both a hash and a number.

  Main results: `read_by_names` for texts, `read_by_selection` for values.
-/
import NodeClient.Proofs.Codec.Yield
import NodeClient.Proofs.Decimal.Digits
import NodeClient.Proofs.Scalar.Canonical
import NodeClient.Request.BlockId

namespace NodeClient

open Json

namespace BlockId

/-! ## §1. Texts that name a block. -/

/-- The text has the marker of a hash. -/
def Marked (s : String) : Prop := ∃ digits, s.toList = '0' :: 'x' :: digits

/-- The text names the selector. -/
inductive Names (s : String) : BlockId → Prop where
  | latest (tag : s = "latest") : Names s .latest
  | pending (tag : s = "pending") : Names s .pending
  /-- At most 64 hex digits stand behind the marker, and the hash is the number they denote. -/
  | hash {h : Hash} {digits : List Char} (text : s.toList = '0' :: 'x' :: digits)
      (hex : digits.all Hex.isDigit = true) (fits : digits.length ≤ 64)
      (value : h.toNat = Hex.value digits) : Names s (.hash h)
  /-- One or more decimal digits, behind at most one plus sign, denote a number of 64 bits. -/
  | number {n : BlockNumber} {digits : List Char}
      (text : s.toList = digits ∨ s.toList = '+' :: digits) (some : digits ≠ [])
      (decimal : digits.all Decimal.isDigit = true) (fits : Decimal.value digits < 2 ^ 64)
      (value : n.value.toNat = Decimal.value digits) : Names s (.number n)

theorem isMarked_iff (s : List Char) : isMarked s = true ↔ ∃ digits, s = '0' :: 'x' :: digits := by
  unfold isMarked
  split
  · exact iff_of_true rfl ⟨_, rfl⟩
  · next hno =>
      refine iff_of_false Bool.false_ne_true ?_
      rintro ⟨digits, rfl⟩
      exact hno digits rfl

theorem names_hash_iff (s : String) (h : Hash) : Names s (.hash h) ↔ Word.parse s = .ok h := by
  rw [Word.parse, Word.ofChars_eq_ok_iff]
  constructor
  · intro hnames
    cases hnames with
    | hash text hex fits value => exact ⟨_, text, hex, fits, value⟩
  · rintro ⟨digits, htext, hhex, hfits, hvalue⟩
    exact .hash htext hhex hfits hvalue

theorem names_number_iff (s : String) (n : BlockNumber) :
    Names s (.number n) ↔ Decimal.u64? s.toList = some n.value := by
  rw [Decimal.u64?_eq_some_iff]
  constructor
  · intro hnames
    cases hnames with
    | number text some decimal fits value => exact ⟨_, text, some, decimal, value.symm⟩
  · rintro ⟨digits, htext, hsome, hdecimal, hvalue⟩
    refine .number htext hsome hdecimal ?_ hvalue.symm
    rw [hvalue]
    exact n.value.toNat_lt

/-- A number starts with a digit or with a plus sign. -/
theorem Names.head {s : String} {n : BlockNumber} (h : Names s (.number n)) :
    ∃ c rest, s.toList = c :: rest ∧ (c = '+' ∨ Decimal.isDigit c = true) ∧
      ∀ d ∈ rest, Decimal.isDigit d = true := by
  cases h with
  | @number _ digits text some decimal fits value =>
      have hdigits := List.all_eq_true.mp decimal
      rcases text with htext | htext
      · obtain ⟨c, rest, rfl⟩ := List.exists_cons_of_ne_nil some
        exact ⟨c, rest, htext, .inr (hdigits c List.mem_cons_self),
          fun d hd => hdigits d (List.mem_cons_of_mem c hd)⟩
      · exact ⟨'+', digits, htext, .inl rfl, hdigits⟩

/-! ## §2. Reading texts. -/

theorem parse_of_marked {s : String} (h : Marked s) :
    parse s = ((Word.parse s).map hash).mapError .invalidHash := by
  have hmarked : isMarked s.toList = true := (isMarked_iff _).mpr h
  have hne : ∀ t : String, isMarked t.toList = false → s ≠ t := by
    rintro t ht rfl
    rw [hmarked] at ht
    cases ht
  unfold parse
  rw [if_neg (hne "" rfl), if_neg (hne "latest" rfl), if_neg (hne "pending" rfl), if_pos hmarked]

theorem parse_of_unmarked {s : String} (hempty : s ≠ "") (hlatest : s ≠ "latest")
    (hpending : s ≠ "pending") (h : ¬Marked s) :
    parse s = match Decimal.u64? s.toList with
      | some n => .ok (number ⟨n⟩)
      | none => .error (.invalidNumber s) := by
  have hunmarked : ¬isMarked s.toList = true := fun hm => h ((isMarked_iff _).mp hm)
  unfold parse
  exact (if_neg hempty).trans ((if_neg hlatest).trans ((if_neg hpending).trans (if_neg hunmarked)))

theorem parse_of_names {s : String} {b : BlockId} (h : Names s b) : parse s = .ok b := by
  cases b with
  | latest =>
      cases h with
      | latest tag => rw [tag]; rfl
  | pending =>
      cases h with
      | pending tag => rw [tag]; rfl
  | hash w =>
      have hmarked : Marked s := by
        cases h with
        | hash text => exact ⟨_, text⟩
      rw [parse_of_marked hmarked, (names_hash_iff s w).mp h]
      rfl
  | number n =>
      obtain ⟨c, rest, htext, hc, hrest⟩ := h.head
      -- neither a tag nor the marker starts with a sign or consists of digits
      have hne : ∀ {t : String} {d : Char} {ds : List Char}, t.toList = d :: ds → d ≠ '+' →
          Decimal.isDigit d = false → s ≠ t := by
        rintro t d ds ht hplus hdigit rfl
        obtain ⟨rfl, rfl⟩ := List.cons.inj (htext.symm.trans ht)
        rcases hc with rfl | hc
        · exact hplus rfl
        · rw [hdigit] at hc
          cases hc
      have hempty : s ≠ "" := by
        rintro rfl
        cases htext
      have hunmarked : ¬Marked s := by
        rintro ⟨digits, hmarked⟩
        rw [htext] at hmarked
        obtain ⟨rfl, rfl⟩ := List.cons.inj hmarked
        exact absurd (hrest 'x' List.mem_cons_self) (by decide)
      have hlatest : s ≠ "latest" := hne rfl (by decide) rfl
      have hpending : s ≠ "pending" := hne rfl (by decide) rfl
      rw [parse_of_unmarked hempty hlatest hpending hunmarked, (names_number_iff s n).mp h]

theorem names_of_parse {s : String} {b : BlockId} (h : parse s = .ok b) : Names s b := by
  unfold parse at h
  split at h
  · cases h
  · split at h
    · next htag =>
        cases h
        exact .latest htag
    · split at h
      · next htag =>
          cases h
          exact .pending htag
      · split at h
        · obtain ⟨w, hw, rfl⟩ := (map_eq_ok_iff _ _ _).mp ((mapError_eq_ok_iff _ _ _).mp h)
          exact (names_hash_iff s w).mpr hw
        · split at h
          · next n hn =>
              cases h
              exact (names_number_iff s ⟨n⟩).mpr hn
          · cases h

theorem parse_eq_ok_iff (s : String) (b : BlockId) : parse s = .ok b ↔ Names s b :=
  ⟨names_of_parse, parse_of_names⟩

/-- A selector is named by its text. -/
theorem names_text (b : BlockId) : Names b.text b := by
  cases b with
  | latest => exact .latest rfl
  | pending => exact .pending rfl
  | hash h => exact (names_hash_iff _ h).mpr (Word.parse_text h)
  | number n =>
      have htext : (number n).text.toList = Nat.toDigits 10 n.value.toNat := Nat.toList_repr
      refine (names_number_iff _ n).mpr ((Decimal.u64?_eq_some_iff _ _).mpr ?_)
      exact ⟨_, .inl htext, Nat.toDigits_ne_nil, Decimal.all_isDigit_toDigits _,
        Decimal.value_toDigits _⟩

/-- How a text is read. -/
structure ReadByName (s : String) : Prop where
  /-- It is read as the selector that it names. -/
  parse_iff : ∀ b, parse s = .ok b ↔ Names s b
  empty : s = "" → parse s = .error .empty
  /-- Behind the marker, what names no block is reported as the hash is. -/
  invalidHash : Marked s → (∀ b, ¬Names s b) → ∃ cause,
    (Word.parse s : Except HexError Hash) = .error cause ∧ parse s = .error (.invalidHash cause)
  /-- Anything else that names no block is taken for a number, and reported as it stands. -/
  invalidNumber : s ≠ "" → ¬Marked s → (∀ b, ¬Names s b) → parse s = .error (.invalidNumber s)

/-- **A text is read as the selector that it names, what names no block is reported by what it
looks like, and each selector is named by its own text.** -/
theorem read_by_names : (∀ s : String, ReadByName s) ∧ ∀ b : BlockId, parse b.text = .ok b := by
  refine ⟨?_, fun b => parse_of_names b.names_text⟩
  intro s
  constructor
  case parse_iff => exact parse_eq_ok_iff s
  case empty =>
    rintro rfl
    rfl
  case invalidHash =>
    intro hmarked hnone
    cases hw : (Word.parse s : Except HexError Hash) with
    | ok h => exact absurd ((names_hash_iff s h).mpr hw) (hnone _)
    | error cause =>
        refine ⟨cause, rfl, ?_⟩
        rw [parse_of_marked hmarked, hw]
        rfl
  case invalidNumber =>
    intro hempty hmarked hnone
    have hlatest : s ≠ "latest" := fun h => hnone _ (.latest h)
    have hpending : s ≠ "pending" := fun h => hnone _ (.pending h)
    rw [parse_of_unmarked hempty hlatest hpending hmarked]
    cases hn : Decimal.u64? s.toList with
    | some n => exact absurd ((names_number_iff s ⟨n⟩).mpr hn) (hnone _)
    | none => rfl

/-! ## §3. Values that select a block. -/

/-- The text of a tag. -/
def tag? : BlockId → Option String
  | latest => some "latest"
  | pending => some "pending"
  | _ => none

/-- The value is the tag of the selector, as a text or as the only key of an object, with null. -/
def IsTag (v : Value) (b : BlockId) : Prop :=
  ∃ key, b.tag? = some key ∧ (v = .string key ∨ v = .object [(key, .null)])

/-- A text that is read as the hash stands in the value, once, as that of a block. -/
def HasHash (v : Value) (h : Hash) : Prop :=
  ∃ (ms : Members) (s : String),
    v = .object ms ∧ ms.Sole "block_hash" (.string s) ∧ Word.parse s = .ok h

/-- The number stands in the value, once, as that of a block. -/
def HasNumber (v : Value) (n : BlockNumber) : Prop :=
  ∃ ms : Members, v = .object ms ∧ ms.Sole "block_number" (.number (.integer n.value.toNat))

/-- The value selects the block: by a tag, else by a hash, else by a number. -/
inductive Selects (v : Value) : BlockId → Prop where
  | tag {b : BlockId} (tag : IsTag v b) : Selects v b
  | hash {h : Hash} (no_tag : ∀ b, ¬IsTag v b) (has : HasHash v h) : Selects v (.hash h)
  | number {n : BlockNumber} (no_tag : ∀ b, ¬IsTag v b) (no_hash : ∀ h, ¬HasHash v h)
      (has : HasNumber v n) : Selects v (.number n)

/-! ## §4. Reading values. -/

theorem ofTag?_eq_some_iff (key : String) (b : BlockId) :
    ofTag? key = some b ↔ b.tag? = some key := by
  unfold ofTag?
  split
  · cases b <;> simp [tag?]
  · cases b <;> simp [tag?]
  · next hlatest hpending => cases b <;> simp [tag?, Ne.symm hlatest, Ne.symm hpending]

/-- The tag that the members of an object are. -/
def tagOf? (ms : Members) : Option BlockId :=
  match ms with
  | [(key, .null)] => ofTag? key
  | _ => none

theorem tagOf?_eq_some_iff (ms : Members) (b : BlockId) :
    tagOf? ms = some b ↔ IsTag (.object ms) b := by
  unfold tagOf? IsTag
  split
  · next key => simp [ofTag?_eq_some_iff]
  · next hno =>
      refine iff_of_false (fun h => nomatch h) ?_
      rintro ⟨key, _, h | h⟩
      · cases h
      · exact hno key (Value.object.inj h)

/-- A member is read if it stands there once and decodes. -/
theorem member?_eq_some_iff {α : Type} (key : String) (c : Codec α) (ms : Members) (a : α) :
    member? key c ms = some a ↔ ∃ v, ms.Sole key v ∧ c.decode v = .ok a := by
  have hfield : (Field.required key id c).fromMembers ms = .value a ↔
      ∃ v, ms.Sole key v ∧ c.decode v = .ok a := Field.fromMembers_required_iff a
  rw [← hfield, member?, toOption_eq_some_iff]
  cases (Field.required key id c).fromMembers ms with
  | value b => simp [Outcome.toExcept]
  | problem place e => simp [Outcome.toExcept]

theorem member?_hash_iff (ms : Members) (h : Hash) :
    member? "block_hash" Word.codec ms = some h ↔ HasHash (.object ms) h := by
  rw [member?_eq_some_iff, HasHash]
  constructor
  · rintro ⟨v, hsole, hdecode⟩
    obtain ⟨s, rfl, hs⟩ := Codec.decode_ofText_eq_ok_iff.mp hdecode
    exact ⟨ms, s, rfl, hsole, (mapError_eq_ok_iff _ _ _).mp hs⟩
  · rintro ⟨_, s, ⟨⟩, hsole, hs⟩
    exact ⟨.string s, hsole,
      Codec.decode_ofText_eq_ok_iff.mpr ⟨s, rfl, (mapError_eq_ok_iff _ _ _).mpr hs⟩⟩

theorem member?_number_iff (ms : Members) (n : BlockNumber) :
    member? "block_number" BlockNumber.codec ms = some n ↔ HasNumber (.object ms) n := by
  rw [member?_eq_some_iff, HasNumber]
  constructor
  · rintro ⟨v, hsole, hdecode⟩
    rw [BlockNumber.decode_eq_ok_iff] at hdecode
    exact ⟨ms, rfl, hdecode ▸ hsole⟩
  · rintro ⟨_, ⟨⟩, hsole⟩
    exact ⟨_, hsole, BlockNumber.decode_eq_ok_iff.mpr rfl⟩

theorem noneAs_eq_ok_iff (o : Option BlockId) (b : BlockId) :
    decode.noneAs o = .ok b ↔ o = some b := by
  cases o <;> simp [decode.noneAs]

/-- An object is tried as a tag, as a hash and as a number, in this order. -/
theorem decode_object_iff (ms : Members) (b : BlockId) :
    decode (.object ms) = .ok b ↔ Selects (.object ms) b := by
  have hdecode : decode (.object ms) = decode.noneAs ((tagOf? ms).or
      (((member? "block_hash" Word.codec ms).map hash).or
        ((member? "block_number" BlockNumber.codec ms).map number))) := rfl
  have hno_tag : tagOf? ms = none ↔ ∀ b, ¬IsTag (.object ms) b := by
    rw [Option.eq_none_iff_forall_ne_some]
    exact forall_congr' fun b => not_congr (tagOf?_eq_some_iff ms b)
  have hno_hash : (member? "block_hash" Word.codec ms : Option Hash) = none ↔
      ∀ h, ¬HasHash (.object ms) h := by
    rw [Option.eq_none_iff_forall_ne_some]
    exact forall_congr' fun h => not_congr (member?_hash_iff ms h)
  rw [hdecode, noneAs_eq_ok_iff, Option.or_eq_some_iff, Option.or_eq_some_iff,
    tagOf?_eq_some_iff, hno_tag, Option.map_eq_none_iff, hno_hash, Option.map_eq_some_iff,
    Option.map_eq_some_iff]
  constructor
  · rintro (htag | ⟨hnone, ⟨h, hh, rfl⟩ | ⟨hnone', n, hn, rfl⟩⟩)
    · exact .tag htag
    · exact .hash hnone ((member?_hash_iff ms h).mp hh)
    · exact .number hnone hnone' ((member?_number_iff ms n).mp hn)
  · intro hselects
    cases hselects with
    | tag htag => exact .inl htag
    | hash hnone has => exact .inr ⟨hnone, .inl ⟨_, (member?_hash_iff ms _).mpr has, rfl⟩⟩
    | number hnone hnone' has =>
        exact .inr ⟨hnone, .inr ⟨hnone', _, (member?_number_iff ms _).mpr has, rfl⟩⟩

/-- Only an object can hold a hash or a number. -/
theorem selects_iff_isTag {v : Value} (h : ∀ ms, v ≠ .object ms) (b : BlockId) :
    Selects v b ↔ IsTag v b := by
  constructor
  · intro hselects
    cases hselects with
    | tag htag => exact htag
    | hash _ has =>
        obtain ⟨ms, _, hv, _⟩ := has
        exact absurd hv (h ms)
    | number _ _ has =>
        obtain ⟨ms, hv, _⟩ := has
        exact absurd hv (h ms)
  · exact .tag

theorem selects_string_iff (s : String) (b : BlockId) :
    Selects (.string s) b ↔ b.tag? = some s := by
  rw [selects_iff_isTag (v := .string s) (fun _ => Value.noConfusion)]
  constructor
  · rintro ⟨key, htag, h | h⟩
    · exact Value.string.inj h ▸ htag
    · cases h
  · intro htag
    exact ⟨s, htag, .inl rfl⟩

/-- What is neither a text nor an object selects no block. -/
theorem not_selects {v : Value} (hobject : ∀ ms, v ≠ .object ms) (hstring : ∀ s, v ≠ .string s)
    (b : BlockId) : ¬Selects v b := by
  rw [selects_iff_isTag hobject]
  rintro ⟨key, _, h | h⟩
  · exact hstring key h
  · exact hobject _ h

theorem decode_eq_ok_iff (v : Value) (b : BlockId) : decode v = .ok b ↔ Selects v b := by
  cases v with
  | object ms => exact decode_object_iff ms b
  | string s =>
      show decode.noneAs (ofTag? s) = .ok b ↔ _
      rw [noneAs_eq_ok_iff, ofTag?_eq_some_iff, selects_string_iff]
  | null | bool _ | number _ | array _ =>
      refine iff_of_false (fun h => nomatch h) (not_selects ?_ ?_ b)
      · exact fun _ => Value.noConfusion
      · exact fun _ => Value.noConfusion

theorem decode_cases (v : Value) :
    (∃ b, decode v = .ok b) ∨ decode v = .error (.noVariant "BlockIdRepr") := by
  have hnone : ∀ o, (∃ b, decode.noneAs o = .ok b) ∨
      decode.noneAs o = .error (.noVariant "BlockIdRepr") := by
    intro o
    cases o with
    | some b => exact .inl ⟨b, rfl⟩
    | none => exact .inr rfl
  cases v with
  | string s => exact hnone (ofTag? s)
  | object ms => exact hnone _
  | null | bool _ | number _ | array _ => exact .inr rfl

/-! ## §5. Written selectors. -/

theorem normal_encode (b : BlockId) : b.encode.normal = b.encode := by
  cases b <;> rfl

/-- What is written for a selector selects the block. -/
theorem selects_encode (b : BlockId) : Selects b.encode b := by
  have hone : ∀ (key : String) (v : Value), Members.Sole [(key, v)] key v := by
    intro key v
    unfold Members.Sole
    simp
  have hno_tag : ∀ (key : String) (v : Value), v ≠ .null → ∀ b, ¬IsTag (.object [(key, v)]) b := by
    rintro key v hv b ⟨_, _, h | h⟩
    · cases h
    · cases h
      exact hv rfl
  cases b with
  | latest => exact .tag ⟨"latest", rfl, .inl rfl⟩
  | pending => exact .tag ⟨"pending", rfl, .inl rfl⟩
  | hash h =>
      exact .hash (hno_tag _ _ Value.noConfusion)
        ⟨_, h.text, rfl, hone "block_hash" _, Word.parse_text h⟩
  | number n =>
      refine .number (hno_tag _ _ Value.noConfusion) ?_ ⟨_, rfl, hone "block_number" _⟩
      rintro h ⟨_, s, ⟨⟩, hsole, _⟩
      cases hsole

theorem decode_encode (b : BlockId) : decode b.encode = .ok b :=
  (decode_eq_ok_iff _ b).mpr b.selects_encode

/-- **A block selector comes back.** -/
theorem keepsAll : codec.KeepsAll := by
  refine Codec.keepsAll_of fun b => ?_
  show decode b.encode.normal = .ok b
  rw [normal_encode, decode_encode]

/-- How a value of JSON is read. -/
structure ReadBySelection (v : Value) : Prop where
  /-- It is read as the block that it selects. -/
  decode_iff : ∀ b, decode v = .ok b ↔ Selects v b
  /-- Everything else is of no shape at all. -/
  refused : (∀ b, ¬Selects v b) → decode v = .error (.noVariant "BlockIdRepr")
  /-- What has been read is written as a value that is read as the same selector. -/
  again : ∀ b, decode v = .ok b → decode b.encode = .ok b

/-- **A value is read as the block that it selects, and no array selects one; each selector is
read back from what is written for it, in normal form too.** -/
theorem read_by_selection : (∀ v : Value, ReadBySelection v) ∧
    (∀ items b, ¬Selects (.array items) b) ∧
    ∀ b : BlockId, decode b.encode = .ok b ∧ decode b.encode.normal = .ok b := by
  refine ⟨?_, ?_, ?_⟩
  · intro v
    constructor
    case decode_iff => exact decode_eq_ok_iff v
    case refused =>
      intro hnone
      rcases decode_cases v with ⟨b, hb⟩ | herror
      · exact absurd ((decode_eq_ok_iff v b).mp hb) (hnone b)
      · exact herror
    case again => exact fun b _ => b.decode_encode
  · intro items
    exact not_selects (fun _ => Value.noConfusion) fun _ => Value.noConfusion
  · intro b
    rw [b.normal_encode]
    exact ⟨b.decode_encode, b.decode_encode⟩

end BlockId

end NodeClient
