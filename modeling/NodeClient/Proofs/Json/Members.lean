/-
  NodeClient.Proofs.Json.Members
  ──────────────────────────────
  Members by key.

  Sorting members moves them and never changes what a key stands for, as long as no key occurs
  twice (`lookup_sorted`); and what comes out has its keys in strictly ascending order, so that
  in a normal form no key occurs twice (`ascending_sorted`).
-/
import NodeClient.Json.Value

namespace NodeClient.Json

namespace Members

/-! ## §1. Setting a key. -/

/-- The keys of members, in their order. -/
abbrev keys (ms : Members) : List String := ms.map Prod.fst

/-- No key occurs twice. -/
abbrev Distinct (ms : Members) : Prop := ms.keys.Nodup

/-- The keys are in strictly ascending order. -/
abbrev Ascending (ms : Members) : Prop := ms.Pairwise fun a b => a.1 < b.1

theorem lookup_cons (key : String) (m : String × Value) (ms : Members) :
    List.lookup key (m :: ms) = if key = m.1 then some m.2 else ms.lookup key := by
  obtain ⟨k, v⟩ := m
  by_cases h : key = k
  · subst h
    simp
  · rw [if_neg h, List.lookup_cons, beq_eq_false_iff_ne.mpr h]

theorem get?_cons_of_ne {key k : String} (h : key ≠ k) (v : Value) (ms : Members) :
    Members.get? ((k, v) :: ms) key = ms.get? key := by
  rw [get?, lookup_cons, if_neg h]
  rfl

/-- A member that comes in under one key leaves what another key stands for. -/
theorem get?_insert_of_ne {key k : String} (h : key ≠ k) (v : Value) (before after : Members) :
    Members.get? (before ++ (k, v) :: after) key = Members.get? (before ++ after) key := by
  unfold get?
  induction before with
  | nil => exact get?_cons_of_ne h v after
  | cons b before ih => rw [List.cons_append, List.cons_append, lookup_cons, lookup_cons, ih]

theorem lookup_eq_none {ms : Members} {key : String} (h : key ∉ ms.keys) :
    ms.lookup key = none := by
  induction ms with
  | nil => rfl
  | cons m ms ih =>
      simp only [keys, List.map_cons, List.mem_cons, not_or] at h
      rw [lookup_cons, if_neg h.1, ih h.2]

theorem mem_keys_iff (ms : Members) (key : String) : key ∈ ms.keys ↔ ms.lookup key ≠ none := by
  induction ms with
  | nil => simp
  | cons m ms ih =>
      rw [lookup_cons, keys, List.map_cons, List.mem_cons]
      by_cases h : key = m.1
      · simp [h]
      · rw [if_neg h, ← ih]
        exact or_iff_right h

theorem lookup_append {ms : Members} {key : String} (h : key ∉ ms.keys) (rest : Members) :
    (ms ++ rest).lookup key = rest.lookup key := by
  induction ms with
  | nil => rfl
  | cons m ms ih =>
      simp only [keys, List.map_cons, List.mem_cons, not_or] at h
      rw [List.cons_append, lookup_cons, if_neg h.1, ih h.2]

/-- Setting a key changes what that key stands for and nothing else. -/
theorem lookup_put (key : String) (v : Value) (k : String) (ms : Members) :
    (ms.put key v).lookup k = if k = key then some v else ms.lookup k := by
  induction ms with
  | nil => rw [put, lookup_cons]
  | cons m ms ih =>
      obtain ⟨k', v'⟩ := m
      rw [put]
      split
      · rw [lookup_cons]
      · split
        · next h =>
            subst h
            rw [lookup_cons, lookup_cons]
            split <;> rfl
        · next h =>
            rw [lookup_cons, lookup_cons, ih]
            -- the key that is set stands behind `k'`, so `k'` still stands for its own value
            by_cases hk : k = k'
            · subst hk
              rw [if_pos rfl, if_pos rfl, if_neg (fun e => h e.symm)]
            · rw [if_neg hk, if_neg hk]

theorem mem_put {key : String} {v : Value} {ms : Members} {m : String × Value}
    (h : m ∈ ms.put key v) : m = (key, v) ∨ m ∈ ms := by
  induction ms with
  | nil => exact .inl (List.mem_singleton.mp h)
  | cons m' ms ih =>
      obtain ⟨k', v'⟩ := m'
      rw [put] at h
      split at h
      · exact (List.mem_cons.mp h)
      · split at h
        · rcases List.mem_cons.mp h with h | h
          · exact .inl h
          · exact .inr (List.mem_cons_of_mem _ h)
        · rcases List.mem_cons.mp h with h | h
          · exact .inr (h ▸ List.mem_cons_self)
          · rcases ih h with h | h
            · exact .inl h
            · exact .inr (List.mem_cons_of_mem _ h)

/-- Setting a key keeps the order of the keys. -/
theorem ascending_put {ms : Members} (key : String) (v : Value) (h : ms.Ascending) :
    (ms.put key v).Ascending := by
  induction ms with
  | nil => exact List.pairwise_singleton _ _
  | cons m ms ih =>
      obtain ⟨k', v'⟩ := m
      obtain ⟨hfirst, hrest⟩ := List.pairwise_cons.mp h
      rw [put]
      -- the key is set in front of the first, in its place, or somewhere behind it
      split
      · next hlt =>
          refine List.pairwise_cons.mpr ⟨?_, h⟩
          intro m hm
          rcases List.mem_cons.mp hm with rfl | hm
          · exact hlt
          · exact String.lt_trans hlt (hfirst m hm)
      · split
        · next heq =>
            subst heq
            exact List.pairwise_cons.mpr ⟨hfirst, hrest⟩
        · next hlt hne =>
            refine List.pairwise_cons.mpr ⟨?_, ih hrest⟩
            intro m hm
            rcases mem_put hm with rfl | hm
            · show k' < key
              grind
            · exact hfirst m hm

/-! ## §2. Keys that stand there once. -/

/-- The key stands there once, with this value. -/
def Sole (ms : Members) (key : String) (v : Value) : Prop :=
  ms.filter (fun m => m.1 == key) = [(key, v)]

theorem sole_cons_of_ne {ms : Members} {m : String × Value} {key : String} (h : m.1 ≠ key)
    (v : Value) : Sole (m :: ms) key v ↔ ms.Sole key v := by
  unfold Sole
  rw [List.filter_cons_of_neg (by simpa using h)]

/-- Behind the first member with the key there is no other. -/
theorem sole_cons_self {ms : Members} {m : String × Value} {key : String} (h : m.1 = key)
    (v : Value) :
    Sole (m :: ms) key v ↔ m.2 = v ∧ ms.findIdx? (fun m => m.1 == key) = none := by
  have hrest : ms.filter (fun m => m.1 == key) = [] ↔
      ms.findIdx? (fun m => m.1 == key) = none := by
    rw [List.findIdx?_eq_none_iff, List.filter_eq_nil_iff]
    simp
  obtain ⟨k, w⟩ := m
  obtain rfl : k = key := h
  unfold Sole
  rw [List.filter_cons_of_pos (by simp), List.cons.injEq, hrest, Prod.mk.injEq]
  simp

theorem Sole.mem_keys {ms : Members} {key : String} {v : Value} (h : ms.Sole key v) :
    key ∈ ms.keys := by
  have hmem : (key, v) ∈ ms.filter (fun m => m.1 == key) := by
    rw [h]
    exact List.mem_singleton.mpr rfl
  exact List.mem_map_of_mem (List.mem_filter.mp hmem).1

theorem Sole.eq_of_mem {ms : Members} {key : String} {v w : Value} (h : ms.Sole key v)
    (hmem : (key, w) ∈ ms) : w = v := by
  have hfilter : (key, w) ∈ ms.filter (fun m => m.1 == key) :=
    List.mem_filter.mpr ⟨hmem, beq_self_eq_true key⟩
  rw [h, List.mem_singleton] at hfilter
  exact congrArg Prod.snd hfilter

/-! ## §3. Sorting. -/

private theorem lookup_foldl_put (k : String) :
    ∀ (ms acc : Members), ms.Distinct →
      (ms.foldl (fun acc (k, v) => acc.put k v) acc).lookup k
        = (ms.lookup k).or (acc.lookup k) := by
  intro ms
  induction ms with
  | nil => intro acc _; rfl
  | cons m ms ih =>
      intro acc h
      obtain ⟨key, v⟩ := m
      obtain ⟨hkey, hrest⟩ := List.nodup_cons.mp h
      show (ms.foldl _ (acc.put key v)).lookup k = _
      rw [ih _ hrest, lookup_put, lookup_cons]
      -- what is set now is not set again, as its key does not occur behind
      by_cases hk : k = key
      · subst hk
        rw [if_pos rfl, if_pos rfl, lookup_eq_none hkey]
        rfl
      · rw [if_neg hk, if_neg hk]

/-- **Sorting leaves what each key stands for.** -/
theorem lookup_sorted {ms : Members} (h : ms.Distinct) (k : String) :
    ms.sorted.lookup k = ms.lookup k := by
  unfold sorted
  rw [lookup_foldl_put k ms [] h]
  exact Option.or_none

/-- **Sorted members have their keys in strictly ascending order.** -/
theorem ascending_sorted (ms : Members) : ms.sorted.Ascending := by
  unfold sorted
  have hfold : ∀ (ms acc : Members), acc.Ascending →
      (ms.foldl (fun acc (k, v) => acc.put k v) acc).Ascending := by
    intro ms
    induction ms with
    | nil => intro acc h; exact h
    | cons m ms ih => intro acc h; exact ih _ (ascending_put m.1 m.2 h)
  exact hfold ms [] List.Pairwise.nil

theorem Ascending.distinct {ms : Members} (h : ms.Ascending) : ms.Distinct := by
  refine List.pairwise_map.mpr (h.imp ?_)
  intro a b hlt heq
  exact String.lt_irrefl _ (heq ▸ hlt)

end Members

/-! ## §4. Normal forms. -/

theorem keys_normalMembers (ms : Members) :
    Members.keys (normalMembers ms) = ms.keys := by
  induction ms with
  | nil => rfl
  | cons m ms ih =>
      show m.1 :: Members.keys (normalMembers ms) = m.1 :: Members.keys ms
      rw [ih]

theorem lookup_normalMembers (k : String) (ms : Members) :
    (normalMembers ms).lookup k = (ms.lookup k).map Value.normal := by
  induction ms with
  | nil => rfl
  | cons m ms ih =>
      obtain ⟨key, v⟩ := m
      rw [normalMembers, Members.lookup_cons, Members.lookup_cons, ih]
      split <;> rfl

theorem normalItems_eq_map (vs : List Value) : normalItems vs = vs.map Value.normal := by
  induction vs with
  | nil => rfl
  | cons v vs ih => rw [normalItems, ih]; rfl

/-- The members of the normal form of an object. -/
def normalObject (ms : Members) : Members := Members.sorted (normalMembers ms)

theorem normal_object (ms : Members) : (Value.object ms).normal = .object (normalObject ms) := by
  rw [Value.normal]
  rfl

theorem distinct_normalObject (ms : Members) : (normalObject ms).Distinct :=
  (Members.ascending_sorted _).distinct

/-- A key of the normal form stands for the normal form of what it stood for. -/
theorem lookup_normalObject {ms : Members} (h : ms.Distinct) (k : String) :
    (normalObject ms).lookup k = (ms.lookup k).map Value.normal := by
  unfold normalObject
  rw [Members.lookup_sorted (by unfold Members.Distinct; rw [keys_normalMembers]; exact h),
      lookup_normalMembers]

/-- Two objects with the same normal form have the same, up to normal forms, under each key. -/
theorem lookup_of_normal_eq {ms ms' : Members} (hms : ms.Distinct) (hms' : ms'.Distinct)
    (h : (Value.object ms).normal = (Value.object ms').normal) (k : String) :
    (ms.lookup k).map Value.normal = (ms'.lookup k).map Value.normal := by
  rw [normal_object, normal_object] at h
  injection h with h
  rw [← lookup_normalObject hms, ← lookup_normalObject hms', h]

end NodeClient.Json
