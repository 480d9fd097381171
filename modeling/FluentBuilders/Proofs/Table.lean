import Mathlib.Data.List.Nodup
import FluentBuilders.Table

/-!
Tables whose keys are all different.

1. Keys and look-ups.
2. An insertion keeps the keys apart, and so do insertions one after the other.
-/

namespace FluentBuilders

namespace Table

variable {α β : Type}

/-! ## 1. Keys -/

theorem find_isSome_iff (key : String) (es : List (String × α)) :
    (find key es).isSome = true ↔ key ∈ es.map (·.1) := by
  induction es with
  | nil => simp [find]
  | cons e rest ih =>
    obtain ⟨k, a⟩ := e
    by_cases hk : k = key
    · simp [find, hk]
    · simp [find, hk, Ne.symm hk, ih]

/-- A key has a value where it stands among the keys. -/
theorem contains_iff (t : Table α) (key : String) : t.contains key = true ↔ key ∈ t.keys :=
  find_isSome_iff key t.entries

theorem get?_eq_none_iff (t : Table α) (key : String) : t.get? key = none ↔ key ∉ t.keys := by
  rw [← t.contains_iff, Table.contains, Bool.not_eq_true, Option.isSome_eq_false_iff,
    Option.isNone_iff_eq_none]

theorem mem_of_get? {t : Table α} {key : String} {a : α} (h : t.get? key = some a) :
    (key, a) ∈ t.entries := by
  obtain ⟨es⟩ := t
  replace h : find key es = some a := h
  show (key, a) ∈ es
  induction es with
  | nil => cases h
  | cons e rest ih =>
    obtain ⟨k, b⟩ := e
    unfold find at h
    split at h
    · next hk =>
      cases h
      rw [hk]
      exact List.mem_cons_self
    · exact List.mem_cons_of_mem _ (ih h)

/-- Where keys are different, every entry is found. -/
theorem get?_of_mem {t : Table α} (ht : t.keys.Nodup) {key : String} {a : α}
    (h : (key, a) ∈ t.entries) : t.get? key = some a := by
  obtain ⟨es⟩ := t
  replace ht : (es.map (·.1)).Nodup := ht
  show find key es = some a
  replace h : (key, a) ∈ es := h
  induction es with
  | nil => cases h
  | cons e rest ih =>
    obtain ⟨k, b⟩ := e
    rw [List.map_cons, List.nodup_cons] at ht
    unfold find
    rcases List.mem_cons.mp h with e | h
    · cases e
      rw [if_pos rfl]
    · have hne : k ≠ key := by
        rintro rfl
        exact ht.1 (List.mem_map.mpr ⟨_, h, rfl⟩)
      rw [if_neg hne]
      exact ih ht.2 h

/-- What is found among the first entries is found among all. -/
theorem find_append {key : String} {es : List (String × α)} {a : α} (h : find key es = some a)
    (more : List (String × α)) : find key (es ++ more) = some a := by
  induction es with
  | nil => cases h
  | cons e rest ih =>
    obtain ⟨k, b⟩ := e
    unfold find at h
    rw [List.cons_append]
    unfold find
    split at h
    · next hk =>
      rw [if_pos hk]
      exact h
    · next hk =>
      rw [if_neg hk]
      exact ih h

/-- Where keys are different, the order of the entries does not matter. -/
theorem get?_perm {t t' : Table α} (ht : t.keys.Nodup) (h : t'.entries.Perm t.entries)
    (key : String) : t'.get? key = t.get? key := by
  have hkeys : t'.keys.Perm t.keys := h.map _
  refine Option.ext fun a => ⟨fun ha => ?_, fun ha => ?_⟩
  · exact get?_of_mem ht (h.mem_iff.mp (mem_of_get? ha))
  · exact get?_of_mem (hkeys.nodup_iff.mpr ht) (h.mem_iff.mpr (mem_of_get? ha))

/-! ## 2. Insertions -/

theorem mem_keys_insert (t : Table α) (key other : String) (a : α) :
    other ∈ (t.insert key a).keys ↔ other = key ∨ other ∈ t.keys := by
  rw [keys_insert]
  split
  · next h =>
    constructor
    · exact .inr
    · rintro (rfl | h')
      · exact h
      · exact h'
  · rw [List.mem_append, List.mem_singleton, or_comm]

theorem nodup_insert {t : Table α} (ht : t.keys.Nodup) (key : String) (a : α) :
    (t.insert key a).keys.Nodup := by
  rw [keys_insert]
  split
  · exact ht
  · next h =>
    refine List.nodup_append.mpr ⟨ht, List.nodup_singleton _, fun a ha b hb => ?_⟩
    rw [List.mem_singleton.mp hb]
    rintro rfl
    exact h ha

theorem mem_values_insert {t : Table α} {key : String} {a b : α}
    (h : b ∈ (t.insert key a).values) : b = a ∨ b ∈ t.values := by
  obtain ⟨es⟩ := t
  replace h : b ∈ (put key a es).map (·.2) := h
  show b = a ∨ b ∈ es.map (·.2)
  induction es with
  | nil => exact .inl (by simpa [put] using h)
  | cons e rest ih =>
    unfold put at h
    split at h
    · rcases List.mem_cons.mp h with rfl | h
      · exact .inl rfl
      · exact .inr (List.mem_cons_of_mem _ h)
    · rcases List.mem_cons.mp h with rfl | h
      · exact .inr List.mem_cons_self
      · exact (ih h).imp_right (List.mem_cons_of_mem _)

/-- A new key stands at the end, with its value. -/
theorem entries_insert_of_not_mem {t : Table α} {key : String} (h : key ∉ t.keys) (a : α) :
    (t.insert key a).entries = t.entries ++ [(key, a)] := by
  obtain ⟨es⟩ := t
  replace h : key ∉ es.map (·.1) := h
  show put key a es = es ++ [(key, a)]
  induction es with
  | nil => rfl
  | cons e rest ih =>
    obtain ⟨k, b⟩ := e
    rw [List.map_cons, List.mem_cons, not_or] at h
    unfold put
    rw [if_neg (Ne.symm h.1), ih h.2, List.cons_append]

section Several

variable {key : β → String} {value : β → α}

theorem get?_inserts_of_not_mem (t : Table α) {l : List β} {q : String} (h : q ∉ l.map key) :
    (l.foldl (fun t b => t.insert (key b) (value b)) t).get? q = t.get? q := by
  induction l generalizing t with
  | nil => rfl
  | cons b rest ih =>
    rw [List.map_cons, List.mem_cons, not_or] at h
    rw [List.foldl_cons, ih _ h.2, get?_insert, if_neg (Ne.symm h.1)]

/-- Of values under different keys, each is found. -/
theorem get?_inserts_of_mem (t : Table α) {l : List β} (hl : (l.map key).Nodup) {b : β}
    (h : b ∈ l) :
    (l.foldl (fun t b => t.insert (key b) (value b)) t).get? (key b) = some (value b) := by
  induction l generalizing t with
  | nil => cases h
  | cons a rest ih =>
    rw [List.map_cons, List.nodup_cons] at hl
    rw [List.foldl_cons]
    rcases List.mem_cons.mp h with rfl | h
    · rw [get?_inserts_of_not_mem _ hl.1, get?_insert, if_pos rfl]
    · exact ih _ hl.2 h

theorem mem_keys_inserts (t : Table α) (l : List β) (q : String) :
    q ∈ (l.foldl (fun t b => t.insert (key b) (value b)) t).keys ↔ q ∈ l.map key ∨ q ∈ t.keys := by
  induction l generalizing t with
  | nil => simp
  | cons b rest ih =>
    rw [List.foldl_cons, ih, mem_keys_insert, List.map_cons, List.mem_cons, ← or_assoc,
      or_comm (a := q ∈ rest.map key)]

theorem nodup_inserts {t : Table α} (ht : t.keys.Nodup) (l : List β) :
    (l.foldl (fun t b => t.insert (key b) (value b)) t).keys.Nodup := by
  induction l generalizing t with
  | nil => exact ht
  | cons b rest ih => exact ih (nodup_insert ht ..)

end Several

end Table

end FluentBuilders
