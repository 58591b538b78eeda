import FlowBoard.Keyed
import Mathlib.Data.List.Induction
import Mathlib.Data.List.Nodup

/-!
# Keyed entries through their keys and values

`distinct` lists every member once, in order of first occurrence. A list of keyed entries in which
no key comes twice is determined by its keys and by the value that `find?` gives for each; `put`,
`update` and `ofList` are described through these two.
-/

namespace FlowBoard

variable {κ α β : Type} [DecidableEq κ]

@[simp] theorem mem_distinct {k : κ} {ks : List κ} : k ∈ distinct ks ↔ k ∈ ks := by
  induction ks with
  | nil => simp [distinct]
  | cons k' rest ih =>
    by_cases h : k = k'
    · simp [distinct, h]
    · simp [distinct, h, ih]

theorem nodup_distinct (ks : List κ) : (distinct ks).Nodup := by
  induction ks with
  | nil => exact List.nodup_nil
  | cons k rest ih =>
    rw [distinct, List.nodup_cons]
    exact ⟨by simp, ih.filter _⟩

theorem distinct_sublist (ks : List κ) : (distinct ks).Sublist ks := by
  induction ks with
  | nil => exact List.Sublist.refl _
  | cons k rest ih => exact (List.filter_sublist.trans ih).cons_cons k

theorem distinct_of_nodup {ks : List κ} (h : ks.Nodup) : distinct ks = ks := by
  induction ks with
  | nil => rfl
  | cons k rest ih =>
    obtain ⟨hk, hrest⟩ := List.nodup_cons.mp h
    rw [distinct, ih hrest, List.filter_eq_self.mpr]
    intro k' hk'
    have hne : k' ≠ k := fun he => hk (he ▸ hk')
    simpa using hne

theorem distinct_filter (p : κ → Bool) (ks : List κ) :
    distinct (ks.filter p) = (distinct ks).filter p := by
  induction ks with
  | nil => rfl
  | cons k rest ih =>
    by_cases hk : p k = true
    · rw [List.filter_cons_of_pos hk, distinct, distinct, List.filter_cons_of_pos hk, ih,
        List.filter_filter, List.filter_filter]
      simp only [Bool.and_comm]
    · rw [List.filter_cons_of_neg hk, distinct, List.filter_cons_of_neg hk, ih, List.filter_filter]
      refine List.filter_congr fun k' _ => ?_
      by_cases hk' : k' = k
      · simp [hk', hk]
      · simp [hk']

theorem distinct_concat (ks : List κ) (k : κ) :
    distinct (ks ++ [k]) = if k ∈ ks then distinct ks else distinct ks ++ [k] := by
  induction ks with
  | nil => rfl
  | cons k' rest ih =>
    rw [List.cons_append, distinct, ih]
    by_cases hrest : k ∈ rest
    · simp [distinct, hrest]
    · by_cases hk : k = k'
      · subst hk
        simp [distinct, hrest, List.filter_append]
      · simp [distinct, hrest, hk, List.filter_append]

namespace Keyed

omit [DecidableEq κ] in
@[simp] theorem keys_cons (e : κ × α) (rest : Keyed κ α) :
    keys (e :: rest) = e.1 :: keys rest := rfl

theorem keys_put (k : κ) (a : α) (m : Keyed κ α) :
    (put k a m).keys = if k ∈ m.keys then m.keys else m.keys ++ [k] := by
  induction m with
  | nil => rfl
  | cons e rest ih =>
    by_cases he : e.1 = k
    · simp [put, he]
    · have hne : k ≠ e.1 := fun h => he h.symm
      simp only [put, if_neg he, keys_cons, ih, List.mem_cons, hne, false_or]
      split <;> rfl

theorem find?_put (k k' : κ) (a : α) (m : Keyed κ α) :
    find? k' (put k a m) = if k = k' then some a else find? k' m := by
  induction m with
  | nil => rfl
  | cons e rest ih =>
    by_cases he : e.1 = k
    · by_cases hk : k = k' <;> simp [put, find?, he, hk]
    · by_cases hk : k = k'
      · subst hk
        simpa [put, find?, he] using ih
      · simp [put, find?, he, ih, hk]

/-- What is taken out for its key is taken out although it was put anew. -/
theorem filter_put (p : κ → Bool) {k : κ} (hk : p k = false) (a : α) (m : Keyed κ α) :
    (put k a m).filter (p ·.1) = m.filter (p ·.1) := by
  induction m with
  | nil => simp [put, hk]
  | cons e rest ih =>
    rw [put]
    split_ifs with he
    · simp [he, hk]
    · simp [List.filter_cons, ih]

theorem find?_filter {p : κ → Bool} {k : κ} (hk : p k = true) (m : Keyed κ α) :
    find? k (m.filter (p ·.1)) = find? k m := by
  induction m with
  | nil => rfl
  | cons e rest ih =>
    by_cases he : e.1 = k
    · rw [List.filter_cons_of_pos (by rw [he]; exact hk)]
      simp [find?, he]
    · rw [find?, if_neg he, ← ih, List.filter_cons]
      split_ifs with hp
      · rw [find?, if_neg he]
      · rfl

theorem mem_of_find? {k : κ} {a : α} {m : Keyed κ α} (h : find? k m = some a) : (k, a) ∈ m := by
  induction m with
  | nil => cases h
  | cons e rest ih =>
    rw [find?] at h
    split_ifs at h with hk
    · obtain rfl := Option.some.inj h
      exact hk ▸ List.mem_cons_self
    · exact List.mem_cons_of_mem e (ih h)

theorem find?_of_mem {e : κ × α} {m : Keyed κ α} (h : m.keys.Nodup) (he : e ∈ m) :
    find? e.1 m = some e.2 := by
  induction m with
  | nil => cases he
  | cons e' rest ih =>
    obtain ⟨hfirst, hrest⟩ := List.nodup_cons.mp h
    rw [find?]
    rcases List.mem_cons.mp he with rfl | he
    · rw [if_pos rfl]
    · have hkey : e.1 ∈ keys rest := List.mem_map_of_mem he
      have hne : e'.1 ≠ e.1 := fun heq => hfirst (Eq.subst heq.symm hkey)
      rw [if_neg hne, ih hrest he]

@[simp] theorem keys_update (k : κ) (f : α → α) (m : Keyed κ α) : (update k f m).keys = m.keys := by
  induction m with
  | nil => rfl
  | cons e rest ih =>
    by_cases he : e.1 = k
    · simp [update, he]
    · simpa [update, he] using ih

theorem find?_update (k k' : κ) (f : α → α) (m : Keyed κ α) :
    find? k' (update k f m) = if k = k' then (find? k' m).map f else find? k' m := by
  induction m with
  | nil => simp [update, find?]
  | cons e rest ih =>
    by_cases he : e.1 = k
    · by_cases hk : k = k' <;> simp [update, find?, he, hk]
    · by_cases hk : k = k'
      · subst hk
        simpa [update, find?, he] using ih
      · simp [update, find?, he, ih, hk]

theorem put_of_not_mem {k : κ} {m : Keyed κ α} (h : k ∉ m.keys) (a : α) :
    put k a m = m ++ [(k, a)] := by
  induction m with
  | nil => rfl
  | cons e rest ih =>
    rw [keys_cons, List.mem_cons, not_or] at h
    have hne : e.1 ≠ k := fun he => h.1 he.symm
    rw [put, if_neg hne, ih h.2, List.cons_append]

theorem update_concat {k : κ} {m : Keyed κ α} (h : k ∉ m.keys) (f : α → α) (a : α) :
    update k f (m ++ [(k, a)]) = m ++ [(k, f a)] := by
  induction m with
  | nil => simp [update]
  | cons e rest ih =>
    rw [keys_cons, List.mem_cons, not_or] at h
    have hne : e.1 ≠ k := fun he => h.1 he.symm
    rw [List.cons_append, update, if_neg hne, ih h.2, List.cons_append]

theorem find?_map (key : β → κ) (f : β → α) (k : κ) (items : List β) :
    find? k (items.map fun b => (key b, f b)) = (items.find? (key · = k)).map f := by
  induction items with
  | nil => rfl
  | cons b rest ih =>
    by_cases hb : key b = k
    · simp [find?, hb]
    · simp [find?, hb, ih]

/-- The values are found under the keys, in their order. -/
theorem values_eq_filterMap {m : Keyed κ α} (h : m.keys.Nodup) :
    m.values = m.keys.filterMap (find? · m) := by
  induction m with
  | nil => rfl
  | cons e rest ih =>
    obtain ⟨he, hrest⟩ := List.nodup_cons.mp h
    have hlater : ∀ k ∈ keys rest, find? k (e :: rest) = find? k rest := by
      intro k hk
      have hne : e.1 ≠ k := by
        rintro rfl
        exact he hk
      simp [find?, hne]
    calc values (e :: rest) = e.2 :: (keys rest).filterMap (find? · rest) :=
          congrArg (e.2 :: ·) (ih hrest)
      _ = e.2 :: (keys rest).filterMap (find? · (e :: rest)) := by
          rw [List.filterMap_congr hlater]
      _ = (keys (e :: rest)).filterMap (find? · (e :: rest)) := by
          simp [find?]

theorem ofList_concat (entries : List (κ × α)) (e : κ × α) :
    ofList (entries ++ [e]) = put e.1 e.2 (ofList entries) := by
  simp [ofList, List.foldl_append]

theorem keys_ofList (entries : List (κ × α)) : (ofList entries).keys = distinct (keys entries) := by
  induction entries using List.reverseRecOn with
  | nil => rfl
  | append_singleton entries e ih =>
    rw [ofList_concat, keys_put, ih]
    simp only [keys, List.map_append, List.map_cons, List.map_nil, distinct_concat, mem_distinct]

theorem nodup_keys_ofList (entries : List (κ × α)) : (ofList entries).keys.Nodup := by
  rw [keys_ofList]
  exact nodup_distinct _

/-- Of the entries with one key the last counts. -/
theorem find?_ofList (k : κ) (entries : List (κ × α)) :
    find? k (ofList entries) = find? k entries.reverse := by
  induction entries using List.reverseRecOn with
  | nil => rfl
  | append_singleton entries e ih => simp [ofList_concat, find?_put, find?, ih]

/-- Every key has its last value, at the place of its first arrival. -/
theorem values_ofList (key : β → κ) (f : β → α) (items : List β) :
    (ofList (items.map fun b => (key b, f b))).values =
      (distinct (items.map key)).filterMap fun k => (items.reverse.find? (key · = k)).map f := by
  rw [values_eq_filterMap (nodup_keys_ofList _), keys_ofList]
  simp only [find?_ofList, ← List.map_reverse, find?_map, keys, List.map_map, Function.comp_def]

end Keyed

end FlowBoard
