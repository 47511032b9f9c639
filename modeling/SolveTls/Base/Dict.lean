import Mathlib.Data.List.Nodup

/-! Insertion-ordered dictionaries as association lists without repeated keys. -/

/-- A dictionary that lists its items in the order their keys were first stored. -/
abbrev Dict (α β : Type) := List (α × β)

namespace Dict

open List

variable {α β : Type} [DecidableEq α]
variable {key : α} {value : β} {items : List (α × β)}

/-- Store a value: an existing key keeps its place, a new one goes last. -/
def set : Dict α β → α → β → Dict α β
  | [], key, value => [(key, value)]
  | (other, old) :: rest, key, value =>
    if other = key then (key, value) :: rest else (other, old) :: set rest key value

/-- The value stored under a key. -/
def get? : Dict α β → α → Option β
  | [], _ => none
  | (other, value) :: rest, key => if other = key then some value else get? rest key

/-- Store every item of a second dictionary over the first. -/
def update (dict : Dict α β) (items : List (α × β)) : Dict α β :=
  items.foldl (fun dict item => dict.set item.1 item.2) dict

/-- The dictionary built from a list of items, where a later item replaces an earlier one. -/
def ofItems (items : List (α × β)) : Dict α β := update [] items

/-- Remove a key if it is there. -/
def pop (dict : Dict α β) (key : α) : Dict α β := dict.filter fun item => item.1 ≠ key

variable {dict : Dict α β}

/-- What a dictionary stores under a key is one of its items. -/
theorem mem_of_get? (found : get? dict key = some value) :
    (key, value) ∈ dict := by
  induction dict with
  | nil => cases found
  | cons item rest ih =>
    obtain ⟨other, stored⟩ := item
    rw [get?] at found
    by_cases same : other = key
    · rw [if_pos same] at found
      cases found
      rw [same]
      exact mem_cons_self ..
    · rw [if_neg same] at found
      exact mem_cons_of_mem _ (ih found)

/-- A stored value is found again. -/
theorem get?_set_self (dict : Dict α β) (key : α) (value : β) :
    get? (set dict key value) key = some value := by
  induction dict with
  | nil => simp [set, get?]
  | cons item rest ih =>
    obtain ⟨other, old⟩ := item
    -- Either this item is overwritten, or the key is stored further on.
    by_cases same : other = key
    · simp [set, get?, same]
    · simp [set, get?, same, ih]

/-- Storing a value does not change what is found under another key. -/
theorem get?_set_of_ne (dict : Dict α β) {wanted : α} (differs : key ≠ wanted) (value : β) :
    get? (set dict key value) wanted = get? dict wanted := by
  induction dict with
  | nil => simp [set, get?, differs]
  | cons item rest ih =>
    obtain ⟨other, old⟩ := item
    by_cases same : other = key
    · subst same
      simp [set, get?, differs]
    · simp only [set, if_neg same, get?, ih]

/-- The value of the last item with a key. -/
def last? : List (α × β) → α → Option β
  | [], _ => none
  | (other, value) :: rest, key => (last? rest key).or (if other = key then some value else none)

theorem last?_append (items more : List (α × β)) (key : α) :
    last? (items ++ more) key = (last? more key).or (last? items key) := by
  induction items with
  | nil => simp [last?]
  | cons item rest ih => simp only [cons_append, last?, ih, Option.or_assoc]

theorem last?_filter (items : List (α × β)) (key : α) :
    last? (items.filter fun item => item.1 = key) key = last? items key := by
  induction items with
  | nil => rfl
  | cons item rest ih =>
    by_cases same : item.1 = key
    · simp [same, last?, ih]
    · simp [same, last?, ih]

theorem last?_eq_getLast? (items : List (α × β)) (key : α) :
    last? items key = ((items.filter fun item => item.1 = key).map Prod.snd).getLast? := by
  induction items with
  | nil => rfl
  | cons item rest ih =>
    by_cases same : item.1 = key
    · simp only [last?, ih, same, if_true, decide_true, filter_cons_of_pos, map_cons,
        List.getLast?_cons, Option.or_some]
    · simp [same, last?, ih]

theorem last?_eq_none (absent : ∀ item ∈ items, item.1 ≠ key) :
    last? items key = none := by
  induction items with
  | nil => rfl
  | cons item rest ih =>
    have here := absent item (mem_cons_self ..)
    simp [last?, ih fun other among => absent other (mem_cons_of_mem _ among), here]

/-- With distinct keys, the items of a key are the one that is found. -/
theorem filter_eq_toList (distinct : (dict.map Prod.fst).Nodup) (key : α) :
    (dict.filter fun item => item.1 = key).map Prod.snd = (get? dict key).toList := by
  induction dict with
  | nil => rfl
  | cons item rest ih =>
    rw [map_cons, nodup_cons] at distinct
    by_cases same : item.1 = key
    · -- No later item has the key of this one.
      have none_later : (rest.filter fun later => later.1 = key) = [] := by
        rw [filter_eq_nil_iff]
        intro later among equal
        exact distinct.1 (mem_map.mpr ⟨later, among, by
          rw [same]; exact of_decide_eq_true equal⟩)
      simp [same, none_later, get?]
    · simpa [same, get?] using ih distinct.2

/-- With distinct keys, the first item of a key is its last one. -/
theorem get?_eq_last? (distinct : (dict.map Prod.fst).Nodup) (key : α) :
    get? dict key = last? dict key := by
  induction dict with
  | nil => rfl
  | cons item rest ih =>
    rw [map_cons, nodup_cons] at distinct
    by_cases same : item.1 = key
    · have none_later : last? rest key = none := last?_eq_none fun later among equal =>
        distinct.1 (mem_map.mpr ⟨later, among, equal.trans same.symm⟩)
      simp [get?, last?, same, none_later]
    · simp [get?, last?, same, ih distinct.2]

/-- A later item replaces an earlier one, and either replaces what was stored before. -/
theorem get?_update (dict : Dict α β) (items : List (α × β)) (key : α) :
    get? (update dict items) key = (last? items key).or (get? dict key) := by
  induction items generalizing dict with
  | nil => rfl
  | cons item rest ih =>
    have step : update dict (item :: rest) = update (set dict item.1 item.2) rest := rfl
    rw [step, ih, last?, Option.or_assoc]
    congr 1
    -- The item is found if it has the key, and hides what was there.
    by_cases same : item.1 = key
    · subst same
      simp [get?_set_self]
    · simp [get?_set_of_ne dict same, same]

theorem get?_ofItems (items : List (α × β)) (key : α) : get? (ofItems items) key = last? items key := by
  rw [ofItems, get?_update]
  simp [get?]

/-- Storing under a new key appends the item; otherwise the dictionary does not grow. -/
theorem set_cases (dict : Dict α β) (key : α) (value : β) :
    (key ∉ dict.map Prod.fst ∧ set dict key value = dict ++ [(key, value)]) ∨
      (set dict key value).length = dict.length := by
  induction dict with
  | nil => exact .inl ⟨by simp, rfl⟩
  | cons item rest ih =>
    obtain ⟨other, old⟩ := item
    by_cases same : other = key
    · exact .inr (by simp [set, same])
    · rcases ih with ⟨absent, appended⟩ | kept
      · refine .inl ⟨?_, by simp [set, same, appended]⟩
        rw [map_cons, mem_cons, not_or]
        exact ⟨fun equal => same equal.symm, absent⟩
      · exact .inr (by simp [set, same, kept])

theorem length_update_le (dict : Dict α β) (items : List (α × β)) :
    (update dict items).length ≤ dict.length + items.length := by
  induction items generalizing dict with
  | nil => exact Nat.le_refl _
  | cons item rest ih =>
    have bound := ih (set dict item.1 item.2)
    have step : update dict (item :: rest) = update (set dict item.1 item.2) rest := rfl
    rw [step, length_cons]
    -- One item makes the dictionary at most one longer.
    have grown : (set dict item.1 item.2).length ≤ dict.length + 1 := by
      rcases set_cases dict item.1 item.2 with ⟨-, appended⟩ | kept
      · exact Nat.le_of_eq (by rw [appended, length_append, length_singleton])
      · exact kept ▸ Nat.le_succ _
    omega

/-- Nothing was replaced if the dictionary is as long as everything that was stored. -/
theorem update_eq_append (full : (update dict items).length = dict.length + items.length)
    (distinct : (dict.map Prod.fst).Nodup) :
    update dict items = dict ++ items ∧ ((dict ++ items).map Prod.fst).Nodup := by
  induction items generalizing dict with
  | nil => exact ⟨(append_nil dict).symm, by rwa [append_nil]⟩
  | cons item rest ih =>
    have bound := length_update_le (set dict item.1 item.2) rest
    have step : update dict (item :: rest) = update (set dict item.1 item.2) rest := rfl
    rw [step, length_cons] at full
    rcases set_cases dict item.1 item.2 with ⟨absent, appended⟩ | kept
    · rw [appended] at full
      have nodup : ((dict ++ [item]).map Prod.fst).Nodup := by
        rw [map_append, nodup_append]
        refine ⟨distinct, by simp, fun key among other here => ?_⟩
        obtain rfl : other = item.1 := by simpa using here
        exact fun equal => absent (equal ▸ among)
      have longer : (update (dict ++ [item]) rest).length =
          (dict ++ [item]).length + rest.length := by
        rw [full, length_append, length_singleton]
        omega
      obtain ⟨joined, unique⟩ := ih longer nodup
      rw [append_assoc, singleton_append] at joined unique
      rw [step, appended]
      exact ⟨joined, unique⟩
    · rw [kept] at bound
      omega

/-- As many keys as items: the dictionary is the list of items, and they are distinct. -/
theorem ofItems_eq_self (full : items.length = (ofItems items).length) :
    ofItems items = items ∧ (items.map Prod.fst).Nodup := by
  have whole : (update [] items).length = ([] : Dict α β).length + items.length := by
    rw [length_nil, Nat.zero_add]
    exact full.symm
  exact update_eq_append whole nodup_nil

/-! ### Keys -/

/-- Storing a value adds its key at most. -/
theorem mem_keys_set {other : α} (among : other ∈ (set dict key value).map Prod.fst) :
    other = key ∨ other ∈ dict.map Prod.fst := by
  induction dict with
  | nil => exact .inl (by simpa [set] using among)
  | cons item rest ih =>
    obtain ⟨name, old⟩ := item
    by_cases same : name = key
    · -- The item is overwritten in its place.
      rw [set, if_pos same] at among
      rcases mem_cons.mp among with here | later
      · exact .inl here
      · exact .inr (mem_cons_of_mem _ later)
    · rw [set, if_neg same] at among
      rcases mem_cons.mp among with here | later
      · exact .inr (by rw [here]; exact mem_cons_self ..)
      · rcases ih later with new | old
        · exact .inl new
        · exact .inr (mem_cons_of_mem _ old)

theorem nodup_set (distinct : (dict.map Prod.fst).Nodup) (key : α) (value : β) :
    ((set dict key value).map Prod.fst).Nodup := by
  induction dict with
  | nil => simp [set]
  | cons item rest ih =>
    obtain ⟨name, old⟩ := item
    rw [map_cons, nodup_cons] at distinct
    by_cases same : name = key
    · rw [set, if_pos same, map_cons, nodup_cons]
      rw [← same]
      exact distinct
    · rw [set, if_neg same, map_cons, nodup_cons]
      refine ⟨fun among => ?_, ih distinct.2⟩
      -- The key of this item is neither the new one nor a later one.
      rcases mem_keys_set among with new | later
      · exact same new
      · exact distinct.1 later

theorem nodup_update (distinct : (dict.map Prod.fst).Nodup) (items : List (α × β)) :
    ((update dict items).map Prod.fst).Nodup := by
  induction items generalizing dict with
  | nil => exact distinct
  | cons item rest ih => exact ih (nodup_set distinct item.1 item.2)

theorem nodup_pop (distinct : (dict.map Prod.fst).Nodup) (key : α) :
    ((pop dict key).map Prod.fst).Nodup :=
  distinct.sublist (filter_sublist.map Prod.fst)

/-- A removed key is not found. -/
theorem get?_pop_self (dict : Dict α β) (key : α) : get? (pop dict key) key = none := by
  induction dict with
  | nil => rfl
  | cons item rest ih =>
    obtain ⟨name, value⟩ := item
    by_cases same : name = key
    · rw [pop, filter_cons_of_neg (by simp [same])]
      exact ih
    · rw [pop, filter_cons_of_pos (by simp [same]), get?, if_neg same]
      exact ih

/-- Over another dictionary with distinct keys, every key that one has is found there. -/
theorem get?_update_dict {items : Dict α β} (distinct : (items.map Prod.fst).Nodup) (key : α) :
    get? (update dict items) key = (get? items key).or (get? dict key) := by
  rw [get?_update, get?_eq_last? distinct]

end Dict
