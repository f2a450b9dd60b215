import CertMint.Keyed

/-! # What keyed lists hold

A keyed list in which every key stands once is a finite map: putting changes the value under one key
only, and what is put into another list wins over what that list had.
-/

namespace CertMint.Keyed

variable {α β : Type}

/-- The keys of a list, in order. -/
def keys (entries : List (α × β)) : List α := entries.map Prod.fst

theorem keys_cons (key : α) (value : β) (rest : List (α × β)) :
    keys ((key, value) :: rest) = key :: keys rest := rfl

theorem keys_append (entries more : List (α × β)) : keys (entries ++ more) = keys entries ++ keys more :=
  List.map_append

theorem mem_keys_of_mem {key : α} {value : β} {entries : List (α × β)} (h : (key, value) ∈ entries) :
    key ∈ keys entries :=
  List.mem_map_of_mem (f := Prod.fst) h

variable [BEq α] [LawfulBEq α] {key k : α} {value : β} {entries : List (α × β)}

theorem mem_of_get?_eq_some (h : get? key entries = some value) : (key, value) ∈ entries := by
  induction entries with
  | nil => cases h
  | cons entry rest ih =>
      obtain ⟨k, v⟩ := entry
      rw [get?] at h
      split at h
      · next same =>
          obtain rfl := eq_of_beq same
          obtain rfl := Option.some.inj h
          exact List.mem_cons_self
      · exact List.mem_cons_of_mem _ (ih h)

theorem get?_eq_none_iff : get? key entries = none ↔ key ∉ keys entries := by
  induction entries with
  | nil => exact ⟨fun _ h => (by cases h), fun _ => rfl⟩
  | cons entry rest ih =>
      obtain ⟨k, v⟩ := entry
      rw [get?, keys, List.map_cons, List.mem_cons, not_or]
      split
      · next same => exact ⟨fun h => (by cases h), fun h => absurd (eq_of_beq same).symm h.1⟩
      · next other => exact ih.trans ⟨fun h => ⟨fun same => other (beq_iff_eq.mpr same.symm), h⟩, And.right⟩

/-- Where every key stands once, what is under a key is what stands beside it. -/
theorem get?_eq_some_iff (once : (keys entries).Nodup) :
    get? key entries = some value ↔ (key, value) ∈ entries := by
  refine ⟨mem_of_get?_eq_some, fun member => ?_⟩
  induction entries with
  | nil => cases member
  | cons entry rest ih =>
      obtain ⟨k, v⟩ := entry
      obtain ⟨fresh, once⟩ := List.nodup_cons.mp once
      rw [get?]
      rcases List.mem_cons.mp member with same | member
      · obtain ⟨rfl, rfl⟩ := Prod.mk.inj same
        exact if_pos (beq_self_eq_true _)
      · have other : ¬(k == key) = true := fun same => by
          obtain rfl := eq_of_beq same
          exact fresh (mem_keys_of_mem member)
        rw [if_neg other]
        exact ih once member

theorem has_eq_false_iff : has key entries = false ↔ key ∉ keys entries := by
  rw [has, Option.isSome_eq_false_iff, Option.isNone_iff_eq_none, get?_eq_none_iff]

/-! ## Putting -/

theorem get?_put (key k : α) (value : β) (entries : List (α × β)) :
    get? k (put key value entries) = if key == k then some value else get? k entries := by
  induction entries with
  | nil => rfl
  | cons entry rest ih =>
      obtain ⟨k', v⟩ := entry
      rw [put]
      split
      · next same =>
          obtain rfl := eq_of_beq same
          rw [get?, get?]
          split <;> rfl
      · next other =>
          rw [get?, get?, ih]
          split
          · next same =>
              obtain rfl := eq_of_beq same
              rw [if_neg fun again => other (beq_iff_eq.mpr (eq_of_beq again).symm)]
          · rfl

theorem mem_keys_put : k ∈ keys (put key value entries) ↔ k = key ∨ k ∈ keys entries := by
  induction entries with
  | nil => simp only [put, keys, List.map_cons, List.map_nil, List.mem_cons]
  | cons entry rest ih =>
      obtain ⟨k', v⟩ := entry
      rw [put]
      split
      · next same =>
          obtain rfl := eq_of_beq same
          simp only [keys, List.map_cons, List.mem_cons, or_self_left]
      · simp only [keys, List.map_cons, List.mem_cons] at ih ⊢
        rw [ih, or_left_comm]

theorem nodup_keys_put (once : (keys entries).Nodup) : (keys (put key value entries)).Nodup := by
  induction entries with
  | nil => exact List.nodup_cons.mpr ⟨List.not_mem_nil, List.nodup_nil⟩
  | cons entry rest ih =>
      obtain ⟨k, v⟩ := entry
      obtain ⟨fresh, once'⟩ := List.nodup_cons.mp once
      rw [put]
      split
      · exact once
      · next other =>
          refine List.nodup_cons.mpr ⟨fun member => ?_, ih once'⟩
          rcases mem_keys_put.mp member with same | member
          · exact other (beq_iff_eq.mpr same)
          · exact fresh member

omit [LawfulBEq α] in
theorem keys_modify (f : β → β) : keys (modify key f entries) = keys entries := by
  induction entries with
  | nil => rfl
  | cons entry rest ih =>
      obtain ⟨k, v⟩ := entry
      rw [modify]
      split
      · rfl
      · exact congrArg (k :: ·) ih

omit [LawfulBEq α] in
/-- What stands in a changed list stood there before, changed or not. -/
theorem exists_of_mem_modify {f : β → β} (h : (k, value) ∈ modify key f entries) :
    ∃ before, (k, before) ∈ entries ∧ (value = before ∨ value = f before) := by
  induction entries with
  | nil => cases h
  | cons entry rest ih =>
      obtain ⟨k', v⟩ := entry
      rw [modify] at h
      split at h
      · rcases List.mem_cons.mp h with same | member
        · obtain ⟨rfl, rfl⟩ := Prod.mk.inj same
          exact ⟨_, List.mem_cons_self, .inr rfl⟩
        · exact ⟨value, List.mem_cons_of_mem _ member, .inl rfl⟩
      · rcases List.mem_cons.mp h with same | member
        · obtain ⟨rfl, rfl⟩ := Prod.mk.inj same
          exact ⟨_, List.mem_cons_self, .inl rfl⟩
        · obtain ⟨before, member, same⟩ := ih member
          exact ⟨before, List.mem_cons_of_mem _ member, same⟩

/-- What is put in wins over what was there. -/
theorem get?_putAll {into : List (α × β)} (once : (keys entries).Nodup) :
    get? k (putAll entries into) = (get? k entries).or (get? k into) := by
  induction entries generalizing into with
  | nil => rfl
  | cons entry rest ih =>
      obtain ⟨key, v⟩ := entry
      obtain ⟨fresh, once⟩ := List.nodup_cons.mp once
      have step : putAll ((key, v) :: rest) into = putAll rest (put key v into) := rfl
      rw [step, ih once, get?_put, get?]
      split
      · next same =>
          obtain rfl := eq_of_beq same
          rw [get?_eq_none_iff.mpr fresh]
          rfl
      · rfl

theorem mem_keys_putAll {into : List (α × β)} :
    k ∈ keys (putAll entries into) ↔ k ∈ keys entries ∨ k ∈ keys into := by
  induction entries generalizing into with
  | nil => exact ⟨.inr, fun h => h.resolve_left List.not_mem_nil⟩
  | cons entry rest ih =>
      obtain ⟨key, v⟩ := entry
      have step : putAll ((key, v) :: rest) into = putAll rest (put key v into) := rfl
      rw [step, ih, mem_keys_put, keys_cons, List.mem_cons, ← or_assoc, or_comm (a := k ∈ keys rest)]

theorem nodup_keys_putAll {into : List (α × β)} (once : (keys into).Nodup) :
    (keys (putAll entries into)).Nodup := by
  induction entries generalizing into with
  | nil => exact once
  | cons entry rest ih => exact ih (nodup_keys_put once)

/-! ## Adding at the end -/

theorem put_of_not_mem (fresh : key ∉ keys entries) :
    put key value entries = entries ++ [(key, value)] := by
  induction entries with
  | nil => rfl
  | cons entry rest ih =>
      obtain ⟨k, v⟩ := entry
      obtain ⟨other, fresh⟩ := not_or.mp (mt List.mem_cons.mpr fresh)
      rw [put, if_neg fun same => other (eq_of_beq same).symm, ih fresh, List.cons_append]

omit [BEq α] [LawfulBEq α] in
theorem not_mem_keys_of_nodup {rest : List (α × β)} (once : (keys (entries ++ (key, value) :: rest)).Nodup) :
    key ∉ keys entries := by
  rw [keys_append, keys_cons, List.nodup_append] at once
  intro used
  exact once.2.2 key used key List.mem_cons_self rfl

theorem modify_append_of_not_mem (fresh : key ∉ keys entries) (f : β → β) :
    modify key f (entries ++ [(key, value)]) = entries ++ [(key, f value)] := by
  induction entries with
  | nil => exact if_pos (beq_self_eq_true _)
  | cons entry rest ih =>
      obtain ⟨k, v⟩ := entry
      obtain ⟨other, fresh⟩ := not_or.mp (mt List.mem_cons.mpr fresh)
      rw [List.cons_append, modify, if_neg fun same => other (eq_of_beq same).symm, ih fresh,
        List.cons_append]

omit [LawfulBEq α] in
theorem putAll_append (more into : List (α × β)) :
    putAll (entries ++ more) into = putAll more (putAll entries into) :=
  List.foldl_append

/-- Putting keys that are new and stand once. -/
theorem putAll_of_disjoint {into : List (α × β)} (once : (keys (into ++ entries)).Nodup) :
    putAll entries into = into ++ entries := by
  induction entries generalizing into with
  | nil => exact (List.append_nil _).symm
  | cons entry rest ih =>
      obtain ⟨k, v⟩ := entry
      have fresh : k ∉ keys into := not_mem_keys_of_nodup once
      have step : putAll ((k, v) :: rest) into = putAll rest (put k v into) := rfl
      rw [List.append_cons] at once
      rw [step, put_of_not_mem fresh, ih once, ← List.append_cons]

/-! ## Values -/

section MapValues

variable {γ : Type} (g : β → γ)

/-- The list with every value replaced. -/
def mapValues (entries : List (α × β)) : List (α × γ) := entries.map fun (k, v) => (k, g v)

omit [BEq α] [LawfulBEq α] in
theorem keys_mapValues (entries : List (α × β)) : keys (mapValues g entries) = keys entries := by
  simp only [keys, mapValues, List.map_map, Function.comp_def]

omit [LawfulBEq α] in
theorem mapValues_put (key : α) (value : β) (entries : List (α × β)) :
    mapValues g (put key value entries) = put key (g value) (mapValues g entries) := by
  induction entries with
  | nil => rfl
  | cons entry rest ih =>
      obtain ⟨k, v⟩ := entry
      rw [put]
      change _ = put key (g value) ((k, g v) :: mapValues g rest)
      rw [put]
      split
      · rfl
      · exact congrArg ((k, g v) :: ·) ih

omit [LawfulBEq α] in
theorem mapValues_modify {f : β → β} {f' : γ → γ} (same : ∀ v, g (f v) = f' (g v)) (key : α)
    (entries : List (α × β)) : mapValues g (modify key f entries) = modify key f' (mapValues g entries) := by
  induction entries with
  | nil => rfl
  | cons entry rest ih =>
      obtain ⟨k, v⟩ := entry
      rw [modify]
      change _ = modify key f' ((k, g v) :: mapValues g rest)
      rw [modify]
      split
      · exact congrArg (fun w => (k, w) :: mapValues g rest) (same v)
      · exact congrArg ((k, g v) :: ·) ih

omit [LawfulBEq α] in
theorem modify_id (key : α) (entries : List (α × β)) : modify key id entries = entries := by
  induction entries with
  | nil => rfl
  | cons entry rest ih =>
      obtain ⟨k, v⟩ := entry
      rw [modify]
      split
      · rfl
      · exact congrArg ((k, v) :: ·) ih

omit [LawfulBEq α] in
/-- A change that does not show leaves the list as it is. -/
theorem mapValues_modify_of_same {f : β → β} (same : ∀ v, g (f v) = g v) (key : α)
    (entries : List (α × β)) : mapValues g (modify key f entries) = mapValues g entries := by
  have kept : ∀ v, g (f v) = id (g v) := same
  rw [mapValues_modify g kept, modify_id]

end MapValues

end CertMint.Keyed
