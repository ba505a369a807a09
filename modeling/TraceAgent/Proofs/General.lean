import Mathlib.Data.List.Nodup
import TraceAgent.Error

/-! Facts about lists and results that say nothing about tracing. -/

set_option autoImplicit false

namespace TraceAgent

theorem eq_ok_of_map {α β : Type} {result : Except TraceError α} {use : α → β} {value : β}
    (mapped : result.map use = .ok value) : ∃ inner, result = .ok inner ∧ use inner = value := by
  cases result with
  | error error => cases mapped
  | ok inner => exact ⟨inner, rfl, Except.ok.inj mapped⟩

theorem eq_error_of_map {α β : Type} {result : Except TraceError α} {use : α → β}
    {error : TraceError} (fails : result.map use = .error error) : result = .error error := by
  cases result with
  | ok => cases fails
  | error => exact congrArg Except.error (Except.error.inj fails)

theorem getElem?_concat {α : Type} (list : List α) (last : α) (index : Nat) :
    (list ++ [last])[index]? = if index = list.length then some last else list[index]? := by
  split
  next same => rw [same, List.getElem?_concat_length]
  next other =>
    rcases Nat.lt_or_gt_of_ne other with below | above
    · exact List.getElem?_append_left below
    · rw [List.getElem?_eq_none (Nat.le_of_lt above), List.getElem?_eq_none]
      rwa [List.length_append]

theorem filter_eq_singleton {α β : Type} [DecidableEq β] {list : List α} {key : α → β}
    (distinct : (list.map key).Nodup) {one : α} (member : one ∈ list) :
    (list.filter fun other => key other = key one) = [one] := by
  obtain ⟨before, after, rfl⟩ := List.append_of_mem member
  rw [List.map_append, List.map_cons, List.nodup_middle, ← List.map_append] at distinct
  have fresh : ∀ other ∈ before ++ after, key other ≠ key one := fun other listed same =>
    (List.nodup_cons.mp distinct).1 (same ▸ List.mem_map_of_mem listed)
  refine List.filter_eq_cons_iff.mpr ⟨before, after, rfl, ?_, decide_eq_true rfl,
    List.filter_eq_nil_iff.mpr ?_⟩
  · exact fun other listed same =>
      fresh other (List.mem_append_left _ listed) (of_decide_eq_true same)
  · exact fun other listed same =>
      fresh other (List.mem_append_right _ listed) (of_decide_eq_true same)

theorem getElem?_extended {α : Type} {first second : List α} (starts : first <+: second)
    {index : Nat} {one : α} (found : first[index]? = some one) : second[index]? = some one := by
  obtain ⟨bound, rfl⟩ := List.getElem?_eq_some_iff.mp found
  exact List.prefix_iff_getElem?.mp starts index bound

theorem modify_append {α : Type} (first values : List α) (index : Nat) (change : α → α) :
    (first ++ values).modify (first.length + index) change = first ++ values.modify index change := by
  induction first with
  | nil => simp
  | cons head rest ih =>
    rw [List.length_cons, Nat.succ_add]
    exact congrArg (head :: ·) ih

theorem modify_eq_set {α : Type} {values : List α} {index : Nat} {value : α}
    (found : values[index]? = some value) (change : α → α) :
    values.modify index change = values.set index (change value) := by
  refine List.ext_getElem? fun place => ?_
  obtain ⟨within, here⟩ := List.getElem?_eq_some_iff.mp found
  by_cases same : index = place
  · rw [← same, List.getElem?_modify_eq, List.getElem?_set_self within, found]
    rfl
  · rw [List.getElem?_modify_ne _ _ same, List.getElem?_set_ne same]

theorem map_modify {α β : Type} (use : α → β) {change : α → α} {twin : β → β}
    (same : ∀ value, use (change value) = twin (use value)) (values : List α) (index : Nat) :
    (values.modify index change).map use = (values.map use).modify index twin := by
  refine List.ext_getElem? fun place => ?_
  simp only [List.getElem?_map, List.getElem?_modify]
  cases values[place]? with
  | none => rfl
  | some value =>
    by_cases here : index = place <;> simp [here, same]

theorem eraseP_congr {α : Type} {list : List α} {first second : α → Bool}
    (same : ∀ entry ∈ list, first entry = second entry) :
    list.eraseP first = list.eraseP second := by
  induction list with
  | nil => rfl
  | cons head rest ih =>
    rw [List.eraseP_cons, List.eraseP_cons, same head List.mem_cons_self,
      ih fun entry member => same entry (List.mem_cons_of_mem _ member)]

section Dividing

variable {α : Type} [BEq α] (divider : α) (items : List α)

theorem length_splitOn : (items.splitOn divider).length = items.count divider + 1 := by
  induction items with
  | nil => simp
  | cons first rest ih =>
    rw [List.splitOn_cons_eq_if_modifyHead, List.count_cons]
    split <;> simp [ih]

theorem divider_not_mem_splitOn [LawfulBEq α] :
    ∀ part ∈ items.splitOn divider, divider ∉ part := by
  induction items with
  | nil => simp
  | cons first rest ih =>
    rw [List.splitOn_cons_eq_if_modifyHead]
    split
    next => simpa using ih
    next other =>
      intro part member
      obtain ⟨head, tail, parts⟩ := List.exists_cons_of_ne_nil (List.splitOn_ne_nil divider rest)
      rw [parts] at ih member
      rcases List.mem_cons.mp member with rfl | later
      · have apart : divider ≠ first := fun same => other (by simp [same])
        simpa [apart] using ih head List.mem_cons_self
      · exact ih part (List.mem_cons_of_mem _ later)

end Dividing

end TraceAgent
