/-
# Layers laid over each other

What laying one layer over another does is seen field by field:

    (fieldsLaidOn upper lower).get? name   =   laidOn? (upper.get? name) (lower.get? name)

so whole stacks can be told by one field at a time (`get?_stack`), and what a
layer does not set, it leaves as it is (`get?_stack_of_unset`).  The names of
what comes out ascend (`ascending_stack`), and so do those of every group at its
top level (`Sorted`): files, the environment and merging build groups by
`Fields.insert` and in no other way.
-/
import PageTimers.Layers.Load
import PageTimers.Proofs.Json.Fields

namespace PageTimers

namespace Setting

variable {upper lower : Setting}

/-- What is found under a name, where one layer lies over another. -/
def laidOn? : (upper : Option Setting) → (lower : Option Setting) → Option Setting
  | some upper, some lower => some (upper.laidOn lower)
  | some upper, none => some upper
  | none, lower => lower

theorem get?_fieldsLaidOn (name : String) (upper lower : Fields Setting) :
    (fieldsLaidOn upper lower).get? name = laidOn? (upper.get? name) (lower.get? name) := by
  induction upper with
  | nil => rfl
  | cons field rest ih =>
      obtain ⟨n, value⟩ := field
      rw [fieldsLaidOn, Fields.get?_insert, ih, Fields.get?]
      by_cases hn : n = name
      · subst hn
        rw [if_pos rfl, if_pos rfl]
        cases lower.get? n <;> rfl
      · rw [if_neg hn, if_neg hn]

theorem ascending_fieldsLaidOn (upper : Fields Setting) {lower : Fields Setting}
    (h : lower.Ascending) : (fieldsLaidOn upper lower).Ascending := by
  induction upper with
  | nil => exact h
  | cons field rest ih =>
      rw [fieldsLaidOn]
      exact ih.insert _ _

/-- If it is a group, its names ascend. -/
def Sorted (setting : Setting) : Prop :=
  ∀ fields : Fields Setting, setting = .group fields → fields.Ascending

theorem Sorted.laidOn (hupper : upper.Sorted) (hlower : lower.Sorted) :
    (upper.laidOn lower).Sorted := by
  unfold Setting.laidOn
  split
  · intro fields h
    cases h
    exact ascending_fieldsLaidOn _ (hlower _ rfl)
  · exact hupper

end Setting

namespace Layer

open Setting

variable {layers : List Layer} {upper lower : Layer}

theorem stack_concat (layers : List Layer) (top : Layer) :
    stack (layers ++ [top]) = fieldsLaidOn top (stack layers) := by
  rw [stack, List.foldl_append]
  rfl

/-- One field of a stack is told by that field of the layers. -/
theorem get?_stack (layers : List Layer) (name : String) : (stack layers).get? name =
    layers.foldl (fun lower layer => laidOn? (layer.get? name) lower) none := by
  suffices h : ∀ lower : Layer,
      (layers.foldl (fun lower upper => fieldsLaidOn upper lower) lower).get? name =
        layers.foldl (fun lower layer => laidOn? (layer.get? name) lower) (lower.get? name) from h []
  induction layers with
  | nil => exact fun _ => rfl
  | cons top rest ih =>
      intro lower
      rw [List.foldl_cons, List.foldl_cons, ih, get?_fieldsLaidOn]

/-- A layer that does not set a field makes no difference to it. -/
theorem get?_stack_of_unset {layer : Layer} {name : String} (h : layer.get? name = none)
    (below above : List Layer) :
    (stack (below ++ layer :: above)).get? name = (stack (below ++ above)).get? name := by
  rw [get?_stack, get?_stack, List.foldl_append, List.foldl_append, List.foldl_cons, h]
  rfl

theorem ascending_stack (layers : List Layer) : (stack layers).Ascending := by
  suffices h : ∀ lower : Layer, lower.Ascending →
      (layers.foldl (fun lower upper => fieldsLaidOn upper lower) lower).Ascending from h [] .nil
  induction layers with
  | nil => exact fun _ h => h
  | cons top rest ih => exact fun lower h => ih _ (ascending_fieldsLaidOn top h)

/-- The groups at the top level are sorted. -/
def Sorted (layer : Layer) : Prop := ∀ name setting, layer.get? name = some setting → setting.Sorted

theorem Sorted.fieldsLaidOn (hupper : upper.Sorted) (hlower : lower.Sorted) :
    Layer.Sorted (fieldsLaidOn upper lower) := by
  intro name setting h
  rw [get?_fieldsLaidOn] at h
  cases hu : upper.get? name with
  | none =>
      rw [hu] at h
      exact hlower name setting h
  | some above =>
      cases hl : lower.get? name with
      | none =>
          rw [hu, hl] at h
          cases h
          exact hupper name _ hu
      | some below =>
          rw [hu, hl] at h
          cases h
          exact (hupper name _ hu).laidOn (hlower name _ hl)

theorem sorted_stack (h : ∀ layer ∈ layers, layer.Sorted) : (stack layers).Sorted := by
  suffices hfold : ∀ lower : Layer, lower.Sorted →
      Layer.Sorted (layers.foldl (fun lower upper => Setting.fieldsLaidOn upper lower) lower) from
    hfold [] fun _ _ hget => nomatch hget
  induction layers with
  | nil => exact fun _ hlower => hlower
  | cons top rest ih =>
      obtain ⟨htop, hrest⟩ := List.forall_mem_cons.mp h
      exact fun lower hlower => ih hrest _ (htop.fieldsLaidOn hlower)

end Layer

end PageTimers
