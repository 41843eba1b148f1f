/-
# Lists of named fields

What the operations on `Fields` do to the view `get?`, which is how everything
else reads a list of fields:

    (fields.insert name value).get? other    value, if `other` is `name`
    (fields.erase name).get? other           nothing, if `other` is `name`

and to the names, which ascend (`Ascending`).  Of the lists that hold the same
fields only one ascends, so two ways to build an object that agree on its
fields build the same object.  A name that comes after all others is put at
the end (`insert_last`): a list that ascends is built from itself.
-/
import PageTimers.Json.Basic

namespace PageTimers

namespace Fields

variable {α : Type} {name other : String} {value : α} {fields : Fields α}

/-! ## Names and values -/

theorem get?_insert (name : String) (value : α) (fields : Fields α) (other : String) :
    (fields.insert name value).get? other = if name = other then some value else fields.get? other := by
  induction fields with
  | nil => rfl
  | cons field rest ih =>
      obtain ⟨n, v⟩ := field
      rw [insert]
      split
      · rfl
      · split
        · next hn =>
          subst hn
          simp only [get?]
          split <;> rfl
        · next hn =>
          simp only [get?, ih]
          by_cases hother : n = other
          · subst hother
            rw [if_pos rfl, if_neg hn, if_pos rfl]
          · rw [if_neg hother, if_neg hother]

theorem erase_cons_self (name : String) (value : α) (rest : Fields α) :
    erase name ((name, value) :: rest) = erase name rest :=
  List.filter_cons_of_neg (by simp)

theorem erase_cons_of_ne (h : other ≠ name) (value : α) (rest : Fields α) :
    erase name ((other, value) :: rest) = (other, value) :: erase name rest :=
  List.filter_cons_of_pos (by simpa using h)

theorem get?_erase (name : String) (fields : Fields α) (other : String) :
    (fields.erase name).get? other = if name = other then none else fields.get? other := by
  induction fields with
  | nil => exact (ite_self none).symm
  | cons field rest ih =>
      obtain ⟨n, v⟩ := field
      by_cases hn : n = name
      · subst hn
        rw [erase_cons_self, ih, get?]
        by_cases hother : n = other
        · rw [if_pos hother, if_pos hother]
        · rw [if_neg hother, if_neg hother, if_neg hother]
      · rw [erase_cons_of_ne hn, get?, ih, get?]
        by_cases hother : n = other
        · rw [if_pos hother, if_pos hother, if_neg (hother ▸ Ne.symm hn)]
        · rw [if_neg hother, if_neg hother]

theorem mem_of_get? (h : fields.get? name = some value) : (name, value) ∈ fields := by
  induction fields with
  | nil => cases h
  | cons field rest ih =>
      obtain ⟨n, v⟩ := field
      rw [get?] at h
      split at h
      · next hn =>
        cases h
        exact hn ▸ List.mem_cons_self
      · exact List.mem_cons_of_mem _ (ih h)

theorem mem_insert {field : String × α} (h : field ∈ fields.insert name value) :
    field = (name, value) ∨ field ∈ fields := by
  induction fields with
  | nil => exact Or.inl (List.mem_singleton.mp h)
  | cons first rest ih =>
      obtain ⟨n, v⟩ := first
      rw [insert] at h
      split at h
      · exact List.mem_cons.mp h
      · split at h
        · exact (List.mem_cons.mp h).imp_right (List.mem_cons_of_mem _)
        · rcases List.mem_cons.mp h with rfl | h
          · exact Or.inr List.mem_cons_self
          · exact (ih h).imp_right (List.mem_cons_of_mem _)

/-! ## Their order -/

/-- The names ascend, so none is there twice. -/
def Ascending (fields : Fields α) : Prop := fields.Pairwise fun f g => f.1 < g.1

theorem Ascending.insert (h : Ascending fields) (name : String) (value : α) :
    Ascending (fields.insert name value) := by
  induction fields with
  | nil => exact List.pairwise_singleton _ _
  | cons first rest ih =>
      obtain ⟨n, v⟩ := first
      obtain ⟨hfirst, hrest⟩ := List.pairwise_cons.mp h
      rw [Fields.insert]
      split
      · next hlt =>
        refine List.pairwise_cons.mpr ⟨fun field hfield => ?_, h⟩
        rcases List.mem_cons.mp hfield with rfl | hfield
        · exact hlt
        · exact String.lt_trans hlt (hfirst field hfield)
      · next hnotlt =>
        split
        · next hname =>
          subst hname
          exact List.pairwise_cons.mpr ⟨hfirst, hrest⟩
        · next hne =>
          have hgt : n < name := by
            refine Std.lt_of_le_of_ne (Std.not_lt.mp hnotlt) (Ne.symm hne)
          refine List.pairwise_cons.mpr ⟨fun field hfield => ?_, ih hrest⟩
          rcases mem_insert hfield with rfl | hfield
          · exact hgt
          · exact hfirst field hfield

theorem Ascending.ofList (assignments : List (String × α)) : Ascending (ofList assignments) := by
  suffices h : ∀ fields : Fields α, Ascending fields →
      Ascending (assignments.foldl (fun fields f => fields.insert f.1 f.2) fields) from
    h [] List.Pairwise.nil
  induction assignments with
  | nil => exact fun _ h => h
  | cons assignment rest ih => exact fun fields h => ih _ (h.insert _ _)

theorem mem_of_ofList {assignments : List (String × α)} {field : String × α}
    (h : field ∈ ofList assignments) : field ∈ assignments := by
  suffices hfold : ∀ fields : Fields α,
      field ∈ assignments.foldl (fun fields f => fields.insert f.1 f.2) fields →
      field ∈ fields ∨ field ∈ assignments from (hfold [] h).resolve_left List.not_mem_nil
  clear h
  induction assignments with
  | nil => exact fun _ h => Or.inl h
  | cons assignment rest ih =>
      intro fields h
      rcases ih _ h with h | h
      · rcases mem_insert h with rfl | h
        · exact Or.inr List.mem_cons_self
        · exact Or.inl h
      · exact Or.inr (List.mem_cons_of_mem _ h)

/-- A name that comes after all others is put at the end. -/
theorem insert_last (value : α) (h : ∀ field ∈ fields, field.1 < name) :
    fields.insert name value = fields ++ [(name, value)] := by
  induction fields with
  | nil => rfl
  | cons first rest ih =>
      obtain ⟨n, v⟩ := first
      obtain ⟨hn, hrest⟩ := List.forall_mem_cons.mp h
      have hne : name ≠ n := fun he => String.lt_irrefl n (he ▸ hn)
      rw [insert, if_neg (String.lt_asymm hn), if_neg hne, ih hrest]
      rfl

/-- A new name is put in somewhere. -/
theorem insert_perm (value : α) (h : name ∉ fields.map (·.1)) :
    (fields.insert name value).Perm ((name, value) :: fields) := by
  induction fields with
  | nil => exact List.Perm.refl _
  | cons first rest ih =>
      obtain ⟨n, v⟩ := first
      have hne : name ≠ n := fun he => h (he ▸ List.mem_cons_self)
      rw [insert, if_neg hne]
      split
      · exact List.Perm.refl _
      · exact ((ih fun hmem => h (List.mem_cons_of_mem _ hmem)).cons _).trans (.swap _ _ _)

/-- Of assignments to different names none is lost. -/
theorem ofList_perm {assignments : List (String × α)} (h : (assignments.map (·.1)).Nodup) :
    (ofList assignments).Perm assignments := by
  suffices hfold : ∀ fields : Fields α, ((assignments ++ fields).map (·.1)).Nodup →
      (assignments.foldl (fun fields f => fields.insert f.1 f.2) fields).Perm
        (assignments ++ fields) by
    have hall := hfold []
    rw [List.append_nil] at hall
    exact hall h
  clear h
  induction assignments with
  | nil => exact fun fields _ => List.Perm.refl fields
  | cons assignment rest ih =>
      intro fields h
      obtain ⟨n, v⟩ := assignment
      rw [List.cons_append, List.map_cons, List.nodup_cons, List.map_append] at h
      have hnew : n ∉ fields.map (·.1) := fun hmem => h.1 (List.mem_append_right _ hmem)
      have hinsert : (rest ++ fields.insert n v).Perm ((n, v) :: (rest ++ fields)) :=
        ((insert_perm v hnew).append_left rest).trans List.perm_middle
      refine (ih _ ((hinsert.map (·.1)).nodup_iff.mpr ?_)).trans hinsert
      rw [List.map_cons, List.nodup_cons, List.map_append]
      exact h

/-- Where names ascend, a field that is there is the one that is found. -/
theorem Ascending.get?_of_mem (h : Ascending fields) (hmem : (name, value) ∈ fields) :
    fields.get? name = some value := by
  induction fields with
  | nil => cases hmem
  | cons first rest ih =>
      obtain ⟨n, v⟩ := first
      obtain ⟨hfirst, hrest⟩ := List.pairwise_cons.mp h
      rw [get?]
      rcases List.mem_cons.mp hmem with heq | hmem
      · cases heq
        exact if_pos rfl
      · rw [if_neg fun he => String.lt_irrefl n (by simpa [he] using hfirst _ hmem)]
        exact ih hrest hmem

theorem Ascending.get?_tail (h : Ascending ((name, value) :: fields)) : fields.get? name = none := by
  cases hget : fields.get? name with
  | none => rfl
  | some value' =>
      exact absurd ((List.pairwise_cons.mp h).1 _ (mem_of_get? hget)) (String.lt_irrefl name)

theorem Ascending.get?_eq_some_iff (h : Ascending fields) :
    fields.get? name = some value ↔ (name, value) ∈ fields :=
  ⟨mem_of_get?, h.get?_of_mem⟩

theorem Ascending.erase (h : Ascending fields) (name : String) : Ascending (fields.erase name) :=
  List.Pairwise.filter _ h

theorem Ascending.nodup (h : Ascending fields) : fields.Nodup :=
  List.Pairwise.imp (S := (· ≠ ·)) (fun hlt he => String.lt_irrefl _ (he ▸ hlt)) h

/-- Lists that ascend are equal if the same fields are found in them. -/
theorem Ascending.ext {fields' : Fields α} (h : Ascending fields) (h' : Ascending fields')
    (hget : ∀ name, fields.get? name = fields'.get? name) : fields = fields' := by
  have hperm : fields.Perm fields' := by
    refine (List.perm_ext_iff_of_nodup h.nodup h'.nodup).mpr fun field => ?_
    obtain ⟨n, v⟩ := field
    rw [← h.get?_eq_some_iff, ← h'.get?_eq_some_iff, hget]
  exact hperm.eq_of_pairwise (fun _ _ _ _ hlt hgt => absurd hgt (String.lt_asymm hlt)) h h'

end Fields

end PageTimers
