/-
# Records read from layers

A record that is given as a group takes each of its parts from the field of
that part, and from nowhere else: part by part, what is read is told by one
look-up (`taken_of_putNamed`), however the fields are mixed with others.  For
this the parts of a record have to be apart, so that setting one is not seen in
another (`RecordPart.Complete`).

Names that are no part's make no difference (`putNamed_erase`).
-/
import Mathlib.Data.List.Nodup
import PageTimers.Proofs.Decode.Records
import PageTimers.Proofs.Layers.Merging

namespace PageTimers

namespace Setting

/-- The value is what is given says, or else what it was. -/
structure Taken {τ : Type} (given : Option Setting) (read : Setting → Except Misfit τ)
    (before value : τ) : Prop where
  unset : given = none → value = before
  set : ∀ setting, given = some setting → read setting = .ok value

theorem Taken.eq {τ : Type} {given : Option Setting} {read : Setting → Except Misfit τ}
    {before value : τ} (h : Taken given read before value) :
    value = (given.bind fun setting => (read setting).toOption).getD before := by
  cases given with
  | none => exact h.unset rfl
  | some setting =>
      rw [Option.bind_some, h.set setting rfl]
      rfl

/-- A part of a record that is read by itself. -/
structure RecordPart (σ : Type) where
  name : String
  Value : Type
  read : Setting → Except Misfit Value
  get : σ → Value
  set : Value → σ → σ

namespace RecordPart

variable {σ : Type}

def field (part : RecordPart σ) : Field Setting Misfit σ :=
  ⟨part.name, false, fun setting record => do return part.set (← part.read setting) record⟩

/-- The fields are those of the parts, and the parts are apart. -/
structure Complete (fields : List (Field Setting Misfit σ)) (parts : List (RecordPart σ)) :
    Prop where
  fields_eq : fields = parts.map field
  distinct : (parts.map (·.name)).Nodup
  get_set : ∀ part ∈ parts, ∀ value record, part.get (part.set value record) = value
  apart : parts.Pairwise fun p q => (∀ value record, q.get (p.set value record) = q.get record) ∧
    ∀ value record, p.get (q.set value record) = p.get record

variable {fields : List (Field Setting Misfit σ)} {parts : List (RecordPart σ)}

namespace Complete

variable (h : Complete fields parts)

include h

theorem get_set_of_ne {part other : RecordPart σ} (hpart : part ∈ parts) (hother : other ∈ parts)
    (hne : other.name ≠ part.name) (value : other.Value) (record : σ) :
    part.get (other.set value record) = part.get record := by
  have hall := h.apart.imp (S := fun p q => p.name ≠ q.name →
    ∀ value record, q.get (p.set value record) = q.get record) fun hpq _ => hpq.1
  have hflip := h.apart.imp (S := fun q p => p.name ≠ q.name →
    ∀ value record, q.get (p.set value record) = q.get record) fun hpq _ => hpq.2
  exact hall.forall_of_forall_of_flip (fun _ _ hne => absurd rfl hne) hflip hother hpart hne value
    record

/-- A name leads to the field of the part with that name, if there is one. -/
theorem find?_eq_some {name : String} {field : Field Setting Misfit σ}
    (hfield : fields.find? (·.name == name) = some field) :
    ∃ part ∈ parts, part.name = name ∧ field = part.field := by
  rw [h.fields_eq] at hfield
  have hname : field.name = name := by simpa using List.find?_some hfield
  obtain ⟨part, hpart, rfl⟩ := List.mem_map.mp (List.mem_of_find?_eq_some hfield)
  exact ⟨part, hpart, hname, rfl⟩

theorem find?_eq_none {name : String} (hfield : fields.find? (·.name == name) = none) :
    ∀ part ∈ parts, part.name ≠ name := by
  intro part hpart hname
  rw [h.fields_eq] at hfield
  exact List.find?_eq_none.mp hfield part.field (List.mem_map_of_mem hpart) (beq_iff_eq.mpr hname)

end Complete

end RecordPart

variable {σ : Type} {fields : List (Field Setting Misfit σ)} {parts : List (RecordPart σ)}

theorem ok_of_under {α : Type} {name : String} {x : Except Misfit α} {a : α}
    (h : Misfit.under name x = .ok a) : x = .ok a := by
  cases x with
  | error _ => cases h
  | ok _ => exact h

/-- Each part of a record is taken from its own field. -/
theorem taken_of_putNamed (h : RecordPart.Complete fields parts) (part : RecordPart σ)
    (hpart : part ∈ parts) {entries : Fields Setting} (hentries : entries.Ascending) :
    ∀ {before after : σ}, putNamed fields before entries = .ok after →
      Taken (entries.get? part.name) part.read (part.get before) (part.get after) := by
  induction entries with
  | nil =>
      intro before after hput
      cases hput
      refine ⟨fun _ => rfl, fun _ hgiven => ?_⟩
      cases hgiven
  | cons entry rest ih =>
      intro before after hput
      obtain ⟨name, setting⟩ := entry
      have hrest := hentries.get?_tail
      have ih := @ih (List.pairwise_cons.mp hentries).2
      rw [putNamed] at hput
      rw [Fields.get?]
      split at hput
      · next hnone =>
        rw [if_neg (h.find?_eq_none hnone part hpart).symm]
        exact ih hput
      · next field hsome =>
        obtain ⟨other, hother, rfl, rfl⟩ := h.find?_eq_some hsome
        obtain ⟨middle, hmiddle, hput⟩ := exists_ok_of_bind hput
        obtain ⟨value, hvalue, hset⟩ := exists_ok_of_bind (ok_of_under hmiddle)
        cases hset
        have hafter := ih hput
        by_cases hname : other.name = part.name
        · obtain rfl := List.inj_on_of_nodup_map h.distinct hother hpart hname
          have hafter := (hafter.unset hrest).trans (h.get_set _ hpart _ _)
          rw [if_pos rfl]
          refine ⟨fun hgiven => ?_, fun _ hgiven => ?_⟩
          · cases hgiven
          · cases hgiven
            exact hafter ▸ hvalue
        · rw [h.get_set_of_ne hpart hother hname] at hafter
          rw [if_neg hname]
          exact hafter

/-- A record can be read if what is given for its parts can. -/
theorem exists_putNamed (h : RecordPart.Complete fields parts) {entries : Fields Setting}
    (hentries : ∀ part ∈ parts, ∀ setting, (part.name, setting) ∈ entries →
      ∃ value, part.read setting = .ok value) :
    ∀ before : σ, ∃ after, putNamed fields before entries = .ok after := by
  induction entries with
  | nil => exact fun before => ⟨before, rfl⟩
  | cons entry rest ih =>
      intro before
      obtain ⟨name, setting⟩ := entry
      have ih := ih fun part hpart setting hsetting =>
        hentries part hpart setting (List.mem_cons_of_mem _ hsetting)
      rw [putNamed]
      split
      · exact ih before
      · next field hsome =>
        obtain ⟨part, hpart, rfl, rfl⟩ := h.find?_eq_some hsome
        obtain ⟨value, hvalue⟩ := hentries part hpart setting List.mem_cons_self
        have hput : part.field.put setting before = .ok (part.set value before) :=
          bind_of_ok hvalue rfl
        rw [hput]
        exact ih _

/-- A name that is none of the record's makes no difference. -/
theorem putNamed_erase {name : String} (h : fields.find? (·.name == name) = none)
    (entries : Fields Setting) :
    ∀ before : σ, putNamed fields before (entries.erase name) = putNamed fields before entries := by
  induction entries with
  | nil => exact fun _ => rfl
  | cons entry rest ih =>
      intro before
      obtain ⟨n, setting⟩ := entry
      by_cases hn : n = name
      · subst hn
        rw [Fields.erase_cons_self, ih, putNamed, h]
      · rw [Fields.erase_cons_of_ne hn, putNamed, putNamed]
        simp only [ih]

end Setting

end PageTimers
