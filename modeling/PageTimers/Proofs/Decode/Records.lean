/-
# Records as objects

A record is written as the object of its fields, and objects have their names
in ascending order, which need not be the order in which the record lists
them.  Reading takes the fields as they come.  This does no harm, because what
a field does to the record is to set its own part, and sets to different parts
commute: `recordOfMap_of_perm` reads a record back from its fields in any
order at all.  What is needed of a type is one list (`Given`): the name of each
field, what is written for it, and what taking it over does to a record.

The other direction is an invariant.  Whatever is kept by each field of a
record, given by name or by position, is kept by the record (`record?_keeps`).
-/
import Mathlib.Data.List.Perm.Basic
import PageTimers.Scenario.Document
import PageTimers.Settings
import PageTimers.Proofs.Json.Canonical

namespace PageTimers

theorem exists_ok_of_bind {α β ε : Type} {x : Except ε α} {f : α → Except ε β} {b : β}
    (h : x >>= f = .ok b) : ∃ a, x = .ok a ∧ f a = .ok b := by
  cases x with
  | error e => cases h
  | ok a => exact ⟨a, rfl, h⟩

theorem bind_of_ok {α β ε : Type} {x : Except ε α} {f : α → Except ε β} {a : α} {result : Except ε β}
    (hx : x = .ok a) (hf : f a = result) : x >>= f = result := by
  rw [hx]
  exact hf

/-- A field of a record, what a document gives for it, and what a record
becomes that takes it over. -/
structure Given (σ : Type) where
  name : String
  value : Json
  set : σ → σ

namespace Given

variable {σ : Type}

def entry (given : Given σ) : String × Json := (given.name, given.value)

def names (givens : List (Given σ)) : List String := givens.map (·.name)

/-- The record that takes over everything. -/
def record (givens : List (Given σ)) (start : σ) : σ :=
  givens.foldl (fun record given => given.set record) start

/-- The field takes over what is given for it, whatever the record is so far. -/
def Fits (field : Field Untyped DecodeError σ) (given : Given σ) : Prop :=
  field.name = given.name ∧
    ∀ record, field.put (.ofJson given.value) record = .ok (given.set record)

/-- A field that reads a value and sets it fits what is read as that value. -/
theorem fits_of_set {τ : Type} {name : String} {required : Bool} {value : Json} {a : τ}
    {read : Untyped → Except DecodeError τ} {set : τ → σ → σ} (h : read (.ofJson value) = .ok a) :
    Fits ⟨name, required, fun value record => do return set (← read value) record⟩
      ⟨name, value, set a⟩ :=
  ⟨rfl, fun _ => bind_of_ok h rfl⟩

/-- Each field of a record is given once, and none sets what another does. -/
structure Complete (fields : List (Field Untyped DecodeError σ)) (givens : List (Given σ)) :
    Prop where
  fits : List.Forall₂ Fits fields givens
  distinct : (names givens).Nodup
  commute : givens.Pairwise fun g h => ∀ record, h.set (g.set record) = g.set (h.set record)

theorem exists_field {fields : List (Field Untyped DecodeError σ)} {givens : List (Given σ)}
    (hfits : List.Forall₂ Fits fields givens) (hnames : (names givens).Nodup)
    {given : Given σ} (hgiven : given ∈ givens) :
    ∃ field, fields.find? (·.name == given.name) = some field ∧ Fits field given := by
  induction hfits with
  | nil => cases hgiven
  | @cons field first fields givens hfit _ ih =>
      obtain ⟨hfirst, hrest⟩ := List.nodup_cons.mp hnames
      rw [List.find?_cons]
      rcases List.mem_cons.mp hgiven with rfl | hgiven
      · refine ⟨field, ?_, hfit⟩
        rw [beq_iff_eq.mpr hfit.1]
      · have hne : (field.name == given.name) = false := by
          refine beq_eq_false_iff_ne.mpr fun he => hfirst (List.mem_map.mpr ⟨given, hgiven, ?_⟩)
          exact he.symm.trans hfit.1
        rw [hne]
        exact ih hrest hgiven

namespace Complete

variable {fields : List (Field Untyped DecodeError σ)} {givens order : List (Given σ)}
  (h : Complete fields givens)

include h

/-- In whatever order it is taken over. -/
theorem record_perm (hperm : order.Perm givens) (start : σ) :
    record order start = record givens start := by
  have hcommute := h.commute.forall_of_forall_of_flip (fun _ _ _ => rfl)
    (h.commute.imp fun hcomm record => (hcomm record).symm)
  exact hperm.foldl_eq'
    (fun g hg g' hg' => hcommute (hperm.subset hg) (hperm.subset hg')) start

/-- No field is missing. -/
theorem mem_names {field : Field Untyped DecodeError σ} (hfield : field ∈ fields) :
    field.name ∈ names givens := by
  obtain ⟨n, hn, rfl⟩ := List.mem_iff_getElem.mp hfield
  have hlength := h.fits.length_eq
  refine List.mem_map.mpr ⟨givens[n], List.getElem_mem _, ?_⟩
  exact (h.fits.get hn (hlength ▸ hn)).1.symm

end Complete

end Given

namespace Untyped

variable {σ : Type} {fields : List (Field Untyped DecodeError σ)} {givens : List (Given σ)}
  {start : σ}

/-! ## Reading back what was written -/

theorem putNamed_known {name : String} {value : Untyped} {field : Field Untyped DecodeError σ}
    {seen : List String} {record record' : σ} {rest : List (Untyped × Untyped)}
    (hfield : fields.find? (·.name == name) = some field) (hname : field.name = name)
    (hnew : name ∉ seen) (hput : field.put value record = .ok record') :
    putNamed fields seen record ((.string name, value) :: rest) =
      putNamed fields (name :: seen) record' rest := by
  have hseen : seen.contains name = false := by simpa using hnew
  have hfound : fieldOf? fields (.string name) = .ok (some field) := congrArg Except.ok hfield
  rw [putNamed, hfound]
  show (if seen.contains field.name then _ else _) = _
  rw [hname, hseen, hput]
  rfl

/-- Fields of different names are taken over one after the other. -/
theorem putNamed_givens (hgivens : ∀ given ∈ givens, ∃ field,
      fields.find? (·.name == given.name) = some field ∧ Given.Fits field given) :
    ∀ (seen : List String) (start : σ), (Given.names givens ++ seen).Nodup →
      putNamed fields seen start (ofJsonFields (givens.map Given.entry)) =
        .ok ((Given.names givens).reverse ++ seen, Given.record givens start) := by
  induction givens with
  | nil => exact fun _ _ _ => rfl
  | cons given rest ih =>
      intro seen start hnew
      obtain ⟨⟨field, hfound, hname, hput⟩, hrest⟩ := List.forall_mem_cons.mp hgivens
      have hmoved : (Given.names rest ++ given.name :: seen).Nodup :=
        List.perm_middle.nodup_iff.mpr hnew
      have hnot : given.name ∉ seen := fun hmem =>
        (List.nodup_cons.mp hnew).1 (List.mem_append_right _ hmem)
      have hfirst : putNamed fields seen start (ofJsonFields ((given :: rest).map Given.entry)) =
          putNamed fields (given.name :: seen) (given.set start)
            (ofJsonFields (rest.map Given.entry)) :=
        putNamed_known hfound hname hnot (hput start)
      rw [hfirst, ih hrest _ _ hmoved, Given.names, Given.names, List.map_cons, List.reverse_cons,
        List.append_assoc]
      rfl

/-- A record is read back from its fields, in whatever order they come. -/
theorem recordOfMap_of_perm (givens : List (Given σ)) (h : Given.Complete fields givens) (start : σ)
    {object : Fields Json} (hobject : object.Perm (givens.map Given.entry)) :
    recordOfMap fields start (ofJsonFields object) = .ok (Given.record givens start) := by
  have hall : List.Forall₂ (fun entry (given : Given σ) => entry = given.entry)
      (givens.map Given.entry) givens :=
    List.forall₂_map_left_iff.mpr (List.forall₂_same.mpr fun _ _ => rfl)
  obtain ⟨order, hentries, hperm⟩ := List.perm_comp_forall₂ hobject hall
  obtain rfl : object = order.map Given.entry := by
    rw [← List.forall₂_eq_eq_eq]
    exact List.forall₂_map_right_iff.mpr hentries
  have hgivens : ∀ given ∈ order, ∃ field,
      fields.find? (·.name == given.name) = some field ∧ Given.Fits field given :=
    fun given hgiven => Given.exists_field h.fits h.distinct (hperm.subset hgiven)
  have hnames : (Given.names order ++ []).Nodup := by
    rw [List.append_nil]
    exact (hperm.map _).nodup_iff.mpr h.distinct
  have hseen : ∀ field ∈ fields, field.name ∈ (Given.names order).reverse ++ [] := by
    intro field hfield
    rw [List.append_nil, List.mem_reverse]
    exact (hperm.map _).symm.subset (h.mem_names hfield)
  have hrequired : fields.find? (fun field => field.required &&
      !((Given.names order).reverse ++ []).contains field.name) = none := by
    refine List.find?_eq_none.mpr fun field hfield => ?_
    rw [List.contains_iff_mem.mpr (hseen field hfield), Bool.not_true, Bool.and_false]
    exact Bool.false_ne_true
  refine bind_of_ok (putNamed_givens hgivens [] start hnames) ?_
  simp only [hrequired, h.record_perm hperm]

/-- In particular from the object that was written. -/
theorem recordOfMap_ofList (givens : List (Given σ)) (h : Given.Complete fields givens) (start : σ) :
    recordOfMap fields start (ofJsonFields (Fields.ofList (givens.map Given.entry))) =
      .ok (Given.record givens start) := by
  refine recordOfMap_of_perm givens h start (Fields.ofList_perm ?_)
  rw [List.map_map]
  exact h.distinct

/-! ## What reading keeps -/

section Keeps

variable {P : σ → Prop} {surplus : Surplus} {what : String} {record : σ}

/-- A record that takes over the field has the property if it had it before. -/
def Keeps (P : σ → Prop) (field : Field Untyped DecodeError σ) : Prop :=
  ∀ value record record', P record → field.put value record = .ok record' → P record'

/-- A field that reads a value and sets it. -/
theorem keeps_of_set {τ : Type} {name : String} {required : Bool}
    {read : Untyped → Except DecodeError τ} {set : τ → σ → σ}
    (h : ∀ value a record, read value = .ok a → P record → P (set a record)) :
    Keeps P ⟨name, required, fun value record => do return set (← read value) record⟩ := by
  intro value record record' hrecord hput
  obtain ⟨a, ha, hput⟩ := exists_ok_of_bind hput
  cases hput
  exact h value a record ha hrecord

theorem mem_of_fieldOf? {key : Untyped} {field : Field Untyped DecodeError σ}
    (h : fieldOf? fields key = .ok (some field)) : field ∈ fields := by
  cases key with
  | string name => exact List.mem_of_find?_eq_some (Except.ok.inj h)
  | number n =>
      cases n with
      | natural n => exact List.mem_of_getElem? (Except.ok.inj h)
      | _ => cases h
  | _ => cases h

variable (hputs : ∀ field ∈ fields, Keeps P field)

include hputs

theorem putNamed_keeps : ∀ {entries : List (Untyped × Untyped)} {seen seen' : List String}
    {start record : σ}, P start → putNamed fields seen start entries = .ok (seen', record) →
    P record
  | [], _, _, _, _, hstart, h => by
      cases h
      exact hstart
  | (key, value) :: rest, seen, _, start, _, hstart, h => by
      obtain ⟨found, hfound, h⟩ := exists_ok_of_bind h
      cases found with
      | none => exact putNamed_keeps hstart h
      | some field =>
          dsimp only at h
          split at h
          · cases h
          · obtain ⟨next, hnext, h⟩ := exists_ok_of_bind h
            exact putNamed_keeps (hputs field (mem_of_fieldOf? hfound) value start next hstart hnext) h

theorem putInOrder_keeps {expected : String} : ∀ {later : List (Field Untyped DecodeError σ)}
    {index : Nat} {items left : List Untyped} {start record : σ}, later ⊆ fields → P start →
    putInOrder expected index later start items = .ok (left, record) → P record
  | [], _, _, _, _, _, _, hstart, h => by
      cases h
      exact hstart
  | field :: later, _, [], _, _, _, hlater, hstart, h => by
      rw [putInOrder] at h
      split at h
      · cases h
      · exact putInOrder_keeps (List.cons_subset.mp hlater).2 hstart h
  | field :: later, _, item :: items, _, start, _, hlater, hstart, h => by
      obtain ⟨hfield, hlater⟩ := List.cons_subset.mp hlater
      obtain ⟨next, hnext, h⟩ := exists_ok_of_bind h
      exact putInOrder_keeps hlater (hputs field hfield item start next hstart hnext) h

/-- What each field keeps, the record keeps. -/
theorem record?_keeps {value : Untyped} (hstart : P start)
    (h : record? surplus what fields start value = .ok record) : P record := by
  cases value with
  | map entries =>
      obtain ⟨⟨seen, last⟩, hlast, h⟩ := exists_ok_of_bind h
      dsimp only at h
      split at h
      · cases h
      · cases h
        exact putNamed_keeps hputs hstart hlast
  | list items =>
      obtain ⟨⟨left, last⟩, hlast, h⟩ := exists_ok_of_bind h
      dsimp only at h
      split at h
      · cases h
        exact putInOrder_keeps hputs (List.Subset.refl fields) hstart hlast
      · cases h
  | _ => cases h

end Keeps

end Untyped

end PageTimers
