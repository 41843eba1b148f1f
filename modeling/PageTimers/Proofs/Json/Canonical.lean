/-
# Canonical documents

Not every tree of the type `Json` is a document.  The names of an object
ascend, and of the doubles a document has the finite ones only: such trees are
`Canonical`.  What an untyped value is read as is always canonical, and what
is canonical is read as itself:

    value.toJson? = some document     →   document.Canonical
    (ofJson document).toJson?         =   some document

so a canonical document that is taken for an untyped value, to find out what
it is to be, can be had back as it was: no number changes its kind on the way,
and no field its place.
-/
import PageTimers.Decode.Untyped
import PageTimers.Proofs.Json.Fields

namespace PageTimers

def JsonNumber.isFinite : JsonNumber → Bool
  | .real x => x.isFinite
  | _ => true

namespace Json

inductive Canonical : Json → Prop
  | null : Canonical .null
  | bool (b : Bool) : Canonical (.bool b)
  | number {n : JsonNumber} (hfinite : n.isFinite = true) : Canonical (.number n)
  | string (s : String) : Canonical (.string s)
  | array {items : List Json} (hitems : ∀ item ∈ items, Canonical item) : Canonical (.array items)
  | object {fields : Fields Json} (hnames : fields.Ascending)
      (hfields : ∀ field ∈ fields, Canonical field.2) : Canonical (.object fields)

end Json

namespace Untyped

theorem finiteNumber_of_isFinite {n : JsonNumber} (h : n.isFinite = true) :
    finiteNumber n = .number n := by
  cases n with
  | real x => exact if_pos h
  | _ => rfl

theorem canonical_finiteNumber (n : JsonNumber) : (finiteNumber n).Canonical := by
  cases n with
  | real x =>
      rw [finiteNumber]
      split
      · next hfinite => exact .number hfinite
      · exact .null
  | _ => exact .number rfl

/-! ## Canonical documents come back -/

mutual

theorem toJson?_ofJson : ∀ {document : Json}, document.Canonical →
    (ofJson document).toJson? = some document
  | .null, _ => rfl
  | .bool _, _ => rfl
  | .number _, .number hfinite => congrArg some (finiteNumber_of_isFinite hfinite)
  | .string _, _ => rfl
  | .array _, .array hitems => by
      rw [ofJson, toJson?, toJsonItems?_ofJsonItems hitems]
      rfl
  | .object _, .object hnames hfields => by
      rw [ofJson, toJson?, toJsonFields?_ofJsonFields [] hnames hfields]
      rfl

theorem toJsonItems?_ofJsonItems : ∀ {items : List Json}, (∀ item ∈ items, item.Canonical) →
    toJsonItems? (ofJsonItems items) = some items
  | [], _ => rfl
  | item :: rest, h => by
      obtain ⟨hitem, hrest⟩ := List.forall_mem_cons.mp h
      rw [ofJsonItems, toJsonItems?, toJson?_ofJson hitem, toJsonItems?_ofJsonItems hrest]
      rfl

/-- Fields whose names ascend are put behind each other. -/
theorem toJsonFields?_ofJsonFields : ∀ (first : Fields Json) {fields : Fields Json},
    Fields.Ascending (first ++ fields) → (∀ field ∈ fields, field.2.Canonical) →
    toJsonFields? first (ofJsonFields fields) = some (first ++ fields)
  | first, [], _, _ => congrArg some (List.append_nil first).symm
  | first, (name, value) :: rest, hnames, h => by
      obtain ⟨hvalue, hrest⟩ := List.forall_mem_cons.mp h
      have hbefore : ∀ field ∈ first, field.1 < name := fun field hfield =>
        (List.pairwise_append.mp hnames).2.2 field hfield _ List.mem_cons_self
      have hall : first ++ (name, value) :: rest = first.insert name value ++ rest := by
        rw [Fields.insert_last value hbefore, List.append_assoc]
        rfl
      rw [hall] at hnames ⊢
      rw [ofJsonFields, toJsonFields?, toJson?_ofJson hvalue]
      exact toJsonFields?_ofJsonFields _ hnames hrest

end

/-! ## What comes out is canonical -/

mutual

theorem canonical_of_toJson? : ∀ {value : Untyped} {document : Json},
    value.toJson? = some document → document.Canonical
  | .null, _, h => by
      cases h
      exact .null
  | .bool b, _, h => by
      cases h
      exact .bool b
  | .number n, _, h => by
      cases h
      exact canonical_finiteNumber n
  | .string s, _, h => by
      cases h
      exact .string s
  | .list _, _, h => by
      obtain ⟨items, hitems, rfl⟩ := Option.map_eq_some_iff.mp h
      exact .array (canonical_of_toJsonItems? hitems)
  | .map _, _, h => by
      obtain ⟨fields, hfields, rfl⟩ := Option.map_eq_some_iff.mp h
      obtain ⟨hnames, hcanonical⟩ :=
        canonical_of_toJsonFields? .nil (List.forall_mem_nil _) hfields
      exact .object hnames hcanonical

theorem canonical_of_toJsonItems? : ∀ {values : List Untyped} {items : List Json},
    toJsonItems? values = some items → ∀ item ∈ items, item.Canonical
  | [], _, h => by
      cases h
      exact List.forall_mem_nil _
  | value :: rest, _, h => by
      obtain ⟨document, hdocument, h⟩ := Option.bind_eq_some_iff.mp h
      obtain ⟨documents, hdocuments, h⟩ := Option.bind_eq_some_iff.mp h
      cases h
      exact List.forall_mem_cons.mpr
        ⟨canonical_of_toJson? hdocument, canonical_of_toJsonItems? hdocuments⟩

theorem canonical_of_toJsonFields? : ∀ {entries : List (Untyped × Untyped)}
    {first fields : Fields Json}, first.Ascending → (∀ field ∈ first, field.2.Canonical) →
    toJsonFields? first entries = some fields →
    fields.Ascending ∧ ∀ field ∈ fields, field.2.Canonical
  | [], _, _, hnames, hfirst, h => by
      cases h
      exact ⟨hnames, hfirst⟩
  | (.string name, value) :: rest, first, fields, hnames, hfirst, h => by
      rw [toJsonFields?] at h
      obtain ⟨document, hdocument, h⟩ := Option.bind_eq_some_iff.mp h
      refine canonical_of_toJsonFields? (hnames.insert name document) (fun field hfield => ?_) h
      rcases Fields.mem_insert hfield with rfl | hfield
      · exact canonical_of_toJson? hdocument
      · exact hfirst field hfield
  | (.null, _) :: _, _, _, _, _, h | (.bool _, _) :: _, _, _, _, _, h
  | (.number _, _) :: _, _, _, _, _, h | (.list _, _) :: _, _, _, _, _, h
  | (.map _, _) :: _, _, _, _, _, h => by cases h

end

end Untyped

end PageTimers
