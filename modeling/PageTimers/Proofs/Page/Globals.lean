/-
# What the globals of a page hold

The globals are written to by name and read by path.  Two things say all there
is to say of them:

    a name   holds what was set last under it, unless that was removed since
             (`LastSet`, a statement on the history of writes alone)
    a path   leads from a document to a document, one field of an object after
             the other (`Json.Leads`, a statement on the documents alone)

A look-up is the two put together, so it can be cut anywhere: what a longer
path finds is found from where the shorter one has led.  Writing under a name
leaves alone all that begins with another.
-/
import Mathlib.Data.List.Induction
import PageTimers.Proofs.Json.Fields
import PageTimers.Proofs.Program.Contact

namespace PageTimers

/-! ## Paths -/

namespace Json

/-- The path leads from one document to another: every name on it is the name
of a field of an object. -/
inductive Leads : List String → Json → Json → Prop
  | here (document : Json) : Leads [] document document
  | field {name : String} {path : List String} {fields : Fields Json} {value target : Json} :
      fields.get? name = some value → Leads path value target →
      Leads (name :: path) (.object fields) target

theorem descend?_eq_some_iff {path : List String} {document target : Json} :
    document.descend? path = some target ↔ Leads path document target := by
  induction path generalizing document with
  | nil =>
      constructor
      · intro h
        cases h
        exact .here _
      · intro h
        cases h
        rfl
  | cons name path ih =>
      constructor
      · intro h
        obtain ⟨value, hvalue, htarget⟩ := Option.bind_eq_some_iff.mp h
        cases document with
        | object fields => exact .field hvalue (ih.mp htarget)
        | _ => cases hvalue
      · intro h
        cases h with
        | field hvalue htarget =>
            exact Option.bind_eq_some_iff.mpr ⟨_, hvalue, ih.mpr htarget⟩

/-- A path can be followed in two parts. -/
theorem descend?_append (path rest : List String) (document : Json) :
    document.descend? (path ++ rest) = (document.descend? path).bind (descend? rest) := by
  induction path generalizing document with
  | nil => rfl
  | cons name path ih =>
      rw [List.cons_append, descend?, descend?, Option.bind_assoc]
      exact Option.bind_congr fun value _ => ih value

end Json

/-! ## Writes -/

/-- A write to the globals of a page. -/
inductive GlobalWrite
  | set (name : String) (value : Json)
  | remove (name : String)

/-- The name that is written under. -/
def GlobalWrite.name : GlobalWrite → String
  | set name _ => name
  | remove name => name

/-- What it leaves under that name. -/
def GlobalWrite.value? : GlobalWrite → Option Json
  | set _ value => some value
  | remove _ => none

theorem GlobalWrite.value?_eq_some_iff {w : GlobalWrite} {name : String} {value : Json}
    (hname : w.name = name) : w.value? = some value ↔ w = .set name value := by
  subst hname
  cases w with
  | set n v =>
      rw [value?, Option.some.injEq, set.injEq]
      exact ⟨fun h => ⟨rfl, h⟩, And.right⟩
  | remove n =>
      constructor <;> intro h <;> cases h

/-- The last write under the name has set it to this value. -/
def LastSet (history : List GlobalWrite) (name : String) (value : Json) : Prop :=
  ∃ before later, history = before ++ .set name value :: later ∧ ∀ w ∈ later, w.name ≠ name

namespace LastSet

variable {history : List GlobalWrite} {w : GlobalWrite} {name : String} {value : Json}

theorem not_nil : ¬ LastSet [] name value := by
  rintro ⟨before, later, h, -⟩
  exact List.append_ne_nil_of_right_ne_nil before (List.cons_ne_nil _ _) h.symm

/-- A write under another name changes nothing. -/
theorem snoc_iff_of_ne (hname : w.name ≠ name) :
    LastSet (history ++ [w]) name value ↔ LastSet history name value := by
  constructor
  · rintro ⟨before, later, h, hlater⟩
    rcases snoc_eq_append_cons h with ⟨-, hw, -⟩ | ⟨rest, rfl, hhistory⟩
    · exact absurd (congrArg GlobalWrite.name hw.symm) hname
    · exact ⟨before, rest, hhistory, fun w hw => hlater w (List.mem_append_left _ hw)⟩
  · rintro ⟨before, later, rfl, hlater⟩
    refine ⟨before, later ++ [w], by simp, fun w' hw' => ?_⟩
    rcases List.mem_append.mp hw' with hw' | hw'
    · exact hlater w' hw'
    · rw [List.mem_singleton.mp hw']
      exact hname

/-- A write under the name itself is the last one. -/
theorem snoc_iff_of_eq (hname : w.name = name) :
    LastSet (history ++ [w]) name value ↔ w = .set name value := by
  constructor
  · rintro ⟨before, later, h, hlater⟩
    rcases snoc_eq_append_cons h with ⟨-, hw, -⟩ | ⟨rest, rfl, -⟩
    · exact hw.symm
    · exact absurd hname (hlater w (List.mem_append_right _ List.mem_cons_self))
  · rintro rfl
    exact ⟨history, [], rfl, fun _ h => absurd h List.not_mem_nil⟩

end LastSet

namespace Globals

variable {globals : Globals} {w : GlobalWrite} {name : String}

def write (globals : Globals) : GlobalWrite → Globals
  | .set name value => globals.set name value
  | .remove name => globals.remove name

/-- The globals of a page that was written to so. -/
def after (history : List GlobalWrite) : Globals := history.foldl write .empty

theorem get?_write (globals : Globals) (w : GlobalWrite) (name : String) :
    (globals.write w).get? name =
      if w.name = name then w.value? else globals.get? name := by
  cases w with
  | set n value => exact Fields.get?_insert n value globals.values name
  | remove n => exact Fields.get?_erase n globals.values name

theorem get?_after_iff {history : List GlobalWrite} {value : Json} :
    (after history).get? name = some value ↔ LastSet history name value := by
  induction history using List.reverseRecOn with
  | nil =>
      constructor
      · intro h
        cases h
      · exact fun h => absurd h LastSet.not_nil
  | append_singleton history w ih =>
      have hafter : after (history ++ [w]) = (after history).write w := by
        rw [after, List.foldl_append]
        rfl
      rw [hafter, get?_write]
      by_cases hname : w.name = name
      · rw [if_pos hname, LastSet.snoc_iff_of_eq hname]
        exact GlobalWrite.value?_eq_some_iff hname
      · rw [if_neg hname, LastSet.snoc_iff_of_ne hname]
        exact ih

/-- What a longer path finds is found from where the shorter one has led. -/
theorem lookup?_append {path : List String} (hpath : path ≠ []) (rest : List String)
    (globals : Globals) :
    globals.lookup? (path ++ rest) = (globals.lookup? path).bind (Json.descend? rest) := by
  obtain ⟨name, fields, rfl⟩ := List.exists_cons_of_ne_nil hpath
  rw [List.cons_append, lookup?, lookup?, Option.bind_assoc]
  exact Option.bind_congr fun document _ => Json.descend?_append fields rest document

theorem lookup?_write_of_ne (hname : name ≠ w.name) (path : List String) :
    (globals.write w).lookup? (name :: path) = globals.lookup? (name :: path) := by
  rw [lookup?, lookup?, get?_write, if_neg hname.symm]

/-- **The last write counts, and paths compose.**  Whatever was written to the
globals of a page: a name holds the value it was set to last, if it was not
removed since; the empty path finds nothing; a path finds what it leads to from
the value of its first name; a path that is continued finds what the rest leads
to from where it has led itself, and nothing if that is nowhere, or is no object
with a field of the next name; and a write under one name changes no look-up
that begins with another. -/
theorem lookup_after_writes (history : List GlobalWrite) :
    let globals := after history
    (∀ name value, globals.get? name = some value ↔ LastSet history name value) ∧
    globals.lookup? [] = none ∧
    (∀ name fields value, globals.lookup? (name :: fields) = some value ↔
      ∃ document, globals.get? name = some document ∧ Json.Leads fields document value) ∧
    (∀ path rest value, path ≠ [] → (globals.lookup? (path ++ rest) = some value ↔
      ∃ document, globals.lookup? path = some document ∧ Json.Leads rest document value)) ∧
    (∀ path rest, path ≠ [] → globals.lookup? path = none → globals.lookup? (path ++ rest) = none) ∧
    (∀ path document name rest, globals.lookup? path = some document →
      (∀ fields, document = .object fields → Fields.get? name fields = none) →
      globals.lookup? (path ++ name :: rest) = none) ∧
    ∀ (w : GlobalWrite) (name : String) (path : List String), name ≠ w.name →
      (globals.write w).lookup? (name :: path) = globals.lookup? (name :: path) := by
  intro globals
  refine ⟨fun _ _ => get?_after_iff, rfl, fun name fields value => ?_, fun path rest value hpath => ?_,
    fun path rest hpath hnone => ?_, fun path document name rest hdocument hmissing => ?_,
    fun w name path hname => lookup?_write_of_ne hname path⟩
  · rw [lookup?, Option.bind_eq_some_iff]
    simp only [Json.descend?_eq_some_iff]
  · rw [lookup?_append hpath, Option.bind_eq_some_iff]
    simp only [Json.descend?_eq_some_iff]
  · rw [lookup?_append hpath, hnone]
    rfl
  · have hpath : path ≠ [] := by
      rintro rfl
      cases hdocument
    rw [lookup?_append hpath, hdocument, Option.bind_some, Json.descend?]
    cases document with
    | object fields =>
        rw [Json.field?, hmissing fields rfl]
        rfl
    | _ => rfl

end Globals

end PageTimers
