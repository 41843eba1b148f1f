/-
# What the layers are made of

A file gives a layer by way of YAML, a variable of the environment by way of an
expression; whatever groups there are, their names ascend (`sorted_ofYaml?`,
`sorted_layer`).  For files this is a statement about every result that looking
at a document can have (`Look.Yields`).

Which file counts is decided by `Disk.nearest?`, and the relation `Supplies`
says it without recursion: of the places that a path is looked for in, the
current directory and its parents one after the other, the first that has a
file.
-/
import Mathlib.Data.List.Infix
import PageTimers.Proofs.Layers.Merging

namespace PageTimers

/-! ## Files of settings -/

namespace Yaml.Look

variable {α β : Type}

/-- Whatever is seen, it has the property. -/
def Yields (look : Look α) (P : α → Prop) : Prop :=
  ∀ document left a left', look document left = some (a, left') → P a

theorem Yields.pure {P : α → Prop} {a : α} (h : P a) : Yields (Pure.pure a) P := by
  intro _ _ _ _ hlook
  cases hlook
  exact h

theorem Yields.failure {P : α → Prop} : Yields failure P := by
  intro _ _ _ _ hlook
  cases hlook

theorem Yields.bind {x : Look α} {f : α → Look β} {P : β → Prop} {Q : α → Prop}
    (hx : Yields x Q) (hf : ∀ a, Q a → Yields (f a) P) : Yields (x >>= f) P := by
  intro document left b left' hlook
  obtain ⟨⟨a, middle⟩, hfirst, hrest⟩ := Option.bind_eq_some_iff.mp hlook
  exact hf a (hx _ _ _ _ hfirst) _ _ _ _ hrest

theorem Yields.trivial (x : Look α) : Yields x fun _ => True := fun _ _ _ _ _ => True.intro

theorem Yields.mapM {f : α → Look β} {P : β → Prop} {items : List α}
    (h : ∀ a ∈ items, Yields (f a) P) : Yields (items.mapM f) fun results => ∀ b ∈ results, P b := by
  induction items with
  | nil => exact .pure (List.forall_mem_nil _)
  | cons a rest ih =>
      obtain ⟨ha, hrest⟩ := List.forall_mem_cons.mp h
      rw [List.mapM_cons]
      exact .bind ha fun b hb => .bind (ih hrest) fun _ hlater =>
        .pure (List.forall_mem_cons.mpr ⟨hb, hlater⟩)

theorem scalarSetting_yields_sorted (tag : Option String) (s : String) (isPlain : Bool) :
    (scalarSetting tag s isPlain).Yields Setting.Sorted := by
  unfold scalarSetting
  split
  · exact .failure
  · next value _ =>
    refine .pure fun fields h => ?_
    cases value with
    | int n =>
        rw [ScalarValue.setting] at h
        split at h <;> cases h
    | _ => cases h

theorem list_yields_sorted (items : Look (List Setting)) :
    (do return Setting.list (← items)).Yields Setting.Sorted :=
  .bind (.trivial items) fun _ _ => .pure fun _ h => nomatch h

theorem group_yields_sorted (fields : Look (List (String × Setting))) :
    (do return Setting.group (Fields.ofList (← fields))).Yields Setting.Sorted := by
  refine .bind (.trivial fields) fun _ _ => .pure fun _ h => ?_
  cases h
  exact .ofList _

theorem setting_yields_sorted (depth : Nat) (node : Node) :
    (setting depth node).Yields Setting.Sorted := by
  unfold setting
  split
  · refine .bind (.trivial _) fun node _ => ?_
    split
    · exact scalarSetting_yields_sorted _ _ _
    · exact .failure
  · refine .bind (.trivial _) fun node _ => ?_
    split
    · exact scalarSetting_yields_sorted _ _ _
    · split
      · exact .bind (.trivial _) fun _ _ => list_yields_sorted _
      · exact list_yields_sorted _
    · split
      · exact .bind (.trivial _) fun _ _ => group_yields_sorted _
      · exact group_yields_sorted _
    · exact .failure

theorem layer_yields_sorted (root : Option Node) : (layer root).Yields Layer.Sorted := by
  have hempty : Layer.Sorted [] := fun _ _ h => nomatch h
  unfold layer
  cases root with
  | none => exact .pure hempty
  | some root =>
      refine .bind (.trivial _) fun node _ => ?_
      split
      · refine .bind (Yields.mapM (P := fun field => field.2.Sorted) fun entry _ => ?_)
          fun fields hfields => .pure fun name setting h => ?_
        · exact .bind (.trivial _) fun _ _ =>
            .bind (setting_yields_sorted _ _) fun _ hvalue => .pure hvalue
        · exact hfields _ (Fields.mem_of_ofList (Fields.mem_of_get? h))
      · exact .pure hempty
      · exact .failure

end Yaml.Look

theorem Layer.sorted_ofYaml? {content : String} {layer : Layer} (h : ofYaml? content = some layer) :
    layer.Sorted := by
  obtain ⟨document, -, h⟩ := Option.bind_eq_some_iff.mp h
  obtain ⟨⟨_, left⟩, hlook, rfl⟩ := Option.map_eq_some_iff.mp h
  exact Yaml.Look.layer_yields_sorted _ _ _ _ _ hlook

/-! ### Where they are looked for -/

namespace Disk

/-- The directories from which a path is followed, one after the other. -/
def lookedIn (path : String) (directory : Directory) : List Directory :=
  if isAbsolute path then [directory] else directory.tails

theorem nearest?_eq_find? (disk : Disk) (path : String) (directory : Directory) :
    disk.nearest? path directory =
      ((lookedIn path directory).map (disk · path)).find? DiskEntry.isFile := by
  unfold lookedIn
  induction directory with
  | nil =>
      rw [nearest?, List.tails, ite_self, List.map_singleton, List.find?_singleton]
  | cons name parent ih =>
      rw [nearest?, ih]
      by_cases habsolute : isAbsolute path = true
      · rw [if_pos habsolute, if_pos habsolute, List.map_singleton, List.find?_singleton]
      · rw [if_neg habsolute, if_neg habsolute, if_neg habsolute, List.tails, List.map_cons,
          List.find?_cons]
        cases (disk (name :: parent) path).isFile <;> rfl

theorem find?_eq_none_iff {disk : Disk} {path : String} {places : List Directory} :
    (places.map (disk · path)).find? DiskEntry.isFile = none ↔
      ∀ place ∈ places, (disk place path).isFile = false := by
  rw [List.find?_eq_none, List.forall_mem_map]
  exact forall₂_congr fun _ _ => Bool.not_eq_true _ ▸ Iff.rfl

end Disk

namespace Surroundings

/-- A path gives the layer of the first file that it leads to, and nothing at all
where it leads to none. -/
inductive Supplies (s : Surroundings) (path : String) : Layer → Prop
  | nothing (hnone : ∀ place ∈ Disk.lookedIn path s.directory, (s.disk place path).isFile = false) :
      Supplies s path []
  | file {nearer farther : List Directory} {place : Directory} {content : String} {layer : Layer}
      (hplaces : Disk.lookedIn path s.directory = nearer ++ place :: farther)
      (hnearer : ∀ place ∈ nearer, (s.disk place path).isFile = false)
      (hfile : s.disk place path = .text content) (hlayer : Layer.ofYaml? content = some layer) :
      Supplies s path layer

variable {s : Surroundings} {path : String} {layer : Layer}

theorem fileLayer?_eq_some_iff : s.fileLayer? path = some layer ↔ s.Supplies path layer := by
  rw [fileLayer?, Disk.nearest?_eq_find?]
  constructor
  · intro h
    split at h
    · next hnone =>
      cases h
      exact .nothing (Disk.find?_eq_none_iff.mp hnone)
    · next content hsome =>
      obtain ⟨-, nearer, farther, hplaces, hnearer⟩ := List.find?_eq_some_iff_append.mp hsome
      obtain ⟨nearer, rest, hplaces, rfl, hrest⟩ := List.map_eq_append_iff.mp hplaces
      obtain ⟨place, farther, rfl, hfile, -⟩ := List.map_eq_cons_iff.mp hrest
      refine .file hplaces (fun place hplace => ?_) hfile h
      exact Bool.not_eq_true' _ ▸ hnearer _ (List.mem_map_of_mem hplace)
    · cases h
  · intro h
    cases h with
    | nothing hnone => rw [Disk.find?_eq_none_iff.mpr hnone]
    | file hplaces hnearer hfile hlayer =>
        rw [hplaces, List.map_append, List.find?_append, Disk.find?_eq_none_iff.mpr hnearer,
          List.map_cons, hfile]
        exact hlayer

theorem Supplies.sorted (h : s.Supplies path layer) : layer.Sorted := by
  cases h with
  | nothing => exact fun _ _ h => nomatch h
  | file _ _ _ hlayer => exact Layer.sorted_ofYaml? hlayer

end Surroundings

/-! ## The environment -/

namespace Expression

theorem sorted_wordValue (word : List Char) : (wordValue word).Sorted := by
  unfold wordValue
  dsimp only
  split <;> exact fun _ h => nomatch h

theorem sorted_of_bare? {fuel : Nat} {text rest : List Char} {setting : Setting}
    (h : bare? fuel text = some (setting, rest)) : setting.Sorted := by
  cases fuel with
  | zero => cases h
  | succ fuel =>
      unfold bare? at h
      split at h
      · cases h
        exact fun _ h => nomatch h
      · cases h
        exact fun _ h => nomatch h
      · split at h
        · obtain ⟨⟨fields, _⟩, -, h⟩ := Option.map_eq_some_iff.mp h
          cases h
          intro _ h
          cases h
          exact .ofList _
        · obtain ⟨⟨items, _⟩, -, h⟩ := Option.map_eq_some_iff.mp h
          cases h
          exact fun _ h => nomatch h
        · obtain ⟨⟨s, _⟩, -, h⟩ := Option.map_eq_some_iff.mp h
          cases h
          exact fun _ h => nomatch h
        · cases h
          exact fun _ h => nomatch h
        · cases h
        · cases h
          exact sorted_wordValue _

end Expression

theorem Setting.sorted_ofText (text : String) : (ofText text).Sorted := by
  unfold ofText
  split
  · next setting h =>
    obtain ⟨⟨_, rest⟩, hbare, h⟩ := Option.bind_eq_some_iff.mp h
    obtain ⟨rfl, -⟩ := Prod.mk.inj (Option.some.inj h)
    exact Expression.sorted_of_bare? hbare
  · exact fun _ h => nomatch h

theorem Setting.sorted_atPath (path : List String) {setting : Setting} (h : setting.Sorted) :
    (setting.atPath path).Sorted := by
  cases path with
  | nil => exact h
  | cons name path =>
      intro _ h
      cases h
      exact List.pairwise_singleton _ _

namespace Environment

/-- The layer of one variable, if it is a setting. -/
def layerOf? (entry : String × String) : Option Layer :=
  match path? entry.1 with
  | some (first :: path) => some [(first, (Setting.ofText entry.2).atPath path)]
  | _ => none

theorem layer_eq (environment : Environment) :
    environment.layer = Layer.stack (environment.filterMap layerOf?) := rfl

theorem layerOf?_of_path? {name value first : String} {path : List String}
    (h : path? name = some (first :: path)) :
    layerOf? (name, value) = some [(first, (Setting.ofText value).atPath path)] := by
  rw [layerOf?, h]

theorem sorted_of_layerOf? {entry : String × String} {layer : Layer}
    (h : layerOf? entry = some layer) : layer.Sorted := by
  unfold layerOf? at h
  split at h
  · cases h
    intro name setting h
    have hfield := List.mem_singleton.mp (Fields.mem_of_get? h)
    obtain rfl : setting = _ := congrArg Prod.snd hfield
    exact Setting.sorted_atPath _ (Setting.sorted_ofText entry.2)
  · cases h

theorem sorted_layer (environment : Environment) : environment.layer.Sorted := by
  rw [layer_eq]
  refine Layer.sorted_stack fun layer hlayer => ?_
  obtain ⟨entry, -, hentry⟩ := List.mem_filterMap.mp hlayer
  exact sorted_of_layerOf? hentry

/-- What a variable does not set, is as it is without the variable. -/
theorem get?_layer_of_unset {entry : String × String} {name : String}
    (h : ∀ layer, layerOf? entry = some layer → layer.get? name = none)
    (before after : Environment) :
    (layer (before ++ entry :: after)).get? name = (layer (before ++ after)).get? name := by
  rw [layer_eq, layer_eq, List.filterMap_append, List.filterMap_append]
  cases hentry : layerOf? entry with
  | none => rw [List.filterMap_cons_none hentry]
  | some layer =>
      rw [List.filterMap_cons_some hentry]
      exact Layer.get?_stack_of_unset (h layer hentry) _ _

end Environment

end PageTimers
