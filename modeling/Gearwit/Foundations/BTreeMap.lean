import Mathlib

/-!
# Ordered maps

An ordered map is the extensional tree map of the standard library, iterated in
key order.  This module adds the two views a store needs beyond lookup: the list
of stored rows in key order, and the checked collection of a list of rows into
a map that refuses a repeated key.  Collecting the rows of a map gives the map
back, which is what makes a dump of a store reloadable.
-/

namespace Gearwit

open Std

/-- A map iterated in key order. -/
abbrev BTreeMap (κ : Type) (α : Type) [Ord κ] :=
  ExtTreeMap κ α compare

/-- A set iterated in order: a map to the unit value. -/
abbrev BTreeSet (κ : Type) [Ord κ] :=
  BTreeMap κ Unit

namespace BTreeMap

variable {κ α β : Type} [Ord κ] [TransOrd κ]

/-- Stored values in key order. -/
def rows (map : BTreeMap κ α) : List α :=
  map.toList.map Prod.snd

@[simp] theorem rows_empty :
    rows (∅ : BTreeMap κ α) = [] := by
  simp [rows]

@[simp] theorem getElem?_insert_same
    (map : BTreeMap κ α) (key : κ) (value : α) :
    (map.insert key value)[key]? = some value :=
  ExtTreeMap.getElem?_insert_self

/-- Membership is a successful lookup. -/
theorem contains_iff (map : BTreeMap κ α) (key : κ) :
    map.contains key = true ↔ ∃ value, map[key]? = some value := by
  rw [← ExtTreeMap.isSome_getElem?_eq_contains, Option.isSome_iff_exists]

/-- Absence is a failed lookup. -/
theorem contains_eq_false_iff (map : BTreeMap κ α) (key : κ) :
    map.contains key = false ↔ map[key]? = none := by
  rw [← ExtTreeMap.isSome_getElem?_eq_contains, Option.isSome_eq_false_iff,
    Option.isNone_iff_eq_none]

section Lookup

variable [LawfulEqOrd κ]

/-- A row is listed exactly when some key stores it. -/
theorem mem_rows (map : BTreeMap κ α) (value : α) :
    value ∈ rows map ↔ ∃ key : κ, map[key]? = some value := by
  simp only [rows, List.mem_map, Prod.exists,
    ExtTreeMap.mem_toList_iff_getElem?_eq_some]
  exact ⟨fun ⟨key, _, stored, equal⟩ => ⟨key, equal ▸ stored⟩,
    fun ⟨key, stored⟩ => ⟨key, value, stored, rfl⟩⟩

/-- Insertion read back at any key. -/
theorem getElem?_insert_eq [DecidableEq κ]
    (map : BTreeMap κ α) (key probe : κ) (value : α) :
    (map.insert key value)[probe]? =
      if key = probe then some value else map[probe]? := by
  rw [ExtTreeMap.getElem?_insert]
  simp only [LawfulEqCmp.compare_eq_iff_eq]

/-- Insertion leaves every other key alone. -/
theorem getElem?_insert_ne
    (map : BTreeMap κ α) {key probe : κ} (value : α)
    (different : key ≠ probe) :
    (map.insert key value)[probe]? = map[probe]? := by
  rw [ExtTreeMap.getElem?_insert]
  simp [different]

/-- Rewriting a key with the value it already stores changes nothing. -/
theorem insert_eq_self
    (map : BTreeMap κ α) (key : κ) (value : α)
    (stored : map[key]? = some value) :
    map.insert key value = map := by
  classical
  apply ExtTreeMap.ext_getElem?
  intro probe
  rw [getElem?_insert_eq]
  split
  · next equal => rw [← equal, stored]
  · rfl

/-- No entry is listed twice. -/
theorem toList_nodup (map : BTreeMap κ α) : map.toList.Nodup :=
  ExtTreeMap.distinct_keys_toList.imp fun different equal =>
    different (by rw [equal]; exact ReflCmp.compare_self)

/-- Inserting a fresh key adds one entry. -/
theorem toList_insert_perm
    (map : BTreeMap κ α) {key : κ} (value : α) (vacant : map[key]? = none) :
    (map.insert key value).toList.Perm ((key, value) :: map.toList) := by
  classical
  have absent : (key, value) ∉ map.toList := by
    rw [ExtTreeMap.mem_toList_iff_getElem?_eq_some, vacant]
    simp
  refine (List.perm_ext_iff_of_nodup (toList_nodup _) (List.nodup_cons.2
    ⟨absent, toList_nodup _⟩)).2 fun entry => ?_
  rw [ExtTreeMap.mem_toList_iff_getElem?_eq_some, getElem?_insert_eq, List.mem_cons,
    ExtTreeMap.mem_toList_iff_getElem?_eq_some]
  split
  · next same =>
    rw [← same, vacant, Prod.ext_iff]
    simp [same, eq_comm]
  · next different =>
    simp [Prod.ext_iff, Ne.symm different]

/-- Inserting a fresh key adds one key. -/
theorem keys_insert_perm
    (map : BTreeMap κ α) {key : κ} (value : α) (vacant : map[key]? = none) :
    (map.insert key value).keys.Perm (key :: map.keys) := by
  rw [← ExtTreeMap.map_fst_toList_eq_keys, ← ExtTreeMap.map_fst_toList_eq_keys]
  exact (toList_insert_perm map value vacant).map Prod.fst

end Lookup

/-! ## Keyed maps -/

/-- Every row names the key it is stored under. -/
def Keyed (key : α → κ) (map : BTreeMap κ α) : Prop :=
  ∀ probe stored, map[probe]? = some stored → key stored = probe

namespace Keyed

/-- The empty map is keyed. -/
theorem empty (key : α → κ) : Keyed key (∅ : BTreeMap κ α) := by
  intro probe stored present
  simp at present

variable [LawfulEqOrd κ]

/-- A map stays keyed when a row is inserted under its own key. -/
theorem insert {key : α → κ} {map : BTreeMap κ α} (keyed : Keyed key map)
    {probe : κ} {value : α} (named : key value = probe) :
    Keyed key (map.insert probe value) := by
  classical
  intro other stored present
  rw [getElem?_insert_eq] at present
  split at present
  · next equal => rw [← Option.some.inj present, named, equal]
  · exact keyed other stored present

/-- Rewriting a stored row without its key keeps the map keyed. -/
theorem rewrite {key : α → κ} {map : BTreeMap κ α} (keyed : Keyed key map)
    {probe : κ} {old value : α} (stored : map[probe]? = some old)
    (kept : key value = key old) :
    Keyed key (map.insert probe value) :=
  keyed.insert (kept.trans (keyed probe old stored))

/-- A listed row of a keyed map is stored under its own key. -/
theorem stored_of_mem {key : α → κ} {map : BTreeMap κ α} (keyed : Keyed key map)
    {value : α} (present : value ∈ rows map) :
    map[key value]? = some value := by
  obtain ⟨probe, stored⟩ := (mem_rows map value).1 present
  rw [keyed probe value stored]
  exact stored

end Keyed

/-! ## Checked collection -/

/-- Insert under a key that must be vacant. -/
def insertUnique (map : BTreeMap κ α) (key : κ) (value : α) :
    Option (BTreeMap κ α) :=
  if map.contains key then none else some (map.insert key value)

/-- Collect a list of rows into a map, refusing a repeated key. -/
def collectUnique (key : β → κ) (value : β → α) :
    List β → BTreeMap κ α → Option (BTreeMap κ α)
  | [], map => some map
  | row :: rest, map =>
      match insertUnique map (key row) (value row) with
      | none => none
      | some extended => collectUnique key value rest extended

section Collect

variable [LawfulEqOrd κ]

/-- Rows with distinct keys, all of them vacant, are collected. -/
theorem collectUnique_isSome
    (key : β → κ) (value : β → α)
    (list : List β) (map : BTreeMap κ α)
    (distinct : (list.map key).Nodup)
    (vacant : ∀ row ∈ list, map[key row]? = none) :
    (collectUnique key value list map).isSome := by
  classical
  induction list generalizing map with
  | nil => rfl
  | cons row rest inductionHypothesis =>
      have headVacant : map.contains (key row) = false :=
        (contains_eq_false_iff map (key row)).2 (vacant row (by simp))
      simp only [List.map_cons, List.nodup_cons, List.mem_map] at distinct
      simp only [collectUnique, insertUnique, headVacant]
      refine inductionHypothesis _ distinct.2 ?_
      intro other present
      have different : key row ≠ key other := fun equal =>
        distinct.1 ⟨other, present, equal.symm⟩
      rw [getElem?_insert_ne map (value row) different]
      exact vacant other (by simp [present])

/-- A collected row is stored under its key. -/
theorem getElem?_collectUnique_of_mem
    (key : β → κ) (value : β → α)
    {list : List β} {map result : BTreeMap κ α}
    (collected : collectUnique key value list map = some result)
    {row : β} (present : row ∈ list) :
    result[key row]? = some (value row) := by
  classical
  have keeps : ∀ (rest : List β) (start final : BTreeMap κ α) (probe : κ) (found : α),
      collectUnique key value rest start = some final →
        start[probe]? = some found → final[probe]? = some found := by
    intro rest
    induction rest with
    | nil =>
        intro start final probe found collected stored
        simp only [collectUnique, Option.some.injEq] at collected
        exact collected ▸ stored
    | cons head tail inductionHypothesis =>
        intro start final probe found collected stored
        simp only [collectUnique, insertUnique] at collected
        cases occupied : start.contains (key head) with
        | true => simp [occupied] at collected
        | false =>
            simp only [occupied] at collected
            refine inductionHypothesis _ _ _ _ collected ?_
            have different : key head ≠ probe := by
              intro equal
              rw [contains_eq_false_iff, equal, stored] at occupied
              cases occupied
            rw [getElem?_insert_ne start (value head) different, stored]
  induction list generalizing map with
  | nil => cases present
  | cons head tail inductionHypothesis =>
      simp only [collectUnique, insertUnique] at collected
      cases occupied : map.contains (key head) with
      | true => simp [occupied] at collected
      | false =>
          simp only [occupied] at collected
          rcases List.mem_cons.1 present with rfl | inTail
          · exact keeps _ _ _ _ _ collected (getElem?_insert_same _ _ _)
          · exact inductionHypothesis collected inTail

/-- Everything stored after a collection was there before or is a row. -/
theorem getElem?_collectUnique_cases
    (key : β → κ) (value : β → α)
    {list : List β} {map result : BTreeMap κ α}
    (collected : collectUnique key value list map = some result)
    {probe : κ} {found : α} (stored : result[probe]? = some found) :
    map[probe]? = some found ∨
      ∃ row ∈ list, key row = probe ∧ value row = found := by
  classical
  induction list generalizing map with
  | nil =>
      simp only [collectUnique, Option.some.injEq] at collected
      exact .inl (collected ▸ stored)
  | cons head tail inductionHypothesis =>
      simp only [collectUnique, insertUnique] at collected
      cases occupied : map.contains (key head) with
      | true => simp [occupied] at collected
      | false =>
          simp only [occupied] at collected
          rcases inductionHypothesis collected with earlier | ⟨row, present, equal⟩
          · rw [getElem?_insert_eq] at earlier
            split at earlier
            · next headKey =>
                exact .inr ⟨head, by simp, headKey, Option.some.inj earlier⟩
            · exact .inl earlier
          · exact .inr ⟨row, by simp [present], equal⟩

/-- A collection from the empty map is the given map as soon as the rows and the
map hold the same entries. -/
theorem collectUnique_eq_some
    (key : β → κ) (value : β → α)
    (list : List β) (map : BTreeMap κ α)
    (distinct : (list.map key).Nodup)
    (entries : ∀ probe found, map[probe]? = some found ↔
      ∃ row ∈ list, key row = probe ∧ value row = found) :
    collectUnique key value list ∅ = some map := by
  have collects := collectUnique_isSome key value list (∅ : BTreeMap κ α)
    distinct (by intro row _; simp)
  obtain ⟨result, collected⟩ := Option.isSome_iff_exists.1 collects
  rw [collected, Option.some.injEq]
  apply ExtTreeMap.ext_getElem?
  intro probe
  apply Option.ext
  intro found
  rw [entries]
  constructor
  · intro stored
    rcases getElem?_collectUnique_cases key value collected stored with empty | row
    · simp at empty
    · exact row
  · rintro ⟨row, present, rfl, rfl⟩
    exact getElem?_collectUnique_of_mem key value collected present

/-- Collecting a filtered, converted dump of a map rebuilds the filtered,
converted map. -/
theorem collectUnique_filterMap {γ : Type}
    (map : BTreeMap κ α) (convert : κ → α → Option β)
    (key : β → κ) (value : β → γ)
    (keyed : ∀ probe stored row, map[probe]? = some stored →
      convert probe stored = some row → key row = probe) :
    collectUnique key value
        (map.toList.filterMap fun entry => convert entry.1 entry.2) ∅ =
      some (map.filterMap fun probe stored =>
        (convert probe stored).map value) := by
  have dump : (map.toList.filterMap fun entry => convert entry.1 entry.2).map key =
      (map.filterMap convert).keys := by
    rw [← ExtTreeMap.map_fst_toList_eq_keys, ExtTreeMap.toList_filterMap]
    rw [List.map_filterMap, List.map_filterMap]
    apply List.filterMap_congr
    rintro ⟨probe, stored⟩ present
    cases converted : convert probe stored with
    | none => simp
    | some row =>
        simp only [Option.map_some]
        rw [keyed probe stored row
          (ExtTreeMap.mem_toList_iff_getElem?_eq_some.1 present) converted]
  apply collectUnique_eq_some
  · rw [dump]
    exact ExtTreeMap.nodup_keys
  · intro probe found
    simp only [ExtTreeMap.getElem?_filterMap', Option.bind_eq_some_iff,
      Option.map_eq_some_iff, List.mem_filterMap, Prod.exists,
      ExtTreeMap.mem_toList_iff_getElem?_eq_some]
    constructor
    · rintro ⟨stored, present, row, converted, rfl⟩
      exact ⟨row, ⟨probe, stored, present, converted⟩,
        keyed probe stored row present converted, rfl⟩
    · rintro ⟨row, ⟨origin, stored, present, converted⟩, rfl, rfl⟩
      have sameKey := keyed origin stored row present converted
      subst sameKey
      exact ⟨stored, present, row, converted, rfl⟩

/-- Collecting the rows of a map whose rows name their own key rebuilds the map. -/
theorem collectUnique_rows
    (map : BTreeMap κ α) (key : α → κ)
    (keyed : ∀ probe stored, map[probe]? = some stored → key stored = probe) :
    collectUnique key id (rows map) ∅ = some map := by
  have dumped := collectUnique_filterMap map (fun _ stored => some stored) key id
    (by
      intro probe stored row present converted
      rw [← Option.some.inj converted]
      exact keyed probe stored present)
  have listed : rows map =
      map.toList.filterMap fun entry => some entry.2 := by
    simp [rows]
  rw [listed, dumped, Option.some.injEq]
  apply ExtTreeMap.ext_getElem?
  intro probe
  simp

end Collect

/-! ## Plain collection -/

/-- Collect a list of rows into a map; a later row replaces an earlier one under
its key. -/
def fromRows (key : β → κ) (value : β → α) (list : List β) : BTreeMap κ α :=
  list.foldl (fun map row => map.insert (key row) (value row)) ∅

private theorem foldl_insert_of_collectUnique
    (key : β → κ) (value : β → α)
    {list : List β} {map result : BTreeMap κ α}
    (collected : collectUnique key value list map = some result) :
    list.foldl (fun map row => map.insert (key row) (value row)) map = result ∧
      result.size = map.size + list.length := by
  induction list generalizing map with
  | nil =>
      simp only [collectUnique, Option.some.injEq] at collected
      exact ⟨collected, by rw [← collected]; rfl⟩
  | cons row rest inductionHypothesis =>
      simp only [collectUnique, insertUnique] at collected
      cases occupied : map.contains (key row) with
      | true => simp [occupied] at collected
      | false =>
          simp only [occupied] at collected
          obtain ⟨folded, counted⟩ := inductionHypothesis collected
          refine ⟨folded, ?_⟩
          rw [counted, ExtTreeMap.size_insert, occupied, if_neg (by decide),
            List.length_cons]
          omega

/-- Collecting rows with distinct keys keeps them all. -/
theorem fromRows_of_collectUnique
    (key : β → κ) (value : β → α)
    {list : List β} {result : BTreeMap κ α}
    (collected : collectUnique key value list ∅ = some result) :
    fromRows key value list = result ∧ result.size = list.length := by
  have folded := foldl_insert_of_collectUnique key value collected
  exact ⟨folded.1, by simpa using folded.2⟩

section Listed

variable [LawfulEqOrd κ]

/-- Everything in a plain collection is a row. -/
theorem getElem?_fromRows_cases
    (key : β → κ) (value : β → α) {list : List β}
    {probe : κ} {found : α}
    (stored : (fromRows key value list)[probe]? = some found) :
    ∃ row ∈ list, key row = probe ∧ value row = found := by
  classical
  unfold fromRows at stored
  have cases : ∀ (rest : List β) (start : BTreeMap κ α),
      (rest.foldl (fun map row => map.insert (key row) (value row)) start)[probe]? =
        some found →
      start[probe]? = some found ∨
        ∃ row ∈ rest, key row = probe ∧ value row = found := by
    intro rest
    induction rest with
    | nil => exact fun start present => .inl present
    | cons row rest inductionHypothesis =>
        intro start present
        rcases inductionHypothesis _ present with earlier | ⟨other, listed, equal⟩
        · rw [getElem?_insert_eq] at earlier
          split at earlier
          · next sameKey =>
              exact .inr ⟨row, by simp, sameKey, Option.some.inj earlier⟩
          · exact .inl earlier
        · exact .inr ⟨other, by simp [listed], equal⟩
  rcases cases list ∅ stored with empty | row
  · simp at empty
  · exact row

/-- A row whose value every row of its key shares is in the plain collection. -/
theorem getElem?_fromRows_of_mem
    (key : β → κ) (value : β → α) {list : List β} {row : β} (listed : row ∈ list)
    (shared : ∀ other ∈ list, key other = key row → value other = value row) :
    (fromRows key value list)[key row]? = some (value row) := by
  classical
  unfold fromRows
  have kept : ∀ (rest : List β) (start : BTreeMap κ α),
      (∀ other ∈ rest, key other = key row → value other = value row) →
      (start[key row]? = some (value row) ∨ row ∈ rest) →
      (rest.foldl (fun map other => map.insert (key other) (value other))
        start)[key row]? = some (value row) := by
    intro rest
    induction rest with
    | nil =>
        rintro start _ (present | impossible)
        · exact present
        · cases impossible
    | cons other rest inductionHypothesis =>
        intro start shared present
        refine inductionHypothesis _
          (fun later among => shared later (by simp [among])) ?_
        rw [getElem?_insert_eq]
        split
        · next sameKey => exact .inl (by rw [shared other (by simp) sameKey])
        · next otherKey =>
          rcases present with present | among
          · exact .inl present
          · rcases List.mem_cons.1 among with rfl | among
            · exact absurd rfl otherKey
            · exact .inr among
  exact kept list ∅ shared (.inr listed)

/-- Collecting one row for each entry of a map gives the map back. -/
theorem fromRows_entries
    (key : β → κ) (value : β → α) (row : κ × α → β) (map : BTreeMap κ α)
    (keys : ∀ entry, key (row entry) = entry.1)
    (values : ∀ entry, value (row entry) = entry.2) :
    fromRows key value (map.toList.map row) = map := by
  apply ExtTreeMap.ext_getElem?
  intro probe
  ext found
  constructor
  · intro present
    obtain ⟨_, listed, rfl, rfl⟩ := getElem?_fromRows_cases key value present
    obtain ⟨entry, among, rfl⟩ := List.mem_map.1 listed
    rw [keys, values]
    exact ExtTreeMap.mem_toList_iff_getElem?_eq_some.1 among
  · intro stored
    have among := ExtTreeMap.mem_toList_iff_getElem?_eq_some.2 stored
    have shared : ∀ other ∈ map.toList.map row,
        key other = key (row (probe, found)) →
          value other = value (row (probe, found)) := by
      intro other listed same
      obtain ⟨entry, entered, rfl⟩ := List.mem_map.1 listed
      rw [keys, keys] at same
      have present := ExtTreeMap.mem_toList_iff_getElem?_eq_some.1 entered
      rw [same, stored] at present
      rw [values, values]
      exact (Option.some.inj present).symm
    have collected := getElem?_fromRows_of_mem key value
      (List.mem_map_of_mem among) shared
    rwa [keys, values] at collected

/-- Collecting the rows of a keyed map gives the map back. -/
theorem fromRows_rows {key : α → κ} {map : BTreeMap κ α} (keyed : Keyed key map) :
    fromRows key id (rows map) = map :=
  (fromRows_of_collectUnique key id (collectUnique_rows map key keyed)).1

end Listed

end BTreeMap
end Gearwit
