import Mathlib.Data.List.AList

/-!
# Go maps

A Go `map` is an `AList`: its entries, each key at most once. The order of the entries carries no
meaning; a loop over a map visits them in an order Go leaves unspecified, so such a loop is
modelled over every permutation of the entries.
-/

namespace NtpExporter

/-- A Go `map[κ]ν`. -/
abbrev GoMap (κ ν : Type) := AList (fun _ : κ => ν)

namespace GoMap

/-- The values of a map, in the order of its entries. -/
def values {κ ν : Type} (m : GoMap κ ν) : List ν := m.entries.map Sigma.snd

/-- An order in which `for _, value := range m` may visit the values of every map: Go fixes none,
so it is any permutation. -/
structure RangeOrder (κ ν : Type) where
  /-- The values in the order visited. -/
  visit : GoMap κ ν → List ν
  /-- Each value is visited once. -/
  perm : ∀ m, (visit m).Perm (values m)

variable {κ ν : Type} [DecidableEq κ]

/-- The map with every value read through `f`: what `for key, value := range m` builds when it
sets `out[key] = f(value)` in an empty map `out`. -/
def mapValues {β : Type} (f : ν → β) (m : GoMap κ ν) : GoMap κ β :=
  ⟨m.entries.map fun entry => ⟨entry.1, f entry.2⟩, by
    simpa [List.NodupKeys, List.keys, Function.comp_def] using m.nodupKeys⟩

@[simp]
theorem lookup_mapValues {β : Type} (f : ν → β) (m : GoMap κ ν) (key : κ) :
    (m.mapValues f).lookup key = (m.lookup key).map f :=
  List.dlookup_map₂ (f := fun _ => f) key

@[simp]
theorem mem_mapValues {β : Type} (f : ν → β) (m : GoMap κ ν) (key : κ) :
    key ∈ m.mapValues f ↔ key ∈ m := by
  rw [← AList.lookup_isSome, lookup_mapValues, Option.isSome_map', AList.lookup_isSome]

/-- The entries that `keep` accepts: the map left by a loop that deletes all the others. -/
def retain (keep : κ → ν → Bool) (m : GoMap κ ν) : GoMap κ ν :=
  ⟨m.entries.filter (fun entry => keep entry.1 entry.2),
    m.nodupKeys.sublist (List.filter_sublist _)⟩

@[simp]
theorem lookup_retain (keep : κ → ν → Bool) (m : GoMap κ ν) (key : κ) :
    (m.retain keep).lookup key = (m.lookup key).filter (keep key) := by
  apply Option.ext
  intro value
  change value ∈ AList.lookup key (retain keep m) ↔ _
  rw [AList.mem_lookup_iff, Option.mem_def, Option.filter_eq_some, AList.mem_lookup_iff]
  simp [retain]

/-- The values of a map whose keys are the elements of a list without repetitions, each read
through `f`, are the keys read through `g`, in some order, when `f` and `g` agree on every entry. -/
theorem values_filterMap_perm {β : Type} {m : GoMap κ ν} {keys : List κ} (distinct : keys.Nodup)
    (mem : ∀ key, key ∈ m ↔ key ∈ keys) {f : ν → Option β} {g : κ → Option β}
    (agree : ∀ key value, m.lookup key = some value → f value = g key) :
    (m.values.filterMap f).Perm (keys.filterMap g) := by
  have same : m.values.filterMap f = m.keys.filterMap g := by
    simp only [values, AList.keys, List.keys, List.filterMap_map]
    exact List.filterMap_congr fun entry member =>
      agree entry.1 entry.2 (AList.mem_lookup_iff.mpr member)
  rw [same]
  refine List.Perm.filterMap g ((List.perm_ext_iff_of_nodup m.keys_nodup distinct).mpr fun key => ?_)
  rw [← AList.mem_keys, mem]

end GoMap

end NtpExporter
