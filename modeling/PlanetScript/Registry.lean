import PlanetScript.Text.Basic

/-! # Registries

A registry holds one value per key and lists its entries in the order in which the
keys first came.  Writing a key again replaces its value where it stands.  Objects,
backgrounds and bindings are registries.

That no key comes twice is part of a registry, so an entry and the value of its key say
the same (`get?_eq_some_iff`), and two registries of the same entries are equal.
-/
namespace PlanetScript

/-- A table that keeps its keys in the order of their first insertion. -/
structure Registry (α : Type) where
  entries : List (Text × α)
  /-- No key comes twice. -/
  nodup : (entries.map Prod.fst).Nodup
deriving DecidableEq, Repr

namespace Registry
variable {α β : Type}

/-! ### Lists of entries -/

/-- The value of a key among entries: that of the first entry with this key. -/
def valueAt? (key : Text) : List (Text × α) → Option α
  | [] => none
  | entry :: rest => if entry.1 = key then some entry.2 else valueAt? key rest

/-- The entries with `value` written at `key`: where the key stands, or at the end. -/
def insertEntry (key : Text) (value : α) : List (Text × α) → List (Text × α)
  | [] => [(key, value)]
  | entry :: rest =>
    if entry.1 = key then (key, value) :: rest else entry :: insertEntry key value rest

/-- Writes `value` at `key`, with the value that it takes the place of. -/
def exchangeEntry (key : Text) (value : α) : List (Text × α) → Option α × List (Text × α)
  | [] => (none, [(key, value)])
  | entry :: rest =>
    if entry.1 = key then (some entry.2, (key, value) :: rest)
    else
      let (old, rest) := exchangeEntry key value rest
      (old, entry :: rest)

/-- The entries with the value of `key` changed. -/
def modifyEntry (key : Text) (f : α → α) (entries : List (Text × α)) : List (Text × α) :=
  entries.map fun entry => if entry.1 = key then (entry.1, f entry.2) else entry

theorem keys_insertEntry (key : Text) (value : α) (entries : List (Text × α)) :
    (insertEntry key value entries).map Prod.fst =
      if key ∈ entries.map Prod.fst then entries.map Prod.fst
      else entries.map Prod.fst ++ [key] := by
  induction entries with
  | nil => simp [insertEntry]
  | cons entry rest ih =>
    unfold insertEntry
    split
    · next he => simp [he]
    · next he =>
      rw [List.map_cons, ih]
      by_cases hk : key ∈ rest.map Prod.fst <;> simp [hk, Ne.symm he]

theorem exchangeEntry_eq (key : Text) (value : α) (entries : List (Text × α)) :
    exchangeEntry key value entries = (valueAt? key entries, insertEntry key value entries) := by
  induction entries with
  | nil => rfl
  | cons entry rest ih =>
    unfold exchangeEntry valueAt? insertEntry
    split
    · rfl
    · rw [ih]

theorem insertEntry_of_notMem {key : Text} {entries : List (Text × α)}
    (h : key ∉ entries.map Prod.fst) (value : α) :
    insertEntry key value entries = entries ++ [(key, value)] := by
  induction entries with
  | nil => rfl
  | cons entry rest ih =>
    rw [List.map_cons, List.mem_cons, not_or] at h
    rw [insertEntry, if_neg (Ne.symm h.1), ih h.2, List.cons_append]

theorem nodup_keys_insertEntry (key : Text) (value : α) {entries : List (Text × α)}
    (h : (entries.map Prod.fst).Nodup) : ((insertEntry key value entries).map Prod.fst).Nodup := by
  rw [keys_insertEntry]
  split
  · exact h
  · next hk =>
    rw [List.nodup_append]
    refine ⟨h, by simp, ?_⟩
    intro a ha b hb
    rw [List.mem_singleton.mp hb]
    exact fun hab => hk (hab ▸ ha)

theorem keys_modifyEntry (key : Text) (f : α → α) (entries : List (Text × α)) :
    (modifyEntry key f entries).map Prod.fst = entries.map Prod.fst := by
  simp only [modifyEntry, List.map_map]
  refine List.map_congr_left fun entry _ => ?_
  simp only [Function.comp_apply]
  split <;> rfl

theorem keys_mapEntries (f : α → β) (entries : List (Text × α)) :
    (entries.map fun entry => (entry.1, f entry.2)).map Prod.fst = entries.map Prod.fst := by
  simp [Function.comp_def]

theorem valueAt?_insertEntry (key : Text) (value : α) (entries : List (Text × α)) (k : Text) :
    valueAt? k (insertEntry key value entries) =
      if k = key then some value else valueAt? k entries := by
  induction entries with
  | nil => simp [insertEntry, valueAt?, eq_comm]
  | cons entry rest ih => grind [insertEntry, valueAt?]

theorem valueAt?_modifyEntry (key : Text) (f : α → α) (entries : List (Text × α)) (k : Text) :
    valueAt? k (modifyEntry key f entries) =
      if k = key then (valueAt? k entries).map f else valueAt? k entries := by
  unfold modifyEntry
  induction entries with
  | nil => simp [valueAt?]
  | cons entry rest ih => grind [valueAt?]

theorem valueAt?_eq_some_iff {entries : List (Text × α)} (h : (entries.map Prod.fst).Nodup)
    (k : Text) (v : α) : valueAt? k entries = some v ↔ (k, v) ∈ entries := by
  induction entries with
  | nil => simp [valueAt?]
  | cons entry rest ih =>
    obtain ⟨key, value⟩ := entry
    simp only [List.map_cons, List.nodup_cons, List.mem_map, not_exists, not_and] at h
    simp only [valueAt?, List.mem_cons, Prod.mk.injEq]
    split
    · next hk =>
      subst hk
      have hv : (key, v) ∉ rest := fun hm => h.1 _ hm rfl
      simp [hv, eq_comm]
    · next hk =>
      rw [ih h.2]
      simp [Ne.symm hk]

/-! ### Operations -/

/-- The registry without entries. -/
def empty : Registry α := ⟨[], List.nodup_nil⟩

/-- The keys in insertion order. -/
def keys (r : Registry α) : List Text := r.entries.map Prod.fst

/-- The number of entries. -/
def size (r : Registry α) : Nat := r.entries.length

/-- The value of a key. -/
def get? (r : Registry α) (key : Text) : Option α := valueAt? key r.entries

/-- Whether the key has a value. -/
def contains (r : Registry α) (key : Text) : Bool := (r.get? key).isSome

/-- Writes a value at a key. -/
def insert (r : Registry α) (key : Text) (value : α) : Registry α :=
  ⟨insertEntry key value r.entries, nodup_keys_insertEntry key value r.nodup⟩

/-- Writes a value at a key, and answers the value that the key had. -/
def exchange (r : Registry α) (key : Text) (value : α) : Option α × Registry α :=
  ((exchangeEntry key value r.entries).1,
    ⟨(exchangeEntry key value r.entries).2,
      exchangeEntry_eq key value r.entries ▸ nodup_keys_insertEntry key value r.nodup⟩)

/-- Writes a value at a key that has none yet. -/
def insertIfNew (r : Registry α) (key : Text) (value : α) : Registry α :=
  if r.contains key then r else r.insert key value

/-- Changes the value of a key, if it has one. -/
def modify (r : Registry α) (key : Text) (f : α → α) : Registry α :=
  ⟨modifyEntry key f r.entries, (keys_modifyEntry key f r.entries).symm ▸ r.nodup⟩

/-- Changes every value. -/
def mapValues (r : Registry α) (f : α → β) : Registry β :=
  ⟨r.entries.map fun entry => (entry.1, f entry.2), (keys_mapEntries f r.entries).symm ▸ r.nodup⟩

/-- The keys whose value satisfies `p`, in insertion order. -/
def keysWhere (r : Registry α) (p : α → Bool) : List Text :=
  (r.entries.filter fun entry => p entry.2).map Prod.fst

/-- The first key whose value satisfies `p`. -/
def keyWhere? (r : Registry α) (p : α → Bool) : Option Text :=
  (r.entries.find? fun entry => p entry.2).map Prod.fst

/-! ### Lookups after each operation -/

@[simp] theorem get?_empty (key : Text) : (empty : Registry α).get? key = none := rfl

/-- The value of a key is what its entry says. -/
theorem get?_eq_some_iff {r : Registry α} {k : Text} {v : α} :
    r.get? k = some v ↔ (k, v) ∈ r.entries := valueAt?_eq_some_iff r.nodup k v

theorem get?_insert (r : Registry α) (key : Text) (value : α) (k : Text) :
    (r.insert key value).get? k = if k = key then some value else r.get? k :=
  valueAt?_insertEntry key value r.entries k

/-- Exchanging the value of a key is writing it, and answers what the key said before. -/
theorem exchange_eq (r : Registry α) (key : Text) (value : α) :
    r.exchange key value = (r.get? key, r.insert key value) := by
  simp only [exchange, exchangeEntry_eq, get?, insert]

theorem get?_insertIfNew (r : Registry α) (key : Text) (value : α) (k : Text) :
    (r.insertIfNew key value).get? k =
      if k = key then some ((r.get? key).getD value) else r.get? k := by
  unfold insertIfNew contains
  split
  · next h =>
    obtain ⟨v, hv⟩ := Option.isSome_iff_exists.mp h
    by_cases hk : k = key
    · subst hk; simp [hv]
    · simp [hk]
  · next h =>
    rw [get?_insert]
    simp only [Bool.not_eq_true, Option.isSome_eq_false_iff, Option.isNone_iff_eq_none] at h
    simp [h]

theorem get?_modify (r : Registry α) (key : Text) (f : α → α) (k : Text) :
    (r.modify key f).get? k = if k = key then (r.get? k).map f else r.get? k :=
  valueAt?_modifyEntry key f r.entries k

theorem get?_mapValues (r : Registry α) (f : α → β) (k : Text) :
    (r.mapValues f).get? k = (r.get? k).map f := by
  obtain ⟨entries, nodup⟩ := r
  simp only [mapValues, get?]
  clear nodup
  induction entries with
  | nil => rfl
  | cons entry rest ih => grind [valueAt?]

/-! ### Keys after each operation -/

/-- A key is there if it has a value. -/
theorem mem_keys_iff {r : Registry α} {k : Text} : k ∈ r.keys ↔ r.contains k = true := by
  rw [contains, Option.isSome_iff_exists]
  simp [keys, get?_eq_some_iff]

theorem mem_keysWhere_iff {r : Registry α} {p : α → Bool} {k : Text} :
    k ∈ r.keysWhere p ↔ ∃ v, r.get? k = some v ∧ p v = true := by
  simp [keysWhere, get?_eq_some_iff]

theorem keyWhere?_eq (r : Registry α) (p : α → Bool) : r.keyWhere? p = (r.keysWhere p).head? := by
  rw [keyWhere?, keysWhere, List.head?_map, List.head?_filter]

/-- The keys whose value satisfies `p`, chosen by what each key says. -/
theorem keysWhere_eq_filter (r : Registry α) (p : α → Bool) :
    r.keysWhere p = r.keys.filter fun key => (r.get? key).any p := by
  rw [keysWhere, keys, List.filter_map]
  refine congrArg (List.map Prod.fst) (List.filter_congr fun entry hentry => ?_)
  have hvalue : r.get? entry.1 = some entry.2 := get?_eq_some_iff.mpr hentry
  rw [Function.comp_apply, hvalue, Option.any_some]

theorem nodup_keysWhere (r : Registry α) (p : α → Bool) : (r.keysWhere p).Nodup :=
  (List.filter_sublist.map Prod.fst).nodup r.nodup

@[simp] theorem keys_modify (r : Registry α) (key : Text) (f : α → α) :
    (r.modify key f).keys = r.keys := keys_modifyEntry key f r.entries

@[simp] theorem keys_mapValues (r : Registry α) (f : α → β) : (r.mapValues f).keys = r.keys :=
  keys_mapEntries f r.entries

/-- A new key comes last; a known one stays where it is. -/
theorem keys_insert (r : Registry α) (key : Text) (value : α) :
    (r.insert key value).keys = if key ∈ r.keys then r.keys else r.keys ++ [key] :=
  keys_insertEntry key value r.entries

theorem keys_insertIfNew (r : Registry α) (key : Text) (value : α) :
    (r.insertIfNew key value).keys = if key ∈ r.keys then r.keys else r.keys ++ [key] := by
  unfold insertIfNew
  split
  · next h => rw [if_pos (mem_keys_iff.mpr h)]
  · exact keys_insert r key value

/-! ### New keys -/

theorem notMem_keys_iff {r : Registry α} {k : Text} : k ∉ r.keys ↔ r.get? k = none := by
  rw [mem_keys_iff, contains, Option.not_isSome_iff_eq_none]

/-- A new key comes behind all others. -/
theorem entries_insert_of_new {r : Registry α} {key : Text} (h : r.get? key = none) (value : α) :
    (r.insert key value).entries = r.entries ++ [(key, value)] :=
  insertEntry_of_notMem (notMem_keys_iff.mpr h) value

theorem keysWhere_insert_of_new {r : Registry α} {key : Text} (h : r.get? key = none) (value : α)
    (p : α → Bool) :
    (r.insert key value).keysWhere p = r.keysWhere p ++ if p value then [key] else [] := by
  unfold keysWhere
  rw [entries_insert_of_new h, List.filter_append, List.map_append]
  cases hp : p value <;> simp [hp]

end Registry
end PlanetScript
