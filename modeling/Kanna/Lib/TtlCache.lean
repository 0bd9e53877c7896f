import Mathlib.Data.List.Nodup

/-!
# A map whose entries expire

A map in insertion order that holds at most a given number of entries. An entry counts until
its time has come; a new one is stored in place of the old one of its key, and a full map first
drops what has expired and then what was stored first.

* `mem_store` — what a map holds after a store was there before or is the new entry.
* `size_store_le` — a store keeps the map within its capacity.
* `lookup_eq_some`, `mem_lookup` — a hit is an entry whose time has not come, and a lookup
  adds nothing.
-/

namespace Kanna

/-- A value under its key, with the time from which it no longer counts. -/
structure TtlEntry (κ ν : Type) where
  key : κ
  value : ν
  expiresAtMs : Nat

/-- The entries in insertion order, one for each key. -/
structure TtlCache (κ ν : Type) where
  entries : List (TtlEntry κ ν)
  nodup : (entries.map TtlEntry.key).Nodup

namespace TtlCache

variable {κ ν : Type}

/-- A cache without entries. -/
def empty : TtlCache κ ν := ⟨[], List.nodup_nil⟩

variable (cache : TtlCache κ ν)

/-- How many entries there are. -/
def size : Nat := cache.entries.length

/-- Only the entries that satisfy `keep`. -/
def restrict (keep : TtlEntry κ ν → Bool) : TtlCache κ ν where
  entries := cache.entries.filter keep
  nodup := cache.nodup.sublist (List.filter_sublist.map _)

/-- Expired entries go first; then the oldest ones, until there is room for one more. -/
def evictForCapacity (capacity nowMs : Nat) : TtlCache κ ν where
  entries :=
    let live := (cache.restrict fun entry => nowMs < entry.expiresAtMs).entries
    live.drop (live.length + 1 - capacity)
  nodup := (restrict cache _).nodup.sublist ((List.drop_sublist _ _).map _)

variable [DecidableEq κ]

/-- Without the entry of a key. -/
def delete (key : κ) : TtlCache κ ν :=
  cache.restrict fun entry => entry.key ≠ key

/-- The entry of a key, unless its time has come: then it is dropped. -/
def lookup (key : κ) (nowMs : Nat) : Option (TtlEntry κ ν) × TtlCache κ ν :=
  match cache.entries.find? fun entry => entry.key = key with
  | none => (none, cache)
  | some entry =>
    if entry.expiresAtMs ≤ nowMs then (none, cache.delete key) else (some entry, cache)

/-- A new last entry in place of the one of its key. -/
def put (entry : TtlEntry κ ν) : TtlCache κ ν where
  entries := (cache.delete entry.key).entries ++ [entry]
  nodup := by
    rw [List.map_append]
    refine List.nodup_append'.mpr ⟨(cache.delete entry.key).nodup, List.nodup_singleton _, ?_⟩
    simp [delete, restrict]

/-- The map with `value` under `key` until `nowMs + ttl`; nothing is stored if `ttl = 0`. -/
def store (capacity ttl : Nat) (key : κ) (value : ν) (nowMs : Nat) : TtlCache κ ν :=
  if ttl = 0 then cache.delete key
  else if capacity ≤ (cache.delete key).size then
    ((cache.delete key).evictForCapacity capacity nowMs).put ⟨key, value, nowMs + ttl⟩
  else (cache.delete key).put ⟨key, value, nowMs + ttl⟩

variable {cache : TtlCache κ ν} {entry : TtlEntry κ ν} {key : κ} {value : ν}
  {capacity ttl nowMs : Nat}

theorem mem_delete :
    entry ∈ (cache.delete key).entries ↔ entry ∈ cache.entries ∧ entry.key ≠ key := by
  simp [delete, restrict]

omit [DecidableEq κ] in
theorem mem_of_mem_evictForCapacity
    (hmem : entry ∈ (cache.evictForCapacity capacity nowMs).entries) : entry ∈ cache.entries :=
  (List.mem_filter.mp (List.mem_of_mem_drop hmem)).1

variable {new : TtlEntry κ ν}

theorem mem_put (hmem : entry ∈ (cache.put new).entries) :
    entry ∈ cache.entries ∧ entry.key ≠ new.key ∨ entry = new := by
  obtain hmem | hmem := List.mem_append.mp hmem
  · exact .inl (mem_delete.mp hmem)
  · exact .inr (List.mem_singleton.mp hmem)

theorem mem_store (hmem : entry ∈ (cache.store capacity ttl key value nowMs).entries) :
    entry ∈ cache.entries ∧ entry.key ≠ key ∨ entry = ⟨key, value, nowMs + ttl⟩ := by
  unfold store at hmem
  split_ifs at hmem
  · exact .inl (mem_delete.mp hmem)
  · obtain ⟨hold, hkey⟩ | hnew := mem_put hmem
    · exact .inl ⟨(mem_delete.mp (mem_of_mem_evictForCapacity hold)).1, hkey⟩
    · exact .inr hnew
  · obtain ⟨hold, hkey⟩ | hnew := mem_put hmem
    · exact .inl ⟨(mem_delete.mp hold).1, hkey⟩
    · exact .inr hnew

theorem size_delete_le : (cache.delete key).size ≤ cache.size := List.length_filter_le _ _

omit [DecidableEq κ] in
theorem size_evictForCapacity_lt (hcap : 0 < capacity) :
    (cache.evictForCapacity capacity nowMs).size < capacity := by
  simp [size, evictForCapacity]
  omega

theorem size_put_le (hroom : cache.size < capacity) : (cache.put new).size ≤ capacity := by
  have hrest : (cache.delete new.key).size ≤ cache.size := size_delete_le
  simp only [size, put, List.length_append, List.length_singleton] at hrest hroom ⊢
  omega

/-- **A store keeps the map within its capacity.** -/
theorem size_store_le (hcap : 0 < capacity) (hsize : cache.size ≤ capacity) :
    (cache.store capacity ttl key value nowMs).size ≤ capacity := by
  unfold store
  split_ifs with _ hfull
  · exact Nat.le_trans size_delete_le hsize
  · exact size_put_le (size_evictForCapacity_lt hcap)
  · exact size_put_le (Nat.lt_of_not_le hfull)

theorem lookup_eq_some {after : TtlCache κ ν}
    (hlookup : cache.lookup key nowMs = (some entry, after)) :
    entry ∈ cache.entries ∧ entry.key = key ∧ nowMs < entry.expiresAtMs := by
  unfold lookup at hlookup
  split at hlookup
  · cases hlookup
  next found hfound =>
    split at hlookup
    · cases hlookup
    next hlive =>
      cases hlookup
      exact ⟨List.mem_of_find?_eq_some hfound, by simpa using List.find?_some hfound,
        Nat.lt_of_not_le hlive⟩

theorem lookup_snd (cache : TtlCache κ ν) (key : κ) (nowMs : Nat) :
    (cache.lookup key nowMs).2 = cache ∨ (cache.lookup key nowMs).2 = cache.delete key := by
  unfold lookup
  split
  · exact .inl rfl
  · split
    · exact .inr rfl
    · exact .inl rfl

/-- **A lookup adds nothing.** -/
theorem mem_lookup (hmem : entry ∈ (cache.lookup key nowMs).2.entries) : entry ∈ cache.entries := by
  obtain heq | heq := lookup_snd cache key nowMs
  · rwa [heq] at hmem
  · rw [heq] at hmem
    exact (mem_delete.mp hmem).1

theorem size_lookup_le : (cache.lookup key nowMs).2.size ≤ cache.size := by
  obtain heq | heq := lookup_snd cache key nowMs
  · exact Nat.le_of_eq (congrArg size heq)
  · rw [heq]
    exact size_delete_le

end TtlCache

end Kanna
