import Mathlib.Data.List.AList

/-!
# Records that are kept in files

One file for each record, under the key of the record. A write replaces the file as a whole,
and can fail before or after the new file is in place. A deletion happens or fails, and a
caller either learns about the failure (`delete`) or does not (`deleteAll`).

* `lookup_insert_eq`, `lookup_erase_eq`, `lookup_deleteAll` — what a key has afterwards.
* `mem_keysWhere` — the keys of the records that satisfy a predicate.
* `lookup_mapRecords` — records that are read back in another form.
-/

namespace Kanna.Durable

/-- Records by key. -/
abbrev Records (ι ρ : Type) : Type := AList fun _ : ι => ρ

/-- How a write ends. -/
inductive WriteOutcome (ε : Type) where
  | written
  /-- the new file is in place, but the write fails -/
  | unsynced (error : ε)
  /-- the file is as it was -/
  | refused (error : ε)

variable {ι ρ ε : Type} [DecidableEq ι]

/-- Writes the file of a key. -/
def write (files : Records ι ρ) (key : ι) (record : ρ) :
    WriteOutcome ε → Records ι ρ × Except ε Unit
  | .written => (files.insert key record, .ok ())
  | .unsynced error => (files.insert key record, .error error)
  | .refused error => (files, .error error)

/-- Deletes the file of a key, or fails. -/
def delete (files : Records ι ρ) (key : ι) : Option ε → Records ι ρ × Except ε Unit
  | none => (files.erase key, .ok ())
  | some error => (files, .error error)

/-- Deletes the files of some keys, except where the deletion fails. -/
def deleteAll (fails : ι → Bool) (keys : List ι) (files : Records ι ρ) : Records ι ρ :=
  keys.foldl (fun files key => if fails key then files else files.erase key) files

/-- The keys of the records that satisfy a predicate. -/
def keysWhere (p : ρ → Bool) (records : Records ι ρ) : List ι :=
  (records.entries.filter fun entry => p entry.2).map Sigma.fst

theorem lookup_insert_eq (records : Records ι ρ) (key other : ι) (record : ρ) :
    (records.insert key record).lookup other =
      if other = key then some record else records.lookup other := by
  split
  next heq => rw [heq, AList.lookup_insert]
  next hne => exact AList.lookup_insert_ne hne

theorem lookup_erase_eq (records : Records ι ρ) (key other : ι) :
    (records.erase key).lookup other = if other = key then none else records.lookup other := by
  split
  next heq => rw [heq, AList.lookup_erase]
  next hne => exact AList.lookup_erase_ne hne

/-- A deletion of some files leaves out exactly the keys whose deletion does not fail. -/
theorem lookup_deleteAll (fails : ι → Bool) (keys : List ι) (files : Records ι ρ) (key : ι) :
    (deleteAll fails keys files).lookup key =
      if key ∈ keys ∧ fails key = false then none else files.lookup key := by
  induction keys generalizing files with
  | nil => simp [deleteAll]
  | cons head keys ih =>
    rw [deleteAll, List.foldl_cons, ← deleteAll, ih]
    by_cases hfails : fails head = true
    · rw [if_pos hfails]
      by_cases heq : key = head
      · subst heq
        simp [hfails]
      · simp [heq]
    · rw [if_neg hfails, lookup_erase_eq]
      by_cases heq : key = head
      · subst heq
        simp [Bool.not_eq_true _ ▸ hfails]
      · simp [heq]

theorem mem_keysWhere {p : ρ → Bool} {records : Records ι ρ} {key : ι} :
    key ∈ keysWhere p records ↔ ∃ record, records.lookup key = some record ∧ p record = true := by
  rw [keysWhere, List.mem_map]
  constructor
  · rintro ⟨⟨other, record⟩, hentry, rfl⟩
    obtain ⟨hmem, hp⟩ := List.mem_filter.mp hentry
    exact ⟨record, AList.mem_lookup_iff.mpr hmem, hp⟩
  · rintro ⟨record, hlookup, hp⟩
    exact ⟨⟨key, record⟩, List.mem_filter.mpr ⟨AList.mem_lookup_iff.mp hlookup, hp⟩, rfl⟩

/-- Every record changed in the same way. -/
def mapRecords {ρ' : Type} (f : ρ → ρ') (records : Records ι ρ) : Records ι ρ' where
  entries := records.entries.map fun entry => ⟨entry.1, f entry.2⟩
  nodupKeys := by
    rw [List.NodupKeys, List.keys, List.map_map]
    exact records.nodupKeys

theorem lookup_mapRecords {ρ' : Type} (f : ρ → ρ') (records : Records ι ρ) (key : ι) :
    (mapRecords f records).lookup key = (records.lookup key).map f := by
  rcases records with ⟨entries, hnodup⟩
  induction entries with
  | nil => rfl
  | cons entry entries ih =>
    rcases entry with ⟨head, record⟩
    have htail := ih (List.nodupKeys_cons.mp hnodup).2
    by_cases heq : key = head
    · subst heq
      simp [mapRecords, AList.lookup]
    · have hskip : ∀ {ρ : Type} (record : ρ) (rest : List (Sigma fun _ : ι => ρ)),
          List.dlookup key (⟨head, record⟩ :: rest) = List.dlookup key rest :=
        fun record rest => List.dlookup_cons_ne rest ⟨head, record⟩ heq
      simpa only [mapRecords, AList.lookup, List.map_cons, hskip] using htail

end Kanna.Durable
