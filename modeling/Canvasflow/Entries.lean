/-!
# Insertion-ordered entries

An association list whose keys are distinct and whose order is the order of first insertion. Setting
a key that is present keeps its place; erasing it and setting it again moves it to the end. The main
statements are `find?_set_self` and `find?_set_of_ne`, which say that a write is seen at its key and
nowhere else, and their counterparts for `erase`.
-/

namespace Canvasflow

/-- Values under distinct text keys, in the order in which the keys were first inserted. -/
abbrev Entries (α : Type) := List (String × α)

namespace Entries

variable {α β : Type}

/-- The value stored under a key. -/
def find? (key : String) : Entries α → Option α
  | [] => none
  | (k, a) :: rest => if k = key then some a else find? key rest

/-- Whether a key is present. -/
def has (key : String) (entries : Entries α) : Bool :=
  (find? key entries).isSome

/-- Store a value under a key: in place when the key is present, else at the end. -/
def set (key : String) (value : α) : Entries α → Entries α
  | [] => [(key, value)]
  | (k, a) :: rest => if k = key then (k, value) :: rest else (k, a) :: set key value rest

/-- Drop a key and its value. -/
def erase (key : String) (entries : Entries α) : Entries α :=
  entries.filter fun entry => entry.1 ≠ key

/-- The keys, in order. -/
def keys (entries : Entries α) : List String :=
  entries.map Prod.fst

/-- The values, in order. -/
def values (entries : Entries α) : List α :=
  entries.map Prod.snd

/-- Set every entry of the second list in the first, in order. -/
def merge (base extra : Entries α) : Entries α :=
  extra.foldl (fun acc entry => set entry.1 entry.2 acc) base

/-- Entries from a list in which a later occurrence of a key replaces the value of an earlier one.
-/
def ofList (pairs : List (String × α)) : Entries α :=
  merge [] pairs

/-- Apply a function to every value. -/
def mapValues (f : α → β) (entries : Entries α) : Entries β :=
  entries.map fun entry => (entry.1, f entry.2)

@[simp] theorem find?_nil (key : String) : find? key ([] : Entries α) = none := rfl

/-- A write is seen at its own key. -/
@[simp] theorem find?_set_self (key : String) (value : α) (entries : Entries α) :
    find? key (set key value entries) = some value := by
  induction entries with
  | nil => simp [set, find?]
  | cons entry rest ih =>
    obtain ⟨k, a⟩ := entry
    by_cases h : k = key <;> simp [set, find?, h, ih]

/-- A write is not seen at any other key. -/
theorem find?_set_of_ne {key other : String} (h : other ≠ key) (value : α) (entries : Entries α) :
    find? other (set key value entries) = find? other entries := by
  induction entries with
  | nil => simp [set, find?, Ne.symm h]
  | cons entry rest ih =>
    obtain ⟨k, a⟩ := entry
    by_cases hk : k = key
    · subst hk
      simp [set, find?, Ne.symm h]
    · by_cases ho : k = other
      · subst ho
        simp [set, find?, hk]
      · simp [set, find?, hk, ho, ih]

@[simp] theorem erase_nil (key : String) : erase key ([] : Entries α) = [] := rfl

theorem erase_cons (key k : String) (a : α) (rest : Entries α) :
    erase key ((k, a) :: rest) = if k = key then erase key rest else (k, a) :: erase key rest := by
  by_cases h : k = key <;> simp [erase, h]

/-- An erased key is found no more. -/
@[simp] theorem find?_erase_self (key : String) (entries : Entries α) :
    find? key (erase key entries) = none := by
  induction entries with
  | nil => rfl
  | cons entry rest ih =>
    obtain ⟨k, a⟩ := entry
    by_cases hk : k = key <;> simp [erase_cons, find?, hk, ih]

/-- An erased key leaves the other keys as they were. -/
theorem find?_erase_of_ne {key other : String} (h : other ≠ key) (entries : Entries α) :
    find? other (erase key entries) = find? other entries := by
  induction entries with
  | nil => rfl
  | cons entry rest ih =>
    obtain ⟨k, a⟩ := entry
    by_cases hk : k = key
    · subst hk
      simp [erase_cons, find?, Ne.symm h, ih]
    · rw [erase_cons, if_neg hk]
      by_cases ho : k = other <;> simp [find?, ho, ih]

/-- A key is found exactly when it is listed among the keys. -/
theorem has_iff_mem_keys (key : String) (entries : Entries α) :
    has key entries = true ↔ key ∈ keys entries := by
  induction entries with
  | nil => simp [has, keys]
  | cons entry rest ih =>
    obtain ⟨k, a⟩ := entry
    by_cases hk : k = key
    · simp [has, keys, find?, hk]
    · simpa [has, keys, find?, hk, Ne.symm hk] using ih

theorem find?_eq_none_iff {key : String} {entries : Entries α} :
    find? key entries = none ↔ key ∉ keys entries := by
  rw [← has_iff_mem_keys, has, Option.not_isSome_iff_eq_none]

/-- What is found under a key is an entry. -/
theorem mem_of_find? {key : String} {value : α} {entries : Entries α}
    (h : find? key entries = some value) : (key, value) ∈ entries := by
  induction entries with
  | nil => simp at h
  | cons entry rest ih =>
    obtain ⟨k, a⟩ := entry
    by_cases hk : k = key
    · simp_all [find?]
    · simp only [find?, hk, if_false] at h
      exact List.mem_cons_of_mem _ (ih h)

/-- Under distinct keys every entry is found. -/
theorem find?_of_mem {key : String} {value : α} {entries : Entries α}
    (hkeys : (keys entries).Nodup) (h : (key, value) ∈ entries) : find? key entries = some value := by
  induction entries with
  | nil => simp at h
  | cons entry rest ih =>
    obtain ⟨k, a⟩ := entry
    simp only [keys, List.map_cons, List.nodup_cons] at hkeys
    rcases List.mem_cons.mp h with heq | hrest
    · cases heq
      simp [find?]
    · have hk : k ≠ key := by
        rintro rfl
        exact hkeys.1 (List.mem_map.mpr ⟨_, hrest, rfl⟩)
      simpa [find?, hk] using ih hkeys.2 hrest

/-- A write at a present key keeps the keys. -/
theorem keys_set_of_mem {key : String} {entries : Entries α} (h : key ∈ keys entries) (value : α) :
    keys (set key value entries) = keys entries := by
  induction entries with
  | nil => simp [keys] at h
  | cons entry rest ih =>
    obtain ⟨k, a⟩ := entry
    by_cases hk : k = key
    · simp [set, keys, hk]
    · have hrest : key ∈ keys rest := by simpa [keys, Ne.symm hk] using h
      simpa [set, keys, hk] using ih hrest

/-- A write at a new key stands at the end. -/
theorem set_of_not_mem {key : String} {entries : Entries α} (h : key ∉ keys entries) (value : α) :
    set key value entries = entries ++ [(key, value)] := by
  induction entries with
  | nil => rfl
  | cons entry rest ih =>
    obtain ⟨k, a⟩ := entry
    simp only [keys, List.map_cons, List.mem_cons, not_or] at h
    simp [set, Ne.symm h.1, ih h.2]

/-- Keys stay distinct when a value is set. -/
theorem nodup_keys_set {entries : Entries α} (h : (keys entries).Nodup) (key : String) (value : α) :
    (keys (set key value entries)).Nodup := by
  by_cases hmem : key ∈ keys entries
  · rwa [keys_set_of_mem hmem]
  · rw [set_of_not_mem hmem, keys, List.map_append]
    refine List.nodup_append.mpr ⟨h, by simp, fun k hk other hother heq => hmem ?_⟩
    have hkey : other = key := List.mem_singleton.mp hother
    rwa [← hkey, ← heq]

/-- Writing what is already there changes nothing. -/
theorem set_of_find? {key : String} {value : α} {entries : Entries α}
    (h : find? key entries = some value) : set key value entries = entries := by
  induction entries with
  | nil => simp at h
  | cons entry rest ih =>
    obtain ⟨k, a⟩ := entry
    by_cases hk : k = key
    · simp_all [find?, set]
    · simp only [find?, hk, if_false] at h
      simp [set, hk, ih h]

/-- The later of two writes at a key is the one that counts. -/
theorem set_set (key : String) (first second : α) (entries : Entries α) :
    set key second (set key first entries) = set key second entries := by
  induction entries with
  | nil => simp [set]
  | cons entry rest ih =>
    obtain ⟨k, a⟩ := entry
    by_cases hk : k = key
    · simp [set, hk]
    · simp [set, hk, ih]

theorem keys_erase (key : String) (entries : Entries α) :
    keys (erase key entries) = (keys entries).filter (· ≠ key) := by
  simp [keys, erase, List.filter_map, Function.comp_def]

theorem nodup_keys_erase {entries : Entries α} (h : (keys entries).Nodup) (key : String) :
    (keys (erase key entries)).Nodup := by
  rw [keys_erase]
  exact h.filter _

/-- What is found among the entries whose keys are kept. -/
theorem find?_filter (keep : String → Bool) (key : String) (entries : Entries α) :
    find? key (entries.filter fun entry => keep entry.1) =
      if keep key then find? key entries else none := by
  induction entries with
  | nil => simp
  | cons entry rest ih =>
    obtain ⟨k, a⟩ := entry
    by_cases hk : k = key
    · cases hkeep : keep key <;> simp [find?, hk, hkeep, ih]
    · cases hkeep : keep k <;> simp [find?, hk, hkeep, ih]

theorem keys_filter (keep : String → Bool) (entries : Entries α) :
    keys (entries.filter fun entry => keep entry.1) = (keys entries).filter keep := by
  simp [keys, List.filter_map, Function.comp_def]

theorem has_filter (keep : String → Bool) (key : String) (entries : Entries α) :
    has key (entries.filter fun entry => keep entry.1) = (keep key && has key entries) := by
  rw [has, find?_filter]
  cases keep key <;> simp [has]

/-- A write is seen among the entries whose keys are kept if its own key is. -/
theorem set_filter (keep : String → Bool) (key : String) (value : α) (entries : Entries α) :
    ((set key value entries).filter fun entry => keep entry.1) =
      if keep key then set key value (entries.filter fun entry => keep entry.1)
      else entries.filter fun entry => keep entry.1 := by
  induction entries with
  | nil => cases hkeep : keep key <;> simp [set, hkeep]
  | cons entry rest ih =>
    obtain ⟨k, a⟩ := entry
    by_cases hk : k = key
    · cases hkeep : keep key <;> simp [set, hk, hkeep]
    · cases hkeep : keep k <;> cases hkey : keep key <;> simp_all [set]

@[simp] theorem keys_mapValues (f : α → β) (entries : Entries α) :
    keys (mapValues f entries) = keys entries := by
  simp [keys, mapValues, Function.comp_def]

@[simp] theorem find?_mapValues (f : α → β) (key : String) (entries : Entries α) :
    find? key (mapValues f entries) = (find? key entries).map f := by
  induction entries with
  | nil => rfl
  | cons entry rest ih =>
    obtain ⟨k, a⟩ := entry
    by_cases hk : k = key
    · simp [mapValues, find?, hk]
    · simpa [mapValues, find?, hk] using ih

theorem mapValues_set (f : α → β) (key : String) (value : α) (entries : Entries α) :
    mapValues f (set key value entries) = set key (f value) (mapValues f entries) := by
  induction entries with
  | nil => rfl
  | cons entry rest ih =>
    obtain ⟨k, a⟩ := entry
    by_cases hk : k = key
    · simp [mapValues, set, hk]
    · simpa [mapValues, set, hk] using ih

theorem mapValues_erase (f : α → β) (key : String) (entries : Entries α) :
    mapValues f (erase key entries) = erase key (mapValues f entries) := by
  simp [mapValues, erase, List.filter_map, Function.comp_def]

/-- What is under a key when the value depends on the key. -/
theorem find?_map (f : String → α → β) (key : String) (entries : Entries α) :
    find? key (entries.map fun entry => (entry.1, f entry.1 entry.2)) =
      (find? key entries).map (f key) := by
  induction entries with
  | nil => rfl
  | cons entry rest ih =>
    obtain ⟨k, a⟩ := entry
    by_cases hk : k = key
    · subst hk
      simp [find?]
    · simpa [find?, hk] using ih

/-- Entries under the same distinct keys are told apart by what they hold there. -/
theorem ext {entries others : Entries α} (hkeys : keys entries = keys others)
    (hdistinct : (keys entries).Nodup)
    (hfind : ∀ key ∈ keys entries, find? key entries = find? key others) : entries = others := by
  induction entries generalizing others with
  | nil =>
    cases others with
    | nil => rfl
    | cons other rest => cases hkeys
  | cons entry rest ih =>
    obtain ⟨k, a⟩ := entry
    cases others with
    | nil => cases hkeys
    | cons other others =>
      obtain ⟨k', b⟩ := other
      obtain ⟨rfl, hrest⟩ := List.cons.inj hkeys
      obtain ⟨hfresh, hdistinct⟩ := List.nodup_cons.mp hdistinct
      have hfirst := hfind k List.mem_cons_self
      simp only [find?, if_true, Option.some.injEq] at hfirst
      rw [hfirst, ih hrest hdistinct fun key hkey => ?_]
      have hne : k ≠ key := fun heq => hfresh (heq ▸ hkey)
      simpa [find?, hne] using hfind key (List.mem_cons_of_mem _ hkey)

theorem find?_append (key : String) (entries others : Entries α) :
    find? key (entries ++ others) = (find? key entries).or (find? key others) := by
  induction entries with
  | nil => rfl
  | cons entry rest ih =>
    obtain ⟨k, a⟩ := entry
    by_cases hk : k = key <;> simp [find?, hk, ih]

/-- What is merged under known keys adds none. -/
theorem keys_merge_of_subset {base extra : Entries α} (h : keys extra ⊆ keys base) :
    keys (merge base extra) = keys base := by
  induction extra generalizing base with
  | nil => rfl
  | cons entry rest ih =>
    obtain ⟨hentry, hrest⟩ := List.cons_subset.mp h
    have hset : keys (set entry.1 entry.2 base) = keys base := keys_set_of_mem hentry _
    exact (ih (hset ▸ hrest)).trans hset

/-- What is merged is found where it is, and the rest as before. -/
theorem find?_merge {base extra : Entries α} (hdistinct : (keys extra).Nodup) (key : String) :
    find? key (merge base extra) = (find? key extra).or (find? key base) := by
  induction extra generalizing base with
  | nil => rfl
  | cons entry rest ih =>
    obtain ⟨k, a⟩ := entry
    obtain ⟨hfresh, hdistinct⟩ := List.nodup_cons.mp hdistinct
    have hmerge : merge base ((k, a) :: rest) = merge (set k a base) rest := rfl
    rw [hmerge, ih hdistinct]
    by_cases hk : k = key
    · subst hk
      have habsent : find? k rest = none := find?_eq_none_iff.mpr hfresh
      simp [find?, habsent]
    · rw [find?_set_of_ne (Ne.symm hk)]
      simp [find?, hk]

end Entries

end Canvasflow
