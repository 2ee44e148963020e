namespace HttpDigest

-- A map whose entries stand in the order in which their keys came in
abbrev OrderedMap (κ υ : Type) := List (κ × υ)

namespace OrderedMap

variable {κ υ : Type}

def keys (m : OrderedMap κ υ) : List κ :=
  m.map Prod.fst

@[simp] theorem keys_nil : keys ([] : OrderedMap κ υ) = [] := rfl

@[simp] theorem keys_cons {entry : κ × υ} {m : OrderedMap κ υ} :
    keys (entry :: m) = entry.1 :: keys m := rfl

variable [DecidableEq κ]

def get? : OrderedMap κ υ → κ → Option υ
  | [], _ => none
  | (k, v) :: rest, key => if k = key then some v else get? rest key

def contains (m : OrderedMap κ υ) (key : κ) : Bool :=
  (get? m key).isSome

-- A key that is present keeps its place and takes the new value, any other goes to the end
def insert : OrderedMap κ υ → κ → υ → OrderedMap κ υ
  | [], key, value => [(key, value)]
  | (k, v) :: rest, key, value =>
    if k = key then (key, value) :: rest else (k, v) :: insert rest key value

def erase : OrderedMap κ υ → κ → OrderedMap κ υ
  | [], _ => []
  | (k, v) :: rest, key => if k = key then rest else (k, v) :: erase rest key

-- Entries put in one after another: of a repeated key the first place and the last value
def ofList (entries : List (κ × υ)) : OrderedMap κ υ :=
  entries.foldl (fun m entry => insert m entry.1 entry.2) []

variable {m : OrderedMap κ υ} {key other : κ} {value : υ}

@[simp] theorem get?_nil : get? ([] : OrderedMap κ υ) key = none := rfl

-- A lookup sees the value put in last under its key, and no other key
theorem get?_insert :
    get? (insert m key value) other = if key = other then some value else get? m other := by
  induction m with
  | nil => simp [insert, get?]
  | cons entry rest ih =>
    by_cases hk : entry.1 = key <;> by_cases ho : entry.1 = other <;>
      simp_all [insert, get?]
    intro h
    exact absurd h.symm hk

@[simp] theorem get?_insert_self : get? (insert m key value) key = some value := by
  simp [get?_insert]

theorem get?_insert_of_ne (h : key ≠ other) :
    get? (insert m key value) other = get? m other := by
  simp [get?_insert, h]

theorem isSome_get?_iff : (get? m key).isSome ↔ key ∈ keys m := by
  induction m with
  | nil => simp
  | cons entry rest ih =>
    by_cases h : entry.1 = key
    · simp [get?, h]
    · simp [get?, h, ih, Ne.symm h]

theorem contains_iff : contains m key ↔ key ∈ keys m :=
  isSome_get?_iff

theorem get?_eq_none_iff : get? m key = none ↔ key ∉ keys m := by
  rw [← isSome_get?_iff]
  cases get? m key <;> simp

-- A key that is present keeps its place, any other goes to the end
theorem keys_insert :
    keys (insert m key value) = if key ∈ keys m then keys m else keys m ++ [key] := by
  induction m with
  | nil => rfl
  | cons entry rest ih =>
    by_cases h : entry.1 = key
    · simp [insert, h]
    · by_cases hr : key ∈ keys rest <;> simp [insert, h, ih, hr, Ne.symm h]

theorem nodup_keys_insert (h : (keys m).Nodup) : (keys (insert m key value)).Nodup := by
  rw [keys_insert]
  split
  · exact h
  · rename_i hnot
    exact List.nodup_append.mpr ⟨h, by simp, by rintro a ha b hb rfl; simp_all⟩

theorem keys_erase : keys (erase m key) = (keys m).erase key := by
  induction m with
  | nil => rfl
  | cons entry rest ih => by_cases h : entry.1 = key <;> simp [erase, h, ih]

theorem get?_erase_of_ne (h : key ≠ other) : get? (erase m key) other = get? m other := by
  induction m with
  | nil => rfl
  | cons entry rest ih =>
    by_cases hk : entry.1 = key
    · simp [erase, get?, hk, h]
    · simp [erase, get?, hk, ih]

-- The key is gone, as long as it stood in one entry only
theorem get?_erase_self (h : (keys m).Nodup) : get? (erase m key) key = none := by
  rw [get?_eq_none_iff, keys_erase]
  exact h.not_mem_erase

theorem get?_of_get?_erase (h : (keys m).Nodup) (hg : get? (erase m key) other = some value) :
    get? m other = some value := by
  by_cases hk : key = other
  · subst hk
    rw [get?_erase_self h] at hg
    cases hg
  · rwa [get?_erase_of_ne hk] at hg

theorem mem_of_get? (h : get? m key = some value) : (key, value) ∈ m := by
  induction m with
  | nil => cases h
  | cons entry rest ih =>
    by_cases hk : entry.1 = key
    · simp only [get?, hk, if_true, Option.some.injEq] at h
      exact List.mem_cons.mpr (.inl (Prod.ext hk.symm h.symm))
    · simp only [get?, hk, if_false] at h
      exact List.mem_cons_of_mem _ (ih h)

theorem get?_eq_some_of_mem (h : (keys m).Nodup) (hm : (key, value) ∈ m) :
    get? m key = some value := by
  induction m with
  | nil => cases hm
  | cons entry rest ih =>
    obtain ⟨hnot, hrest⟩ := List.nodup_cons.mp h
    cases hm with
    | head => simp [get?]
    | tail _ hm =>
      have hne : entry.1 ≠ key := fun he => hnot (he ▸ List.mem_map_of_mem hm)
      simp [get?, hne, ih hrest hm]

theorem nodup_keys_erase (h : (keys m).Nodup) : (keys (erase m key)).Nodup := by
  rw [keys_erase]
  exact h.erase key

theorem nodup_keys_ofList (entries : List (κ × υ)) : (keys (ofList entries)).Nodup := by
  -- every step of the fold keeps the keys apart
  suffices ∀ m : OrderedMap κ υ, (keys m).Nodup →
      (keys (entries.foldl (fun m entry => insert m entry.1 entry.2) m)).Nodup from
    this [] (by simp)
  induction entries with
  | nil => exact fun m h => h
  | cons entry rest ih => exact fun m h => ih _ (nodup_keys_insert h)

end OrderedMap

end HttpDigest
