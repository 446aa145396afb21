set_option autoImplicit false

/-! # Named values in order of arrival

A document keeps the entries of its maps in the order in which they were written, and everything
built from them keeps that order. `Entries α` is such a map: a list of pairs, read by `get?` and
extended by `put`, which replaces the value of a known key where it stands and appends a new key
at the end. Duplicate keys never arise from `put`; `Entries.keys_put` says so. -/

namespace OpenApi

/-- A map from names to values, in order of arrival. -/
abbrev Entries (α : Type) := List (String × α)

namespace Entries

variable {α β : Type}

/-- The names, in order. -/
def keys (e : Entries α) : List String := e.map Prod.fst

/-- The value under `key`: the first one, should a key be repeated. -/
def get? : Entries α → String → Option α
  | [], _ => none
  | entry :: rest, key => if key = entry.1 then some entry.2 else get? rest key

/-- Whether `key` has a value. -/
def has (e : Entries α) (key : String) : Bool := (e.get? key).isSome

/-- Sets the value under `key`: in place for a known key, at the end for a new one. -/
def put (key : String) (value : α) : Entries α → Entries α
  | [] => [(key, value)]
  | entry :: rest => if entry.1 = key then (key, value) :: rest else entry :: put key value rest

/-- Adds the entry unless the key is known already. -/
def putNew (key : String) (value : α) (e : Entries α) : Entries α :=
  if e.has key then e else e ++ [(key, value)]

/-- Drops every entry under `key` and keeps the order of the others. -/
def erase (e : Entries α) (key : String) : Entries α := e.filter (·.1 ≠ key)

/-- Applies `f` to every value. -/
def mapValues (f : α → β) (e : Entries α) : Entries β := e.map fun entry => (entry.1, f entry.2)

/-- The entries whose name starts with `x-`. -/
def extensions (e : Entries α) : Entries α := e.filter (·.1.startsWith "x-")

/-! ## Lookups after an update -/

@[simp] theorem get?_nil (key : String) : get? ([] : Entries α) key = none := rfl

@[simp] theorem get?_cons (entry : String × α) (rest : Entries α) (key : String) :
    get? (entry :: rest) key = if key = entry.1 then some entry.2 else get? rest key := rfl

@[simp] theorem get?_put_self (key : String) (value : α) (e : Entries α) :
    get? (put key value e) key = some value := by
  induction e with
  | nil => simp [put]
  | cons entry rest ih =>
      unfold put
      split
      · simp
      · next h => simp [ih, Ne.symm h]

@[simp] theorem get?_put_of_ne {key other : String} (h : other ≠ key) (value : α) (e : Entries α) :
    get? (put key value e) other = get? e other := by
  induction e with
  | nil => simp [put, h]
  | cons entry rest ih =>
      unfold put
      split
      · next hk => simp [hk, h]
      · simp [ih]

@[simp] theorem get?_append (e e' : Entries α) (key : String) :
    get? (e ++ e') key = (get? e key).or (get? e' key) := by
  induction e with
  | nil => rfl
  | cons entry rest ih =>
      rw [List.cons_append, get?_cons, get?_cons, ih]
      split <;> rfl

theorem get?_putNew (k : String) (v : α) (e : Entries α) (key : String) :
    get? (putNew k v e) key = (get? e key).or (if key = k then some v else none) := by
  unfold putNew
  split
  · next h =>
      split
      · next heq =>
          rw [has, ← heq] at h
          obtain ⟨u, hu⟩ := Option.isSome_iff_exists.1 h
          simp [hu]
      · simp
  · rw [get?_append, get?_cons, get?_nil]

/-- Filtering does not hide an entry under a key for which it keeps everything. -/
theorem get?_filter {p : String × α → Bool} {key : String}
    (hp : ∀ entry, entry.1 = key → p entry = true) (e : Entries α) :
    get? (e.filter p) key = get? e key := by
  induction e with
  | nil => rfl
  | cons entry rest ih =>
      by_cases hentry : p entry = true
      · rw [List.filter_cons_of_pos hentry, get?_cons, get?_cons, ih]
      · have hne : key ≠ entry.1 := fun heq => hentry (hp entry heq.symm)
        rw [List.filter_cons_of_neg hentry, get?_cons, if_neg hne, ih]

@[simp] theorem get?_erase (e : Entries α) (key other : String) :
    get? (erase e key) other = if other = key then none else get? e other := by
  split
  · next heq =>
      subst heq
      induction e with
      | nil => rfl
      | cons entry rest ih =>
          rw [erase, List.filter_cons]
          by_cases hk : entry.1 = other
          · rwa [if_neg (by simp [hk])]
          · rw [if_pos (by simp [hk]), get?_cons, if_neg (Ne.symm hk)]
            exact ih
  · next hne => exact get?_filter (fun entry hentry => by simp [hentry, hne]) e

/-- Entries at the end do not hide those before them. -/
theorem get?_append_of_get? {e e' : Entries α} {key : String} {value : α}
    (h : get? e key = some value) : get? (e ++ e') key = some value := by
  rw [get?_append, h]
  rfl

/-! ## Keys -/

/-- A new key is put at the end. -/
theorem put_of_not_mem {e : Entries α} {key : String} {value : α} (h : key ∉ keys e) :
    put key value e = e ++ [(key, value)] := by
  induction e with
  | nil => rfl
  | cons entry rest ih =>
      simp only [keys, List.map_cons, List.mem_cons, not_or] at h ih
      rw [put, if_neg (fun he => h.1 he.symm), ih h.2]
      rfl

/-- Setting a value adds at most its own key, at the end. -/
theorem keys_put (key : String) (value : α) (e : Entries α) :
    keys (put key value e) = if key ∈ keys e then keys e else keys e ++ [key] := by
  induction e with
  | nil => simp [put, keys]
  | cons entry rest ih =>
      unfold put
      split
      · next h => simp [keys, h]
      · next h =>
          have hne : ¬ key = entry.1 := fun he => h he.symm
          simp only [keys, List.map_cons, List.mem_cons, hne, false_or] at ih ⊢
          rw [ih]
          split <;> simp [*]

theorem get?_eq_none_iff {e : Entries α} {key : String} : get? e key = none ↔ key ∉ keys e := by
  induction e with
  | nil => simp [keys]
  | cons entry rest ih =>
      rw [get?_cons]
      by_cases h : key = entry.1
      · simp [h, keys]
      · simpa [h, keys] using ih

theorem mem_of_get? {e : Entries α} {key : String} {value : α} (h : get? e key = some value) :
    (key, value) ∈ e := by
  induction e with
  | nil => simp at h
  | cons entry rest ih =>
      rw [get?_cons] at h
      split at h
      · next hk =>
          obtain ⟨k, v⟩ := entry
          simp_all
      · exact List.mem_cons_of_mem _ (ih h)

/-- Where the keys are distinct, each entry is found. -/
theorem get?_of_mem {e : Entries α} {key : String} {value : α}
    (hnodup : (keys e).Nodup) (h : (key, value) ∈ e) : get? e key = some value := by
  induction e with
  | nil => cases h
  | cons entry rest ih =>
      obtain ⟨hentry, hrest⟩ := List.nodup_cons.1 hnodup
      rw [get?_cons]
      rcases List.mem_cons.1 h with rfl | h
      · rw [if_pos rfl]
      · rw [if_neg, ih hrest h]
        rintro rfl
        exact hentry (List.mem_map.2 ⟨_, h, rfl⟩)

theorem mem_keys_put {key other : String} {value : α} {e : Entries α} :
    other ∈ keys (put key value e) ↔ other = key ∨ other ∈ keys e := by
  rw [keys_put]
  split
  · next hkey => exact ⟨.inr, fun h => h.elim (fun heq => heq ▸ hkey) id⟩
  · rw [List.mem_append, List.mem_singleton, or_comm]

theorem mem_keys_erase {key other : String} {e : Entries α} :
    other ∈ keys (erase e key) ↔ other ≠ key ∧ other ∈ keys e := by
  simp only [keys, erase, List.mem_map, List.mem_filter, decide_eq_true_eq]
  constructor
  · rintro ⟨entry, ⟨hmem, hne⟩, rfl⟩
    exact ⟨hne, entry, hmem, rfl⟩
  · rintro ⟨hne, entry, hmem, rfl⟩
    exact ⟨entry, ⟨hmem, hne⟩, rfl⟩

theorem mem_keys_putNew {k key : String} {v : α} {e : Entries α} :
    key ∈ keys (putNew k v e) ↔ key = k ∨ key ∈ keys e := by
  unfold putNew has
  cases h : get? e k with
  | none => simp [keys, or_comm]
  | some u =>
      have hmem : k ∈ keys e := List.mem_map_of_mem (mem_of_get? h)
      exact ⟨.inr, fun hkey => hkey.elim (fun heq => heq ▸ hmem) id⟩

theorem nodup_keys_append_singleton {e : Entries α} {key : String} (h : (keys e).Nodup)
    (hkey : key ∉ keys e) (value : α) : (keys (e ++ [(key, value)])).Nodup := by
  rw [keys, List.map_append]
  refine List.nodup_append.2 ⟨h, by simp, fun k hk k' hk' => ?_⟩
  obtain rfl := List.mem_singleton.1 hk'
  exact fun he => hkey (he ▸ hk)

theorem nodup_keys_put {e : Entries α} (h : (keys e).Nodup) (key : String) (value : α) :
    (keys (put key value e)).Nodup := by
  by_cases hkey : key ∈ keys e
  · rwa [keys_put, if_pos hkey]
  · rw [put_of_not_mem hkey]
    exact nodup_keys_append_singleton h hkey value

theorem nodup_keys_of_sublist {e e' : Entries α} (h : (keys e).Nodup) (hsub : e'.Sublist e) :
    (keys e').Nodup :=
  h.sublist (hsub.map Prod.fst)

theorem nodup_keys_erase {e : Entries α} (h : (keys e).Nodup) (key : String) :
    (keys (erase e key)).Nodup :=
  nodup_keys_of_sublist h List.filter_sublist

theorem length_erase_lt {e : Entries α} {key : String} (h : key ∈ keys e) :
    (erase e key).length < e.length := by
  induction e with
  | nil => simp [keys] at h
  | cons entry rest ih =>
      by_cases hk : entry.1 = key
      · have hle : (erase rest key).length ≤ rest.length := List.length_filter_le ..
        simp only [erase, hk, ne_eq, not_true_eq_false, decide_false, Bool.false_eq_true,
          not_false_eq_true, List.filter_cons_of_neg, List.length_cons] at hle ⊢
        omega
      · have hr : key ∈ keys rest := by
          simp only [keys, List.map_cons, List.mem_cons] at h
          exact h.resolve_left fun he => hk he.symm
        have := ih hr
        simp only [erase, ne_eq, hk, not_false_eq_true, decide_true, List.filter_cons_of_pos,
          List.length_cons] at this ⊢
        omega

end Entries

end OpenApi
