/-
# Entries by name

A list of entries, each with a name and a value, keeps the order in which names were first set, and
a name that is set again keeps its place. The members of an object, the values of a session and the
texts of a server are entries; a name is of any type whose values can be told apart.

Main statements: `find?_set`, `find?_set_of_ne`, `find?_erase` and `find?_erase_of_ne` (what a name
holds after a change), `names_set` and `set_of_notMem` (a new name goes to the end, a known one
stays in place), `merged_eq_self` (entries whose names stand once each are merged already).
-/

namespace Critique.Entries

variable {κ α : Type} [DecidableEq κ]

/-- The value of a name. -/
def find? (name : κ) : List (κ × α) → Option α
  | [] => none
  | (key, value) :: rest => if key = name then some value else find? name rest

/-- Gives a name a value: in place if the name is known, else at the end. -/
def set (name : κ) (value : α) : List (κ × α) → List (κ × α)
  | [] => [(name, value)]
  | (key, old) :: rest =>
    if key = name then (key, value) :: rest else (key, old) :: set name value rest

/-- The entries without those of a name. -/
def erase (name : κ) (entries : List (κ × α)) : List (κ × α) :=
  entries.filter fun entry => !decide (entry.1 = name)

/-- The entries with every repeated name merged: the first place, the last value. -/
def merged (entries : List (κ × α)) : List (κ × α) :=
  entries.foldl (fun known entry => set entry.1 entry.2 known) []

@[simp] theorem find?_set (name : κ) (value : α) (entries : List (κ × α)) :
    find? name (set name value entries) = some value := by
  induction entries with
  | nil => simp [set, find?]
  | cons entry rest ih =>
    obtain ⟨key, old⟩ := entry
    by_cases h : key = name <;> simp [set, find?, h, ih]

theorem find?_set_of_ne {name other : κ} (h : other ≠ name) (value : α)
    (entries : List (κ × α)) : find? other (set name value entries) = find? other entries := by
  induction entries with
  | nil => simp [set, find?, Ne.symm h]
  | cons entry rest ih =>
    obtain ⟨key, old⟩ := entry
    by_cases hk : key = name
    · subst hk
      simp [set, find?, Ne.symm h]
    · by_cases ho : key = other <;> simp [set, find?, hk, ho, ih, h]

/-- A new name goes to the end, a known one stays in place. -/
theorem names_set (name : κ) (value : α) (entries : List (κ × α)) :
    (set name value entries).map Prod.fst =
      entries.map Prod.fst ++ (if name ∈ entries.map Prod.fst then [] else [name]) := by
  induction entries with
  | nil => simp [set]
  | cons entry rest ih =>
    obtain ⟨key, old⟩ := entry
    by_cases h : key = name
    · simp [set, h]
    · have h' : ¬ name = key := fun e => h e.symm
      simp only [set, if_neg h, List.map_cons, ih, List.cons_append, List.mem_cons, h', false_or]

/-- Names that stand once each still do after a change. -/
theorem nodup_set {entries : List (κ × α)} (once : (entries.map Prod.fst).Nodup) (name : κ)
    (value : α) : ((set name value entries).map Prod.fst).Nodup := by
  rw [names_set]
  split
  · rwa [List.append_nil]
  · next hnew =>
    rw [List.nodup_append]
    refine ⟨once, by simp, ?_⟩
    rintro key hkey other hother rfl
    exact hnew (List.mem_singleton.mp hother ▸ hkey)

/-- An entry after a change is an old one, or the one that was set. -/
theorem mem_set {name : κ} {value : α} {entries : List (κ × α)} {entry : κ × α}
    (h : entry ∈ set name value entries) : entry ∈ entries ∨ entry = (name, value) := by
  induction entries with
  | nil => exact .inr (List.mem_singleton.mp h)
  | cons old rest ih =>
    obtain ⟨key, kept⟩ := old
    by_cases hkey : key = name
    · rw [set, if_pos hkey, List.mem_cons] at h
      rcases h with rfl | hrest
      · exact .inr (by rw [hkey])
      · exact .inl (List.mem_cons_of_mem _ hrest)
    · rw [set, if_neg hkey, List.mem_cons] at h
      rcases h with rfl | hrest
      · exact .inl List.mem_cons_self
      · exact (ih hrest).imp_left (List.mem_cons_of_mem _)

/-- A new name goes to the end with its value. -/
theorem set_of_notMem {name : κ} {entries : List (κ × α)} (h : name ∉ entries.map Prod.fst)
    (value : α) : set name value entries = entries ++ [(name, value)] := by
  induction entries with
  | nil => rfl
  | cons entry rest ih =>
    obtain ⟨key, old⟩ := entry
    rw [List.map_cons, List.mem_cons, not_or] at h
    rw [set, if_neg (Ne.symm h.1), ih h.2, List.cons_append]

/-- Entries that are new to those in front of them go to the end in their order. -/
theorem foldl_set_of_nodup (entries known : List (κ × α))
    (once : ((known ++ entries).map Prod.fst).Nodup) :
    entries.foldl (fun known entry => set entry.1 entry.2 known) known = known ++ entries := by
  induction entries generalizing known with
  | nil => rw [List.foldl_nil, List.append_nil]
  | cons entry entries ih =>
    have hnew : entry.1 ∉ known.map Prod.fst := by
      rw [List.map_append, List.map_cons, List.nodup_append] at once
      exact fun hmem => once.2.2 _ hmem _ List.mem_cons_self rfl
    rw [List.append_cons] at once ⊢
    rw [List.foldl_cons, set_of_notMem hnew, ih _ once]

/-- Entries whose names stand once each are merged already. -/
theorem merged_eq_self {entries : List (κ × α)} (once : (entries.map Prod.fst).Nodup) :
    merged entries = entries := by
  rw [merged, foldl_set_of_nodup entries [] once, List.nil_append]

/-- The value of a name that stands once. -/
theorem find?_of_mem {entries : List (κ × α)} (once : (entries.map Prod.fst).Nodup) {name : κ}
    {value : α} (hmem : (name, value) ∈ entries) : find? name entries = some value := by
  induction entries with
  | nil => exact absurd hmem List.not_mem_nil
  | cons entry rest ih =>
    obtain ⟨key, other⟩ := entry
    rw [List.map_cons, List.nodup_cons] at once
    rcases List.mem_cons.mp hmem with heq | hmem
    · rw [← heq, find?, if_pos rfl]
    · have hne : key ≠ name := by
        intro he
        have hname : name ∈ rest.map Prod.fst := List.mem_map_of_mem hmem
        exact once.1 (he ▸ hname)
      rw [find?, if_neg hne, ih once.2 hmem]

theorem find?_of_notMem {entries : List (κ × α)} {name : κ} (h : name ∉ entries.map Prod.fst) :
    find? name entries = none := by
  induction entries with
  | nil => rfl
  | cons entry rest ih =>
    obtain ⟨key, other⟩ := entry
    rw [List.map_cons, List.mem_cons, not_or] at h
    rw [find?, if_neg (Ne.symm h.1), ih h.2]

@[simp] theorem find?_erase (name : κ) (entries : List (κ × α)) :
    find? name (erase name entries) = none := by
  unfold erase
  induction entries with
  | nil => rfl
  | cons entry rest ih =>
    obtain ⟨key, value⟩ := entry
    by_cases h : key = name
    · subst h
      simpa using ih
    · simpa [h, find?] using ih

theorem find?_erase_of_ne {name other : κ} (h : other ≠ name) (entries : List (κ × α)) :
    find? other (erase name entries) = find? other entries := by
  unfold erase
  induction entries with
  | nil => rfl
  | cons entry rest ih =>
    obtain ⟨key, value⟩ := entry
    by_cases hk : key = name
    · have ho : key ≠ other := fun e => h (e.symm.trans hk)
      simpa [hk, ho, find?, Ne.symm h] using ih
    · by_cases ho : key = other
      · simp [ho, find?, h]
      · simpa [hk, ho, find?] using ih

end Critique.Entries
