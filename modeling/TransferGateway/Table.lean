/-!
# Tables

Values under names.  Every name stands once, in the order in which the names came in.
-/

namespace TransferGateway

/-- Values under names, each name once. -/
structure Table (α : Type) where
  entries : List (String × α)
  distinct : (entries.map Prod.fst).Nodup
deriving DecidableEq, Repr

namespace Table

variable {α β ε : Type}

/-- The table without a name. -/
def empty : Table α := ⟨[], List.nodup_nil⟩

instance : Inhabited (Table α) := ⟨empty⟩

/-- The names in a table. -/
def names (t : Table α) : List String := t.entries.map Prod.fst

/-- The value under a name. -/
def find? (t : Table α) (name : String) : Option α :=
  (t.entries.find? fun entry => entry.1 == name).map Prod.snd

/-- Among entries under distinct keys each one is found under its own. -/
theorem find?_of_mem {κ : Type} [BEq κ] [LawfulBEq κ] {entries : List (κ × α)} {entry : κ × α}
    (hdistinct : (entries.map Prod.fst).Nodup) (hmem : entry ∈ entries) :
    entries.find? (fun other => other.1 == entry.1) = some entry := by
  induction entries with
  | nil => cases hmem
  | cons first rest ih =>
    rw [List.map_cons, List.nodup_cons] at hdistinct
    rcases List.mem_cons.1 hmem with rfl | hrest
    · simp
    · have hother : (first.1 == entry.1) = false := by
        rw [beq_eq_false_iff_ne]
        intro heq
        exact hdistinct.1 (heq ▸ List.mem_map_of_mem hrest)
      rw [List.find?_cons, hother]
      exact ih hdistinct.2 hrest

theorem find?_eq_some_iff {t : Table α} {name : String} {value : α} :
    t.find? name = some value ↔ (name, value) ∈ t.entries := by
  rw [find?, Option.map_eq_some_iff]
  constructor
  · rintro ⟨⟨found, _⟩, hfound, rfl⟩
    have hname : found = name := by simpa using List.find?_some hfound
    rw [← hname]
    exact List.mem_of_find?_eq_some hfound
  · intro h
    exact ⟨(name, value), find?_of_mem t.distinct h, rfl⟩

/-- The order of its entries does not matter to a table. -/
theorem find?_of_perm {t u : Table α} (h : t.entries.Perm u.entries) (name : String) :
    t.find? name = u.find? name := by
  apply Option.ext
  intro value
  rw [find?_eq_some_iff, find?_eq_some_iff, h.mem_iff]

/-- The entries under other names. -/
def others (name : String) (entries : List (String × α)) : List (String × α) :=
  entries.filter fun entry => entry.1 != name

theorem not_mem_names_others (name : String) (entries : List (String × α)) :
    name ∉ (others name entries).map Prod.fst := by
  simp [others]

theorem nodup_names_others {entries : List (String × α)} (name : String)
    (h : (entries.map Prod.fst).Nodup) : ((others name entries).map Prod.fst).Nodup :=
  h.sublist (List.filter_sublist.map Prod.fst)

/-- Put a value under a name in place of an earlier one; it comes last. -/
def insert (t : Table α) (name : String) (value : α) : Table α where
  entries := others name t.entries ++ [(name, value)]
  distinct := by
    rw [List.map_append, List.nodup_append]
    refine ⟨nodup_names_others name t.distinct, by simp, ?_⟩
    intro a ha b hb heq
    simp only [List.map_cons, List.map_nil, List.mem_singleton] at hb
    rw [heq.trans hb] at ha
    exact not_mem_names_others name t.entries ha

/-- Change every value; the first one that cannot be changed decides. -/
def mapEntries (f : α → Except ε β) : List (String × α) → Except ε (List (String × β))
  | [] => .ok []
  | (name, value) :: rest =>
    match f value with
    | .error e => .error e
    | .ok changed =>
      match mapEntries f rest with
      | .error e => .error e
      | .ok others => .ok ((name, changed) :: others)

theorem names_of_mapEntries {f : α → Except ε β} {entries : List (String × α)}
    {changed : List (String × β)} (h : mapEntries f entries = .ok changed) :
    changed.map Prod.fst = entries.map Prod.fst := by
  induction entries generalizing changed with
  | nil => cases h; rfl
  | cons entry rest ih =>
    obtain ⟨name, value⟩ := entry
    rw [mapEntries] at h
    split at h
    · cases h
    · split at h
      · cases h
      · rename_i others hrest
        cases h
        simp [ih hrest]

/-- All values can be changed if each of them can. -/
theorem exists_mapEntries_eq_ok {f : α → Except ε β} {entries : List (String × α)}
    (h : ∀ entry ∈ entries, ∃ changed, f entry.2 = .ok changed) :
    ∃ changed, mapEntries f entries = .ok changed := by
  induction entries with
  | nil => exact ⟨[], rfl⟩
  | cons entry rest ih =>
    obtain ⟨changed, hchanged⟩ := h entry (by simp)
    obtain ⟨others, hothers⟩ := ih fun other hother => h other (by simp [hother])
    exact ⟨(entry.1, changed) :: others, by simp [mapEntries, hchanged, hothers]⟩

/-- A name keeps its place: under it stands the value that was changed. -/
theorem find?_of_mapEntries {f : α → Except ε β} {entries : List (String × α)}
    {changed : List (String × β)} (h : mapEntries f entries = .ok changed) (name : String) :
    (entries.find? (fun entry => entry.1 == name) = none ∧
        changed.find? (fun entry => entry.1 == name) = none) ∨
      ∃ value other, entries.find? (fun entry => entry.1 == name) = some (name, value) ∧
        f value = .ok other ∧ changed.find? (fun entry => entry.1 == name) = some (name, other) := by
  induction entries generalizing changed with
  | nil =>
    cases h
    exact .inl ⟨rfl, rfl⟩
  | cons entry rest ih =>
    obtain ⟨key, value⟩ := entry
    rw [mapEntries] at h
    split at h
    · cases h
    · rename_i other hother
      split at h
      · cases h
      · rename_i others hrest
        cases h
        by_cases hkey : key = name
        · subst hkey
          exact .inr ⟨value, other, by simp, hother, by simp⟩
        · simpa [hkey] using ih hrest

/-- Change every value of a table. -/
def mapValues (t : Table α) (f : α → Except ε β) : Except ε (Table β) :=
  match h : mapEntries f t.entries with
  | .error e => .error e
  | .ok entries => .ok ⟨entries, names_of_mapEntries h ▸ t.distinct⟩

theorem mapEntries_of_mapValues {t : Table α} {f : α → Except ε β} {u : Table β}
    (h : t.mapValues f = .ok u) : mapEntries f t.entries = .ok u.entries := by
  unfold mapValues at h
  split at h
  · cases h
  · rename_i entries hentries
    cases h
    exact hentries

/-- A table can be changed if each of its values can. -/
theorem exists_mapValues_eq_ok {t : Table α} {f : α → Except ε β}
    (h : ∀ entry ∈ t.entries, ∃ changed, f entry.2 = .ok changed) :
    ∃ u, t.mapValues f = .ok u := by
  obtain ⟨changed, hchanged⟩ := exists_mapEntries_eq_ok h
  unfold mapValues
  split
  · rename_i hfault
    rw [hchanged] at hfault
    contradiction
  · exact ⟨_, rfl⟩

/-- A changed table has the same names, and under each of them the changed value. -/
theorem find?_of_mapValues {t : Table α} {f : α → Except ε β} {u : Table β}
    (h : t.mapValues f = .ok u) (name : String) :
    (t.find? name = none ∧ u.find? name = none) ∨
      ∃ value other, t.find? name = some value ∧ f value = .ok other ∧ u.find? name = some other := by
  unfold find?
  rcases find?_of_mapEntries (mapEntries_of_mapValues h) name with
    ⟨hnone, hnone'⟩ | ⟨value, other, hsome, hchanged, hsome'⟩
  · exact .inl ⟨by rw [hnone, Option.map_none], by rw [hnone', Option.map_none]⟩
  · exact .inr ⟨value, other, by rw [hsome, Option.map_some], hchanged,
      by rw [hsome', Option.map_some]⟩

end Table

end TransferGateway
