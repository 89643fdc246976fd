/-!
# Maps from identifiers

A finite map whose entries are held in ascending order of their keys, each key at
most once. The order is part of the type, so two maps with the same entries are
equal and a map is always shown in one way. The view is `find?`; `find?_insert`
says what an insertion does to it.
-/

namespace TrackerGate

structure IdMap (α : Type) where
  entries : List (Int64 × α)
  ascending : entries.Pairwise (fun a b => a.1 < b.1)

namespace IdMap

variable {α β : Type}

@[ext] theorem ext {m n : IdMap α} (h : m.entries = n.entries) : m = n := by
  cases m; cases n; cases h; rfl

instance [DecidableEq α] : DecidableEq (IdMap α) := fun m n =>
  decidable_of_iff (m.entries = n.entries) ⟨ext, fun h => h ▸ rfl⟩

instance [Repr α] : Repr (IdMap α) := ⟨fun m p => reprPrec m.entries p⟩

/-! ## Construction -/

def empty : IdMap α := ⟨[], .nil⟩

instance : Inhabited (IdMap α) := ⟨empty⟩

/-- `l` with `v` at `k`, in place of what stood there. -/
def insertEntry (k : Int64) (v : α) : List (Int64 × α) → List (Int64 × α)
  | [] => [(k, v)]
  | e :: l =>
      if k < e.1 then (k, v) :: e :: l
      else if k = e.1 then (k, v) :: l
      else e :: insertEntry k v l

theorem key_of_mem_insertEntry {k : Int64} {v : α} {l : List (Int64 × α)} {e : Int64 × α}
    (h : e ∈ insertEntry k v l) : e.1 = k ∨ e ∈ l := by
  induction l with
  | nil => simp_all [insertEntry]
  | cons x l ih =>
      unfold insertEntry at h
      split at h
      · rcases List.mem_cons.mp h with rfl | h
        · exact Or.inl rfl
        · exact Or.inr h
      · split at h
        · rcases List.mem_cons.mp h with rfl | h
          · exact Or.inl rfl
          · exact Or.inr (List.mem_cons_of_mem _ h)
        · rcases List.mem_cons.mp h with rfl | h
          · exact Or.inr (List.mem_cons_self ..)
          · rcases ih h with h | h
            · exact Or.inl h
            · exact Or.inr (List.mem_cons_of_mem _ h)

theorem lt_of_not_lt_of_ne {a b : Int64} (h : ¬a < b) (hne : a ≠ b) : b < a := by
  rw [Int64.lt_iff_toInt_lt] at h ⊢
  have : a.toInt ≠ b.toInt := fun hab => hne (Int64.toInt_inj.mp hab)
  omega

theorem pairwise_insertEntry (k : Int64) (v : α) {l : List (Int64 × α)}
    (h : l.Pairwise (fun a b => a.1 < b.1)) :
    (insertEntry k v l).Pairwise (fun a b => a.1 < b.1) := by
  induction l with
  | nil => simp [insertEntry]
  | cons e l ih =>
      obtain ⟨hhead, htail⟩ := List.pairwise_cons.mp h
      unfold insertEntry
      split
      · next hk =>
          refine List.pairwise_cons.mpr ⟨fun x hx => ?_, h⟩
          rcases List.mem_cons.mp hx with rfl | hx
          · exact hk
          · exact Int64.lt_trans hk (hhead x hx)
      · next hk =>
          split
          · next heq =>
              refine List.pairwise_cons.mpr ⟨fun x hx => ?_, htail⟩
              exact heq ▸ hhead x hx
          · next hne =>
              refine List.pairwise_cons.mpr ⟨fun x hx => ?_, ih htail⟩
              rcases key_of_mem_insertEntry hx with hxk | hx
              · exact hxk ▸ lt_of_not_lt_of_ne hk hne
              · exact hhead x hx

def insert (m : IdMap α) (k : Int64) (v : α) : IdMap α :=
  ⟨insertEntry k v m.entries, pairwise_insertEntry k v m.ascending⟩

/-- The map of a list of entries; of two entries with one key the later stays. -/
def ofList (l : List (Int64 × α)) : IdMap α := l.foldl (fun m e => m.insert e.1 e.2) empty

/-! ## View -/

def find? (m : IdMap α) (k : Int64) : Option α := (m.entries.find? (·.1 == k)).map (·.2)

@[simp] theorem find?_empty (k : Int64) : (empty : IdMap α).find? k = none := rfl

theorem find?_insertEntry (k : Int64) (v : α) (l : List (Int64 × α)) (q : Int64) :
    ((insertEntry k v l).find? (·.1 == q)).map (·.2)
      = if k = q then some v else (l.find? (·.1 == q)).map (·.2) := by
  induction l with
  | nil => by_cases h : k = q <;> simp [insertEntry, h]
  | cons e l ih =>
      unfold insertEntry
      split
      · by_cases h : k = q <;> simp [h]
      · split
        · next heq => by_cases h : k = q <;> simp_all
        · next hne =>
            rw [List.find?_cons, List.find?_cons]
            cases he : e.1 == q with
            | false => simpa using ih
            | true =>
                have : k ≠ q := fun h => hne (h.trans (beq_iff_eq.mp he).symm)
                simp [this]

/-- An insertion answers for its own key and leaves every other key alone. -/
theorem find?_insert (m : IdMap α) (k : Int64) (v : α) (q : Int64) :
    (m.insert k v).find? q = if k = q then some v else m.find? q :=
  find?_insertEntry k v m.entries q

/-! ## Lists of entries -/

theorem insertEntry_of_forall_lt {k : Int64} (v : α) {l : List (Int64 × α)}
    (h : ∀ e ∈ l, e.1 < k) : insertEntry k v l = l ++ [(k, v)] := by
  induction l with
  | nil => rfl
  | cons e l ih =>
      have he : e.1 < k := h e List.mem_cons_self
      have hlt : ¬k < e.1 := Int64.lt_asymm he
      have hne : k ≠ e.1 := fun heq => Int64.lt_irrefl (heq ▸ he)
      rw [insertEntry, if_neg hlt, if_neg hne, ih fun x hx => h x (List.mem_cons_of_mem _ hx)]
      rfl

/-- Entries that come in ascending order are appended one after the other. -/
theorem entries_foldl_insert (l : List (Int64 × α)) (m : IdMap α)
    (h : (m.entries ++ l).Pairwise (fun a b => a.1 < b.1)) :
    (l.foldl (fun m e => m.insert e.1 e.2) m).entries = m.entries ++ l := by
  induction l generalizing m with
  | nil => simp
  | cons e l ih =>
      have hlast : ∀ x ∈ m.entries, x.1 < e.1 := fun x hx =>
        (List.pairwise_append.mp h).2.2 x hx e List.mem_cons_self
      have hinsert : (m.insert e.1 e.2).entries = m.entries ++ [e] :=
        insertEntry_of_forall_lt e.2 hlast
      have happend : m.entries ++ e :: l = (m.insert e.1 e.2).entries ++ l := by
        rw [hinsert, List.append_assoc, List.singleton_append]
      rw [List.foldl_cons, ih _ (happend ▸ h), happend]

/-- A map is the map of its own entries. -/
theorem ofList_entries (m : IdMap α) : ofList m.entries = m :=
  ext (entries_foldl_insert m.entries empty m.ascending)

theorem find?_foldl_insert (l : List (Int64 × α)) (m : IdMap α) (k : Int64) :
    (l.foldl (fun m e => m.insert e.1 e.2) m).find? k
      = ((l.reverse.find? (·.1 == k)).map (·.2)).or (m.find? k) := by
  induction l generalizing m with
  | nil => rfl
  | cons e l ih =>
      rw [List.foldl_cons, ih, find?_insert, List.reverse_cons, List.find?_append]
      cases l.reverse.find? (·.1 == k) with
      | some x => rfl
      | none => by_cases h : e.1 = k <;> simp [h]

/-- The last entry of a key is the one that is found. -/
theorem find?_ofList (l : List (Int64 × α)) (k : Int64) :
    (ofList l).find? k = (l.reverse.find? (·.1 == k)).map (·.2) := by
  rw [ofList, find?_foldl_insert, find?_empty, Option.or_none]

theorem mem_of_find?_ofList {l : List (Int64 × α)} {k : Int64} {v : α}
    (h : (ofList l).find? k = some v) : (k, v) ∈ l := by
  rw [find?_ofList, Option.map_eq_some_iff] at h
  obtain ⟨⟨k', v'⟩, he, rfl⟩ := h
  have hk : k' = k := by simpa using List.find?_some he
  exact hk ▸ List.mem_reverse.mp (List.mem_of_find?_eq_some he)

theorem isSome_find?_ofList {l : List (Int64 × α)} {k : Int64} :
    ((ofList l).find? k).isSome = true ↔ ∃ v, (k, v) ∈ l := by
  constructor
  · intro h
    obtain ⟨v, hv⟩ := Option.isSome_iff_exists.mp h
    exact ⟨v, mem_of_find?_ofList hv⟩
  · rintro ⟨v, hv⟩
    rw [find?_ofList, Option.isSome_map, List.find?_isSome]
    exact ⟨(k, v), List.mem_reverse.mpr hv, beq_self_eq_true k⟩

/-- Where each key has one value only, the order of the entries does not matter. -/
theorem find?_ofList_eq_some_iff {l : List (Int64 × α)}
    (h : ∀ k v w, (k, v) ∈ l → (k, w) ∈ l → v = w) {k : Int64} {v : α} :
    (ofList l).find? k = some v ↔ (k, v) ∈ l := by
  constructor
  · exact mem_of_find?_ofList
  · intro hv
    obtain ⟨w, hw⟩ := Option.isSome_iff_exists.mp (isSome_find?_ofList.mpr ⟨v, hv⟩)
    rw [hw, h k v w hv (mem_of_find?_ofList hw)]

end IdMap

end TrackerGate
