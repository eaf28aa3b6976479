/-!
# Maps keyed by strings

A finite map is its list of entries in ascending order of keys, each key once. The order is by code
points, which is also the order of the UTF-8 bytes. Sortedness is part of the type, so a map is
determined by what it answers: maps with the same look-up function are equal (`StringMap.ext_get?`).
The operations on entries are defined on plain lists first, because free JSON values hold their members
in the same form.

Main statements: `get?_insert`, `get?_erase`, `ext_get?`, `get?_ofList_eq` (of entries put in one after the
other, the last one with a key counts), and `ofList_entries` (the entries of a map, put in one after the
other, make the same map again).
-/

namespace Governance

/-! ## Entries -/

namespace Entries

variable {α : Type}

/-- Entries in ascending order of keys, each key once. -/
def Sorted (es : List (String × α)) : Prop :=
  es.Pairwise fun a b => a.1 < b.1

/-- What stands under a key. -/
def get? (key : String) (es : List (String × α)) : Option α :=
  es.lookup key

/-- Puts a value under a key, in place of what stood there. -/
def insert (key : String) (value : α) : List (String × α) → List (String × α)
  | [] => [(key, value)]
  | (k, v) :: es =>
    if key < k then (key, value) :: (k, v) :: es
    else if key = k then (key, value) :: es
    else (k, v) :: insert key value es

/-- Removes what stands under a key. -/
def erase (key : String) (es : List (String × α)) : List (String × α) :=
  es.filter fun e => e.1 != key

theorem lt_of_not_lt_of_ne {a b : String} (h : ¬ a < b) (ne : a ≠ b) : b < a := by
  by_cases hb : b < a
  · exact hb
  · exact absurd (String.le_antisymm (String.not_lt.1 hb) (String.not_lt.1 h)) ne

theorem mem_insert {key : String} {value : α} {es : List (String × α)} {e : String × α}
    (h : e ∈ insert key value es) : e = (key, value) ∨ e ∈ es := by
  induction es with
  | nil => exact .inl (List.mem_singleton.1 h)
  | cons hd tl ih =>
    obtain ⟨k, v⟩ := hd
    rw [insert] at h
    split at h
    · exact (List.mem_cons.1 h).imp_right id
    split at h
    · exact (List.mem_cons.1 h).imp_right (List.mem_cons_of_mem _)
    · rcases List.mem_cons.1 h with rfl | h
      · exact .inr List.mem_cons_self
      · exact (ih h).imp_right (List.mem_cons_of_mem _)

theorem Sorted.insert {es : List (String × α)} (h : Sorted es) (key : String) (value : α) :
    Sorted (insert key value es) := by
  induction es with
  | nil => exact List.pairwise_singleton _ _
  | cons hd tl ih =>
    obtain ⟨k, v⟩ := hd
    obtain ⟨hlt, htl⟩ := List.pairwise_cons.1 h
    rw [Entries.insert]
    split
    · next lt =>
      refine List.pairwise_cons.2 ⟨fun e he => ?_, h⟩
      rcases List.mem_cons.1 he with rfl | he
      · exact lt
      · exact String.lt_trans lt (hlt e he)
    split
    · next eq =>
      subst eq
      exact List.pairwise_cons.2 ⟨hlt, htl⟩
    · next nlt ne =>
      refine List.pairwise_cons.2 ⟨fun e he => ?_, ih htl⟩
      rcases mem_insert he with rfl | he
      · exact lt_of_not_lt_of_ne nlt ne
      · exact hlt e he

theorem Sorted.erase {es : List (String × α)} (h : Sorted es) (key : String) :
    Sorted (erase key es) :=
  List.Pairwise.filter _ h

@[simp] theorem get?_nil (key : String) : get? key ([] : List (String × α)) = none := rfl

theorem get?_cons (key k : String) (v : α) (es : List (String × α)) :
    get? key ((k, v) :: es) = if key = k then some v else get? key es := by
  by_cases h : key = k
  · simp [get?, h]
  · have : (key == k) = false := by simpa using h
    simp [get?, List.lookup_cons, h, this]

/-- Nothing stands under a key below all keys of a sorted list. -/
theorem get?_of_lt {key : String} {es : List (String × α)} (h : ∀ e ∈ es, key < e.1) :
    get? key es = none := by
  induction es with
  | nil => rfl
  | cons hd tl ih =>
    obtain ⟨k, v⟩ := hd
    have : key ≠ k := fun e => String.lt_irrefl _ (e ▸ h (k, v) List.mem_cons_self)
    rw [get?_cons, if_neg this]
    exact ih fun e he => h e (List.mem_cons_of_mem _ he)

theorem get?_append (key : String) (es fs : List (String × α)) :
    get? key (es ++ fs) = (get? key es).or (get? key fs) := by
  induction es with
  | nil => rfl
  | cons e es ih =>
    obtain ⟨k, v⟩ := e
    rw [List.cons_append, get?_cons, get?_cons, ih]
    split <;> rfl

theorem mem_of_get? {key : String} {value : α} {es : List (String × α)}
    (h : get? key es = some value) : (key, value) ∈ es := by
  induction es with
  | nil => cases h
  | cons e es ih =>
    obtain ⟨k, v⟩ := e
    rw [get?_cons] at h
    split at h
    · next here =>
      cases h
      exact here ▸ List.mem_cons_self
    · exact List.mem_cons_of_mem _ (ih h)

/-- A value that every entry with its key has is found. -/
theorem get?_of_mem {key : String} {value : α} {es : List (String × α)} (h : (key, value) ∈ es)
    (agree : ∀ e ∈ es, e.1 = key → e.2 = value) : get? key es = some value := by
  induction es with
  | nil => cases h
  | cons e es ih =>
    obtain ⟨k, v⟩ := e
    rw [get?_cons]
    split
    · next here => exact congrArg some (agree (k, v) List.mem_cons_self here.symm)
    · next other =>
      refine ih ((List.mem_cons.1 h).resolve_left ?_) fun e he => agree e (List.mem_cons_of_mem _ he)
      intro same
      exact other (congrArg Prod.fst same)

theorem get?_insert (es : List (String × α)) (key key' : String) (value : α) :
    get? key' (insert key value es) = if key' = key then some value else get? key' es := by
  induction es with
  | nil => rw [insert, get?_cons, get?_nil]
  | cons hd tl ih =>
    obtain ⟨k, v⟩ := hd
    rw [insert]
    split
    · rw [get?_cons]
    split
    · next eq =>
      subst eq
      rw [get?_cons, get?_cons]
      split <;> rfl
    · next ne =>
      rw [get?_cons, get?_cons, ih]
      by_cases h : key' = k
      · have : key' ≠ key := fun e => ne (e ▸ h)
        simp [h, h ▸ this]
      · simp [h]

theorem get?_erase (es : List (String × α)) (key key' : String) :
    get? key' (erase key es) = if key' = key then none else get? key' es := by
  induction es with
  | nil => simp [erase]
  | cons hd tl ih =>
    obtain ⟨k, v⟩ := hd
    rw [erase, List.filter_cons]
    by_cases h : k = key
    · subst h
      simp only [bne_self_eq_false, Bool.false_eq_true, if_false]
      rw [erase] at ih
      rw [ih, get?_cons]
      split <;> rfl
    · have : (k != key) = true := by simpa using h
      rw [erase] at ih
      simp only [this, if_true]
      rw [get?_cons, ih, get?_cons]
      by_cases hk : key' = k
      · have : key' ≠ key := fun e => h (hk ▸ e)
        simp [hk, h]
      · simp [hk]

/-- The entries of a sorted list are what stands under its keys. -/
theorem Sorted.mem_iff {es : List (String × α)} (h : Sorted es) {key : String} {value : α} :
    (key, value) ∈ es ↔ get? key es = some value := by
  induction es with
  | nil => simp
  | cons hd tl ih =>
    obtain ⟨k, v⟩ := hd
    obtain ⟨hlt, htl⟩ := List.pairwise_cons.1 h
    rw [get?_cons, List.mem_cons, ih htl]
    by_cases e : key = k
    · subst e
      rw [if_pos rfl, get?_of_lt hlt]
      simp [eq_comm]
    · simp [e]

/-- Sorted entries are determined by what stands under each key. -/
theorem eq_of_get?_eq {es fs : List (String × α)} (he : Sorted es) (hf : Sorted fs)
    (h : ∀ key, get? key es = get? key fs) : es = fs := by
  induction es generalizing fs with
  | nil =>
    cases fs with
    | nil => rfl
    | cons hd tl =>
      obtain ⟨k, v⟩ := hd
      have := h k
      rw [get?_cons, if_pos rfl, get?_nil] at this
      cases this
  | cons hd tl ih =>
    obtain ⟨k, v⟩ := hd
    obtain ⟨hlt, htl⟩ := List.pairwise_cons.1 he
    cases fs with
    | nil =>
      have := h k
      rw [get?_cons, if_pos rfl, get?_nil] at this
      cases this
    | cons hd' tl' =>
      obtain ⟨k', v'⟩ := hd'
      obtain ⟨hlt', htl'⟩ := List.pairwise_cons.1 hf
      have keys : k = k' := by
        by_cases e : k = k'
        · exact e
        by_cases lt : k < k'
        · have := h k
          rw [get?_cons, if_pos rfl, get?_of_lt] at this
          · cases this
          · intro e he
            rcases List.mem_cons.1 he with rfl | he
            · exact lt
            · exact String.lt_trans lt (hlt' e he)
        · have lt := lt_of_not_lt_of_ne lt e
          have := h k'
          rw [get?_of_lt, get?_cons, if_pos rfl] at this
          · cases this
          · intro e he
            rcases List.mem_cons.1 he with rfl | he
            · exact lt
            · exact String.lt_trans lt (hlt e he)
      subst keys
      have values : v = v' := by
        have := h k
        rw [get?_cons, get?_cons, if_pos rfl, if_pos rfl] at this
        exact Option.some.inj this
      subst values
      rw [ih htl htl' fun key => ?_]
      by_cases e : key = k
      · subst e
        rw [get?_of_lt hlt, get?_of_lt hlt']
      · have := h key
        rwa [get?_cons, get?_cons, if_neg e, if_neg e] at this

end Entries

/-! ## Maps -/

/-- A finite map from strings. -/
structure StringMap (α : Type) where
  /-- The entries in ascending order of keys. -/
  entries : List (String × α)
  /-- Each key occurs once, and the order is ascending. -/
  sorted : Entries.Sorted entries

namespace StringMap

variable {α : Type}

theorem ext_entries {m n : StringMap α} (h : m.entries = n.entries) : m = n := by
  cases m
  cases n
  cases h
  rfl

instance [DecidableEq α] : DecidableEq (StringMap α) := fun m n =>
  if h : m.entries = n.entries then isTrue (ext_entries h)
  else isFalse fun e => h (e ▸ rfl)

/-- The map without entries. -/
def empty : StringMap α :=
  ⟨[], List.Pairwise.nil⟩

instance : Inhabited (StringMap α) := ⟨empty⟩

/-- What stands under a key. -/
def get? (m : StringMap α) (key : String) : Option α :=
  Entries.get? key m.entries

/-- Puts a value under a key, in place of what stood there. -/
def insert (m : StringMap α) (key : String) (value : α) : StringMap α :=
  ⟨Entries.insert key value m.entries, m.sorted.insert key value⟩

/-- Removes what stands under a key. -/
def erase (m : StringMap α) (key : String) : StringMap α :=
  ⟨Entries.erase key m.entries, m.sorted.erase key⟩

/-- The number of entries. -/
def size (m : StringMap α) : Nat :=
  m.entries.length

/-- The keys in ascending order. -/
def keys (m : StringMap α) : List String :=
  m.entries.map Prod.fst

/-- The values in the order of their keys. -/
def values (m : StringMap α) : List α :=
  m.entries.map Prod.snd

/-- The map of a list of entries; of two with one key the later one stays. -/
def ofList (es : List (String × α)) : StringMap α :=
  es.foldl (fun m e => m.insert e.1 e.2) empty

/-- Maps that answer alike are equal. -/
theorem ext_get? {m n : StringMap α} (h : ∀ key, m.get? key = n.get? key) : m = n :=
  ext_entries (Entries.eq_of_get?_eq m.sorted n.sorted h)

/-- The entries of a map are what stands under its keys. -/
theorem mem_entries {m : StringMap α} {key : String} {value : α} :
    (key, value) ∈ m.entries ↔ m.get? key = some value :=
  m.sorted.mem_iff

@[simp] theorem get?_empty (key : String) : (empty : StringMap α).get? key = none := rfl

theorem get?_insert (m : StringMap α) (key key' : String) (value : α) :
    (m.insert key value).get? key' = if key' = key then some value else m.get? key' :=
  Entries.get?_insert m.entries key key' value

theorem get?_erase (m : StringMap α) (key key' : String) :
    (m.erase key).get? key' = if key' = key then none else m.get? key' :=
  Entries.get?_erase m.entries key key'

/-- What stands in a map after entries were put in one after the other: the last one with the key counts, and
if there is none, what stood there before. -/
theorem get?_foldl_insert (es : List (String × α)) (m : StringMap α) (key : String) :
    (es.foldl (fun m e => m.insert e.1 e.2) m).get? key =
      (Entries.get? key es.reverse).or (m.get? key) := by
  induction es generalizing m with
  | nil => rfl
  | cons e es ih =>
    obtain ⟨k, v⟩ := e
    rw [List.foldl_cons, ih, get?_insert, List.reverse_cons, Entries.get?_append, Entries.get?_cons,
      Entries.get?_nil, Option.or_assoc]
    split <;> rfl

/-- Of the entries that a map is made of, the last one with a key counts. -/
theorem get?_ofList_eq (es : List (String × α)) (key : String) :
    (ofList es).get? key = Entries.get? key es.reverse := by
  rw [ofList, get?_foldl_insert, get?_empty, Option.or_none]

/-- A value that every entry with its key has stands under the key. -/
theorem get?_ofList {es : List (String × α)} {key : String} {value : α} (h : (key, value) ∈ es)
    (agree : ∀ e ∈ es, e.1 = key → e.2 = value) : (ofList es).get? key = some value := by
  rw [get?_ofList_eq]
  exact Entries.get?_of_mem (List.mem_reverse.2 h) fun e he => agree e (List.mem_reverse.1 he)

/-- What stands in a map that was made of entries is one of them. -/
theorem mem_of_get?_ofList {es : List (String × α)} {key : String} {value : α}
    (h : (ofList es).get? key = some value) : (key, value) ∈ es := by
  rw [get?_ofList_eq] at h
  exact List.mem_reverse.1 (Entries.mem_of_get? h)

/-- A map of one entry holds nothing else. -/
theorem eq_of_get?_single {key name : String} {value held : α}
    (h : (ofList [(name, held)]).get? key = some value) : key = name ∧ value = held := by
  have given := mem_of_get?_ofList h
  rw [List.mem_singleton] at given
  exact Prod.mk.inj given

/-- A key above all others goes to the end. -/
theorem insert_entries_of_lt {es : List (String × α)} {key : String} (value : α)
    (h : ∀ e ∈ es, e.1 < key) : Entries.insert key value es = es ++ [(key, value)] := by
  induction es with
  | nil => rfl
  | cons hd tl ih =>
    obtain ⟨k, v⟩ := hd
    have lt : k < key := h (k, v) List.mem_cons_self
    have nlt : ¬ key < k := String.lt_asymm lt
    have ne : key ≠ k := fun e => String.lt_irrefl _ (e ▸ lt)
    rw [Entries.insert, if_neg nlt, if_neg ne, ih fun e he => h e (List.mem_cons_of_mem _ he)]
    rfl

theorem foldl_insert_entries (es done : List (String × α)) (m : StringMap α)
    (hm : m.entries = done) (h : Entries.Sorted (done ++ es)) :
    (es.foldl (fun m e => m.insert e.1 e.2) m).entries = done ++ es := by
  induction es generalizing done m with
  | nil => simpa using hm
  | cons e es ih =>
    rw [List.foldl_cons]
    have below : ∀ d ∈ done, d.1 < e.1 := fun d hd =>
      (List.pairwise_append.1 h).2.2 d hd e List.mem_cons_self
    have := ih (done ++ [e]) (m.insert e.1 e.2)
      (by
        show Entries.insert e.1 e.2 m.entries = _
        rw [hm]
        exact insert_entries_of_lt e.2 below)
      (by simpa using h)
    simpa using this

/-- The entries of a map make that map. -/
theorem ofList_entries (m : StringMap α) : ofList m.entries = m :=
  ext_entries (foldl_insert_entries m.entries [] empty rfl m.sorted)

end StringMap

end Governance
