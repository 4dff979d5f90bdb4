/-!
# Tables

A `Table` is a finite map from texts, held as its entries in strictly ascending key order.  There is
one table for each finite map, so two tables with the same look-ups are equal (`Table.ext_get?`), and
every listing comes out sorted.  Texts are compared by code points.
-/

namespace DataSync

/-- A finite map from texts to `α`. -/
structure Table (α : Type) where
  entries : List (String × α)
  ascending : entries.Pairwise (fun a b => a.1 < b.1)
deriving DecidableEq

namespace Table

variable {α β : Type}

/-- The value of a key among entries. -/
def find? (key : String) : List (String × α) → Option α
  | [] => none
  | (k, value) :: rest => if key = k then some value else find? key rest

/-- The entries with one put in its place; an entry with the same key makes way for it. -/
def place (key : String) (value : α) : List (String × α) → List (String × α)
  | [] => [(key, value)]
  | (k, v) :: rest =>
    if key < k then (key, value) :: (k, v) :: rest
    else if key = k then (key, value) :: rest
    else (k, v) :: place key value rest

theorem mem_place {key : String} {value : α} {entry : String × α} {entries : List (String × α)} :
    entry ∈ place key value entries → entry = (key, value) ∨ entry ∈ entries := by
  fun_induction place key value entries <;> grind

theorem pairwise_place {key : String} {value : α} {entries : List (String × α)}
    (ascending : entries.Pairwise (fun a b => a.1 < b.1)) :
    (place key value entries).Pairwise (fun a b => a.1 < b.1) := by
  fun_induction place key value entries with
  | case1 => simp
  | case2 k v rest less =>
    refine List.pairwise_cons.2 ⟨fun entry member => ?_, ascending⟩
    rcases List.mem_cons.1 member with rfl | later
    · exact less
    · exact String.lt_trans less ((List.pairwise_cons.1 ascending).1 entry later)
  | case3 v rest _ =>
    exact List.pairwise_cons.2 (List.pairwise_cons.1 ascending)
  | case4 k v rest notLess notEqual inductionHypothesis =>
    have ⟨below, restAscending⟩ := List.pairwise_cons.1 ascending
    refine List.pairwise_cons.2 ⟨fun entry member => ?_, inductionHypothesis restAscending⟩
    rcases mem_place member with rfl | later
    · grind
    · exact below entry later

/-- The table without entries. -/
def empty : Table α :=
  ⟨[], .nil⟩

instance : EmptyCollection (Table α) := ⟨empty⟩

instance : Inhabited (Table α) := ⟨empty⟩

/-- The value of a key. -/
def get? (table : Table α) (key : String) : Option α :=
  find? key table.entries

/-- Whether a key has a value. -/
def contains (table : Table α) (key : String) : Bool :=
  (table.get? key).isSome

/-- The table in which a key has a new value. -/
def insert (table : Table α) (key : String) (value : α) : Table α :=
  ⟨place key value table.entries, pairwise_place table.ascending⟩

/-- The table in which a key has no value. -/
def erase (table : Table α) (key : String) : Table α :=
  ⟨table.entries.filter fun entry => entry.1 ≠ key, table.ascending.filter _⟩

/-- The number of keys. -/
def size (table : Table α) : Nat :=
  table.entries.length

/-- Whether no key has a value. -/
def isEmpty (table : Table α) : Bool :=
  table.entries.isEmpty

/-- The keys in ascending order. -/
def keys (table : Table α) : List String :=
  table.entries.map (·.1)

/-- The table of entries, of which a later one replaces an earlier one with the same key. -/
def ofList (entries : List (String × α)) : Table α :=
  entries.foldl (fun table entry => table.insert entry.1 entry.2) empty

/-- The table with the values that a function gives for the entries, and without those for which it
gives none. -/
def filterMap (f : String → α → Option β) (table : Table α) : Table β :=
  ⟨table.entries.filterMap fun entry => (f entry.1 entry.2).map (entry.1, ·), by
    refine table.ascending.filterMap _ ?_
    intro a b less c hc d hd
    simp only [Option.map_eq_some_iff] at hc hd
    obtain ⟨_, _, rfl⟩ := hc
    obtain ⟨_, _, rfl⟩ := hd
    exact less⟩

/-- The table with the entries of both, where those of the second win. -/
def union (first second : Table α) : Table α :=
  second.entries.foldl (fun table entry => table.insert entry.1 entry.2) first

/-- The entries whose key and value pass a test. -/
def filter (p : String → α → Bool) (table : Table α) : Table α :=
  ⟨table.entries.filter fun entry => p entry.1 entry.2, table.ascending.filter _⟩

/-! ## Look-ups -/

theorem find?_place (key k : String) (value : α) (entries : List (String × α)) :
    find? k (place key value entries) = if k = key then some value else find? k entries := by
  fun_induction place key value entries <;> grind [find?]

@[simp] theorem get?_empty (key : String) : (empty : Table α).get? key = none := rfl

@[simp] theorem get?_insert (table : Table α) (key k : String) (value : α) :
    (table.insert key value).get? k = if k = key then some value else table.get? k :=
  find?_place key k value table.entries

theorem find?_filter (p : String × α → Bool) (k : String) (entries : List (String × α))
    (ascending : entries.Pairwise (fun a b => a.1 < b.1)) :
    find? k (entries.filter p) = (find? k entries).filter (fun value => p (k, value)) := by
  induction entries with
  | nil => rfl
  | cons head rest inductionHypothesis =>
    have ⟨below, restAscending⟩ := List.pairwise_cons.1 ascending
    have ih := inductionHypothesis restAscending
    have absent : head.1 = k → find? k rest = none := by
      rintro rfl
      clear ih inductionHypothesis restAscending ascending
      induction rest with
      | nil => rfl
      | cons next rest ih => grind [find?]
    obtain ⟨headKey, headValue⟩ := head
    by_cases hp : p (headKey, headValue) <;> by_cases hk : k = headKey <;>
      grind [find?]

@[simp] theorem get?_erase (table : Table α) (key k : String) :
    (table.erase key).get? k = if k = key then none else table.get? k := by
  unfold get? erase
  rw [find?_filter _ _ _ table.ascending]
  by_cases h : k = key <;> cases find? k table.entries <;> simp [h]

/-- A key below all entries has no value among them. -/
theorem find?_eq_none_of_below {key : String} {entries : List (String × α)}
    (below : ∀ entry ∈ entries, key < entry.1) : find? key entries = none := by
  induction entries with
  | nil => rfl
  | cons head rest inductionHypothesis =>
    have headBelow : key < head.1 := below head List.mem_cons_self
    have restNone := inductionHypothesis fun entry member => below entry (List.mem_cons_of_mem _ member)
    have different : key ≠ head.1 := fun equal => String.lt_irrefl _ (equal ▸ headBelow)
    simp [find?, different, restNone]

/-- Entries in strictly ascending order are determined by their look-ups. -/
theorem entries_ext : ∀ {first second : List (String × α)},
    first.Pairwise (fun a b => a.1 < b.1) → second.Pairwise (fun a b => a.1 < b.1) →
    (∀ key, find? key first = find? key second) → first = second
  | [], [], _, _, _ => rfl
  | [], (k, v) :: _, _, _, same => by simpa [find?] using same k
  | (k, v) :: _, [], _, _, same => by simpa [find?] using same k
  | (k, v) :: first, (k', v') :: second, ascending, ascending', same => by
    have ⟨below, rest⟩ := List.pairwise_cons.1 ascending
    have ⟨below', rest'⟩ := List.pairwise_cons.1 ascending'
    have none_of_lt : ∀ {a b : String} {entries : List (String × α)}, a < b →
        (∀ entry ∈ entries, b < entry.1) → find? a entries = none := fun less above =>
      find?_eq_none_of_below fun entry member => String.lt_trans less (above entry member)
    have keys : k = k' := by
      rcases Std.lt_trichotomy k k' with less | equal | greater
      · have different : k ≠ k' := fun equal => String.lt_irrefl _ (equal ▸ less)
        have value := same k
        simp [find?, different, none_of_lt less below'] at value
      · exact equal
      · have different : k' ≠ k := fun equal => String.lt_irrefl _ (equal ▸ greater)
        have value := same k'
        simp [find?, different, none_of_lt greater below] at value
    subst keys
    have values : v = v' := by simpa [find?] using same k
    subst values
    have rests : first = second := by
      refine entries_ext rest rest' fun key => ?_
      by_cases equal : key = k
      · subst equal
        rw [find?_eq_none_of_below below, find?_eq_none_of_below below']
      · simpa [find?, equal] using same key
    rw [rests]

/-- Two tables with the same look-ups are equal. -/
theorem ext_get? {first second : Table α} (same : ∀ key, first.get? key = second.get? key) :
    first = second := by
  obtain ⟨entries, ascending⟩ := first
  obtain ⟨entries', ascending'⟩ := second
  have equal : entries = entries' := entries_ext ascending ascending' same
  subst equal
  rfl

theorem find?_filterMap (f : String → α → Option β) (key : String) (entries : List (String × α))
    (ascending : entries.Pairwise (fun a b => a.1 < b.1)) :
    find? key (entries.filterMap fun entry => (f entry.1 entry.2).map (entry.1, ·)) =
      (find? key entries).bind (f key) := by
  induction entries with
  | nil => rfl
  | cons head rest inductionHypothesis =>
    have ⟨below, restAscending⟩ := List.pairwise_cons.1 ascending
    have ih := inductionHypothesis restAscending
    by_cases equal : key = head.1
    · subst equal
      rw [find?_eq_none_of_below below] at ih
      cases value : f head.1 head.2 <;> simp_all [find?]
    · cases value : f head.1 head.2 <;> simp_all [find?]

@[simp] theorem get?_filterMap (f : String → α → Option β) (table : Table α) (key : String) :
    (table.filterMap f).get? key = (table.get? key).bind (f key) :=
  find?_filterMap f key table.entries table.ascending

theorem get?_foldl_insert (table : Table α) {entries : List (String × α)}
    (ascending : entries.Pairwise (fun a b => a.1 < b.1)) (key : String) :
    (entries.foldl (fun table entry => table.insert entry.1 entry.2) table).get? key =
      (find? key entries).or (table.get? key) := by
  induction entries generalizing table with
  | nil => rfl
  | cons head rest inductionHypothesis =>
    have ⟨below, restAscending⟩ := List.pairwise_cons.1 ascending
    rw [List.foldl_cons, inductionHypothesis _ restAscending, get?_insert]
    by_cases equal : key = head.1
    · subst equal
      simp [find?, find?_eq_none_of_below below]
    · simp [find?, equal]

/-- Of two entries with one key the later counts. -/
theorem get?_foldl_insert_reverse (table : Table α) (entries : List (String × α)) (key : String) :
    (entries.foldl (fun table entry => table.insert entry.1 entry.2) table).get? key =
      (entries.reverse.lookup key).or (table.get? key) := by
  induction entries generalizing table with
  | nil => rfl
  | cons head rest inductionHypothesis =>
    rw [List.foldl_cons, inductionHypothesis, List.reverse_cons, List.lookup_append, get?_insert,
      Option.or_assoc]
    obtain ⟨headKey, value⟩ := head
    by_cases same : key = headKey
    · simp [same]
    · have unequal : (key == headKey) = false := beq_eq_false_iff_ne.2 same
      simp [List.lookup_cons, same, unequal]

theorem get?_ofList (entries : List (String × α)) (key : String) :
    (ofList entries).get? key = entries.reverse.lookup key := by
  simp [ofList, get?_foldl_insert_reverse]

@[simp] theorem get?_union (first second : Table α) (key : String) :
    (first.union second).get? key = (second.get? key).or (first.get? key) :=
  get?_foldl_insert first second.ascending key

/-- A table is made of its entries. -/
theorem ofList_entries (table : Table α) : ofList table.entries = table := by
  refine ext_get? fun key => ?_
  rw [ofList, get?_foldl_insert empty table.ascending, get?_empty, Option.or_none]
  rfl

theorem find?_isSome (key : String) (entries : List (String × α)) :
    (find? key entries).isSome ↔ key ∈ entries.map (·.1) := by
  induction entries with
  | nil => simp [find?]
  | cons head rest inductionHypothesis =>
    by_cases equal : key = head.1
    · simp [find?, equal]
    · simp only [find?, equal, if_false, inductionHypothesis, List.map_cons, List.mem_cons, false_or]

theorem find?_eq_some_iff {key : String} {value : α} {entries : List (String × α)}
    (ascending : entries.Pairwise (fun a b => a.1 < b.1)) :
    find? key entries = some value ↔ (key, value) ∈ entries := by
  induction entries with
  | nil => simp [find?]
  | cons head rest inductionHypothesis =>
    have ⟨below, restAscending⟩ := List.pairwise_cons.1 ascending
    by_cases equal : key = head.1
    · subst equal
      have absent : ∀ value, (head.1, value) ∉ rest := fun value member =>
        String.lt_irrefl _ (below (head.1, value) member)
      simp [find?, absent, Prod.ext_iff, eq_comm]
    · simp [find?, equal, inductionHypothesis restAscending, Prod.ext_iff]

theorem get?_eq_some_iff {table : Table α} {key : String} {value : α} :
    table.get? key = some value ↔ (key, value) ∈ table.entries :=
  find?_eq_some_iff table.ascending

theorem contains_iff_mem_keys {table : Table α} {key : String} :
    table.contains key ↔ key ∈ table.keys :=
  find?_isSome key table.entries

end Table

end DataSync
