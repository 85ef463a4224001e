namespace FeatureGates

/-!
# Maps and sets in key order

Both are lists in strictly ascending order, so equal contents make equal values, and what is listed
comes out sorted and without repetition.
-/

variable {α β : Type} [Ord α] [Std.TransOrd α] [Std.LawfulEqOrd α]

namespace Ordered

/-- Every element comes before every later one. -/
def Ascending (xs : List α) : Prop := xs.Pairwise fun a b => compare a b = .lt

def insert (a : α) : List α → List α
  | [] => [a]
  | b :: xs =>
    match compare a b with
    | .lt => a :: b :: xs
    | .eq => a :: xs
    | .gt => b :: insert a xs

omit [Std.TransOrd α] in
theorem mem_insert {a x : α} {xs : List α} : x ∈ insert a xs ↔ x = a ∨ x ∈ xs := by
  induction xs with
  | nil => simp [insert]
  | cons b xs ih =>
      unfold insert
      split
      next => simp
      next h => simp [Std.LawfulEqOrd.eq_of_compare h]
      next => simp only [List.mem_cons, ih]; grind

theorem ascending_insert {a : α} {xs : List α} (h : Ascending xs) :
    Ascending (insert a xs) := by
  induction xs with
  | nil => simp [insert, Ascending]
  | cons b xs ih =>
      obtain ⟨hb, hxs⟩ := List.pairwise_cons.mp h
      unfold insert
      split
      next hab =>
        refine List.pairwise_cons.mpr ⟨fun x hx => ?_, h⟩
        rcases List.mem_cons.mp hx with rfl | hx
        · exact hab
        · exact Std.TransCmp.lt_trans hab (hb x hx)
      next hab =>
        obtain rfl := Std.LawfulEqOrd.eq_of_compare hab
        exact List.pairwise_cons.mpr ⟨hb, hxs⟩
      next hab =>
        refine List.pairwise_cons.mpr ⟨fun x hx => ?_, ih hxs⟩
        rcases mem_insert.mp hx with rfl | hx
        · exact Std.OrientedCmp.lt_of_gt hab
        · exact hb x hx

/-- Replaces the value of a key that is there already. -/
def put (k : α) (v : β) : List (α × β) → List (α × β)
  | [] => [(k, v)]
  | e :: es =>
    match compare k e.1 with
    | .lt => (k, v) :: e :: es
    | .eq => (k, v) :: es
    | .gt => e :: put k v es

omit [Std.TransOrd α] [Std.LawfulEqOrd α] in
theorem keys_put (k : α) (v : β) (es : List (α × β)) :
    (put k v es).map Prod.fst = insert k (es.map Prod.fst) := by
  induction es with
  | nil => rfl
  | cons e es ih =>
      simp only [put, List.map_cons, insert]
      split <;> simp [ih]

/-- The value beside the first occurrence of a key. -/
def find? [DecidableEq α] (k : α) : List (α × β) → Option β
  | [] => none
  | e :: es => if k = e.1 then some e.2 else find? k es

omit [Std.TransOrd α] in
theorem find?_put [DecidableEq α] (k x : α) (v : β) (es : List (α × β)) :
    find? x (put k v es) = if x = k then some v else find? x es := by
  induction es with
  | nil => simp [put, find?]
  | cons e es ih =>
      unfold put
      split
      next => simp [find?]
      next hk =>
        obtain rfl := Std.LawfulEqOrd.eq_of_compare hk
        by_cases h : x = e.1 <;> simp [find?, h]
      next hk =>
        have hne : k ≠ e.1 := by
          rintro rfl
          simp [Std.ReflCmp.compare_self] at hk
        by_cases he : x = e.1
        · simp [find?, he, Ne.symm hne]
        · simp [find?, he, ih]

end Ordered

/-- Distinct elements in ascending order. -/
structure OrderedSet (α : Type) [Ord α] where
  toList : List α
  ascending : Ordered.Ascending toList

namespace OrderedSet

def empty : OrderedSet α := ⟨[], .nil⟩

instance : EmptyCollection (OrderedSet α) := ⟨empty⟩

instance : Inhabited (OrderedSet α) := ⟨∅⟩

instance : Membership α (OrderedSet α) := ⟨fun s a => a ∈ s.toList⟩

instance [DecidableEq α] (a : α) (s : OrderedSet α) : Decidable (a ∈ s) :=
  inferInstanceAs (Decidable (a ∈ s.toList))

def size (s : OrderedSet α) : Nat := s.toList.length

def insert (a : α) (s : OrderedSet α) : OrderedSet α :=
  ⟨Ordered.insert a s.toList, Ordered.ascending_insert s.ascending⟩

def ofList (xs : List α) : OrderedSet α := xs.foldl (fun s a => s.insert a) ∅

/-- The elements of the first set that the second does not have. -/
def diff [DecidableEq α] (s t : OrderedSet α) : OrderedSet α :=
  ⟨s.toList.filter (· ∉ t), s.ascending.filter _⟩

omit [Std.TransOrd α] [Std.LawfulEqOrd α] in
theorem mem_def {a : α} {s : OrderedSet α} : a ∈ s ↔ a ∈ s.toList := Iff.rfl

omit [Std.TransOrd α] [Std.LawfulEqOrd α] in
@[simp] theorem not_mem_empty (a : α) : a ∉ (∅ : OrderedSet α) := List.not_mem_nil

@[simp] theorem mem_insert {a x : α} {s : OrderedSet α} : x ∈ s.insert a ↔ x = a ∨ x ∈ s :=
  Ordered.mem_insert

@[simp] theorem mem_ofList {a : α} {xs : List α} : a ∈ ofList xs ↔ a ∈ xs := by
  have aux : ∀ (xs : List α) (s : OrderedSet α),
      a ∈ xs.foldl (fun s a => s.insert a) s ↔ a ∈ xs ∨ a ∈ s := by
    intro xs
    induction xs with
    | nil => simp
    | cons x xs ih => intro s; simp [ih, or_assoc, or_left_comm]
  simp [ofList, aux]

omit [Std.TransOrd α] [Std.LawfulEqOrd α] in
@[simp] theorem mem_diff [DecidableEq α] {a : α} {s t : OrderedSet α} :
    a ∈ s.diff t ↔ a ∈ s ∧ a ∉ t := by
  simp [diff, mem_def]

end OrderedSet

/-- Keys with their values, the keys distinct and in ascending order. -/
structure OrderedMap (α β : Type) [Ord α] where
  entries : List (α × β)
  ascending : Ordered.Ascending (entries.map Prod.fst)

namespace OrderedMap

def empty : OrderedMap α β := ⟨[], .nil⟩

instance : EmptyCollection (OrderedMap α β) := ⟨empty⟩

instance : Inhabited (OrderedMap α β) := ⟨∅⟩

def keys (m : OrderedMap α β) : List α := m.entries.map Prod.fst

def get? [DecidableEq α] (m : OrderedMap α β) (k : α) : Option β := Ordered.find? k m.entries

/-- A later value of a key takes the place of an earlier one. -/
def insert (k : α) (v : β) (m : OrderedMap α β) : OrderedMap α β :=
  ⟨Ordered.put k v m.entries, by
    rw [Ordered.keys_put]; exact Ordered.ascending_insert m.ascending⟩

def ofList (es : List (α × β)) : OrderedMap α β := es.foldl (fun m e => m.insert e.1 e.2) ∅

omit [Std.TransOrd α] [Std.LawfulEqOrd α] in
@[simp] theorem get?_empty [DecidableEq α] (k : α) : (∅ : OrderedMap α β).get? k = none := rfl

@[simp] theorem get?_insert [DecidableEq α] (k x : α) (v : β) (m : OrderedMap α β) :
    (m.insert k v).get? x = if x = k then some v else m.get? x :=
  Ordered.find?_put k x v m.entries

end OrderedMap

end FeatureGates
