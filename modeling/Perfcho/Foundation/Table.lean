import Mathlib.Data.List.Sort

/-! Tables with constraints. A table carries the proof that its rows satisfy every
constraint, and a write that would break one is refused with its name. -/

namespace Perfcho.Foundation

variable {Row Key : Type} {passes : Row → Bool}

structure Constraint (Row : Type) where
  name : String
  holds : List Row → Bool

namespace Constraint

/-- A unique index over the rows it covers. -/
def unique [DecidableEq Key] (name : String) (covers : Row → Bool) (key : Row → Key) : Constraint Row where
  name := name
  holds := fun rows => decide ((rows.filter covers).map key).Nodup

/-- A check of every row. -/
def check (name : String) (passes : Row → Bool) : Constraint Row where
  name := name
  holds := fun rows => rows.all passes

end Constraint

structure Table {Row : Type} (constraints : List (Constraint Row)) where
  rows : List Row
  valid : ∀ constraint ∈ constraints, constraint.holds rows = true

namespace Table

variable {constraints : List (Constraint Row)}

/-- Put other rows in place, or name the first constraint that they break. -/
def write (constraints : List (Constraint Row)) (rows : List Row) : Except String (Table constraints) :=
  match broken : constraints.find? fun constraint => !constraint.holds rows with
  | some constraint => .error constraint.name
  | none => .ok ⟨rows, by simpa using List.find?_eq_none.mp broken⟩

def insert (table : Table constraints) (row : Row) : Except String (Table constraints) :=
  write constraints (table.rows ++ [row])

/-- The rows with one of them replaced, found by its key. -/
def replaced [DecidableEq Key] (key : Row → Key) (rows : List Row) (row : Row) : List Row :=
  rows.map fun old => if key old = key row then row else old

def update [DecidableEq Key] (key : Row → Key) (table : Table constraints) (row : Row) :
    Except String (Table constraints) :=
  write constraints (replaced key table.rows row)

theorem write_eq_ok {rows : List Row} (ran : write constraints rows = .ok after) : after.rows = rows := by
  unfold write at ran
  split at ran
  · cases ran
  · cases ran
    rfl

theorem insert_eq_ok {table after : Table constraints} (ran : table.insert row = .ok after) :
    after.rows = table.rows ++ [row] := write_eq_ok ran

theorem update_eq_ok [DecidableEq Key] {key : Row → Key} {table after : Table constraints}
    (ran : table.update key row = .ok after) : after.rows = replaced key table.rows row := write_eq_ok ran

section

variable [DecidableEq Key] {name : String} {covers : Row → Bool} {key : Row → Key}
  (table : Table constraints) (indexed : Constraint.unique name covers key ∈ constraints)

include indexed

theorem nodup_of_unique : ((table.rows.filter covers).map key).Nodup :=
  of_decide_eq_true (table.valid _ indexed)

theorem eq_of_unique (one : first ∈ table.rows) (covered : covers first = true)
    (two : second ∈ table.rows) (covered' : covers second = true) (same : key first = key second) :
    first = second :=
  List.inj_on_of_nodup_map (table.nodup_of_unique indexed) (List.mem_filter.mpr ⟨one, covered⟩)
    (List.mem_filter.mpr ⟨two, covered'⟩) same

theorem apart_of_unique (appended : table.rows = old ++ new) (one : first ∈ old)
    (covered : covers first = true) (two : second ∈ new) (covered' : covers second = true) :
    key first ≠ key second := by
  intro same
  have distinct := table.nodup_of_unique indexed
  rw [appended, List.filter_append, List.map_append, List.nodup_append] at distinct
  exact distinct.2.2 _ (List.mem_map_of_mem (List.mem_filter.mpr ⟨one, covered⟩)) _
    (List.mem_map_of_mem (List.mem_filter.mpr ⟨two, covered'⟩)) same

theorem fresh_of_unique (appended : table.rows = old ++ [row]) (covered : covers row = true) :
    ∀ other ∈ old, covers other = true → key other ≠ key row :=
  fun _ member covered' =>
    table.apart_of_unique indexed appended member covered' (List.mem_singleton_self row) covered

end

theorem passes_of_check (table : Table constraints)
    (checked : Constraint.check name passes ∈ constraints) (member : row ∈ table.rows) : passes row = true :=
  List.all_eq_true.mp (table.valid _ checked) row member

end Table

section

variable [DecidableEq Key] {key : Row → Key} {rows : List Row} {row : Row}

theorem mem_replaced (member : other ∈ Table.replaced key rows row) :
    other = row ∨ other ∈ rows ∧ key other ≠ key row := by
  obtain ⟨old, present, same⟩ := List.mem_map.mp member
  split at same
  · exact .inl same.symm
  · next different => exact .inr ⟨same ▸ present, same ▸ different⟩

theorem row_mem_replaced (present : old ∈ rows) (keyed : key old = key row) :
    row ∈ Table.replaced key rows row :=
  List.mem_map.mpr ⟨old, present, by simp [keyed]⟩

theorem other_mem_replaced (present : other ∈ rows) (different : key other ≠ key row) :
    other ∈ Table.replaced key rows row :=
  List.mem_map.mpr ⟨other, present, by simp [different]⟩

/-- A row that no longer passes a filter takes nothing but its old rows away. -/
theorem filter_replaced (passes : Row → Bool) (fails : passes row = false) :
    (Table.replaced key rows row).filter passes = (rows.filter passes).filter (key · ≠ key row) := by
  induction rows with
  | nil => rfl
  | cons old rest ih =>
    rw [show Table.replaced key (old :: rest) row = (if key old = key row then row else
      old) :: Table.replaced key rest row
      from rfl, List.filter_cons, ih]
    by_cases same : key old = key row
    · by_cases passed : passes old = true <;> simp [same, fails, passed]
    · by_cases passed : passes old = true <;> simp [same, passed]

theorem map_filter_replaced (same : ∀ old ∈ rows, key old = key row → passes old = passes row ∧
    label old = label row) : ((Table.replaced key rows row).filter passes).map
    label = (rows.filter passes).map label := by
  induction rows with
  | nil => rfl
  | cons old rest ih =>
    have later := ih fun other member => same other (List.mem_cons_of_mem _ member)
    rw [show Table.replaced key (old :: rest) row = (if key old = key row then row else
      old) :: Table.replaced key rest row
      from rfl, List.filter_cons, List.filter_cons]
    by_cases keyed : key old = key row
    · obtain ⟨passed, labelled⟩ := same old List.mem_cons_self keyed
      rw [if_pos keyed, passed]
      split
      · rw [List.map_cons, List.map_cons, later, labelled]
      · exact later
    · rw [if_neg keyed]
      split
      · rw [List.map_cons, List.map_cons, later]
      · exact later

theorem replaced_self (unique : ∀ old ∈ rows, key old = key row → old = row) :
    Table.replaced key rows row = rows := by
  conv_rhs => rw [← List.map_id rows]
  apply List.map_congr_left
  intro old member
  by_cases same : key old = key row
  · simp [unique old member same]
  · simp [same]

end

section

variable (before : Row → Row → Prop) [DecidableRel before]

/-- The row that stands first in an order. -/
def firstBy (rows : List Row) : Option Row := (rows.insertionSort before).head?

variable {before}

theorem mem_of_firstBy (found : firstBy before rows = some row) : row ∈ rows :=
  (List.mem_insertionSort before).mp (List.mem_of_mem_head? found)

theorem firstBy_eq_none : firstBy before rows = none ↔ rows = [] := by
  rw [firstBy, List.head?_eq_none_iff]
  constructor
  · intro sorted
    have length := congrArg List.length sorted
    simpa using length
  · rintro rfl
    rfl

end

end Perfcho.Foundation
