import TagGovernance.Json.Value
import TagGovernance.Policy.Error

/-!
# Filters on the items of a list

A filter on a list that is attached to the record, such as the log destinations of a firewall. The
items that carry all wanted attributes are counted.
-/

namespace TagGovernance

/-- How a count is compared with a number. -/
inductive Comparison
  | eq
  | ne
  | gt
  | ge
  | lt
  | le
  deriving DecidableEq, Repr

namespace Comparison

def ofName (name : String) : Except FilterError Comparison :=
  match name with
  | "eq" | "equal" => .ok eq
  | "ne" | "not-equal" => .ok ne
  | "gt" | "greater-than" => .ok gt
  | "gte" | "ge" => .ok ge
  | "lt" | "less-than" => .ok lt
  | "lte" | "le" => .ok le
  | _ => .error (.unknownComparison name)

def holds (c : Comparison) (a b : Nat) : Bool :=
  match c with
  | eq => a = b
  | ne => a ≠ b
  | gt => a > b
  | ge => a ≥ b
  | lt => a < b
  | le => a ≤ b

end Comparison

structure ListItemFilter where
  /-- The field that holds the list. -/
  key : String
  /-- Paths in an item with the values wanted there. -/
  attrs : List (String × Json)
  /-- What the number of items has to be; at least one if nothing is said. -/
  count : Option (Comparison × Nat) := none

namespace ListItemFilter

def itemMatches (filter : ListItemFilter) (item : Json) : Bool :=
  filter.attrs.all fun (path, value) => (item.path? path).any fun v => v.same value

/-- The list in a record; a record without one has no items. -/
def items (filter : ListItemFilter) (record : Json) : List Json :=
  ((record.field? filter.key).bind Json.asArray?).getD []

def accepts (filter : ListItemFilter) (record : Json) : Bool :=
  let hits := (filter.items record).countP filter.itemMatches
  match filter.count with
  | some (comparison, n) => comparison.holds hits n
  | none => hits > 0

variable {filter : ListItemFilter} {record item : Json}

theorem mem_items : item ∈ filter.items record ↔
    ∃ items, record.field? filter.key = some (.arr items) ∧ item ∈ items := by
  rw [items]
  cases hfield : record.field? filter.key with
  | none => simp
  | some value => cases value <;> simp [Json.asArray?]

theorem itemMatches_iff : filter.itemMatches item = true ↔
    ∀ attr ∈ filter.attrs, ∃ value, item.path? attr.1 = some value ∧ value.same attr.2 = true := by
  simp only [itemMatches, List.all_eq_true, Option.any_eq_true]

/-- Unless something is said of their number, one listed item has to have all wanted values. -/
theorem accepts_iff (uncounted : filter.count = none) : filter.accepts record = true ↔
    ∃ items, record.field? filter.key = some (.arr items) ∧ ∃ item ∈ items, ∀ attr ∈ filter.attrs,
      ∃ value, item.path? attr.1 = some value ∧ value.same attr.2 = true := by
  simp only [accepts, uncounted, gt_iff_lt, decide_eq_true_eq, List.countP_pos_iff, mem_items,
    itemMatches_iff]
  constructor
  · rintro ⟨item, ⟨items, hfield, hitem⟩, hwanted⟩
    exact ⟨items, hfield, item, hitem, hwanted⟩
  · rintro ⟨items, hfield, item, hitem, hwanted⟩
    exact ⟨item, ⟨items, hfield, hitem⟩, hwanted⟩

end ListItemFilter

end TagGovernance
