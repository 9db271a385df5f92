import Leaderboard.Proofs.Dataset.RoundTrip
import Leaderboard.Proofs.Decimal.Order
import Leaderboard.Proofs.Row.Projection
import Leaderboard.Row.Sort

set_option autoImplicit false

namespace Leaderboard

def SortOrder.Leads {α : Type} [LT α] : SortOrder → α → α → Prop
  | .ascending, a, b => a < b
  | .descending, a, b => b < a

namespace Row

def Comparable (key : SortKey) (r : Row) : Prop :=
  ∀ x, r.sortValue key = some x → x.isNaN = false

-- Addresses break ties upwards, whatever the direction of the values.
def ValueLeads (key : SortKey) (order : SortOrder) (a b : Row) : Prop :=
  ∃ x y, a.sortValue key = some x ∧ b.sortValue key = some y ∧
    (order.Leads x y ∨ (x == y) = true ∧ a.node < b.node)

end Row

-- By address, or by value with the rows that have none at the end.
inductive Arranged : SortKey → SortOrder → List Row → Prop
  | byAddress {order : SortOrder} {rows : List Row}
    (nodes : rows.Pairwise fun a b => order.Leads a.node b.node) : Arranged .node order rows
  | byValue {key : SortKey} {order : SortOrder} (present absent : List Row)
    (column : key ≠ .node)
    (valued : ∀ r ∈ present, (r.sortValue key).isSome = true)
    (values : present.Pairwise (Row.ValueLeads key order))
    (blank : ∀ r ∈ absent, r.sortValue key = none)
    (nodes : absent.Pairwise fun a b => a.node < b.node) :
    Arranged key order (present ++ absent)

structure SortsOneWay (key : SortKey) (order : SortOrder) (rows : List Row) : Prop where
  strict : IsStrictTotalOrder {r // r ∈ rows} fun a b => Row.compareBy key order a b = .lt
  oriented : ∀ a ∈ rows, ∀ b ∈ rows,
    Row.compareBy key order b a = (Row.compareBy key order a b).swap
  unique : ∀ arranged : List Row,
    arranged.Perm rows ∧ Arranged key order arranged ↔ arranged = sortRows key order rows
  inputOrder : ∀ other : List Row, other.Perm rows → sortRows key order other =
    sortRows key order rows
  resorted : ∀ sorts : List (SortKey × SortOrder),
    sortRows key order (sorts.foldl (fun rs s => sortRows s.1 s.2 rs) rows) =
      sortRows key order rows

theorem SortOrder.exists_directed (order : SortOrder) (α : Type) [LinearOrder α] :
    ∃ (β : Type) (_ : LinearOrder β) (f : α → β), Function.Injective f ∧
      ∀ a b, order.direct (cmp a b) = cmp (f a) (f b) := by
  cases order with
  | ascending => exact ⟨α, inferInstance, id, Function.injective_id, fun _ _ => rfl⟩
  | descending =>
    refine ⟨αᵒᵈ, inferInstance, OrderDual.toDual, OrderDual.toDual.injective, fun a b => ?_⟩
    rw [cmp_toDual, SortOrder.direct, cmp_swap]

namespace Row

variable {key : SortKey} {order : SortOrder} {a b : Row}

theorem compareNumbers_eq_cmp {x y : Float} (first : x.isNaN = false) (second : y.isNaN = false) :
    compareNumbers x y = cmp (Decimal.rank x) (Decimal.rank y) := by
  simp only [compareNumbers, cmp, cmpUsing, Decimal.lt_iff_rank_lt first second,
    Decimal.lt_iff_rank_lt second first]

theorem compareBy_of_ne (column : key ≠ .node) (order : SortOrder) (a b : Row) :
    compareBy key order a b =
      (compareValues order (a.sortValue key) (b.sortValue key)).then
        (compare a.node b.node) := by
  cases key with
  | node => exact absurd rfl column
  | task | responseTime | errorRate => rfl

theorem exists_places (key : SortKey) (order : SortOrder) :
    ∃ (L : Type) (_ : LinearOrder L) (place : Row → L),
      (∀ a b, place a = place b → a.node = b.node) ∧
      ∀ a b : Row, a.Comparable key → b.Comparable key →
        compareBy key order a b = cmp (place a) (place b) := by
  by_cases column : key = .node
  · subst column
    obtain ⟨β, _, f, injective, directed⟩ := order.exists_directed String
    refine ⟨β, inferInstance, fun r => f r.node, fun a b same => injective same, ?_⟩
    intro a b _ _
    rw [← directed, cmp_eq_compare]
    rfl
  · -- Only values turn with the direction: a row without one stays at the top, and the address
    -- decides upwards.
    obtain ⟨β, _, f, -, directed⟩ := order.exists_directed Decimal.Rank
    let height (r : Row) : WithTop β := (r.sortValue key).map fun x => f (Decimal.rank x)
    refine ⟨WithTop β ×ₗ String, inferInstance, fun r => toLex (height r, r.node), ?_, ?_⟩
    · intro a b same
      exact congrArg (fun place => (ofLex place).2) same
    · intro a b first second
      have values : compareValues order (a.sortValue key) (b.sortValue key) =
          cmp (height a) (height b) := by
        unfold height
        cases left : a.sortValue key with
        | none =>
          cases right : b.sortValue key with
          | none => exact (cmp_self_eq_eq _).symm
          | some y => exact ((cmp_eq_gt_iff _ _).2 (WithTop.coe_lt_top _)).symm
        | some x =>
          cases right : b.sortValue key with
          | none => exact ((cmp_eq_lt_iff _ _).2 (WithTop.coe_lt_top _)).symm
          | some y =>
            rw [compareValues, compareNumbers_eq_cmp (first x left) (second y right), directed]
            exact (WithTop.coe_strictMono.cmp_map_eq _ _).symm
      rw [compareBy_of_ne column, values, cmp_eq_compare, cmp_eq_compare, Prod.Lex.compare_def]
      rfl

theorem addressLeads_iff :
    compareBy .node order a b = .lt ↔ order.Leads a.node b.node := by
  cases order with
  | ascending => exact Text.string_compare_eq_lt_iff _ _
  | descending =>
    have turned : compare b.node a.node = (compare a.node b.node).swap := Std.OrientedOrd.eq_swap
    rw [SortOrder.Leads, ← Text.string_compare_eq_lt_iff, turned]
    rfl

theorem valueLeads_iff (column : key ≠ .node) (first : a.Comparable key)
    (second : b.Comparable key) (left : (a.sortValue key).isSome = true)
    (right : (b.sortValue key).isSome = true) :
    compareBy key order a b = .lt ↔ ValueLeads key order a b := by
  obtain ⟨x, left⟩ := Option.isSome_iff_exists.1 left
  obtain ⟨y, right⟩ := Option.isSome_iff_exists.1 right
  have numbers := compareNumbers_eq_cmp (first x left) (second y right)
  have tie : (x == y) = true ↔ order.direct (compareNumbers x y) = .eq := by
    rw [Decimal.beq_iff_rank_eq (first x left) (second y right), ← cmp_eq_eq_iff, ← numbers]
    cases order <;> simp [SortOrder.direct]
  have ahead : order.Leads x y ↔ order.direct (compareNumbers x y) = .lt := by
    cases order <;>
      simp [SortOrder.direct, SortOrder.Leads, numbers,
        Decimal.lt_iff_rank_lt (first x left) (second y right),
        Decimal.lt_iff_rank_lt (second y right) (first x left)]
  simp only [ValueLeads, left, right, Option.some.injEq, exists_and_left, exists_eq_left', tie,
    ahead]
  rw [compareBy_of_ne column, left, right, compareValues, Ordering.then_eq_lt,
    Text.string_compare_eq_lt_iff]

end Row

section arrangement

variable {key : SortKey} {order : SortOrder} {rows : List Row}

theorem Arranged.ascending (arranged : Arranged key order rows)
    (comparable : ∀ r ∈ rows, r.Comparable key) :
    rows.Pairwise fun a b => Row.compareBy key order a b = .lt := by
  cases arranged with
  | byAddress nodes => exact nodes.imp Row.addressLeads_iff.2
  | byValue present absent column valued values blank nodes =>
    rw [List.forall_mem_append] at comparable
    refine List.pairwise_append.2 ⟨?_, ?_, ?_⟩
    · refine values.imp_of_mem fun first second => ?_
      exact (Row.valueLeads_iff column (comparable.1 _ first) (comparable.1 _ second)
        (valued _ first) (valued _ second)).2
    · refine nodes.imp_of_mem fun {a b} first second below => ?_
      rw [Row.compareBy_of_ne column, blank a first, blank b second]
      exact (Text.string_compare_eq_lt_iff _ _).2 below
    · intro a first b second
      obtain ⟨x, left⟩ := Option.isSome_iff_exists.1 (valued a first)
      rw [Row.compareBy_of_ne column, left, blank b second]
      rfl

theorem arranged_of_ascending (comparable : ∀ r ∈ rows, r.Comparable key)
    (ascending : rows.Pairwise fun a b => Row.compareBy key order a b = .lt) :
    Arranged key order rows := by
  by_cases column : key = .node
  · subst column
    exact .byAddress (ascending.imp Row.addressLeads_iff.1)
  · -- A row goes in front of the rows with a value, or of those without one if it has none.
    induction rows with
    | nil => exact .byValue [] [] column nofun .nil nofun .nil
    | cons r rest ih =>
      rw [List.forall_mem_cons] at comparable
      obtain ⟨below, later⟩ := List.pairwise_cons.1 ascending
      cases ih comparable.2 later with
      | byAddress => exact absurd rfl column
      | byValue present absent _ valued values blank nodes =>
        rw [List.forall_mem_append] at comparable below
        cases value : r.sortValue key with
        | some x =>
          have some : (r.sortValue key).isSome = true := by rw [value]; rfl
          refine .byValue (r :: present) absent column (List.forall_mem_cons.2 ⟨some, valued⟩)
            (List.pairwise_cons.2 ⟨?_, values⟩) blank nodes
          intro s inside
          exact (Row.valueLeads_iff column comparable.1 (comparable.2.1 s inside) some
            (valued s inside)).1 (below.1 s inside)
        | none =>
          -- a row with a value cannot follow one without
          have bare : present = [] := by
            refine List.eq_nil_iff_forall_not_mem.2 fun s inside => ?_
            obtain ⟨y, valued⟩ := Option.isSome_iff_exists.1 (valued s inside)
            have below := below.1 s inside
            rw [Row.compareBy_of_ne column, value, valued] at below
            cases below
          subst bare
          refine .byValue [] (r :: absent) column nofun .nil
            (List.forall_mem_cons.2 ⟨value, blank⟩) (List.pairwise_cons.2 ⟨?_, nodes⟩)
          intro s inside
          have below := below.2 s inside
          rw [Row.compareBy_of_ne column, value, blank s inside] at below
          exact (Text.string_compare_eq_lt_iff _ _).1 below

theorem perm_sortRows (key : SortKey) (order : SortOrder) (rows : List Row) :
    (sortRows key order rows).Perm rows :=
  List.mergeSort_perm rows _

theorem perm_foldl_sortRows (sorts : List (SortKey × SortOrder)) (rows : List Row) :
    (sorts.foldl (fun rs s => sortRows s.1 s.2 rs) rows).Perm rows := by
  induction sorts generalizing rows with
  | nil => exact .rfl
  | cons s sorts ih => exact (ih _).trans (perm_sortRows s.1 s.2 rows)

section distinct

variable (distinct : (rows.map Row.node).Nodup) (comparable : ∀ r ∈ rows, r.Comparable key)

include distinct comparable

theorem ascending_sortRows (order : SortOrder) :
    (sortRows key order rows).Pairwise fun a b => Row.compareBy key order a b = .lt := by
  obtain ⟨L, _, place, apart, placed⟩ := Row.exists_places key order
  -- The comparator is an order on these rows only, but a merge sort is asked for one on all rows.
  have alike : ∀ a ∈ rows, ∀ b ∈ rows, (Row.compareBy key order a b != .gt) =
      decide (place a ≤ place b) := by
    intro a first b second
    rw [placed a b (comparable a first) (comparable b second), Bool.eq_iff_iff, bne_iff_ne,
      decide_eq_true_iff, ne_eq, cmp_eq_gt_iff, not_lt]
  have sorted : sortRows key order rows =
      rows.mergeSort fun a b => decide (place a ≤ place b) := by
    simpa [sortRows] using
      List.map_mergeSort (f := id) (s := fun a b => decide (place a ≤ place b)) alike
  have ordered : (sortRows key order rows).Pairwise fun a b => place a ≤ place b := by
    rw [sorted]
    refine (List.pairwise_mergeSort ?_ ?_ rows).imp of_decide_eq_true
    · intro a b c below above
      simpa using (of_decide_eq_true below).trans (of_decide_eq_true above)
    · intro a b
      simpa using le_total (place a) (place b)
  have perm := perm_sortRows key order rows
  have nodes : (sortRows key order rows).Pairwise fun a b => a.node ≠ b.node :=
    List.pairwise_map.1 ((perm.map Row.node).nodup_iff.2 distinct)
  refine (ordered.and nodes).imp_of_mem fun {a b} first second below => ?_
  rw [placed a b (comparable a (perm.mem_iff.1 first)) (comparable b (perm.mem_iff.1 second)),
    cmp_eq_lt_iff]
  exact below.1.lt_of_ne fun same => below.2 (apart a b same)

theorem strict_compareBy (order : SortOrder) :
    IsStrictTotalOrder {r // r ∈ rows} fun a b => Row.compareBy key order a b = .lt := by
  obtain ⟨L, _, place, apart, placed⟩ := Row.exists_places key order
  refine RelEmbedding.isStrictTotalOrder (s := fun x y : L => x < y) ⟨⟨fun r => place r, ?_⟩, ?_⟩
  · intro a b same
    exact Subtype.ext (List.inj_on_of_nodup_map distinct a.2 b.2 (apart _ _ same))
  · intro a b
    rw [placed a b (comparable a a.2) (comparable b b.2), cmp_eq_lt_iff]
    rfl

end distinct

theorem compareBy_swap {a b : Row} (first : a.Comparable key) (second : b.Comparable key) :
    Row.compareBy key order b a = (Row.compareBy key order a b).swap := by
  obtain ⟨L, _, place, -, placed⟩ := Row.exists_places key order
  rw [placed a b first second, placed b a second first, cmp_swap]

theorem rows_eq_of_ascending {xs ys : List Row} (comparable : ∀ r ∈ ys, r.Comparable key)
    (perm : xs.Perm ys)
    (first : xs.Pairwise fun a b => Row.compareBy key order a b = .lt)
    (second : ys.Pairwise fun a b => Row.compareBy key order a b = .lt) : xs = ys := by
  refine perm.eq_of_pairwise (fun a b inside other below above => ?_) first second
  rw [compareBy_swap (comparable a (perm.mem_iff.1 inside)) (comparable b other), below] at above
  cases above

theorem arranged_sortRows (distinct : (rows.map Row.node).Nodup)
    (comparable : ∀ r ∈ rows, r.Comparable key) (order : SortOrder) :
    Arranged key order (sortRows key order rows) :=
  arranged_of_ascending
    (fun r inside => comparable r ((perm_sortRows key order rows).mem_iff.1 inside))
    (ascending_sortRows distinct comparable order)

theorem sortRows_of_perm (distinct : (rows.map Row.node).Nodup)
    (comparable : ∀ r ∈ rows, r.Comparable key) (order : SortOrder) {other : List Row}
    (perm : other.Perm rows) : sortRows key order other = sortRows key order rows := by
  refine rows_eq_of_ascending
    (fun r inside => comparable r ((perm_sortRows key order rows).mem_iff.1 inside))
    (((perm_sortRows key order other).trans perm).trans (perm_sortRows key order rows).symm)
    (ascending_sortRows ((perm.map Row.node).nodup_iff.2 distinct)
      (fun r inside => comparable r (perm.mem_iff.1 inside)) order)
    (ascending_sortRows distinct comparable order)

theorem SortsOneWay.of_distinct (distinct : (rows.map Row.node).Nodup)
    (comparable : ∀ r ∈ rows, r.Comparable key) (order : SortOrder) :
    SortsOneWay key order rows where
  strict := strict_compareBy distinct comparable order
  oriented a first b second := compareBy_swap (comparable a first) (comparable b second)
  unique arranged := by
    constructor
    · rintro ⟨perm, good⟩
      refine rows_eq_of_ascending ?_ (perm.trans (perm_sortRows key order rows).symm)
        (good.ascending ?_) (ascending_sortRows distinct comparable order)
      · exact fun r inside => comparable r ((perm_sortRows key order rows).mem_iff.1 inside)
      · exact fun r inside => comparable r (perm.mem_iff.1 inside)
    · rintro rfl
      exact ⟨perm_sortRows key order rows, arranged_sortRows distinct comparable order⟩
  inputOrder _ perm := sortRows_of_perm distinct comparable order perm
  resorted sorts := sortRows_of_perm distinct comparable order (perm_foldl_sortRows sorts rows)

end arrangement

theorem Row.comparable_ofRecord (node : NodeId) {record : NodeRecord} (finite : record.Finite)
    (key : SortKey) : (Row.ofRecord node record).Comparable key := by
  intro x value
  have shows := Row.shows_ofRecord node record
  cases key with
  | node => cases value
  | task task =>
    rw [Row.sortValue, shows.scores, Option.map_map, Option.map_eq_some_iff] at value
    obtain ⟨sample, stored, rfl⟩ := value
    exact Decimal.isNaN_mul_hundred
      (Decimal.isNaN_of_isFinite (finite.samples task sample stored).mean)
  | responseTime =>
    rw [Row.sortValue, shows.responseTime, Option.map_eq_some_iff] at value
    obtain ⟨qos, stored, rfl⟩ := value
    exact Decimal.isNaN_of_isFinite (finite.qos qos stored).responseTime
  | errorRate =>
    rw [Row.sortValue, shows.errorRate, Option.map_eq_some_iff] at value
    obtain ⟨qos, stored, rfl⟩ := value
    exact Decimal.isNaN_of_isFinite (finite.qos qos stored).errorRate

theorem comparable_projectWith {data : Dataset} (finite : data.Finite) (f : NodeFilter)
    (key : SortKey) : ∀ r ∈ projectWith data f, r.Comparable key := by
  intro r shown
  obtain ⟨-, record, known, same⟩ := (mem_projectWith data f).1 shown
  exact same ▸ Row.comparable_ofRecord r.node (finite r.node record known) key

theorem sortRows_one_way :
    (∀ (key : SortKey) (order : SortOrder) (rows : List Row), (rows.map Row.node).Nodup →
      (∀ r ∈ rows, r.Comparable key) → SortsOneWay key order rows) ∧
    ∀ (payload : List UInt8) (data : Dataset), Dataset.parse payload = .ok data →
      ∀ (f : NodeFilter) (key : SortKey),
        ((projectWith data f).map Row.node).Nodup ∧
          ∀ r ∈ projectWith data f, r.Comparable key := by
  constructor
  · exact fun key order rows distinct comparable => .of_distinct distinct comparable order
  · intro payload data read f key
    exact ⟨distinct_projectWith data f, comparable_projectWith (Dataset.finite_of_parse read) f key⟩

-- Two rows tie and one has no value: it comes last although the order descends.
theorem sortRows_one_way_tied :
    let half := Float.ofBits 0x3FE0000000000000
    let row (node : NodeId) (time : Option Float) : Row := ⟨node, .empty, time, none⟩
    let rows := [row "c" (some half), row "a" none, row "b" (some half)]
    let data : Dataset := SortedMap.empty.insert "node1" ⟨.empty, some ⟨half, half⟩, none⟩
    (rows.map Row.node).Nodup ∧ (∀ r ∈ rows, r.Comparable .responseTime) ∧
      sortRows .responseTime .descending rows =
        [row "b" (some half), row "c" (some half), row "a" none] ∧
      Dataset.parse (Text.encode data.toJson.compact) = .ok data ∧
      ∀ r ∈ projectWith data .all, r.Comparable .responseTime := by
  intro half row rows data
  have ordinary : Decimal.isFinite half = true := Decimal.isFinite_ofBits (by decide)
  have number : half.isNaN = false := Decimal.isNaN_of_isFinite ordinary
  have distinct : (rows.map Row.node).Nodup := by decide
  have comparable : ∀ r ∈ rows, r.Comparable .responseTime := by
    simpa [rows, row, Row.Comparable, Row.sortValue] using number
  have finite : data.Finite := by
    refine Dataset.finite_empty.insert "node1" ⟨fun _ _ stored => (nomatch stored), ?_⟩
    intro q known
    cases known
    exact ⟨ordinary, ordinary⟩
  have read := Dataset.parse_compact finite
  have oneWay := sortRows_one_way.1 .responseTime .descending rows distinct comparable
  -- The arrangement is given, so sorting has to have found it.
  refine ⟨distinct, comparable, ?_, read, (sortRows_one_way.2 _ data read .all .responseTime).2⟩
  refine ((oneWay.unique _).1 ⟨by decide, ?_⟩).symm
  refine .byValue [row "b" (some half), row "c" (some half)] [row "a" none] nofun (by decide) ?_
    (by decide) (List.pairwise_singleton _ _)
  exact List.pairwise_pair.2 ⟨half, half, rfl, rfl, .inr ⟨by decide, by decide⟩⟩

end Leaderboard
