import Mathlib.Data.List.Perm.Subperm
import StickerBook.Distinct
import StickerBook.Paging
import StickerBook.Proofs.Sorting
import StickerBook.Proofs.Sql.Query

/-!
# What queries yield

A `Database` holds the rows of each table in some order. A query goes through the rows of its source one by one, with
one row of each joined table at a time; such a combination is a `Scope`. All conditions of a select must hold for a
scope. `Query.rows` are the rows that a query selects, and `Query.Answers` says which lists it can put out: the order
of rows that its own order does not tell apart is left open.
-/

namespace StickerBook.Sql
set_option autoImplicit false
open Std (OrientedOrd TransOrd)

/-- A value in a table. -/
inductive Value where
  | text (value : String)
  | number (value : Int)
deriving DecidableEq, Inhabited, Repr

/-- Numbers come before texts. -/
instance : Ord Value where
  compare
    | .number a, .number b => compare a b
    | .number _, .text _ => .lt
    | .text _, .number _ => .gt
    | .text a, .text b => compare a b

instance : OrientedOrd Value where
  eq_swap {a b} := by
    cases a with
    | text a =>
      cases b with
      | text b => exact OrientedOrd.eq_swap (a := a) (b := b)
      | number b => rfl
    | number a =>
      cases b with
      | text b => rfl
      | number b => exact OrientedOrd.eq_swap (a := a) (b := b)

instance : TransOrd Value where
  isLE_trans {a b c} first second := by
    cases a with
    | text a =>
      cases b with
      | number b => cases first
      | text b =>
        cases c with
        | number c => cases second
        | text c => exact TransOrd.isLE_trans (a := a) (b := b) (c := c) first second
    | number a =>
      cases c with
      | text c => rfl
      | number c =>
        cases b with
        | text b => cases second
        | number b => exact TransOrd.isLE_trans (a := a) (b := b) (c := c) first second

/-- A row, which has a value in each of its columns. -/
abbrev Row := String → Value

/-- The rows of each table. -/
abbrev Database := String → List Row

/-- The database with the rows of one more table. -/
def Database.define (db : Database) (table : String) (rows : List Row) : Database :=
  fun name => if name = table then rows else db name

/-- One row of each source, under the name by which the source is called. -/
abbrev Scope := List (String × Row)

/-- The value of a column. A column without the name of a table is one of the first. -/
def Scope.value? (scope : Scope) (c : Column) : Option Value :=
  match c.source with
  | none => scope.head?.map fun called => called.2 c.name
  | some source => (scope.lookup source).map fun row => row c.name

/-- The value of a column, if there is one, has a property. -/
def Scope.satisfies (scope : Scope) (c : Column) (p : Value → Bool) : Bool := (scope.value? c).any p

/-- A test holds. Patterns are matched by texts only, and bounds are kept by numbers only. -/
def Test.holds (scope : Scope) : Test → Bool
  | .equals negated column value => scope.satisfies column fun v => decide (v = .text value) != negated
  | .like negated column pattern => scope.satisfies column fun
    | .text text => matchesLike pattern text != negated
    | .number _ => false
  | .atLeast column bound => scope.satisfies column fun
    | .number n => decide (bound ≤ n)
    | .text _ => false
  | .atMost column bound => scope.satisfies column fun
    | .number n => decide (n ≤ bound)
    | .text _ => false

/-- The scopes with a row of the joined table. -/
def Join.extend (j : Join) (db : Database) (scope : Scope) : List Scope :=
  ((db j.table).map fun row => scope ++ [(j.table, row)]).filter fun extended =>
    extended.satisfies j.left fun v => extended.satisfies j.right fun w => decide (v = w)

/-- The scopes that a source goes through. -/
def Source.scopes (f : Source) (db : Database) : List Scope :=
  f.joins.foldl (fun scopes j => scopes.flatMap (j.extend db)) ((db f.table).map fun row => [(f.called, row)])

/-- The values that a subquery yields. -/
def Subquery.values (q : Subquery) (db : Database) : List Value :=
  ((q.source.scopes db).filter fun scope => q.anyOf.any fun tests => tests.all (Test.holds scope)).filterMap
    (·.value? q.column)

/-- A condition holds. -/
def Clause.holds (db : Database) (scope : Scope) : Clause → Bool
  | .test t => t.holds scope
  | .within negated column values => scope.satisfies column fun v => (values.values db).contains v != negated

namespace Grouping

/-- A group is kept. Its first member stands for it in the conditions. -/
def keeps (g : Grouping) (db : Database) (members : List Scope) (first : Scope) : Bool :=
  decide ((distinctBy id (members.filterMap (·.value? g.counted))).length = g.number)
    && g.having.all (Clause.holds db first)

/-- The groups that are kept, each by its first member. -/
def kept (g : Grouping) (db : Database) (scopes : List Scope) : List Scope :=
  (distinctBy (·.value? g.key) scopes).filter fun first =>
    g.keeps db (scopes.filter fun scope => scope.value? g.key = first.value? g.key) first

end Grouping

namespace Select

/-- The scopes that a select yields. -/
def scopes (q : Select) (db : Database) : List Scope :=
  let found := (q.source.scopes db).filter fun scope => q.conditions.all (Clause.holds db scope)
  q.grouping.elim found fun g => g.kept db found

/-- The rows of its table that a select yields. -/
def rows (q : Select) (db : Database) : List Row := (q.scopes db).filterMap (·.lookup q.source.called)

end Select

namespace Query

/-- The database with the rows that a query gives a name. -/
def extended (q : Query) (db : Database) : Database :=
  q.named.elim db fun n => db.define n.1 (n.2.rows db)

/-- The scopes that a query yields. -/
def scopes (q : Query) (db : Database) : List Scope := q.main.scopes (q.extended db)

/-- The rows that a query selects. -/
def rows (q : Query) (db : Database) : List Row := q.main.rows (q.extended db)

/-- The number that a query puts out, if it counts the values of a column. -/
def count? (q : Query) (db : Database) : Option Nat :=
  match q.output with
  | .rows _ _ _ => none
  | .count column => some ((q.scopes db).filterMap (·.value? column)).length

/-- An order lets one scope stand before another. Missing values come first. -/
def lets (order : Column × Bool) (a b : Scope) : Bool :=
  (if order.2 then compare (b.value? order.1) (a.value? order.1)
    else compare (a.value? order.1) (b.value? order.1)).isLE

/-- The query can put out these rows: it brings what it selects in its order and takes a part of it. -/
def Answers (q : Query) (db : Database) (answer : List Row) : Prop :=
  ∃ order limit offset, q.output = .rows order limit offset ∧
    ∃ sorted : List Scope, sorted.Perm (q.scopes db) ∧ (∀ o ∈ order, sorted.Pairwise (lets o · ·)) ∧
      answer = ((sorted.drop offset).take limit).filterMap (·.lookup q.main.source.called)

variable {q : Query} {db : Database} {order : Option (Column × Bool)} {limit offset : Nat} {answer : List Row}

theorem lets_trans (order : Column × Bool) (a b c : Scope) (first : lets order a b = true)
    (second : lets order b c = true) : lets order a c = true := by
  obtain ⟨column, descending⟩ := order
  cases descending with
  | true => exact TransOrd.isLE_trans (a := c.value? column) second first
  | false => exact TransOrd.isLE_trans (a := a.value? column) first second

theorem lets_total (order : Column × Bool) (a b : Scope) : (lets order a b || lets order b a) = true := by
  have total (v w : Option Value) : ((compare v w).isLE || (compare w v).isLE) = true := isLE_total v w
  obtain ⟨column, descending⟩ := order
  cases descending with
  | true => exact total (b.value? column) (a.value? column)
  | false => exact total (a.value? column) (b.value? column)

/-- A query that puts out rows has an answer. -/
theorem exists_answers (output : q.output = .rows order limit offset) : ∃ answer, q.Answers db answer := by
  cases order with
  | none => exact ⟨_, none, limit, offset, output, q.scopes db, .refl _, nofun, rfl⟩
  | some o =>
    refine ⟨_, some o, limit, offset, output, (q.scopes db).mergeSort (lets o), List.mergeSort_perm _ _, ?_, rfl⟩
    rintro _ ⟨⟩
    exact List.pairwise_mergeSort (lets_trans o) (lets_total o) _

/-- An answer is a part of what is selected. -/
theorem Answers.subperm (answers : q.Answers db answer) : answer.Subperm (q.rows db) := by
  obtain ⟨order, limit, offset, -, sorted, perm, -, rfl⟩ := answers
  have part : ((sorted.drop offset).take limit).Sublist sorted := (List.take_sublist _ _).trans (List.drop_sublist _ _)
  exact (part.filterMap _).subperm.trans (perm.filterMap _).subperm

/-- A first page on which everything fits is all that is selected. -/
theorem Answers.perm (answers : q.Answers db answer) (output : q.output = .rows order limit 0)
    (fits : (q.scopes db).length ≤ limit) : answer.Perm (q.rows db) := by
  obtain ⟨order', limit', offset, output', sorted, perm, -, rfl⟩ := answers
  obtain ⟨rfl, rfl, rfl⟩ := Output.rows.inj (output.symm.trans output')
  rw [List.drop_zero, List.take_of_length_le (perm.length_eq ▸ fits)]
  exact perm.filterMap _

end Query

end StickerBook.Sql
