/-! The condition tree that a query stands for. Chains of one operator lean to the right: the
operands of `a OR b OR c` are joined as `a OR (b OR c)`. -/
namespace BoolQuery

/-- A condition on a document with named fields. -/
inductive Condition
  /-- Some field holds the value; the empty field name stands for any field. -/
  | holds (field value : String)
  | and (left right : Condition)
  | or (left right : Condition)
  | not (inner : Condition)
  /-- The value of the field lies between the bounds. An absent bound leaves its side open, and
  each bound itself is inside when its flag says so. -/
  | range (field : String) (lower upper : Option String) (withLower withUpper : Bool)
  deriving DecidableEq, Repr

namespace Condition

def term (value : String) : Condition := .holds "" value

/-- Puts operands in front of a chain; `earlier` lists them latest first. -/
def joinOnto (join : Condition → Condition → Condition) (last : Condition)
    (earlier : List Condition) : Condition :=
  earlier.foldl (fun chain operand => join operand chain) last

/-- The right-leaning chain of some operands, absent when there are none. -/
def chain? (join : Condition → Condition → Condition) (operands : List Condition) :
    Option Condition :=
  match operands.reverse with
  | [] => none
  | last :: earlier => some (joinOnto join last earlier)

def allOf? (operands : List Condition) : Option Condition := chain? .and operands

def anyOf? (operands : List Condition) : Option Condition := chain? .or operands

def negated : Nat → Condition → Condition
  | 0, condition => condition
  | count + 1, condition => negated count (.not condition)

def isOr : Condition → Bool
  | .or _ _ => true
  | _ => false

def isAnd : Condition → Bool
  | .and _ _ => true
  | _ => false

def children : Condition → List Condition
  | .holds _ _ | .range _ _ _ _ _ => []
  | .and left right | .or left right => [left, right]
  | .not inner => [inner]

/-- Nodes of the tree, which bounds the work of every walk over it. -/
def size : Condition → Nat
  | .holds _ _ | .range _ _ _ _ _ => 1
  | .and left right | .or left right => left.size + right.size + 1
  | .not inner => inner.size + 1

def totalSize : List Condition → Nat
  | [] => 0
  | condition :: pending => condition.size + totalSize pending

theorem totalSize_cons (condition : Condition) (pending : List Condition) :
    totalSize (condition :: pending) = condition.size + totalSize pending := rfl

theorem totalSize_append (first second : List Condition) :
    totalSize (first ++ second) = totalSize first + totalSize second := by
  induction first with
  | nil => simp [totalSize]
  | cons condition rest ih => simp [totalSize, ih, Nat.add_assoc]

theorem totalSize_children (condition : Condition) :
    totalSize condition.children < condition.size := by
  cases condition <;> simp [children, totalSize, size]

end Condition
end BoolQuery
