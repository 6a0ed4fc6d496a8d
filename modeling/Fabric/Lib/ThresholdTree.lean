import Mathlib.Data.List.Basic
import Mathlib.Data.Int.Basic

/-! Threshold trees: gates that need at least `n` of their children, over labelled leaves.
A node is named by its path, the list of child indices from the root. -/

inductive ThresholdTree (α : Type) where
  | gate (n : Int) (children : List (ThresholdTree α))
  | leaf (label : α)

namespace ThresholdTree

variable {α : Type}

mutual
def leafAt : ThresholdTree α → List Nat → Option α
  | .leaf label, [] => some label
  | .leaf _, _ :: _ => none
  | .gate _ _, [] => none
  | .gate _ children, j :: path => childLeafAt children j path
def childLeafAt : List (ThresholdTree α) → Nat → List Nat → Option α
  | [], _, _ => none
  | child :: _, 0, path => leafAt child path
  | _ :: children, j + 1, path => childLeafAt children j path
end

mutual
def satisfiedBy (chosen : List Nat → Bool) : ThresholdTree α → List Nat → Bool
  | .leaf _, path => chosen path
  | .gate n children, path => decide (n ≤ countSatisfied chosen children path 0)
def countSatisfied (chosen : List Nat → Bool) : List (ThresholdTree α) → List Nat → Nat → Int
  | [], _, _ => 0
  | child :: children, path, j =>
      (if satisfiedBy chosen child (path ++ [j]) then 1 else 0) +
        countSatisfied chosen children path (j + 1)
end

@[simp] theorem leafAt_gate_cons (n : Int) (children : List (ThresholdTree α)) (j : Nat) (path : List Nat) :
    leafAt (.gate n children) (j :: path) = childLeafAt children j path := by
  simp [leafAt]

@[simp] theorem childLeafAt_cons_zero (child : ThresholdTree α) (children : List (ThresholdTree α)) (path : List Nat) :
    childLeafAt (child :: children) 0 path = leafAt child path := by
  simp [childLeafAt]

@[simp] theorem childLeafAt_cons_succ (child : ThresholdTree α) (children : List (ThresholdTree α)) (j : Nat)
    (path : List Nat) :
    childLeafAt (child :: children) (j + 1) path = childLeafAt children j path := by
  simp [childLeafAt]

mutual
theorem satisfiedBy_mono {chosen more : List Nat → Bool}
    (included : ∀ path, chosen path = true → more path = true) :
    ∀ (tree : ThresholdTree α) (path : List Nat),
      satisfiedBy chosen tree path = true → satisfiedBy more tree path = true
  | .leaf _, path, held => by
      simp only [satisfiedBy] at held ⊢
      exact included path held
  | .gate n children, path, held => by
      simp only [satisfiedBy, decide_eq_true_eq] at held ⊢
      exact Int.le_trans held (countSatisfied_mono included children path 0)
theorem countSatisfied_mono {chosen more : List Nat → Bool}
    (included : ∀ path, chosen path = true → more path = true) :
    ∀ (children : List (ThresholdTree α)) (path : List Nat) (j : Nat),
      countSatisfied chosen children path j ≤ countSatisfied more children path j
  | [], _, _ => by simp [countSatisfied]
  | child :: children, path, j => by
      have rest := countSatisfied_mono included children path (j + 1)
      have head := satisfiedBy_mono included child (path ++ [j])
      simp only [countSatisfied]
      cases held : satisfiedBy chosen child (path ++ [j]) with
      | false =>
          simp only [Bool.false_eq_true, if_false]
          split <;> omega
      | true => simp [head held]; omega
end

end ThresholdTree
