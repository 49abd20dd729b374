import ReversePolish.Tree

/-!
# The grammar of expressions

Sums of products of factors, both grouped from the left; a factor is a number or a sum in
parentheses. A sentence is given together with the tree that it stands for, in which the
parentheses are gone.

## Main definitions

* `Level`: the three levels of the grammar.
* `Derives`: the sentences of a level with their trees.
* `IsSentence`: the token lists of whole expressions.
-/

namespace ReversePolish

/-- The levels of the grammar, from the loosest to the tightest. -/
inductive Level where
  | sum
  | product
  | factor
  deriving DecidableEq, Repr

/-- The operators that stand between the parts of a sum. -/
def Operator.isSum : Operator → Bool
  | .add | .sub => true
  | .mul | .div => false

/-- The token list is a sentence of the level and stands for the tree. -/
inductive Derives : Level → List Token → Tree → Prop where
  /-- A number is a factor. -/
  | number {t : Token} (isNumber : t.isNumber = true) : Derives .factor [t] (.leaf t)
  /-- A sum in parentheses is a factor. -/
  | group {opening closing : Token} {ts : List Token} {tree : Tree}
      (isOpening : opening.kind = .leftParen) (isClosing : closing.kind = .rightParen)
      (inner : Derives .sum ts tree) : Derives .factor (opening :: ts ++ [closing]) tree
  /-- A factor is a product. -/
  | factor {ts : List Token} {tree : Tree} (single : Derives .factor ts tree) :
      Derives .product ts tree
  /-- A product goes on with `*` or `/` and a factor. -/
  | times {t : Token} {op : Operator} {ts us : List Token} {left right : Tree}
      (isOperator : t.kind = .operator op) (isProduct : op.isSum = false)
      (first : Derives .product ts left) (second : Derives .factor us right) :
      Derives .product (ts ++ t :: us) (.node t left right)
  /-- A product is a sum. -/
  | product {ts : List Token} {tree : Tree} (single : Derives .product ts tree) :
      Derives .sum ts tree
  /-- A sum goes on with `+` or `-` and a product. -/
  | plus {t : Token} {op : Operator} {ts us : List Token} {left right : Tree}
      (isOperator : t.kind = .operator op) (isSum : op.isSum = true)
      (first : Derives .sum ts left) (second : Derives .product us right) :
      Derives .sum (ts ++ t :: us) (.node t left right)

/-- The token list is a whole expression. -/
def IsSentence (ts : List Token) : Prop :=
  ∃ tree, Derives .sum ts tree

end ReversePolish
