import SqlSearch.Compile.Error
import SqlSearch.Document.Clause
import SqlSearch.Field
import SqlSearch.Options

/-!
# From conditions to filter clauses

| condition             | clause                                           |
|-----------------------|--------------------------------------------------|
| none                  | `match_all`                                      |
| `f = v`               | `term`                                           |
| `f > v`, `>=`, `<`, `<=` | `range`                                       |
| `(c)`                 | the clause of `c`                                |
| `a AND b`             | `must`, one list along the left spine            |
| `a OR b`              | `should`, at least one of two                    |

Any other predicate has no clause. In permissive mode it becomes `match_all`, so that no record
is lost; in strict mode the statement is refused.

## Main definitions

* `Condition.compile`: the clause of a condition
* `compileFilter`, `compileFilterPermissive`: the clause of an optional condition

## Design

Chains of `AND` lean to the left, so a right operand joins the list of an already compiled left
`must`. The list of a `must` in parentheses is joined too.
-/

namespace SqlSearch

/-- What becomes of a predicate without a clause. -/
def Strictness.fallback (strictness : Strictness) (text : String) :
    Except CompileError Clause :=
  match strictness with
  | .permissive => .ok .matchAll
  | .strict => .error (.predicate text)

/-- Both clauses, in one list if the left one is already a list. -/
def Clause.conj (left right : Clause) : Clause :=
  match left with
  | .must clauses => .must (clauses ++ [right])
  | _ => .must [left, right]

/-- The clause of a comparison. -/
def compileCompare (strictness : Strictness) (op : CompareOp) (field literal : String) :
    Except CompileError Clause :=
  match op with
  | .eq => .ok (.term field (Field.literalValue literal))
  | .gt => .ok (.range field .gt (Field.literalValue literal))
  | .ge => .ok (.range field .gte (Field.literalValue literal))
  | .lt => .ok (.range field .lt (Field.literalValue literal))
  | .le => .ok (.range field .lte (Field.literalValue literal))
  | .ne => strictness.fallback (field ++ " " ++ CompareOp.ne.symbol ++ " " ++ literal)

/-- The clause of a condition. Of two predicates without a clause the left one is reported. -/
def Condition.compile (strictness : Strictness) : Condition → Except CompileError Clause
  | .and left right => do
    let l ← left.compile strictness
    let r ← right.compile strictness
    return l.conj r
  | .or left right => do
    let l ← left.compile strictness
    let r ← right.compile strictness
    return .anyOf [l, r]
  | .group inner => inner.compile strictness
  | .compare op field literal => compileCompare strictness op field literal
  | .subquery text => strictness.fallback text
  | .other text => strictness.fallback text

/-- The clause of an optional condition. -/
def compileFilter (strictness : Strictness) : Option Condition → Except CompileError Clause
  | none => .ok .matchAll
  | some condition => condition.compile strictness

/-- The clause of an optional condition when predicates without a clause are passed over. -/
def compileFilterPermissive (condition : Option Condition) : Clause :=
  match compileFilter .permissive condition with
  | .ok clause => clause
  | .error _ => .matchAll

end SqlSearch
