/-
TreePath.Proofs.Expr.Substitution — range variables and their scopes.

A variable that is bound to a value can be replaced by that value as a literal: evaluation gives the
same, in every session. What is replaced are the free occurrences. A binding of a quantified
expression is in scope in the domains of the later bindings and in what is to be satisfied, but not
in its own domain, and within its scope it hides outer bindings of the same name; the literals are
held back there (`Substitution.without`).

Scopes are compared by what they show of the variables (`Scope.Sees`), so that it does not matter at
which place among the range variables a value is found, or whether it is one of the session's.
-/
import TreePath.Proofs.Expr.Navigation

namespace TreePath

open Eval

/-! ## Substitutions -/

/-- Values for some of the variables. -/
abbrev Substitution := Name → Option AtomicValue

namespace Substitution

/-- A value for one variable. -/
def single (x : Name) (v : AtomicValue) : Substitution := fun y => if y = x then some v else none

/-- The variable is bound anew, so nothing is put in its place. -/
def without (σ : Substitution) (x : Name) : Substitution := fun y => if y = x then none else σ y

/-- What is left of a substitution in the scope of bindings. -/
def beneath (σ : Substitution) (bindings : List (Name × Expr)) : Substitution :=
  bindings.foldl (fun σ b => σ.without b.1) σ

end Substitution

mutual

/-- The expression with values as literals in place of the free occurrences of variables. -/
def Expr.substitute (σ : Substitution) : Expr → Expr
  | .contextItem => .contextItem
  | .root => .root
  | .parent => .parent
  | .step axis test => .step axis test
  | .path base next descendant => .path (base.substitute σ) (next.substitute σ) descendant
  | .filter base predicates => .filter (base.substitute σ) (substituteAll σ predicates)
  | .literal v => .literal v
  | .sequence parts => .sequence (substituteAll σ parts)
  | .range first last => .range (first.substitute σ) (last.substitute σ)
  | .var x =>
    match σ x with
    | some v => .literal v
    | none => .var x
  | .call name args => .call name (substituteAll σ args)
  | .and left right => .and (left.substitute σ) (right.substitute σ)
  | .or left right => .or (left.substitute σ) (right.substitute σ)
  | .valueComparison op left right =>
    .valueComparison op (left.substitute σ) (right.substitute σ)
  | .generalComparison op left right =>
    .generalComparison op (left.substitute σ) (right.substitute σ)
  | .arithmetic op left right => .arithmetic op (left.substitute σ) (right.substitute σ)
  | .negate operand => .negate (operand.substitute σ)
  | .concat parts => .concat (substituteAll σ parts)
  | .union left right => .union (left.substitute σ) (right.substitute σ)
  | .cond test yes no => .cond (test.substitute σ) (yes.substitute σ) (no.substitute σ)
  | .quantified q bindings satisfies =>
    .quantified q (substituteBindings σ bindings) (satisfies.substitute (σ.beneath bindings))

/-- The same for each of several expressions. -/
def Expr.substituteAll (σ : Substitution) : List Expr → List Expr
  | [] => []
  | e :: rest => e.substitute σ :: substituteAll σ rest

/-- A binding is in scope in the domains of the later ones, and not in its own. -/
def Expr.substituteBindings (σ : Substitution) : List (Name × Expr) → List (Name × Expr)
  | [] => []
  | (x, domain) :: rest => (x, domain.substitute σ) :: substituteBindings (σ.without x) rest

end

/-- The expression with a value as a literal in place of the free occurrences of one variable. -/
def Expr.replace (x : Name) (v : AtomicValue) (e : Expr) : Expr := e.substitute (.single x v)

theorem Expr.length_substituteAll (σ : Substitution) :
    ∀ es : List Expr, (substituteAll σ es).length = es.length
  | [] => rfl
  | _ :: rest => congrArg Nat.succ (length_substituteAll σ rest)

/-! ## Scopes that show the same -/

theorem lookupVariable_bind (ctx : Context) (s : Scope) (y x : Name) (i : Item) :
    lookupVariable ctx (s.bind y i) x = if x = y then .ok [i] else lookupVariable ctx s x := by
  rw [lookupVariable, lookupVariable, Scope.bind, List.lookup_cons]
  by_cases h : x = y
  · rw [if_pos h, beq_iff_eq.mpr h]
    rfl
  · rw [if_neg h, beq_eq_false_iff_ne.mpr h]

/-- The first scope shows the values of the substitution; apart from that, both show the same. -/
structure Scope.Sees (ctx : Context) (σ : Substitution) (s s' : Scope) : Prop where
  focus : s'.focus = s.focus
  given : ∀ x v, σ x = some v → lookupVariable ctx s x = .ok [.atomic v]
  other : ∀ x, σ x = none → lookupVariable ctx s' x = lookupVariable ctx s x

namespace Scope.Sees

variable {ctx : Context} {σ : Substitution} {s s' : Scope}

theorem onItem (h : s.Sees ctx σ s') (i : Item) (position size : Nat) :
    (s.onItem i position size).Sees ctx σ (s'.onItem i position size) :=
  ⟨rfl, h.given, h.other⟩

/-- In the scope of a binding both show the item that is bound. -/
theorem bind (h : s.Sees ctx σ s') (y : Name) (i : Item) :
    (s.bind y i).Sees ctx (σ.without y) (s'.bind y i) where
  focus := h.focus
  given x v hx := by
    rw [Substitution.without] at hx
    split at hx
    · cases hx
    · rename_i hne
      rw [lookupVariable_bind, if_neg hne, h.given x v hx]
  other x hx := by
    rw [lookupVariable_bind, lookupVariable_bind]
    split
    · rfl
    · rename_i hne
      rw [Substitution.without, if_neg hne] at hx
      exact h.other x hx

theorem contextItem_eq (h : s.Sees ctx σ s') : Eval.contextItem s' = Eval.contextItem s := by
  rw [Eval.contextItem, Eval.contextItem, h.focus]

theorem contextNode_eq (h : s.Sees ctx σ s') : contextNode s' = contextNode s := by
  rw [contextNode, contextNode, h.contextItem_eq]

theorem documentNode_eq (h : s.Sees ctx σ s') : documentNode s' = documentNode s := by
  rw [documentNode, documentNode, h.contextNode_eq]

/-- A step is evaluated at the same items. -/
theorem stepScopes_eq (h : s.Sees ctx σ s') {f f' : Scope → Eval Sequence}
    (hf : ∀ {r r' : Scope}, r.Sees ctx σ r' → f r = f' r') (descendant : Bool) (i : Item)
    (position size : Nat) :
    (do collect f (← ofResult (stepScopes s descendant i position size))) =
      (do collect f' (← ofResult (stepScopes s' descendant i position size))) := by
  cases i with
  | atomic v => rfl
  | node n =>
    cases descendant with
    | true =>
      show collect f (List.map _ _) = collect f' (List.map _ _)
      rw [collect_map, collect_map]
      exact congrArg (collect · _) (funext fun _ => hf (h.onItem _ _ _))
    | false =>
      show collect f [_] = collect f' [_]
      rw [collect, collect, hf (h.onItem _ _ _)]
      rfl

end Scope.Sees

/-! ## Evaluation -/

namespace Expr

variable {ctx : Context}

mutual

/-- **Values may stand in place of the variables that have them.** -/
theorem eval_substitute : ∀ (e : Expr) {σ : Substitution} {s s' : Scope}, s.Sees ctx σ s' →
    e.eval ctx s = (e.substitute σ).eval ctx s'
  | .contextItem, σ, s, s', h => by
      rw [substitute, eval, eval, h.contextItem_eq]
  | .root, σ, s, s', h => by
      rw [substitute, eval, eval, h.documentNode_eq]
  | .parent, σ, s, s', h => by
      rw [substitute, eval, eval, h.contextNode_eq]
  | .step axis test, σ, s, s', h => by
      rw [substitute, eval, eval, h.contextNode_eq]
  | .path base next descendant, σ, s, s', h => by
      rw [substitute, eval, eval, eval_substitute base h]
      refine bind_congr fun items => ?_
      refine congrArg (· >>= fun found => ofResult (pathResult found)) ?_
      refine congrArg (collect · items.zipIdx) (funext fun p => ?_)
      exact h.stepScopes_eq (eval_substitute next) descendant p.1 (p.2 + 1) items.length
  | .filter base predicates, σ, s, s', h => by
      rw [substitute, eval, eval, eval_substitute base h]
      exact bind_congr fun items => filterAll_substitute predicates h items
  | .literal v, σ, s, s', h => by
      rw [substitute, eval, eval]
  | .sequence parts, σ, s, s', h => by
      rw [substitute, eval, eval, evalAll_substitute parts h]
  | .range first last, σ, s, s', h => by
      rw [substitute, eval, eval, eval_substitute first h, eval_substitute last h]
  | .var x, σ, s, s', h => by
      rw [substitute, eval]
      cases hx : σ x with
      | none => rw [eval, h.other x hx]
      | some v => rw [eval, h.given x v hx, ofResult]
  | .call name args, σ, s, s', h => by
      rw [substitute, eval, eval, evalAll_substitute args h, length_substituteAll, h.focus]
  | .and left right, σ, s, s', h => by
      rw [substitute, eval, eval, eval_substitute left h, eval_substitute right h]
  | .or left right, σ, s, s', h => by
      rw [substitute, eval, eval, eval_substitute left h, eval_substitute right h]
  | .valueComparison op left right, σ, s, s', h => by
      rw [substitute, eval, eval, eval_substitute left h, eval_substitute right h]
  | .generalComparison op left right, σ, s, s', h => by
      rw [substitute, eval, eval, eval_substitute left h, eval_substitute right h]
  | .arithmetic op left right, σ, s, s', h => by
      rw [substitute, eval, eval, eval_substitute left h, eval_substitute right h]
  | .negate operand, σ, s, s', h => by
      rw [substitute, eval, eval, eval_substitute operand h]
  | .concat parts, σ, s, s', h => by
      rw [substitute, eval, eval, texts_substitute parts h]
  | .union left right, σ, s, s', h => by
      rw [substitute, eval, eval, eval_substitute left h, eval_substitute right h]
  | .cond test yes no, σ, s, s', h => by
      rw [substitute, eval, eval, eval_substitute test h, eval_substitute yes h,
        eval_substitute no h]
  | .quantified q bindings satisfies, σ, s, s', h => by
      rw [substitute, eval, eval]
      refine congrArg (· >>= fun b => pure (Sequence.ofBool b)) ?_
      refine quantify_substitute q bindings (fun hsees => ?_) h
      rw [eval_substitute satisfies hsees]

theorem evalAll_substitute : ∀ (es : List Expr) {σ : Substitution} {s s' : Scope},
    s.Sees ctx σ s' → evalAll ctx s es = evalAll ctx s' (substituteAll σ es)
  | [], σ, s, s', h => by
      rw [substituteAll, evalAll, evalAll]
  | e :: rest, σ, s, s', h => by
      rw [substituteAll, evalAll, evalAll, eval_substitute e h, evalAll_substitute rest h]

theorem filterAll_substitute : ∀ (ps : List Expr) {σ : Substitution} {s s' : Scope},
    s.Sees ctx σ s' → ∀ items : Sequence,
      filterAll ctx s ps items = filterAll ctx s' (substituteAll σ ps) items
  | [], σ, s, s', h, items => by
      rw [substituteAll, filterAll, filterAll]
  | p :: rest, σ, s, s', h, items => by
      rw [substituteAll, filterAll, filterAll]
      have hkept : ∀ q : Item × Nat,
          p.eval ctx (s.onItem q.1 (q.2 + 1) items.length) =
            (p.substitute σ).eval ctx (s'.onItem q.1 (q.2 + 1) items.length) :=
        fun q => eval_substitute p (h.onItem _ _ _)
      simp only [hkept]
      exact bind_congr fun kept => filterAll_substitute rest h kept

theorem texts_substitute : ∀ (es : List Expr) {σ : Substitution} {s s' : Scope},
    s.Sees ctx σ s' → texts ctx s es = texts ctx s' (substituteAll σ es)
  | [], σ, s, s', h => by
      rw [substituteAll, texts, texts]
  | e :: rest, σ, s, s', h => by
      rw [substituteAll, texts, texts, eval_substitute e h, texts_substitute rest h]

/-- What is to be satisfied is in the scope of all bindings. -/
theorem quantify_substitute (q : Quantifier) :
    ∀ (bindings : List (Name × Expr)) {σ : Substitution} {satisfies satisfies' : Scope → Eval Bool},
      (∀ {r r' : Scope}, r.Sees ctx (σ.beneath bindings) r' → satisfies r = satisfies' r') →
      ∀ {s s' : Scope}, s.Sees ctx σ s' →
        quantify ctx q satisfies s bindings =
          quantify ctx q satisfies' s' (substituteBindings σ bindings)
  | [], σ, satisfies, satisfies', hsat, s, s', h => by
      rw [substituteBindings, quantify, quantify]
      exact hsat h
  | (x, domain) :: rest, σ, satisfies, satisfies', hsat, s, s', h => by
      rw [substituteBindings, quantify, quantify, eval_substitute domain h]
      refine bind_congr fun items => congrArg (search q · items) (funext fun i => ?_)
      exact quantify_substitute q rest hsat (h.bind x i)

end

/-- **Range variables are what they are bound to.** An expression in the scope of a variable that is
bound to a value gives, in every session, what it gives with the value as a literal in place of the
free occurrences of the variable; and so it does wherever the variable has that value. -/
theorem eval_replace (ctx : Context) (s : Scope) (x : Name) (v : AtomicValue) (e : Expr) :
    e.eval ctx (s.bind x (.atomic v)) = (e.replace x v).eval ctx s ∧
      (lookupVariable ctx s x = .ok [.atomic v] → e.eval ctx s = (e.replace x v).eval ctx s) := by
  have hgiven : ∀ {r : Scope}, lookupVariable ctx r x = .ok [.atomic v] →
      ∀ y w, Substitution.single x v y = some w → lookupVariable ctx r y = .ok [.atomic w] := by
    intro r hr y w hy
    rw [Substitution.single] at hy
    split at hy
    · rename_i heq
      cases hy
      rw [heq, hr]
    · cases hy
  refine ⟨eval_substitute e ⟨rfl, hgiven ?_, fun y hy => ?_⟩, fun hx => ?_⟩
  · rw [lookupVariable_bind, if_pos rfl]
  · rw [lookupVariable_bind, if_neg]
    rintro rfl
    rw [Substitution.single, if_pos rfl] at hy
    cases hy
  · exact eval_substitute e ⟨rfl, hgiven hx, fun _ _ => rfl⟩

/-- A binding hides an outer one of the same name, except in its own domain. -/
example (v w : AtomicValue) :
    let x : Name := ⟨none, "x"⟩
    (Expr.quantified .some [(x, .sequence [.var x, .literal w])] (.var x)).replace x v =
      .quantified .some [(x, .sequence [.literal v, .literal w])] (.var x) := by
  rfl

end Expr

end TreePath
