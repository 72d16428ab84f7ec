/-
Which trees can be written.

Whether a tree can be written is told by its parts, wherever it stands and whatever is
around it: two kinds of node are in the way.  An integer may have too many digits, and
the expression of a replacement field may be one whose text holds a backslash.  A tree
without such nodes can be written, and a tree that can be written has none of them.

The walk is over the parts that have a text of their own.  That is every part of a node,
but for the pattern below a capture without a name, which is written as a wildcard.
-/
import Standin.Source.Writer
import Standin.Proofs.Walk
import Mathlib.Tactic.Tauto

set_option autoImplicit false

namespace Standin.Source

/-! ## Computations that give a result -/

/-- That a computation gives a result and no error. -/
def Gives {ε α : Type} (x : Except ε α) : Prop := ∃ a, x = .ok a

section Gives

variable {ε α β : Type}

@[simp] theorem gives_ok (a : α) : Gives (.ok a : Except ε α) := ⟨a, rfl⟩

@[simp] theorem not_gives_error (e : ε) : ¬ Gives (.error e : Except ε α) := by
  rintro ⟨a, h⟩
  cases h

@[simp] theorem gives_pure (a : α) : Gives (pure a : Except ε α) := ⟨a, rfl⟩

@[simp] theorem not_gives_throw (e : ε) : ¬ Gives (throw e : Except ε α) := not_gives_error e

instance : (x : Except ε α) → Decidable (Gives x)
  | .ok a => .isTrue (gives_ok a)
  | .error e => .isFalse (not_gives_error e)

instance decidableExistsOk (P : α → Prop) [DecidablePred P] :
    (x : Except ε α) → Decidable (∃ a, x = .ok a ∧ P a)
  | .ok a => decidable_of_iff (P a) (by simp)
  | .error _ => .isFalse (by simp)

theorem gives_bind (x : Except ε α) (f : α → Except ε β) :
    Gives (x >>= f) ↔ ∃ a, x = .ok a ∧ Gives (f a) := by
  cases x with
  | error e => simp [bind, Except.bind]
  | ok a => simp [bind, Except.bind]

theorem bind_eq_ok {x : Except ε α} {f : α → Except ε β} {b : β} :
    (x >>= f) = .ok b ↔ ∃ a, x = .ok a ∧ f a = .ok b := by
  cases x <;> simp [bind, Except.bind]

@[simp] theorem gives_map (f : α → β) (x : Except ε α) : Gives (f <$> x) ↔ Gives x := by
  cases x with
  | error e => simp [Functor.map, Except.map]
  | ok a => simp [Functor.map, Except.map]

@[simp] theorem exists_ok_iff (x : Except ε α) : (∃ a, x = .ok a) ↔ Gives x := Iff.rfl

theorem gives_mapM (f : α → Except ε β) (l : List α) :
    Gives (l.mapM f) ↔ ∀ a ∈ l, Gives (f a) := by
  induction l with
  | nil => simp
  | cons a l ih => simp [List.mapM_cons, gives_bind, ih]

end Gives

namespace Node

/-! ## Trees that can be written -/

/-- The parts of a node whose text is a part of its own. -/
def written : Node → List Node
  | .pattern (.capture _ none _) => []
  | n => n.children

/-- What is in the way of writing a tree, at the node where it is found: an integer with too
many digits, or a replacement field whose expression has a backslash in its text. -/
def Unwritable : Node → Prop
  | .expr (.formatted v _ _ _) => ∃ t, v.write true (Level.tighter .test) = .ok t ∧ '\\' ∈ t.toList
  | .expr (.constant v _ _) | .pattern (.singleton v _) => v.isTooLong = true
  | _ => False

/-- That nothing in a tree is in the way of writing it. -/
def Writable (n : Node) : Prop := n.Every written fun m => ¬ m.Unwritable

/-- A tree can be written if its root is not in the way and the parts can be written. -/
theorem writable_iff {n : Node} : n.Writable ↔ ¬ n.Unwritable ∧ ∀ m ∈ n.written, m.Writable :=
  every_iff

/-- What holds of a node whenever it holds of all its parts holds of every node. -/
theorem induction {P : Node → Prop} (h : ∀ n, (∀ m ∈ n.children, P m) → P n) (n : Node) : P n :=
  h n fun m hm =>
    have := sizeOf_lt_of_mem_children hm
    induction h m
termination_by sizeOf n

end Node

open Node

/-! ## Expressions -/

theorem gives_asText (avoid : Bool) (v : Literal) :
    Gives (v.asText avoid) ↔ v.isTooLong = false := by
  unfold Literal.asText
  cases v.isTooLong <;> simp

section Literals

attribute [local simp] Expr.write

/-- A constant can be written if its value can, wherever it stands. -/
theorem gives_write_constant (avoid : Bool) (place : Level) (v : Literal) (marked : Bool)
    (span : Span) :
    Gives ((Expr.constant v marked span).write avoid place) ↔ v.isTooLong = false := by
  simp [gives_asText]

/-- A formatted string can be written if its parts can, whichever quotes are around it. -/
theorem gives_write_joined (avoid : Bool) (place : Level) (es : List Expr) (span : Span) :
    Gives ((Expr.joined es span).write avoid place) ↔ Gives (writeParts es) := by
  cases avoid <;> simp

end Literals

theorem withoutBackslash_eq_ok_iff (s t : String) :
    withoutBackslash s = .ok t ↔ s = t ∧ '\\' ∉ s.toList := by
  unfold withoutBackslash
  split <;> simp_all [pure, Except.pure, throw, throwThe, MonadExceptOf.throw]

/-- That whether an expression can be written is said by its tree, wherever it stands. -/
def Expr.Told (e : Expr) : Prop :=
  ∀ avoid place, Gives (e.write avoid place) ↔ (Node.expr e).Writable

section Lists

variable {avoid : Bool}

attribute [local simp] writeAll writeIncreasing writeItems writeComparisons writeKeywords
  writeClauses

theorem gives_writeAll {place : Level} {es : List Expr} (h : ∀ e ∈ es, e.Told) :
    Gives (writeAll avoid place es) ↔ ∀ e ∈ es, (Node.expr e).Writable := by
  induction es with
  | nil => simp
  | cons e es ih =>
      obtain ⟨he, hes⟩ := List.forall_mem_cons.mp h
      simp [gives_bind, he avoid, ih hes]

theorem gives_writeIncreasing {place : Level} {es : List Expr} (h : ∀ e ∈ es, e.Told) :
    Gives (writeIncreasing avoid place es) ↔ ∀ e ∈ es, (Node.expr e).Writable := by
  induction es generalizing place with
  | nil => simp
  | cons e es ih =>
      obtain ⟨he, hes⟩ := List.forall_mem_cons.mp h
      simp [gives_bind, he avoid, ih hes]

theorem gives_writeItems {items : List DictItem} (hkey : ∀ i ∈ items, ∀ e ∈ i.key, e.Told)
    (hvalue : ∀ i ∈ items, i.value.Told) :
    Gives (writeItems avoid items) ↔
      ∀ i ∈ items, (∀ e ∈ i.key, (Node.expr e).Writable) ∧ (Node.expr i.value).Writable := by
  induction items with
  | nil => simp
  | cons i items ih =>
      obtain ⟨hk, hkeys⟩ := List.forall_mem_cons.mp hkey
      obtain ⟨hv, hvalues⟩ := List.forall_mem_cons.mp hvalue
      obtain ⟨key, value⟩ := i
      cases key with
      | none => simp [gives_bind, hv avoid, ih hkeys hvalues]
      | some k =>
          simp [gives_bind, hk k rfl avoid, hv avoid, ih hkeys hvalues, and_assoc]

theorem gives_writeComparisons {rest : List Comparison} (h : ∀ c ∈ rest, c.operand.Told) :
    Gives (writeComparisons avoid rest) ↔ ∀ c ∈ rest, (Node.expr c.operand).Writable := by
  induction rest with
  | nil => simp
  | cons c rest ih =>
      obtain ⟨hc, hrest⟩ := List.forall_mem_cons.mp h
      obtain ⟨op, e⟩ := c
      simp [gives_bind, hc avoid, ih hrest]

theorem gives_writeKeywords {kws : List Keyword} (h : ∀ k ∈ kws, k.value.Told) :
    Gives (writeKeywords avoid kws) ↔ ∀ k ∈ kws, (Node.expr k.value).Writable := by
  induction kws with
  | nil => simp
  | cons k kws ih =>
      obtain ⟨hk, hkws⟩ := List.forall_mem_cons.mp h
      obtain ⟨arg, value, span⟩ := k
      simp [gives_bind, hk avoid, ih hkws]

theorem gives_writeClauses {cs : List Clause}
    (h : ∀ c ∈ cs, c.target.Told ∧ c.iter.Told ∧ ∀ e ∈ c.conditions, e.Told) :
    Gives (writeClauses avoid cs) ↔
      ∀ c ∈ cs, (Node.expr c.target).Writable ∧ (Node.expr c.iter).Writable ∧
        ∀ e ∈ c.conditions, (Node.expr e).Writable := by
  induction cs with
  | nil => simp
  | cons c cs ih =>
      obtain ⟨⟨htarget, hiter, hconditions⟩, hcs⟩ := List.forall_mem_cons.mp h
      obtain ⟨target, iter, conditions, isAsync⟩ := c
      simp [gives_bind, htarget avoid, hiter avoid, gives_writeAll hconditions,
        ih hcs, and_assoc]

theorem gives_writeParts {es : List Expr} (h : ∀ e ∈ es, e.Told) :
    Gives (writeParts es) ↔ ∀ e ∈ es, (Node.expr e).Writable := by
  induction es with
  | nil => simp [writeParts]
  | cons e es ih =>
      obtain ⟨he, hes⟩ := List.forall_mem_cons.mp h
      -- A literal stretch can always be written, as a constant and as a part.
      have hwrite : Gives (writeParts (e :: es)) ↔
          Gives (e.write true .test) ∧ Gives (writeParts es) := by
        conv => lhs; rw [writeParts.eq_def]
        dsimp only
        split <;> simp [gives_bind, gives_write_constant, Literal.isTooLong]
      simp [hwrite, he true, ih hes]

theorem gives_writeFormat {spec : Option Expr} (h : ∀ e ∈ spec, e.Told) :
    Gives (writeFormat spec) ↔ ∀ e ∈ spec, (Node.expr e).Writable := by
  cases spec with
  | none => simp [writeFormat]
  | some e =>
      have hwrite : Gives (writeFormat (some e)) ↔ Gives (e.write true .test) := by
        cases e <;> simp [writeFormat, gives_write_joined]
      simp [hwrite, h e rfl true]

end Lists

section Parameters

attribute [local simp] Parameter.write writeParameters writeKeywordOnly

theorem gives_writeParameter {p : Parameter} (h : ∀ e ∈ p.hint, e.Told) (avoid : Bool) :
    Gives (p.write avoid) ↔ ∀ e ∈ p.hint, (Node.expr e).Writable := by
  obtain ⟨name, hint, span⟩ := p
  cases hint with
  | none => simp
  | some e => simp [h e rfl avoid]

theorem gives_writeParameters {ps : List Parameter} (h : ∀ p ∈ ps, ∀ e ∈ p.hint, e.Told)
    (avoid : Bool) :
    Gives (writeParameters avoid ps) ↔ ∀ p ∈ ps, ∀ e ∈ p.hint, (Node.expr e).Writable := by
  induction ps with
  | nil => simp
  | cons p ps ih =>
      obtain ⟨hp, hps⟩ := List.forall_mem_cons.mp h
      simp [gives_bind, gives_writeParameter hp, ih hps]

theorem gives_writeKeywordOnly {ps : List KeywordParameter}
    (hhint : ∀ p ∈ ps, ∀ e ∈ p.parameter.hint, e.Told)
    (hdefault : ∀ p ∈ ps, ∀ e ∈ p.default, e.Told) (avoid : Bool) :
    Gives (writeKeywordOnly avoid ps) ↔
      ∀ p ∈ ps, (∀ e ∈ p.parameter.hint, (Node.expr e).Writable) ∧
        ∀ e ∈ p.default, (Node.expr e).Writable := by
  induction ps with
  | nil => simp
  | cons p ps ih =>
      obtain ⟨hh, hhints⟩ := List.forall_mem_cons.mp hhint
      obtain ⟨hd, hdefaults⟩ := List.forall_mem_cons.mp hdefault
      obtain ⟨parameter, default⟩ := p
      cases default with
      | none => simp [gives_bind, gives_writeParameter hh, ih hhints hdefaults]
      | some d =>
          simp [gives_bind, gives_writeParameter hh, hd d rfl avoid,
            ih hhints hdefaults, and_assoc]

end Parameters

/-! ## Patterns -/

/-- That whether a pattern can be written is said by its tree, wherever it stands. -/
def Pattern.Told (p : Pattern) : Prop :=
  ∀ place, Gives (p.write place) ↔ (Node.pattern p).Writable

section Patterns

attribute [local simp] writePatterns writeEntries writeKeywordPatterns

theorem gives_writePatterns {place : Level} {ps : List Pattern} (h : ∀ p ∈ ps, p.Told) :
    Gives (writePatterns place ps) ↔ ∀ p ∈ ps, (Node.pattern p).Writable := by
  induction ps with
  | nil => simp
  | cons p ps ih =>
      obtain ⟨hp, hps⟩ := List.forall_mem_cons.mp h
      simp [gives_bind, hp place, ih hps]

theorem gives_writeEntries {es : List PatternEntry} (hkey : ∀ e ∈ es, e.key.Told)
    (hpattern : ∀ e ∈ es, e.pattern.Told) :
    Gives (writeEntries es) ↔
      ∀ e ∈ es, (Node.expr e.key).Writable ∧ (Node.pattern e.pattern).Writable := by
  induction es with
  | nil => simp
  | cons e es ih =>
      obtain ⟨hk, hkeys⟩ := List.forall_mem_cons.mp hkey
      obtain ⟨hp, hpatterns⟩ := List.forall_mem_cons.mp hpattern
      obtain ⟨key, pattern⟩ := e
      simp [gives_bind, hk false, hp .test, ih hkeys hpatterns, and_assoc]

theorem gives_writeKeywordPatterns {ks : List KeywordPattern} (h : ∀ k ∈ ks, k.pattern.Told) :
    Gives (writeKeywordPatterns ks) ↔ ∀ k ∈ ks, (Node.pattern k.pattern).Writable := by
  induction ks with
  | nil => simp
  | cons k ks ih =>
      obtain ⟨hk, hks⟩ := List.forall_mem_cons.mp h
      obtain ⟨attr, pattern⟩ := k
      simp [gives_bind, hk .test, ih hks]

end Patterns

/-! ## Statements -/

/-- That whether a statement can be written is said by its tree, wherever it stands. -/
def Stmt.Told (s : Stmt) : Prop :=
  ∀ indent ifWord, Gives (s.write indent ifWord) ↔ (Node.stmt s).Writable

section Statements

variable {indent : Nat}

attribute [local simp] writeBlock writeBody writeLabelled writeHandlers writeCases

theorem gives_text {e : Expr} (h : e.Told) : Gives e.text ↔ (Node.expr e).Writable :=
  h false .test

theorem gives_writeAfter {words : String} {o : Option Expr} (h : ∀ e ∈ o, e.Told) :
    Gives (writeAfter words o) ↔ ∀ e ∈ o, (Node.expr e).Writable := by
  cases o with
  | none => simp [writeAfter]
  | some e => simp [writeAfter, gives_text (h e rfl)]

theorem gives_writeDecorators {es : List Expr} (h : ∀ e ∈ es, e.Told) :
    Gives (writeDecorators indent es) ↔ ∀ e ∈ es, (Node.expr e).Writable := by
  simp only [writeDecorators, bind_pure_comp, gives_map, gives_mapM]
  exact forall₂_congr fun e he => gives_text (h e he)

theorem gives_writeItem {w : WithItem} (hcontext : w.context.Told)
    (htarget : ∀ e ∈ w.target, e.Told) :
    Gives w.write ↔
      (Node.expr w.context).Writable ∧ ∀ e ∈ w.target, (Node.expr e).Writable := by
  simp [WithItem.write, gives_bind, gives_text hcontext, gives_writeAfter htarget]

theorem gives_writeBlock {ss : List Stmt} (h : ∀ s ∈ ss, s.Told) :
    Gives (writeBlock indent ss) ↔ ∀ s ∈ ss, (Node.stmt s).Writable := by
  induction ss with
  | nil => simp
  | cons s ss ih =>
      obtain ⟨hs, hss⟩ := List.forall_mem_cons.mp h
      simp [gives_bind, hs indent, ih hss]

/-- A text alone is a statement that can be written. -/
theorem gives_write_of_loneText {s : Stmt} {lone : List Nat × Bool} (h : s.loneText? = some lone)
    (ifWord : String) : Gives (s.write indent ifWord) := by
  unfold Stmt.loneText? at h
  split at h
  · simp [Stmt.write, gives_write_constant, Literal.isTooLong]
  · simp [Stmt.write, gives_write_constant, Literal.isTooLong]
  · cases h

theorem gives_writeBody {ss : List Stmt} (h : ∀ s ∈ ss, s.Told) :
    Gives (writeBody indent ss) ↔ ∀ s ∈ ss, (Node.stmt s).Writable := by
  cases ss with
  | nil => simp
  | cons s ss =>
      obtain ⟨hs, hss⟩ := List.forall_mem_cons.mp h
      cases hlone : s.loneText? with
      | none => simp [hlone, gives_bind, hs indent, gives_writeBlock hss]
      | some lone =>
          have hwritable := (hs indent "if").mp (gives_write_of_loneText hlone "if")
          simp [hlone, gives_writeBlock hss, hwritable]

theorem gives_writeLabelled {word : String} {ss : List Stmt} (h : ∀ s ∈ ss, s.Told) :
    Gives (writeLabelled indent word ss) ↔ ∀ s ∈ ss, (Node.stmt s).Writable := by
  cases ss with
  | nil => simp
  | cons s ss =>
      obtain ⟨hs, hss⟩ := List.forall_mem_cons.mp h
      simp [gives_bind, hs (indent + 1), gives_writeBlock hss]

theorem gives_writeOrElse {ss : List Stmt} (h : ∀ s ∈ ss, s.Told) :
    Gives (writeOrElse indent ss) ↔ ∀ s ∈ ss, (Node.stmt s).Writable := by
  cases ss with
  | nil => simp [writeOrElse]
  | cons s ss =>
      obtain ⟨hs, hss⟩ := List.forall_mem_cons.mp h
      unfold writeOrElse
      split
      · next hif =>
          obtain rfl : ss = [] := by simp_all
          simp [hs indent]
      · simp [gives_bind, hs (indent + 1), gives_writeBlock hss]

theorem gives_writeHandlers {isGroup : Bool} {hs : List Handler}
    (h : ∀ h ∈ hs, (∀ e ∈ h.type, e.Told) ∧ ∀ s ∈ h.body, s.Told) :
    Gives (writeHandlers indent isGroup hs) ↔
      ∀ h ∈ hs, (∀ e ∈ h.type, (Node.expr e).Writable) ∧
        ∀ s ∈ h.body, (Node.stmt s).Writable := by
  induction hs with
  | nil => simp
  | cons handler hs ih =>
      obtain ⟨⟨htype, hbody⟩, hhs⟩ := List.forall_mem_cons.mp h
      obtain ⟨type, name, body, span⟩ := handler
      simp [gives_bind, gives_writeAfter htype, gives_writeBlock hbody, ih hhs,
        and_assoc]

theorem gives_writeCases {cs : List MatchCase}
    (h : ∀ c ∈ cs, c.pattern.Told ∧ (∀ e ∈ c.guard, e.Told) ∧ ∀ s ∈ c.body, s.Told) :
    Gives (writeCases indent cs) ↔
      ∀ c ∈ cs, (Node.pattern c.pattern).Writable ∧ (∀ e ∈ c.guard, (Node.expr e).Writable) ∧
        ∀ s ∈ c.body, (Node.stmt s).Writable := by
  induction cs with
  | nil => simp
  | cons c cs ih =>
      obtain ⟨⟨hpattern, hguard, hbody⟩, hcs⟩ := List.forall_mem_cons.mp h
      obtain ⟨pattern, guard, body⟩ := c
      simp [gives_bind, hpattern .test, gives_writeAfter hguard,
        gives_writeBlock hbody, ih hcs, and_assoc]

end Statements

/-! ## Every node -/

/-- That whether a node can be written is said by its tree, whatever stands around it.  Of a node
that only groups others it is said part by part. -/
def Node.Told : Node → Prop
  | .stmt s => s.Told
  | .expr e => e.Told
  | .pattern p => p.Told
  | .handler h => (∀ e ∈ h.type, e.Told) ∧ ∀ s ∈ h.body, s.Told
  | .matchCase c => c.pattern.Told ∧ (∀ e ∈ c.guard, e.Told) ∧ ∀ s ∈ c.body, s.Told
  | .withItem w => w.context.Told ∧ ∀ e ∈ w.target, e.Told
  | .importAlias _ => True
  | .parameters ps => ∀ avoid, Gives (ps.write avoid) ↔ (Node.parameters ps).Writable
  | .parameter p => ∀ e ∈ p.hint, e.Told
  | .keyword k => k.value.Told
  | .clause c => c.target.Told ∧ c.iter.Told ∧ ∀ e ∈ c.conditions, e.Told

section Parts

variable {P : Node → Prop}

attribute [local simp] Unwritable written children

@[simp] theorem forall_mem_ofExprs {es : List Expr} :
    (∀ m ∈ ofExprs es, P m) ↔ ∀ e ∈ es, P (.expr e) := by
  simp [ofExprs]

@[simp] theorem forall_mem_ofStmts {ss : List Stmt} :
    (∀ m ∈ ofStmts ss, P m) ↔ ∀ s ∈ ss, P (.stmt s) := by
  simp [ofStmts]

@[simp] theorem forall_mem_ofExpr? {o : Option Expr} :
    (∀ m ∈ ofExpr? o, P m) ↔ ∀ e ∈ o, P (.expr e) := by
  simp [ofExpr?]

theorem forall_mem_filterMap {α β : Type} {f : α → Option β} {l : List α} {P : β → Prop} :
    (∀ b ∈ l.filterMap f, P b) ↔ ∀ a ∈ l, ∀ b ∈ f a, P b := by
  simp only [List.mem_filterMap, forall_exists_index, and_imp, Option.mem_def]
  exact ⟨fun h a ha b hb => h b a ha hb, fun h b a ha hb => h a ha b hb⟩

@[simp] theorem writable_keyword {k : Keyword} :
    (Node.keyword k).Writable ↔ (Node.expr k.value).Writable := by
  rw [writable_iff]
  simp

@[simp] theorem writable_clause {c : Clause} :
    (Node.clause c).Writable ↔ (Node.expr c.target).Writable ∧ (Node.expr c.iter).Writable ∧
      ∀ e ∈ c.conditions, (Node.expr e).Writable := by
  rw [writable_iff]
  simp

@[simp] theorem writable_parameter {p : Parameter} :
    (Node.parameter p).Writable ↔ ∀ e ∈ p.hint, (Node.expr e).Writable := by
  rw [writable_iff]
  simp

@[simp] theorem writable_handler {h : Handler} :
    (Node.handler h).Writable ↔
      (∀ e ∈ h.type, (Node.expr e).Writable) ∧ ∀ s ∈ h.body, (Node.stmt s).Writable := by
  rw [writable_iff]
  simp only [Unwritable, written, children, List.forall_mem_append, forall_mem_ofExpr?,
    forall_mem_ofStmts, not_false_eq_true, true_and]

@[simp] theorem writable_matchCase {c : MatchCase} :
    (Node.matchCase c).Writable ↔ (Node.pattern c.pattern).Writable ∧
      (∀ e ∈ c.guard, (Node.expr e).Writable) ∧ ∀ s ∈ c.body, (Node.stmt s).Writable := by
  rw [writable_iff]
  simp only [Unwritable, written, children, List.forall_mem_cons, List.forall_mem_append,
    forall_mem_ofExpr?, forall_mem_ofStmts, not_false_eq_true, true_and]

@[simp] theorem writable_withItem {w : WithItem} :
    (Node.withItem w).Writable ↔
      (Node.expr w.context).Writable ∧ ∀ e ∈ w.target, (Node.expr e).Writable := by
  rw [writable_iff]
  simp

@[simp] theorem writable_importAlias {a : Alias} : (Node.importAlias a).Writable := by
  rw [writable_iff]
  simp

end Parts

/-! ### From the parts of a node to the node -/

/-- The parameters of a function are written kind by kind. -/
theorem gives_write_parameters (avoid : Bool) (only both : List Parameter)
    (variadic : Option Parameter) (keywordOnly : List KeywordParameter)
    (mapping : Option Parameter) (defaults : List Expr) :
    Gives (Parameters.write avoid ⟨only, both, variadic, keywordOnly, mapping, defaults⟩) ↔
      Gives (writeParameters avoid only) ∧ Gives (writeParameters avoid both) ∧
        Gives (writeAll avoid .test defaults) ∧ (∀ p ∈ variadic, Gives (p.write avoid)) ∧
        Gives (writeKeywordOnly avoid keywordOnly) ∧ ∀ p ∈ mapping, Gives (p.write avoid) := by
  cases variadic <;> cases mapping <;>
    simp only [Parameters.write, gives_bind, pure_bind, gives_pure, exists_and_right, and_true,
      exists_ok_iff, Option.mem_def, reduceCtorEq, false_imp_iff, implies_true, Option.some.injEq,
      forall_eq', true_and]

theorem told_parameters {ps : Parameters} (h : ∀ m ∈ (Node.parameters ps).children, m.Told) :
    (Node.parameters ps).Told := by
  intro avoid
  rw [writable_iff]
  obtain ⟨only, both, variadic, keywordOnly, mapping, defaults⟩ := ps
  simp only [children, Node.Told, List.forall_mem_append, List.forall_mem_map,
    forall_mem_ofExprs, forall_mem_filterMap, Option.mem_toList] at h
  obtain ⟨⟨⟨⟨⟨⟨honly, hboth⟩, hvariadic⟩, hkeyword⟩, hgiven⟩, hmapping⟩, hdefaults⟩ := h
  simp only [written, children, Unwritable, not_false_eq_true, true_and, List.forall_mem_append,
    List.forall_mem_map, forall_mem_ofExprs, forall_mem_filterMap, Option.mem_toList,
    writable_parameter]
  have hone {o : Option Parameter} (ho : ∀ p ∈ o, ∀ e ∈ p.hint, e.Told) :
      (∀ p ∈ o, Gives (p.write avoid)) ↔ ∀ p ∈ o, ∀ e ∈ p.hint, (Node.expr e).Writable :=
    forall₂_congr fun p hp => gives_writeParameter (ho p hp) avoid
  rw [gives_write_parameters, gives_writeParameters honly, gives_writeParameters hboth,
    gives_writeAll hdefaults, hone hvariadic, gives_writeKeywordOnly hkeyword hgiven,
    hone hmapping]
  constructor
  · rintro ⟨h₁, h₂, h₃, h₄, h₅, h₆⟩
    exact ⟨⟨⟨⟨⟨⟨h₁, h₂⟩, h₄⟩, fun p hp => (h₅ p hp).1⟩, fun p hp => (h₅ p hp).2⟩, h₆⟩, h₃⟩
  · rintro ⟨⟨⟨⟨⟨⟨h₁, h₂⟩, h₄⟩, h₅⟩, h₅'⟩, h₆⟩, h₃⟩
    exact ⟨h₁, h₂, h₃, h₄, fun p hp => ⟨h₅ p hp, h₅' p hp⟩, h₆⟩

/-- A replacement field is written if its parts are and its expression needs no backslash. -/
theorem gives_write_formatted (avoid : Bool) (place : Level) (v : Expr) (c : Option Conversion)
    (spec : Option Expr) (span : Span) :
    Gives ((Expr.formatted v c spec span).write avoid place) ↔
      Gives (v.write true (Level.tighter .test)) ∧
        (∀ t, v.write true (Level.tighter .test) = .ok t → '\\' ∉ t.toList) ∧
        Gives (writeFormat spec) := by
  cases hv : v.write true (Level.tighter .test) <;>
    simp [Expr.write, gives_bind, hv, withoutBackslash_eq_ok_iff]

/-- The parts of a tuple in brackets are written as those of a tuple in parentheses. -/
theorem gives_write_subscript (avoid : Bool) (place : Level) (e s : Expr) (usage : Usage)
    (span : Span) :
    Gives ((Expr.subscript e s usage span).write avoid place) ↔
      Gives (e.write avoid .atom) ∧ Gives (s.write avoid .test) := by
  conv => lhs; rw [Expr.write.eq_def]
  dsimp only
  split <;> simp [gives_bind, Expr.write, writeAll]

theorem told_expr {e : Expr} (h : ∀ m ∈ ofExpr e, m.Told) : e.Told := by
  intro avoid place
  rw [writable_iff]
  cases e <;>
    simp only [written, children, ofExpr, Unwritable, Node.Told, List.forall_mem_cons,
      List.forall_mem_append, List.forall_mem_map, forall_mem_ofExprs, forall_mem_ofExpr?,
      forall_mem_filterMap, List.not_mem_nil, false_imp_iff, implies_true, and_true,
      not_false_eq_true, true_and, writable_keyword, writable_clause] at h ⊢
  case boolOp op es span => simp [Expr.write, gives_writeIncreasing h]
  case named t v span => simp [Expr.write, gives_bind, h.1 avoid, h.2 avoid]
  case binary l op r span => simp [Expr.write, gives_bind, h.1 avoid, h.2 avoid]
  case unary op e span => simp [Expr.write, h avoid]
  case lambda ps body span => simp [Expr.write, gives_bind, h.1 avoid, h.2 avoid]
  case conditional test body orElse span =>
    obtain ⟨htest, hbody, helse⟩ := h
    simp [Expr.write, gives_bind, htest avoid, hbody avoid, helse avoid, and_left_comm]
  case dict items span =>
    simp [Expr.write, gives_writeItems h.1 h.2, forall_and]
  case set es span =>
    cases es with
    | nil => simp [Expr.write]
    | cons e es => simp [Expr.write, gives_writeAll h]
  case comprehension form e cs span =>
    simp [Expr.write, gives_bind, h.1 avoid, gives_writeClauses h.2]
  case dictComprehension k v cs span =>
    obtain ⟨hk, hv, hcs⟩ := h
    simp [Expr.write, gives_bind, hk avoid, hv avoid, gives_writeClauses hcs]
  case await e span => simp [Expr.write, h avoid]
  case yield e span =>
    cases e with
    | none => simp [Expr.write]
    | some e => simp [Expr.write, h e rfl avoid]
  case yieldFrom e span => simp [Expr.write, h avoid]
  case compare l rest span =>
    simp [Expr.write, gives_bind, h.1 avoid, gives_writeComparisons h.2]
  case call f args kws span =>
    obtain ⟨hf, hargs, hkws⟩ := h
    simp [Expr.write, gives_bind, hf avoid, gives_writeAll hargs, gives_writeKeywords hkws]
  case formatted v c spec span =>
    obtain ⟨hv, hspec⟩ := h
    rw [gives_write_formatted, hv true, gives_writeFormat hspec]
    simp only [not_exists, not_and]
    tauto
  case joined es span => rw [gives_write_joined, gives_writeParts h]
  case constant v marked span => simp [gives_write_constant]
  case «attribute» e attr usage span => simp [Expr.write, h avoid]
  case subscript e s usage span =>
    rw [gives_write_subscript, h.1 avoid, h.2 avoid]
  case starred e usage span => simp [Expr.write, h avoid]
  case name id usage span => simp [Expr.write]
  case list es usage span => simp [Expr.write, gives_writeAll h]
  case tuple es usage span => simp [Expr.write, gives_writeAll h]
  case slice l u s span =>
    obtain ⟨⟨hl, hu⟩, hs⟩ := h
    have hl e (he : l = some e) := hl e he avoid
    have hu e (he : u = some e) := hu e he avoid
    have hs e (he : s = some e) := hs e he avoid
    cases l <;> cases u <;> cases s <;> simp [Expr.write, gives_bind, hl, hu, hs, and_assoc]

theorem told_pattern {p : Pattern} (h : ∀ m ∈ ofPattern p, m.Told) : p.Told := by
  intro place
  rw [writable_iff]
  cases p <;>
    simp only [ofPattern, Node.Told, List.forall_mem_cons, List.forall_mem_append,
      List.forall_mem_map, forall_mem_ofExprs, List.not_mem_nil, false_imp_iff, implies_true,
      and_true] at h
  case capture p name span =>
    cases name with
    | none => simp [Pattern.write, written, Unwritable]
    | some name =>
        cases p with
        | none => simp [Pattern.write, written, children, ofPattern, Unwritable]
        | some p =>
            simp [Pattern.write, written, children, ofPattern, Unwritable, h p (by simp) .union]
  all_goals
    simp only [written, children, ofPattern, Unwritable, List.forall_mem_cons,
      List.forall_mem_append, List.forall_mem_map, forall_mem_ofExprs, List.not_mem_nil,
      false_imp_iff, implies_true, and_true, not_false_eq_true, true_and]
  case value e span => simp [Pattern.write, h false]
  case singleton v span => simp [Pattern.write, gives_asText]
  case sequence ps span => simp [Pattern.write, gives_writePatterns h]
  case mapping es rest span => simp [Pattern.write, gives_writeEntries h.1 h.2, forall_and]
  case cls c ps ks span =>
    obtain ⟨hc, hps, hks⟩ := h
    simp [Pattern.write, gives_bind, hc false, gives_writePatterns hps,
      gives_writeKeywordPatterns hks]
  case star name span => simp [Pattern.write]
  case either ps span => simp [Pattern.write, gives_writePatterns h]

theorem told_stmt {s : Stmt} (h : ∀ m ∈ ofStmt s, m.Told) : s.Told := by
  intro indent ifWord
  rw [writable_iff]
  cases s <;>
    simp only [written, children, ofStmt, Unwritable, Node.Told, List.forall_mem_cons,
      List.forall_mem_append, List.forall_mem_map, forall_mem_ofExprs, forall_mem_ofExpr?,
      forall_mem_ofStmts, List.not_mem_nil, false_imp_iff, implies_true, and_true,
      not_false_eq_true, true_and, writable_keyword, writable_handler, writable_matchCase,
      writable_withItem, writable_importAlias] at h ⊢
  case function isAsync name ps body decorators returns span =>
    obtain ⟨hps, ⟨hbody, hdecorators⟩, hreturns⟩ := h
    simp [Stmt.write, gives_bind, hps false, gives_writeBody hbody,
      gives_writeDecorators hdecorators, gives_writeAfter hreturns, and_assoc, and_left_comm,
      and_comm]
  case classDef name bases kws body decorators span =>
    obtain ⟨⟨⟨hbases, hkws⟩, hbody⟩, hdecorators⟩ := h
    simp [Stmt.write, gives_bind, gives_writeAll hbases, gives_writeKeywords hkws,
      gives_writeBody hbody, gives_writeDecorators hdecorators, and_assoc, and_left_comm,
      and_comm]
  case ret v span => simp [Stmt.write, gives_writeAfter h]
  case delete ts span => simp [Stmt.write, gives_writeAll h]
  case assign ts v span => simp [Stmt.write, gives_bind, gives_writeAll h.1, gives_text h.2]
  case augAssign t op v span => simp [Stmt.write, gives_bind, gives_text h.1, gives_text h.2]
  case annAssign t a v simple span =>
    obtain ⟨ht, ha, hv⟩ := h
    simp [Stmt.write, gives_bind, gives_text ht, gives_text ha, gives_writeAfter hv]
  case «for» isAsync t i body orElse span =>
    obtain ⟨ht, hi, hbody, helse⟩ := h
    simp [Stmt.write, gives_bind, ht false, gives_text hi, gives_writeBlock hbody,
      gives_writeLabelled helse]
  case «while» t body orElse span =>
    obtain ⟨ht, hbody, helse⟩ := h
    simp [Stmt.write, gives_bind, gives_text ht, gives_writeBlock hbody, gives_writeLabelled helse]
  case «if» t body orElse span =>
    obtain ⟨ht, hbody, helse⟩ := h
    simp [Stmt.write, gives_bind, gives_text ht, gives_writeBlock hbody, gives_writeOrElse helse]
  case «with» isAsync items body span =>
    obtain ⟨hitems, hbody⟩ := h
    have hitem : (∀ w ∈ items, Gives w.write) ↔ ∀ w ∈ items,
        (Node.expr w.context).Writable ∧ ∀ e ∈ w.target, (Node.expr e).Writable :=
      forall₂_congr fun w hw => gives_writeItem (hitems w hw).1 (hitems w hw).2
    simp [Stmt.write, gives_bind, gives_mapM, hitem, gives_writeBlock hbody]
  case «match» e cs span => simp [Stmt.write, gives_bind, gives_text h.1, gives_writeCases h.2]
  case raise e c span =>
    simp [Stmt.write, gives_bind, gives_writeAfter h.1, gives_writeAfter h.2]
  case «try» isGroup body hs orElse final span =>
    obtain ⟨⟨⟨hbody, hhs⟩, helse⟩, hfinal⟩ := h
    simp [Stmt.write, gives_bind, gives_writeBlock hbody, gives_writeHandlers hhs,
      gives_writeLabelled helse, gives_writeLabelled hfinal, and_assoc]
  case assert t m span => simp [Stmt.write, gives_bind, gives_text h.1, gives_writeAfter h.2]
  case expr e span => simp [Stmt.write, h false]
  all_goals simp [Stmt.write]

/-- **Whether a tree can be written is told by its parts.**  By induction from the parts of each
node to the node. -/
theorem told (n : Node) : n.Told := by
  induction n using Node.induction with
  | _ n ih =>
    cases n with
    | stmt s => exact told_stmt ih
    | expr e => exact told_expr ih
    | pattern p => exact told_pattern ih
    | parameters ps => exact told_parameters ih
    | importAlias a => trivial
    | _ =>
        simpa only [children, Node.Told, List.forall_mem_cons, List.forall_mem_append,
          forall_mem_ofExprs, forall_mem_ofExpr?, forall_mem_ofStmts, List.not_mem_nil,
          false_imp_iff, implies_true, and_true] using ih

/-- An expression can be written exactly if nothing in it is in the way. -/
theorem gives_exprText (e : Expr) : Gives e.text ↔ (Node.expr e).Writable :=
  gives_text (told (.expr e))

/-- A module can be written exactly if nothing in its statements is in the way. -/
theorem gives_moduleText (m : Module) : Gives m.text ↔ ∀ s ∈ m.body, (Node.stmt s).Writable := by
  simp [Module.text, gives_writeBody fun s _ => told (.stmt s)]

end Standin.Source
