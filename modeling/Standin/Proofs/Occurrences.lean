/-
The table of a module, from the names bound in its scope.

A node that belongs to the scope of a module may bind names itself: a function binds its name,
an import those it gives.  These are the occurrences of a name (`Module.Binds`), and the visit
finds just them, in an order that depends only on the tree (`bindingsOf_eq_occurrences`).  A name
is in the table if it has an occurrence; it is declared as at the first one, unless some
occurrence makes it one that may be assigned again (`get?_tableOf`).
-/
import Standin.Proofs.Outline
import Standin.Proofs.SameTable

set_option autoImplicit false

namespace Standin

open Source

/-! ## The names a node binds itself -/

namespace Source

/-- How a declared name with this annotation is declared. -/
def Expr.declares (hint : Expr) : DeclarationKind :=
  match isFinalHint hint with
  | .ok true => .constant
  | _ => .mutable

namespace Node

/-- The bindings at a node, without those in its parts. -/
def own (n : Node) : List Binding :=
  match n with
  | .stmt (.function _ name _ _ _ _ _) => [⟨name, .function, n⟩]
  | .stmt (.classDef name _ _ _ _ _) => [⟨name, .cls, n⟩]
  | .stmt (.importModules aliases _) => aliases.map fun a => ⟨a.boundName, .imported, n⟩
  | .stmt (.importFrom _ aliases _ _) =>
    (aliases.filter (·.name != "*")).map fun a => ⟨a.asName.getD a.name, .imported, n⟩
  | .stmt (.annAssign (.name id _ _) hint (some _) _ _) => [⟨id, hint.declares, n⟩]
  | .expr (.name id .store _) => [⟨id, .mutable, n⟩]
  | .pattern (.capture _ (some name) _) | .pattern (.star (some name) _)
  | .pattern (.mapping _ (some name) _) => [⟨name, .mutable, n⟩]
  | _ => []

/-- Whether the name a node binds itself comes after those in its parts.  That of the rest of a
mapping does. -/
def bindsLast : Node → Bool
  | .pattern (.mapping _ _ _) => true
  | _ => false

/-- The bindings in the scope that a node stands in, in the order in which they are visited. -/
def occurrences (n : Node) : List Binding :=
  let inner := n.inScope.attach.flatMap fun ⟨m, hm⟩ =>
    have := sizeOf_lt_of_mem_children (mem_children_of_mem_inScope hm)
    occurrences m
  if n.bindsLast then inner ++ n.own else n.own ++ inner
termination_by sizeOf n

theorem occurrences_eq (n : Node) :
    n.occurrences =
      if n.bindsLast then n.inScope.flatMap occurrences ++ n.own
      else n.own ++ n.inScope.flatMap occurrences := by
  have hattach : n.inScope.attach.flatMap (fun m => m.1.occurrences) =
      n.inScope.flatMap occurrences := by
    conv => rhs; rw [← List.attach_map_subtype_val n.inScope, List.flatMap_map]
  rw [occurrences, ← hattach]

/-- The occurrences are the bindings at the nodes that a walk in the scope comes to. -/
theorem mem_occurrences {n : Node} {b : Binding} :
    b ∈ n.occurrences ↔ ∃ m, n.Comes inScope m ∧ b ∈ m.own := by
  induction n using Node.induction with
  | _ n ih =>
    have hinner : b ∈ n.inScope.flatMap occurrences ↔
        ∃ k ∈ n.inScope, ∃ m, k.Comes inScope m ∧ b ∈ m.own := by
      rw [List.mem_flatMap]
      exact exists_congr fun k => and_congr_right fun hk => ih k (mem_children_of_mem_inScope hk)
    have hboth : b ∈ n.occurrences ↔ b ∈ n.own ∨ b ∈ n.inScope.flatMap occurrences := by
      rw [occurrences_eq]
      split <;> simp only [List.mem_append, or_comm]
    rw [hboth, hinner]
    constructor
    · rintro (hown | ⟨k, hk, m, hkm, hm⟩)
      · exact ⟨n, .refl, hown⟩
      · exact ⟨m, comes_iff.mpr (.inr ⟨k, hk, hkm⟩), hm⟩
    · rintro ⟨m, hm, hown⟩
      obtain rfl | ⟨k, hk, hkm⟩ := comes_iff.mp hm
      · exact .inl hown
      · exact .inr ⟨k, hk, m, hkm, hown⟩

end Node

/-- The bindings in the scope of a module, in the order in which they are visited. -/
def Module.occurrences (m : Module) : List Binding :=
  m.body.flatMap fun s => (Node.stmt s).occurrences

/-- That the binding is made at a node in the scope of the module. -/
def Module.Binds (m : Module) (b : Binding) : Prop :=
  ∃ s ∈ m.body, ∃ n, (Node.stmt s).Comes Node.inScope n ∧ b ∈ n.own

theorem Module.mem_occurrences {m : Module} {b : Binding} : b ∈ m.occurrences ↔ m.Binds b := by
  simp only [occurrences, Binds, List.mem_flatMap, Node.mem_occurrences]

end Source

/-! ## The visit finds the occurrences -/

/-- What is done at a node: the names it binds itself are bound, and its parts in the scope are
entered. -/
theorem visits_eq {n : Node} (h : ¬ n.Sealed) :
    visits n = .ok (if n.bindsLast then n.inScope.map .enter ++ n.own.map .bind
      else n.own.map .bind ++ n.inScope.map .enter) := by
  cases n with
  | stmt s =>
      cases s
      case annAssign target hint value simple span =>
        cases value with
        | none => cases target <;> rfl
        | some value =>
            cases target
            case name id usage place =>
              -- Only of a declared name is the annotation asked, and only there the visit could
              -- fail.
              obtain ⟨final, hfinal⟩ := (gives_isFinalHint hint).mpr h
              cases final <;>
                simp [visits, Node.own, Node.inScope, Node.bindsLast, Expr.declares, hfinal]
            all_goals rfl
      all_goals simp [visits, Node.own, Node.inScope, Node.bindsLast, enterAll]
  | expr e =>
      cases e
      case name id usage span => cases usage <;> rfl
      all_goals rfl
  | pattern p =>
      cases p
      case capture inner name span => cases name <;> rfl
      case star name span => cases name <;> rfl
      case mapping es rest span => cases rest <;> rfl
      all_goals rfl
  | _ => rfl

theorem mapM_eq_ok {ε α β : Type} {f : α → Except ε β} {g : α → β} {l : List α}
    (h : ∀ a ∈ l, f a = .ok (g a)) : l.mapM f = .ok (l.map g) := by
  induction l with
  | nil => rfl
  | cons a l ih =>
      obtain ⟨ha, hl⟩ := List.forall_mem_cons.mp h
      rw [List.mapM_cons, ha, ih hl]
      rfl

/-- **The visit of a node finds its occurrences**, if no declaration in the scope is sealed. -/
theorem bindingsOf_eq_occurrences {n : Node} (h : n.Every Node.inScope (¬ ·.Sealed)) :
    bindingsOf n = .ok n.occurrences := by
  induction n using Node.induction with
  | _ n ih =>
    have hown : (n.own.map Visit.bind).mapM Visit.bindings = .ok (n.own.map fun b => [b]) := by
      rw [List.mapM_map]
      exact mapM_eq_ok fun b _ => rfl
    have hinner : (n.inScope.map Visit.enter).mapM Visit.bindings =
        .ok (n.inScope.map Node.occurrences) := by
      rw [List.mapM_map]
      exact mapM_eq_ok fun m hm => ih m (mem_children_of_mem_inScope hm) (h.part hm)
    have hflat : (n.own.map fun b => [b]).flatten = n.own := by
      simp [← List.flatMap_def]
    -- Whichever of the two comes first, both sides put the lists together in one order.
    rw [bindingsOf_eq, visits_eq h.self, Node.occurrences_eq]
    split <;>
      simp only [List.mapM_append, hown, hinner, bind, Except.bind, pure, Except.pure,
        List.flatten_append, hflat, List.flatMap_def]

theorem scopeOf_eq_tableOf {m : Module}
    (h : ∀ s ∈ m.body, (Node.stmt s).Every Node.inScope (¬ ·.Sealed)) :
    scopeOf m = .ok (tableOf m.occurrences) := by
  have hbody : m.body.mapM (fun s => bindingsOf (.stmt s)) =
      .ok (m.body.map fun s => (Node.stmt s).occurrences) :=
    mapM_eq_ok fun s hs => bindingsOf_eq_occurrences (h s hs)
  simp only [scopeOf, hbody]
  rfl

/-! ## What the table says of a name -/

/-- The binding as one that may be assigned again. -/
def Binding.opened (b : Binding) : Binding := { b with kind := .mutable }

@[simp] theorem Binding.opened_opened (b : Binding) : b.opened.opened = b.opened := rfl

theorem Binding.opened_of_mutable {b : Binding} (h : b.kind = .mutable) : b.opened = b := by
  cases b
  simp_all [opened]

theorem Scope.name_of_get? {s : Scope} {name : String} {b : Binding} (h : s.get? name = some b) :
    b.name = name := by
  simpa using List.find?_some h

/-- A change that leaves the names as they are changes what is found of a name. -/
theorem find?_map_of_name {f : Binding → Binding} (hf : ∀ b, (f b).name = b.name) (name : String)
    (bs : List Binding) :
    (bs.map f).find? (·.name == name) = (bs.find? (·.name == name)).map f := by
  rw [List.find?_map]
  simp only [Function.comp_def, hf]

/-- What is found of a name after one more binding: the first binding stays, and a plain assignment
changes how it declares the name. -/
theorem Scope.get?_bind (s : Scope) (b : Binding) (name : String) :
    (s.bind b).get? name =
      match s.get? name with
      | some first =>
        some (if b.name = name ∧ b.kind = .mutable then first.opened else first)
      | none => if b.name = name then some b else none := by
  unfold bind
  -- A name that is bound stays where it is in the table; another one comes last.
  by_cases hbound : s.contains b.name = true
  · rw [if_pos hbound]
    have hfound : s.get? name = none → b.name ≠ name := by
      rintro hnone rfl
      simp [contains, hnone] at hbound
    by_cases hkind : b.kind = .mutable
    -- All rows are gone through, but only that of the same name changes.
    · rw [if_pos hkind, get?, find?_map_of_name fun old => by split <;> rfl]
      change (s.get? name).map _ = _
      cases h : s.get? name with
      | none => simp [hfound h]
      | some first =>
          obtain rfl := name_of_get? h
          by_cases hsame : first.name = b.name
          · simp [hkind, hsame, Binding.opened]
          · simp [hsame, Ne.symm hsame]
    · rw [if_neg hkind]
      cases h : s.get? name with
      | none => simp [hfound h]
      | some first => simp [hkind]
  · rw [if_neg hbound, get?, List.find?_append]
    change (s.get? name).or _ = _
    cases h : s.get? name with
    | none => by_cases hsame : b.name = name <;> simp [hsame]
    | some first =>
        have hother : b.name ≠ name := by
          rintro rfl
          simp [contains, h] at hbound
        simp [hother]

/-- The first of the bindings of a name, but as one that may be assigned again if one of them makes
it so. -/
def bindingIn (bs : List Binding) (name : String) : Option Binding :=
  (bs.find? (·.name == name)).map fun first =>
    if bs.any fun b => b.name == name && b.kind == .mutable then first.opened else first

/-- **What the table of these bindings says of a name.** -/
theorem get?_tableOf (bs : List Binding) (name : String) :
    (tableOf bs).get? name = bindingIn bs name := by
  -- A table grows at its end, so the induction takes the last binding off.
  induction bs using List.reverseRecOn with
  | nil => rfl
  | append_singleton bs b ih =>
      rw [tableOf_append_singleton, Scope.get?_bind, ih]
      unfold bindingIn
      rw [List.find?_append]
      cases h : bs.find? (·.name == name) with
      | none =>
          have hnone : (bs.any fun b => b.name == name && b.kind == .mutable) = false := by
            rw [List.any_eq_false]
            intro old hold
            have := List.find?_eq_none.mp h old hold
            simp_all
          by_cases hname : b.name = name
          · by_cases hkind : b.kind = .mutable <;> simp [hname, hkind, hnone]
            exact (Binding.opened_of_mutable hkind).symm
          · simp [hname]
      | some first =>
          by_cases hname : b.name = name <;> by_cases hkind : b.kind = .mutable <;>
            simp [hname, hkind, apply_ite Binding.opened]

theorem contains_tableOf {bs : List Binding} {name : String} :
    (tableOf bs).contains name = true ↔ ∃ b ∈ bs, b.name = name := by
  simp [Scope.contains_iff, allNames_tableOf]

theorem makesMutable_iff_any {bs : List Binding} {name : String} :
    MakesMutable bs name ↔ (bs.any fun b => b.name == name && b.kind == .mutable) = true := by
  simp [MakesMutable]

/-- What a table says of a name comes from its first binding, but that it may be assigned again may
come from any of them. -/
theorem get?_tableOf_eq_some {bs : List Binding} {name : String} {b : Binding}
    (h : (tableOf bs).get? name = some b) :
    (b.kind = .mutable ↔ MakesMutable bs name) ∧
      ∃ first, bs.find? (·.name == name) = some first ∧ b.name = first.name ∧
        b.node = first.node ∧ (b.kind ≠ .mutable → b.kind = first.kind) := by
  rw [get?_tableOf, bindingIn, Option.map_eq_some_iff] at h
  obtain ⟨first, hfirst, rfl⟩ := h
  by_cases hmutable : MakesMutable bs name
  · rw [if_pos (makesMutable_iff_any.mp hmutable)]
    exact ⟨iff_of_true rfl hmutable, first, hfirst, rfl, rfl, fun hkind => absurd rfl hkind⟩
  · rw [if_neg (mt makesMutable_iff_any.mpr hmutable)]
    refine ⟨iff_of_false (fun hkind => hmutable ?_) hmutable, first, hfirst, rfl, rfl, fun _ => rfl⟩
    exact ⟨first, List.mem_of_find?_eq_some hfirst, by simpa using List.find?_some hfirst, hkind⟩

/-- **What the table of a module says.**  There is a table exactly if no declaration in the scope is
sealed.  It has the names that have an occurrence in the scope; a name may be assigned again if some
occurrence makes it so, and else it is declared as at its first occurrence.  What is inside of
functions, classes, lambdas and comprehensions makes no difference. -/
theorem scopeOf_describes (m : Module) :
    (Gives (scopeOf m) ↔ ∀ s ∈ m.body, (Node.stmt s).Every Node.inScope (¬ ·.Sealed)) ∧
      (∀ scope, scopeOf m = .ok scope → ∀ name,
        (scope.contains name = true ↔ ∃ b, m.Binds b ∧ b.name = name) ∧
        ∀ b, scope.get? name = some b →
          (b.kind = .mutable ↔ ∃ o, m.Binds o ∧ o.name = name ∧ o.kind = .mutable) ∧
          ∃ first, m.occurrences.find? (·.name == name) = some first ∧ b.name = first.name ∧
            b.node = first.node ∧ (b.kind ≠ .mutable → b.kind = first.kind)) ∧
      ∀ m', m'.outline = m.outline →
        (scopeOf m').map Scope.outline = (scopeOf m).map Scope.outline := by
  refine ⟨gives_scopeOf m, fun scope hscope name => ?_, fun m' hm' => ?_⟩
  · have hnone := (gives_scopeOf m).mp ⟨scope, hscope⟩
    obtain rfl : tableOf m.occurrences = scope := by
      simpa [scopeOf_eq_tableOf hnone] using hscope
    refine ⟨?_, fun b hb => ?_⟩
    · simp only [contains_tableOf, Module.mem_occurrences]
    · have hsays := get?_tableOf_eq_some hb
      simpa only [MakesMutable, Module.mem_occurrences] using hsays
  · rw [← scopeOf_outline, ← scopeOf_outline, hm']

/-- The name of a final declaration is in the table because it is declared there. -/
theorem scopeOf_describes_feeder :
    let tree := feederModule (.name "Final" .load ⟨⟨2, 8⟩, ⟨2, 13⟩⟩)
    ∃ scope, scopeOf tree = .ok scope ∧ scope.contains "feeder" = true ∧
      (∃ b, tree.Binds b ∧ b.name = "feeder") ∧
      ∀ b, scope.get? "feeder" = some b →
        (b.kind = .mutable ↔ ∃ o, tree.Binds o ∧ o.name = "feeder" ∧ o.kind = .mutable) := by
  intro tree
  have hcontains : ((scopeOf tree).toOption.any (·.contains "feeder")) = true := by decide +kernel
  cases hscope : scopeOf tree with
  | error e => simp [hscope, Except.toOption] at hcontains
  | ok scope =>
      replace hcontains : scope.contains "feeder" = true := by
        simpa [hscope, Except.toOption] using hcontains
      obtain ⟨hbound, hkind⟩ := (scopeOf_describes tree).2.1 scope hscope "feeder"
      exact ⟨scope, rfl, hcontains, hbound.mp hcontains, fun b hb => (hkind b hb).1⟩

/-- A name is bound in the scope of a module that has no table, since its annotation is a text with
a surrogate. -/
theorem not_gives_scopeOf :
    let tree := feederModule (.constant (.surrogates [0xd800]) false ⟨⟨2, 8⟩, ⟨2, 16⟩⟩)
    (∃ b, tree.Binds b ∧ b.name = "feeder") ∧ ¬ Gives (scopeOf tree) := by
  intro tree
  have hnone : ¬ Gives (scopeOf tree) := by decide +kernel
  exact ⟨⟨_, ⟨_, .tail _ (.head _), _, .refl, .head _⟩, rfl⟩, hnone⟩

end Standin
