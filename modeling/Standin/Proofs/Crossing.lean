/-
Where the visit of a tree leaves the order of the text.

The parts of a node are visited as the node lists them, and mostly that is the order in which they
are written.  It is not for four kinds of nodes (`Node.Crosses`): the test of a conditional
expression is visited before its body, the keys of a dictionary and of a mapping pattern before
their values, the positional arguments of a call before its keywords; and the name for the rest of a
mapping comes last, though the pattern that binds it is where the whole mapping starts.  If this is
all that is out of order at each node (`Node.Orderly`), then of two names that are bound one after
the other the second one starts before the first exactly if such a node crosses them
(`Module.pairwise_occurrences`).
-/
import Standin.Proofs.Occurrences
import Standin.Proofs.TextOrder

set_option autoImplicit false

namespace Standin

open Source

namespace Source

namespace Node

/-- Where a node starts.  Parts that only group others have no place, and bind nothing. -/
def start (n : Node) : Place := (n.span?.getD default).start

/-- Whether a node has a name of its own which it binds, or would bind as a target. -/
def holdsName : Node → Bool
  | .stmt (.function _ _ _ _ _ _ _) | .stmt (.classDef _ _ _ _ _ _) | .stmt (.importModules _ _)
  | .stmt (.importFrom _ _ _ _) | .stmt (.annAssign _ _ _ _ _) => true
  | .expr (.name _ _ _) => true
  | .pattern (.capture _ _ _) | .pattern (.star _ _) | .pattern (.mapping _ _ _) => true
  | _ => false

theorem node_eq_of_mem_own {n : Node} {b : Binding} (h : b ∈ n.own) :
    b.node = n ∧ n.holdsName = true := by
  unfold own at h
  split at h
  case h_3 | h_4 =>
    obtain ⟨a, -, rfl⟩ := List.mem_map.mp h
    exact ⟨rfl, rfl⟩
  case h_10 => cases h
  all_goals
    obtain rfl := List.mem_singleton.mp h
    exact ⟨rfl, rfl⟩

/-- That one node in the parts of `n` is visited before another one that is written before it. -/
inductive Crosses : Node → Node → Node → Prop
  /-- The test of a conditional expression comes before its body. -/
  | conditional {test body orElse : Expr} {span : Span} {k k' : Node}
    (hk : (Node.expr test).Comes inScope k) (hk' : (Node.expr body).Comes inScope k') :
    Crosses (.expr (.conditional test body orElse span)) k k'
  /-- The key of an entry comes before the values of the entries above it. -/
  | dict {items : List DictItem} {span : Span} {i j : DictItem} {key : Expr} {k k' : Node}
    (hitems : [i, j].Sublist items) (hkey : j.key = some key)
    (hk : (Node.expr key).Comes inScope k) (hk' : (Node.expr i.value).Comes inScope k') :
    Crosses (.expr (.dict items span)) k k'
  /-- A positional argument, which may be starred, comes before keywords on its left. -/
  | call {func : Expr} {args : List Expr} {keywords : List Keyword} {span : Span} {arg : Expr}
    {keyword : Keyword} {k k' : Node} (harg : arg ∈ args) (hkeyword : keyword ∈ keywords)
    (hstart : keyword.span.start < arg.span.start) (hk : (Node.expr arg).Comes inScope k)
    (hk' : (Node.keyword keyword).Comes inScope k') :
    Crosses (.expr (.call func args keywords span)) k k'
  /-- The key of an entry comes before the patterns of the entries above it. -/
  | mapping {entries : List PatternEntry} {rest : Option String} {span : Span}
    {i j : PatternEntry} {k k' : Node} (hentries : [i, j].Sublist entries)
    (hk : (Node.expr j.key).Comes inScope k) (hk' : (Node.pattern i.pattern).Comes inScope k') :
    Crosses (.pattern (.mapping entries rest span)) k k'
  /-- What is in a mapping comes before the mapping itself, which has the name of the rest. -/
  | rest {entries : List PatternEntry} {name : String} {span : Span} {p k : Node}
    (hp : p ∈ (Node.pattern (.mapping entries (some name) span)).inScope)
    (hk : p.Comes inScope k) :
    Crosses (.pattern (.mapping entries (some name) span)) k
      (.pattern (.mapping entries (some name) span))

/-- Whether the parts of a node are visited in another order than they are written in. -/
def reorders : Node → Bool
  | .expr (.conditional _ _ _ _) | .expr (.dict _ _) | .expr (.call _ _ _ _)
  | .pattern (.mapping _ _ _) => true
  | _ => false

theorem Crosses.reorders {n k k' : Node} (h : n.Crosses k k') : n.reorders = true := by
  cases h <;> rfl

/-- That the names in one node all start before those in another one. -/
def Before (n m : Node) : Prop :=
  ∀ k k', n.Comes inScope k → m.Comes inScope k' → k.holdsName = true → k'.holdsName = true →
    k.start < k'.start

/-- That nothing at a node is out of order but what it crosses. -/
structure Orderly (n : Node) : Prop where
  own : n.holdsName = true → ∀ p ∈ n.inScope, ∀ k, p.Comes inScope k → k.holdsName = true →
    n.start ≤ k.start
  parts : n.inScope.Pairwise fun p q =>
    p.Before q ∨ ∀ k k', p.Comes inScope k → q.Comes inScope k' → n.Crosses k k'
  crossed : ∀ k k', n.Crosses k k' → k.holdsName = true → k'.holdsName = true → k'.start < k.start

/-! ## The order of the visit -/

theorem holdsName_of_mem_occurrences {n : Node} {b : Binding} (h : b ∈ n.occurrences) :
    n.Comes inScope b.node ∧ b.node.holdsName = true := by
  obtain ⟨m, hm, hb⟩ := mem_occurrences.mp h
  obtain ⟨rfl, hname⟩ := node_eq_of_mem_own hb
  exact ⟨hm, hname⟩

/-- The names in a node, in the order of the visit: they start one after another, but for those that
a node on the way crosses. -/
theorem pairwise_occurrences {n : Node} (h : n.Every inScope Orderly) :
    n.occurrences.Pairwise fun b b' =>
      b.node.start ≤ b'.node.start ∨ ∃ m, n.Comes inScope m ∧ m.Crosses b.node b'.node := by
  induction n using Node.induction with
  | _ n ih =>
    have hown : n.own.Pairwise fun b b' =>
        b.node.start ≤ b'.node.start ∨ ∃ m, n.Comes inScope m ∧ m.Crosses b.node b'.node :=
      List.pairwise_of_forall_mem_list fun b hb b' hb' => .inl <| by
        rw [(node_eq_of_mem_own hb).1, (node_eq_of_mem_own hb').1]
    have hinner : (n.inScope.flatMap occurrences).Pairwise fun b b' =>
        b.node.start ≤ b'.node.start ∨ ∃ m, n.Comes inScope m ∧ m.Crosses b.node b'.node := by
      refine List.pairwise_flatMap.mpr ⟨fun p hp => ?_, ?_⟩
      · refine (ih p (mem_children_of_mem_inScope hp) (h.part hp)).imp ?_
        exact Or.imp_right fun ⟨m, hm, hcross⟩ => ⟨m, comes_iff.mpr (.inr ⟨p, hp, hm⟩), hcross⟩
      · refine h.self.parts.imp fun {p q} hpq b hb b' hb' => ?_
        obtain ⟨hk, hname⟩ := holdsName_of_mem_occurrences hb
        obtain ⟨hk', hname'⟩ := holdsName_of_mem_occurrences hb'
        obtain hbefore | hcross := hpq
        · exact .inl (hbefore _ _ hk hk' hname hname').le
        · exact .inr ⟨n, .refl, hcross _ _ hk hk'⟩
    rw [occurrences_eq]
    split
    · next hlast =>
      refine List.pairwise_append.mpr ⟨hinner, hown, fun b hb b' hb' => .inr ⟨n, .refl, ?_⟩⟩
      obtain ⟨p, hp, hb⟩ := List.mem_flatMap.mp hb
      obtain ⟨hk, -⟩ := holdsName_of_mem_occurrences hb
      rw [(node_eq_of_mem_own hb').1]
      -- Only the name of the rest is bound last.
      unfold bindsLast at hlast
      split at hlast
      · next entries rest span =>
        cases rest with
        | none => cases hb'
        | some name => exact .rest hp hk
      · cases hlast
    · refine List.pairwise_append.mpr ⟨hown, hinner, fun b hb b' hb' => .inl ?_⟩
      obtain ⟨hnode, hname⟩ := node_eq_of_mem_own hb
      obtain ⟨p, hp, hb'⟩ := List.mem_flatMap.mp hb'
      obtain ⟨hk', hname'⟩ := holdsName_of_mem_occurrences hb'
      rw [hnode]
      exact h.self.own hname p hp _ hk' hname'

end Node

namespace Module

variable {m : Module}

/-- That a node in the scope of the module crosses the two nodes. -/
def Crosses (m : Module) (k k' : Node) : Prop :=
  ∃ s ∈ m.body, ∃ n, (Node.stmt s).Comes Node.inScope n ∧ n.Crosses k k'

/-- That the statements of a module stand one after another, and nothing in them is out of order but
what some node crosses. -/
structure Orderly (m : Module) : Prop where
  statements : (m.body.map Node.stmt).Pairwise Node.Before
  nodes : ∀ s ∈ m.body, (Node.stmt s).Every Node.inScope Node.Orderly

theorem Orderly.crossed (h : m.Orderly) {k k' : Node} (hcross : m.Crosses k k')
    (hk : k.holdsName = true) (hk' : k'.holdsName = true) : k'.start < k.start := by
  obtain ⟨s, hs, n, hn, hcross⟩ := hcross
  exact (h.nodes s hs n hn).crossed k k' hcross hk hk'

theorem holdsName_of_mem_occurrences {b : Binding} (h : b ∈ m.occurrences) :
    b.node.holdsName = true := by
  obtain ⟨s, -, hb⟩ := List.mem_flatMap.mp h
  exact (Node.holdsName_of_mem_occurrences hb).2

/-- **The names of a module in the order of the visit**: of two of them, the one that is visited
first starts first, or at the same place, unless some node crosses the two. -/
theorem pairwise_occurrences (h : m.Orderly) :
    m.occurrences.Pairwise fun b b' =>
      b.node.start ≤ b'.node.start ↔ ¬ m.Crosses b.node b'.node := by
  have hone : m.occurrences.Pairwise fun b b' =>
      b.node.start ≤ b'.node.start ∨ m.Crosses b.node b'.node := by
    refine List.pairwise_flatMap.mpr ⟨fun s hs => ?_, ?_⟩
    · refine (Node.pairwise_occurrences (h.nodes s hs)).imp ?_
      exact Or.imp_right fun ⟨n, hn, hcross⟩ => ⟨s, hs, n, hn, hcross⟩
    · refine (List.pairwise_map.mp h.statements).imp fun {s s'} hss b hb b' hb' => .inl ?_
      obtain ⟨hk, hname⟩ := Node.holdsName_of_mem_occurrences hb
      obtain ⟨hk', hname'⟩ := Node.holdsName_of_mem_occurrences hb'
      exact (hss _ _ hk hk' hname hname').le
  refine hone.imp_of_mem fun {b b'} hb hb' hbb => ⟨fun hle hcross => ?_, hbb.resolve_right⟩
  have hlt := h.crossed hcross (holdsName_of_mem_occurrences hb) (holdsName_of_mem_occurrences hb')
  exact absurd hle hlt.not_ge

end Module

end Source

end Standin
