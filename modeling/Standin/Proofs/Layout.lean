/-
Nodes that are laid out in the text.

A node is laid out between two places if the names in it start there, and nothing in it is out of
order but what some node crosses (`Node.Laid`).  A node whose parts are laid out one after another
(`Chain`) is laid out itself, whatever it is: if its parts are visited in that order this is all
there is to say (`Laid.of_chain`), and for each kind of node that is visited in another order there
is a lemma of its own.  An expression that becomes a target stays where it is (`echoes_asStored?`).
-/
import Standin.Proofs.Crossing
import Standin.Source.Parser
import Mathlib.Data.List.Basic
import Mathlib.Data.List.Flatten

set_option autoImplicit false

namespace Standin.Source

/-! ## Stretches one after another -/

/-- That each of the values takes up a stretch between two places, one after another. -/
inductive Chain {α : Type} (R : Place → Place → α → Prop) : Place → Place → List α → Prop
  | nil {lo hi : Place} (h : lo ≤ hi) : Chain R lo hi []
  | cons {lo mid hi : Place} {a : α} {as : List α} (ha : R lo mid a) (has : Chain R mid hi as) :
    Chain R lo hi (a :: as)

namespace Chain

variable {α : Type} {R : Place → Place → α → Prop} {S : α → α → Prop} {lo hi : Place} {a : α}
  {as : List α}

theorem le (h : Chain R lo hi as) (hR : ∀ {lo hi a}, R lo hi a → lo ≤ hi) : lo ≤ hi := by
  induction h with
  | nil h => exact h
  | cons ha _ ih => exact (hR ha).trans ih

theorem mono_right {hi' : Place} (h : Chain R lo hi as) (hhi : hi ≤ hi') : Chain R lo hi' as := by
  induction h with
  | nil h => exact .nil (h.trans hhi)
  | cons ha _ ih => exact .cons ha (ih hhi)

/-- Each value has its stretch within that of all of them. -/
theorem of_mem (h : Chain R lo hi as) (hR : ∀ {lo hi a}, R lo hi a → lo ≤ hi)
    (hmono : ∀ {lo lo' hi hi' a}, R lo hi a → lo' ≤ lo → hi ≤ hi' → R lo' hi' a) (ha : a ∈ as) :
    R lo hi a := by
  induction h with
  | nil => cases ha
  | cons hb hbs ih =>
      obtain rfl | ha := List.mem_cons.mp ha
      · exact hmono hb (le_refl _) (hbs.le hR)
      · exact hmono (ih ha) (hR hb) (le_refl _)

theorem map {β : Type} {f : β → α} {bs : List β}
    (h : Chain (fun lo hi b => R lo hi (f b)) lo hi bs) : Chain R lo hi (bs.map f) := by
  induction h with
  | nil h => exact .nil h
  | cons hb _ ih => exact .cons hb ih

/-- What holds of two stretches side by side holds of any two of the values. -/
theorem pairwise (h : Chain R lo hi as) (hR : ∀ {lo hi a}, R lo hi a → lo ≤ hi)
    (hmono : ∀ {lo lo' hi hi' a}, R lo hi a → lo' ≤ lo → hi ≤ hi' → R lo' hi' a)
    (hS : ∀ {lo mid hi a b}, R lo mid a → R mid hi b → S a b) : as.Pairwise S := by
  induction h with
  | nil => exact .nil
  | cons ha has ih => exact .cons (fun b hb => hS ha (has.of_mem hR hmono hb)) ih

end Chain

namespace Node

/-- That the names in a node start between two places, and nothing in it is out of order but what
some node crosses. -/
structure Laid (lo hi : Place) (n : Node) : Prop where
  le : lo ≤ hi
  lies : ∀ k, n.Comes inScope k → k.holdsName = true → lo ≤ k.start ∧ k.start < hi
  orderly : n.Every inScope Orderly

/-- That nodes are laid out one after another. -/
abbrev LaidAll : Place → Place → List Node → Prop := Chain Laid

variable {lo lo' mid mid' hi hi' : Place} {n : Node} {ns ms : List Node}

theorem Laid.mono (h : n.Laid lo hi) (hlo : lo' ≤ lo) (hhi : hi ≤ hi') : n.Laid lo' hi' where
  le := hlo.trans (h.le.trans hhi)
  lies k hk hname := ⟨hlo.trans (h.lies k hk hname).1, (h.lies k hk hname).2.trans_le hhi⟩
  orderly := h.orderly

theorem Laid.mono_left (h : n.Laid lo hi) (hlo : lo' ≤ lo) : n.Laid lo' hi := h.mono hlo (le_refl _)

theorem laid_iff : n.Laid lo hi ↔ lo ≤ hi ∧ n.Orderly ∧
    (n.holdsName = true → lo ≤ n.start ∧ n.start < hi) ∧ ∀ p ∈ n.inScope, p.Laid lo hi := by
  constructor
  · intro h
    refine ⟨h.le, h.orderly.self, h.lies n .refl, fun p hp => ⟨h.le, fun k hk => ?_, ?_⟩⟩
    · exact h.lies k (comes_iff.mpr (.inr ⟨p, hp, hk⟩))
    · exact h.orderly.part hp
  · rintro ⟨hle, horderly, hown, hparts⟩
    refine ⟨hle, fun k hk => ?_, every_iff.mpr ⟨horderly, fun p hp => (hparts p hp).orderly⟩⟩
    obtain rfl | ⟨p, hp, hk⟩ := comes_iff.mp hk
    · exact hown
    · exact (hparts p hp).lies k hk

theorem Laid.before {m : Node} (h : n.Laid lo mid) (h' : m.Laid mid hi) : n.Before m :=
  fun k k' hk hk' hname hname' => (h.lies k hk hname).2.trans_le (h'.lies k' hk' hname').1

namespace LaidAll

theorem le (h : LaidAll lo hi ns) : lo ≤ hi := Chain.le h Laid.le

theorem mono_left (h : LaidAll lo hi ns) (hlo : lo' ≤ lo) : LaidAll lo' hi ns := by
  cases h with
  | nil h => exact .nil (hlo.trans h)
  | cons ha has => exact .cons (ha.mono_left hlo) has

theorem mono_right (h : LaidAll lo hi ns) (hhi : hi ≤ hi') : LaidAll lo hi' ns :=
  Chain.mono_right h hhi

theorem mono (h : LaidAll lo hi ns) (hlo : lo' ≤ lo) (hhi : hi ≤ hi') : LaidAll lo' hi' ns :=
  (h.mono_left hlo).mono_right hhi

theorem append (h : LaidAll lo mid ns) (h' : LaidAll mid hi ms) : LaidAll lo hi (ns ++ ms) := by
  induction h with
  | nil h => exact mono_left h' h
  | cons ha _ ih => exact .cons ha (ih h')

theorem single (h : n.Laid lo hi) : LaidAll lo hi [n] := .cons h (.nil (le_refl hi))

theorem pair {m : Node} (hn : n.Laid lo mid) (hle : mid ≤ mid') (hm : m.Laid mid' hi) :
    LaidAll lo hi [n, m] := .cons hn (single (hm.mono_left hle))

theorem laid_of_mem (h : LaidAll lo hi ns) (hn : n ∈ ns) : n.Laid lo hi :=
  Chain.of_mem h Laid.le Laid.mono hn

theorem pairwise (h : LaidAll lo hi ns) : ns.Pairwise Before :=
  Chain.pairwise h Laid.le Laid.mono Laid.before

/-- The nodes of values that take up a stretch each. -/
theorem flatMap {α : Type} {f : α → List Node} {as : List α}
    (h : Chain (fun lo hi a => LaidAll lo hi (f a)) lo hi as) :
    LaidAll lo hi (as.flatMap f) := by
  induction h with
  | nil h => exact .nil h
  | cons ha _ ih => exact append ha ih

end LaidAll

/-! ## Nodes whose parts are visited as they are written -/

theorem not_crosses (h : n.reorders = false) (k k' : Node) : ¬ n.Crosses k k' := fun hcross => by
  simp [hcross.reorders] at h

/-- A node with no name of its own, which crosses nothing, is laid out where its parts are. -/
theorem Laid.of_chain (horder : n.reorders = false) (hname : n.holdsName = false)
    (h : LaidAll lo hi n.inScope) : n.Laid lo hi := by
  refine laid_iff.mpr ⟨h.le, ⟨fun h => ?_, h.pairwise.imp .inl, fun k k' hkk => ?_⟩, fun h => ?_,
    fun p hp => h.laid_of_mem hp⟩
  · simp [hname] at h
  · exact absurd hkk (not_crosses horder k k')
  · simp [hname] at h

/-- A node with a name of its own starts before its parts. -/
theorem Laid.of_named (horder : n.reorders = false) (hlo : lo ≤ n.start) (hlt : n.start < hi)
    (h : LaidAll n.start hi n.inScope) : n.Laid lo hi := by
  refine laid_iff.mpr ⟨hlo.trans hlt.le, ⟨fun _ p hp k hk hname => ?_, h.pairwise.imp .inl,
    fun k k' hkk => absurd hkk (not_crosses horder k k')⟩, fun _ => ⟨hlo, hlt⟩, fun p hp => ?_⟩
  · exact ((h.laid_of_mem hp).lies k hk hname).1
  · exact (h.laid_of_mem hp).mono_left hlo

/-! ## Nodes whose parts are visited in another order -/

/-- A conditional expression is written with its body first. -/
theorem Laid.conditional {test body orElse : Expr} {span : Span}
    (hbody : (Node.expr body).Laid lo mid) (htest : (Node.expr test).Laid mid mid')
    (horElse : (Node.expr orElse).Laid mid' hi) :
    (Node.expr (.conditional test body orElse span)).Laid lo hi := by
  have hlo := hbody.le
  have hmid := htest.le
  have hhi := horElse.le
  refine laid_iff.mpr ⟨hlo.trans (hmid.trans hhi), ⟨nofun, ?_, ?_⟩, nofun, fun p hp => ?_⟩
  -- The test is visited first: the body is written before it, and what else there is after it.
  · refine .cons (fun p hp => ?_) (.cons (fun p hp => ?_) (List.pairwise_singleton _ _))
    · obtain rfl | hp := List.mem_cons.mp hp
      · exact .inr fun k k' hk hk' => .conditional hk hk'
      · obtain rfl := List.mem_singleton.mp hp
        exact .inl (htest.before horElse)
    · obtain rfl := List.mem_singleton.mp hp
      exact .inl (hbody.before (horElse.mono_left hmid))
  · rintro k k' (⟨hk, hk'⟩) hname hname'
    exact hbody.before htest k' k hk' hk hname' hname
  · simp only [inScope, children, ofExpr, List.mem_cons, List.not_mem_nil, or_false] at hp
    obtain rfl | rfl | rfl := hp
    · exact htest.mono hlo hhi
    · exact hbody.mono (le_refl _) (hmid.trans hhi)
    · exact horElse.mono_left (hlo.trans hmid)

theorem sublist_pair_of_mem {α : Type} {l : List α} {a b : α} (ha : a ∈ l) (hb : b ∈ l) :
    a = b ∨ [a, b].Sublist l ∨ [b, a].Sublist l := by
  induction l with
  | nil => cases ha
  | cons c l ih =>
      obtain rfl | ha := List.mem_cons.mp ha <;> obtain rfl | hb := List.mem_cons.mp hb
      · exact .inl rfl
      · exact .inr (.inl (.cons_cons _ (List.singleton_sublist.mpr hb)))
      · exact .inr (.inr (.cons_cons _ (List.singleton_sublist.mpr ‹_›)))
      · exact (ih ha hb).imp_right (.imp (.cons _) (.cons _))

section Entries

variable {ι : Type} {items : List ι} {heads tails : ι → List Node}

/-- Of entries that are written one after another, the end of one stands before the beginning of a
later one. -/
theorem before_of_sublist (h : LaidAll lo hi (items.flatMap fun i => heads i ++ tails i)) {i j : ι}
    (hij : [i, j].Sublist items) {p q : Node} (hp : p ∈ tails i) (hq : q ∈ heads j) : p.Before q :=
  List.pairwise_iff_forall_sublist.mp (List.pairwise_flatMap.mp h.pairwise).2 hij p
    (List.mem_append_right _ hp) q (List.mem_append_left _ hq)

/-- When all beginnings come first, they are out of order with the ends of the entries above. -/
theorem pairwise_heads_tails (h : LaidAll lo hi (items.flatMap fun i => heads i ++ tails i)) :
    (items.flatMap heads ++ items.flatMap tails).Pairwise fun p q =>
      p.Before q ∨ ∃ i j, [i, j].Sublist items ∧ p ∈ heads j ∧ q ∈ tails i := by
  obtain ⟨hwithin, hbetween⟩ := List.pairwise_flatMap.mp h.pairwise
  -- The beginnings by themselves, and the ends, are visited as they are written.
  have hheads : (items.flatMap heads).Pairwise Before :=
    h.pairwise.sublist (.flatMap_right _ fun _ _ => List.sublist_append_left _ _)
  have htails : (items.flatMap tails).Pairwise Before :=
    h.pairwise.sublist (.flatMap_right _ fun _ _ => List.sublist_append_right _ _)
  refine List.pairwise_append.mpr ⟨hheads.imp .inl, htails.imp .inl, fun p hp q hq => ?_⟩
  obtain ⟨j, hj, hp⟩ := List.mem_flatMap.mp hp
  obtain ⟨i, hi, hq⟩ := List.mem_flatMap.mp hq
  obtain rfl | hji | hij := sublist_pair_of_mem hj hi
  · exact .inl ((List.pairwise_append.mp (hwithin j hj)).2.2 p hp q hq)
  · exact .inl (List.pairwise_iff_forall_sublist.mp hbetween hji p (List.mem_append_left _ hp) q
      (List.mem_append_right _ hq))
  · exact .inr ⟨i, j, hij, hp, hq⟩

theorem mem_heads_tails {p : Node} :
    p ∈ items.flatMap heads ++ items.flatMap tails ↔
      p ∈ items.flatMap fun i => heads i ++ tails i := by
  simp only [List.mem_append, List.mem_flatMap]
  constructor
  · rintro (⟨i, hi, hp⟩ | ⟨i, hi, hp⟩)
    · exact ⟨i, hi, .inl hp⟩
    · exact ⟨i, hi, .inr hp⟩
  · rintro ⟨i, hi, hp | hp⟩
    · exact .inl ⟨i, hi, hp⟩
    · exact .inr ⟨i, hi, hp⟩

end Entries

/-- The nodes of an entry of a dictionary, as it is written. -/
def ofItem (i : DictItem) : List Node := ofExpr? i.key ++ [.expr i.value]

/-- A dictionary is written entry by entry. -/
theorem Laid.dict {items : List DictItem} {span : Span} (h : LaidAll lo hi (items.flatMap ofItem)) :
    (Node.expr (.dict items span)).Laid lo hi := by
  have hparts : (Node.expr (.dict items span)).inScope =
      items.flatMap (fun i => ofExpr? i.key) ++ items.flatMap fun i => [.expr i.value] := by
    change (items.filterMap (·.key)).map Node.expr ++ (items.map (·.value)).map Node.expr = _
    rw [List.filterMap_eq_flatMap_toList, List.map_flatMap, List.map_map, List.map_eq_flatMap]
    rfl
  refine laid_iff.mpr ⟨h.le, ⟨nofun, ?_, ?_⟩, nofun, fun p hp => ?_⟩
  · rw [hparts]
    refine (pairwise_heads_tails h).imp fun {p q} => Or.imp_right ?_
    rintro ⟨i, j, hij, hp, hq⟩ k k' hk hk'
    obtain ⟨key, hkey, rfl⟩ := List.mem_map.mp hp
    obtain rfl := List.mem_singleton.mp hq
    exact .dict hij (Option.mem_toList.mp hkey) hk hk'
  · rintro k k' (_ | ⟨hij, hkey, hk, hk'⟩) hname hname'
    refine before_of_sublist h hij (.head _) ?_ k' k hk' hk hname' hname
    rw [hkey]
    exact .head _
  · rw [hparts, mem_heads_tails] at hp
    exact h.laid_of_mem hp

/-- The nodes of an entry of a mapping pattern, as it is written. -/
def ofEntry (e : PatternEntry) : List Node := [.expr e.key] ++ [.pattern e.pattern]

/-- A mapping pattern is written entry by entry, after the brace at which it starts. -/
theorem Laid.mapping {entries : List PatternEntry} {rest : Option String} {span : Span}
    (hlo : lo ≤ span.start) (hlt : span.start < mid)
    (h : LaidAll mid hi (entries.flatMap ofEntry)) :
    (Node.pattern (.mapping entries rest span)).Laid lo hi := by
  have hparts : (Node.pattern (.mapping entries rest span)).inScope =
      entries.flatMap (fun e => [.expr e.key]) ++
        entries.flatMap fun e => [.pattern e.pattern] := by
    change (entries.map (·.key)).map Node.expr ++ entries.map (Node.pattern ·.pattern) = _
    rw [List.map_map, List.map_eq_flatMap, List.map_eq_flatMap]
    rfl
  have hall : ∀ p ∈ (Node.pattern (.mapping entries rest span)).inScope, p.Laid mid hi := by
    intro p hp
    rw [hparts, mem_heads_tails] at hp
    exact h.laid_of_mem hp
  refine laid_iff.mpr ⟨hlo.trans (hlt.le.trans h.le), ⟨fun _ p hp k hk hname => ?_, ?_, ?_⟩,
    fun _ => ⟨hlo, hlt.trans_le h.le⟩, fun p hp => (hall p hp).mono_left (hlo.trans hlt.le)⟩
  -- The name of the rest counts as standing at the brace, before all entries.
  · exact hlt.le.trans ((hall p hp).lies k hk hname).1
  · rw [hparts]
    refine (pairwise_heads_tails h).imp fun {p q} => Or.imp_right ?_
    rintro ⟨i, j, hij, hp, hq⟩ k k' hk hk'
    obtain rfl := List.mem_singleton.mp hp
    obtain rfl := List.mem_singleton.mp hq
    exact .mapping hij hk hk'
  · rintro k k' (_ | _ | _ | ⟨hij, hk, hk'⟩ | ⟨hp, hk⟩) hname hname'
    · exact before_of_sublist h hij (.head _) (.head _) k' k hk' hk hname' hname
    · exact hlt.trans_le ((hall _ hp).lies k hk hname).1

/-! ## Calls -/

/-- The node of an argument. -/
def ofArgument : Argument → Node
  | .positional e => .expr e
  | .keyword k => .keyword k

/-- That a node is laid out between two places, and starts there. -/
structure Placed (lo hi : Place) (n : Node) : Prop where
  laid : n.Laid lo hi
  le_start : lo ≤ n.start
  start_lt : n.start < hi

theorem Placed.mono (h : n.Placed lo hi) (hlo : lo' ≤ lo) (hhi : hi ≤ hi') : n.Placed lo' hi' :=
  ⟨h.laid.mono hlo hhi, hlo.trans h.le_start, h.start_lt.trans_le hhi⟩

theorem Placed.of_chain (horder : n.reorders = false) (hname : n.holdsName = false)
    (hlo : lo ≤ n.start) (hlt : n.start < hi) (h : LaidAll lo hi n.inScope) : n.Placed lo hi :=
  ⟨.of_chain horder hname h, hlo, hlt⟩

theorem Placed.of_mem {args : List Argument} {a : Argument}
    (h : Chain (fun lo hi a => (ofArgument a).Placed lo hi) lo hi args) (ha : a ∈ args) :
    (ofArgument a).Placed lo hi :=
  h.of_mem (fun h => h.laid.le) Placed.mono ha

theorem Placed.pairwise {args : List Argument}
    (h : Chain (fun lo hi a => (ofArgument a).Placed lo hi) lo hi args) :
    args.Pairwise fun a b =>
      (ofArgument a).Before (ofArgument b) ∧ (ofArgument a).start < (ofArgument b).start :=
  h.pairwise (fun h => h.laid.le) Placed.mono fun ha hb =>
    ⟨ha.laid.before hb.laid, ha.start_lt.trans_le hb.le_start⟩

theorem mem_positionalArguments {args : List Argument} {e : Expr} :
    e ∈ positionalArguments args ↔ .positional e ∈ args := by
  rw [positionalArguments, List.mem_filterMap]
  constructor
  · rintro ⟨_ | _, ha, ⟨⟩⟩
    exact ha
  · exact fun h => ⟨_, h, rfl⟩

theorem mem_keywordArguments {args : List Argument} {k : Keyword} :
    k ∈ keywordArguments args ↔ .keyword k ∈ args := by
  rw [keywordArguments, List.mem_filterMap]
  constructor
  · rintro ⟨_ | _, ha, ⟨⟩⟩
    exact ha
  · exact fun h => ⟨_, h, rfl⟩

/-- Of two arguments in one row, the one that starts first comes first. -/
theorem before_of_start_lt {args : List Argument}
    (hargs : Chain (fun lo hi a => (ofArgument a).Placed lo hi) mid hi args) {a b : Argument}
    (ha : a ∈ args) (hb : b ∈ args) (hlt : (ofArgument a).start < (ofArgument b).start) :
    (ofArgument a).Before (ofArgument b) := by
  have hpairs := Placed.pairwise hargs
  obtain rfl | hab | hba := sublist_pair_of_mem ha hb
  · exact absurd hlt (lt_irrefl _)
  · exact (List.pairwise_iff_forall_sublist.mp hpairs hab).1
  · exact absurd hlt (List.pairwise_iff_forall_sublist.mp hpairs hba).2.not_gt

/-- A call is written with its arguments in one row, of which the keywords are visited last. -/
theorem Laid.call {func : Expr} {args : List Argument} {span : Span}
    (hfunc : (Node.expr func).Laid lo mid) (hle : mid ≤ hi)
    (hargs : Chain (fun lo hi a => (ofArgument a).Placed lo hi) mid hi args) :
    (Node.expr (.call func (positionalArguments args) (keywordArguments args) span)).Laid
      lo hi := by
  have hall : ∀ a ∈ args, (ofArgument a).Placed mid hi := fun a ha => Placed.of_mem hargs ha
  have hpairs := Placed.pairwise hargs
  have hparts : ∀ p ∈ ofExprs (positionalArguments args) ++ (keywordArguments args).map .keyword,
      p.Laid mid hi := by
    intro p hp
    obtain hp | hp := List.mem_append.mp hp
    · obtain ⟨e, he, rfl⟩ := List.mem_map.mp hp
      exact (hall _ (mem_positionalArguments.mp he)).laid
    · obtain ⟨k, hk, rfl⟩ := List.mem_map.mp hp
      exact (hall _ (mem_keywordArguments.mp hk)).laid
  refine laid_iff.mpr ⟨hfunc.le.trans hle, ⟨nofun, ?_, ?_⟩, nofun, fun p hp => ?_⟩
  · refine .cons (fun p hp => .inl (hfunc.before (hparts p hp))) (List.pairwise_append.mpr ⟨?_, ?_,
      fun p hp q hq => ?_⟩)
    · refine List.pairwise_map.mpr (List.pairwise_filterMap.mpr (hpairs.imp ?_))
      rintro (_ | _) (_ | _) hab _ ⟨⟩ _ ⟨⟩
      exact .inl hab.1
    · refine List.pairwise_map.mpr (List.pairwise_filterMap.mpr (hpairs.imp ?_))
      rintro (_ | _) (_ | _) hab _ ⟨⟩ _ ⟨⟩
      exact .inl hab.1
    · -- A keyword that is written before a positional argument is visited after it.
      obtain ⟨e, he, rfl⟩ := List.mem_map.mp hp
      obtain ⟨k, hk, rfl⟩ := List.mem_map.mp hq
      have he' := mem_positionalArguments.mp he
      have hk' := mem_keywordArguments.mp hk
      obtain ⟨⟨⟩⟩ | hek | hke := sublist_pair_of_mem he' hk'
      · exact .inl (List.pairwise_iff_forall_sublist.mp hpairs hek).1
      · have hlt := (List.pairwise_iff_forall_sublist.mp hpairs hke).2
        exact .inr fun _ _ hin hin' => .call he hk hlt hin hin'
  · rintro k k' (_ | _ | ⟨harg, hkeyword, hstart, hk, hk'⟩) hname hname'
    exact before_of_start_lt hargs (mem_keywordArguments.mp hkeyword)
      (mem_positionalArguments.mp harg) hstart k' k hk' hk hname' hname
  · obtain rfl | hp := List.mem_cons.mp hp
    · exact hfunc.mono (le_refl _) hle
    · exact (hparts p hp).mono_left hfunc.le

/-! ## Targets -/

/-- That the names in one node start where names in another one do, and that it is in order if the
other one is. -/
structure Echoes (n m : Node) : Prop where
  names : ∀ k, m.Comes inScope k → k.holdsName = true →
    ∃ k₀, n.Comes inScope k₀ ∧ k₀.holdsName = true ∧ k₀.start = k.start
  orderly : n.Every inScope Orderly → m.Every inScope Orderly

theorem Echoes.refl (n : Node) : n.Echoes n := ⟨fun k hk hname => ⟨k, hk, hname, rfl⟩, id⟩

theorem Echoes.laid {m : Node} (h : n.Echoes m) (hn : n.Laid lo hi) : m.Laid lo hi := by
  refine ⟨hn.le, fun k hk hname => ?_, h.orderly hn.orderly⟩
  obtain ⟨k₀, hk₀, hname₀, hstart⟩ := h.names k hk hname
  rw [← hstart]
  exact hn.lies k₀ hk₀ hname₀

theorem Echoes.before {n n' m m' : Node} (h : n.Echoes n') (h' : m.Echoes m') (hnm : n.Before m) :
    n'.Before m' := by
  intro k k' hk hk' hname hname'
  obtain ⟨k₀, hk₀, hname₀, hstart⟩ := h.names k hk hname
  obtain ⟨k₁, hk₁, hname₁, hstart'⟩ := h'.names k' hk' hname'
  rw [← hstart, ← hstart']
  exact hnm k₀ k₁ hk₀ hk₁ hname₀ hname₁

theorem exists_of_mem_forall₂ {α β : Type} {R : α → β → Prop} {l : List α} {l' : List β}
    (h : List.Forall₂ R l l') {b : β} (hb : b ∈ l') : ∃ a ∈ l, R a b := by
  induction h with
  | nil => cases hb
  | cons hab _ ih =>
      obtain rfl | hb := List.mem_cons.mp hb
      · exact ⟨_, .head _, hab⟩
      · obtain ⟨a, ha, hR⟩ := ih hb
        exact ⟨a, .tail _ ha, hR⟩

theorem Echoes.pairwise (h : List.Forall₂ Echoes ns ms) (hns : ns.Pairwise Before) :
    ms.Pairwise Before := by
  induction h with
  | nil => exact .nil
  | cons hnm hrest ih =>
      obtain ⟨hfirst, hothers⟩ := List.pairwise_cons.mp hns
      refine .cons (fun m' hm' => ?_) (ih hothers)
      obtain ⟨n', hn', hecho⟩ := exists_of_mem_forall₂ hrest hm'
      exact hnm.before hecho (hfirst n' hn')

/-- A node echoes another one, neither of which crosses anything, if its parts echo the parts of the
other one. -/
theorem Echoes.of_parts {m : Node} (hn : n.reorders = false) (hm : m.reorders = false)
    (hname : m.holdsName = false) (hparts : List.Forall₂ Echoes n.inScope m.inScope) :
    n.Echoes m := by
  refine ⟨fun k hk hk' => ?_, fun h => every_iff.mpr ⟨⟨fun h => ?_, ?_, fun k k' hkk => ?_⟩,
    fun q hq => ?_⟩⟩
  · obtain rfl | ⟨q, hq, hk⟩ := comes_iff.mp hk
    · simp [hname] at hk'
    · obtain ⟨p, hp, hpq⟩ := exists_of_mem_forall₂ hparts hq
      obtain ⟨k₀, hk₀, hfound⟩ := hpq.names k hk hk'
      exact ⟨k₀, comes_iff.mpr (.inr ⟨p, hp, hk₀⟩), hfound⟩
  · simp [hname] at h
  -- Neither node crosses anything, so parts in order are the only way for them to be orderly.
  · refine (Echoes.pairwise hparts (h.self.parts.imp fun hpq => ?_)).imp .inl
    exact hpq.resolve_right fun hcross => not_crosses hn _ _ (hcross _ _ .refl .refl)
  · exact absurd hkk (not_crosses hm k k')
  · obtain ⟨p, hp, hpq⟩ := exists_of_mem_forall₂ hparts hq
    exact hpq.orderly (h.part hp)

theorem echoes_name (id : String) (usage usage' : Usage) (span : Span) :
    (Node.expr (.name id usage span)).Echoes (.expr (.name id usage' span)) := by
  refine ⟨fun k hk hname => ?_,
    fun _ => every_iff.mpr ⟨⟨fun _ p hp => ?_, .nil, fun k k' hkk => ?_⟩, nofun⟩⟩
  · obtain rfl | ⟨q, hq, -⟩ := comes_iff.mp hk
    · exact ⟨_, .refl, rfl, rfl⟩
    · cases hq
  · cases hp
  · exact absurd hkk (not_crosses rfl k k')

theorem echoes_attribute (e : Expr) (attr : String) (usage usage' : Usage) (span : Span) :
    (Node.expr (.attribute e attr usage span)).Echoes (.expr (.attribute e attr usage' span)) :=
  .of_parts rfl rfl rfl (.cons (.refl _) .nil)

theorem echoes_subscript (e index : Expr) (usage usage' : Usage) (span : Span) :
    (Node.expr (.subscript e index usage span)).Echoes
      (.expr (.subscript e index usage' span)) :=
  .of_parts rfl rfl rfl (.cons (.refl _) (.cons (.refl _) .nil))

mutual

/-- A target stands where the expression stood that it was read as. -/
theorem echoes_asStored? {e t : Expr} (h : e.asStored? = some t) :
    (Node.expr e).Echoes (.expr t) := by
  cases e
  case name =>
    cases h
    exact echoes_name _ _ _ _
  case subscript =>
    cases h
    exact echoes_subscript _ _ _ _ _
  case starred e usage span =>
    rw [Expr.asStored?.eq_def] at h
    dsimp only at h
    split at h
    · cases h
    · obtain ⟨t, ht, rfl⟩ := Option.map_eq_some_iff.mp h
      exact .of_parts rfl rfl rfl (.cons (echoes_asStored? ht) .nil)
  case list es usage span =>
    rw [Expr.asStored?] at h
    obtain ⟨ts, hts, rfl⟩ := Option.map_eq_some_iff.mp h
    exact .of_parts rfl rfl rfl (forall₂_asAllStored? hts)
  case tuple es usage span =>
    rw [Expr.asStored?] at h
    obtain ⟨ts, hts, rfl⟩ := Option.map_eq_some_iff.mp h
    exact .of_parts rfl rfl rfl (forall₂_asAllStored? hts)
  all_goals cases h
  exact echoes_attribute _ _ _ _ _
termination_by sizeOf e

theorem forall₂_asAllStored? {es ts : List Expr} (h : asAllStored? es = some ts) :
    List.Forall₂ Echoes (es.map .expr) (ts.map .expr) := by
  cases es with
  | nil =>
      cases h
      exact .nil
  | cons e es =>
      rw [asAllStored?] at h
      split at h
      · next he hes =>
        cases h
        exact .cons (echoes_asStored? he) (forall₂_asAllStored? hes)
      · cases h
termination_by sizeOf es

end

mutual

theorem echoes_asDeleted? {e t : Expr} (h : e.asDeleted? = some t) :
    (Node.expr e).Echoes (.expr t) := by
  cases e
  case name =>
    cases h
    exact echoes_name _ _ _ _
  case subscript =>
    cases h
    exact echoes_subscript _ _ _ _ _
  case list es usage span =>
    rw [Expr.asDeleted?] at h
    obtain ⟨ts, hts, rfl⟩ := Option.map_eq_some_iff.mp h
    exact .of_parts rfl rfl rfl (forall₂_asAllDeleted? hts)
  case tuple es usage span =>
    rw [Expr.asDeleted?] at h
    obtain ⟨ts, hts, rfl⟩ := Option.map_eq_some_iff.mp h
    exact .of_parts rfl rfl rfl (forall₂_asAllDeleted? hts)
  all_goals cases h
  exact echoes_attribute _ _ _ _ _
termination_by sizeOf e

theorem forall₂_asAllDeleted? {es ts : List Expr} (h : asAllDeleted? es = some ts) :
    List.Forall₂ Echoes (es.map .expr) (ts.map .expr) := by
  cases es with
  | nil =>
      cases h
      exact .nil
  | cons e es =>
      rw [asAllDeleted?] at h
      split at h
      · next he hes =>
        cases h
        exact .cons (echoes_asDeleted? he) (forall₂_asAllDeleted? hes)
      · cases h
termination_by sizeOf es

end

theorem echoes_asSingle? {e t : Expr} (h : e.asSingle? = some t) :
    (Node.expr e).Echoes (.expr t) := by
  cases e
  case name =>
    cases h
    exact echoes_name _ _ _ _
  case subscript =>
    cases h
    exact echoes_subscript _ _ _ _ _
  all_goals cases h
  exact echoes_attribute _ _ _ _ _

end Node

end Standin.Source
