/-
Expressions and annotations keep memories in tandem.

What runs of a statement is told by `Node.running`: the body of a function is left out, and
so are annotations.  An expression is spared from the marker (`Pairing.Spares`) if nothing
that runs in it asks a module for the marker, and if, at the place where memories may differ,
it uses neither the marker nor a name that the registry's statement needs.  Such an
expression gives objects that are alike (`follows_evaluate`), by induction along `evaluate`.

Annotations are checked and not evaluated: they change nothing (`quiet_checkHint`), and away
from that place they come out the same (`follows_checkHint`).  `follows_hint` puts together
the two ways in which a statement may treat its annotation.
-/
import Standin.Proofs.Follows
import Standin.Proofs.Walk

set_option autoImplicit false

namespace Standin

open Source

/-! ## The parts that run -/

namespace Source

/-- The names that a name of an import goes through, and those that it is given. -/
def Alias.names (a : Alias) : List String := a.name :: nameParts a.name ++ a.asName.toList

namespace Node

/-- The parts of a node that are run when the node is. -/
def running : Node → List Node
  | .stmt (.function _ _ ps _ _ _ _) => [.parameters ps]
  | .stmt (.annAssign t _ v _ _) => .expr t :: ofExpr? v
  | .parameters ps => ofExprs ps.defaults
  | n => n.children

theorem running_subset_children (n : Node) : n.running ⊆ n.children := by
  unfold running
  split
  · simp [children, ofStmt]
  · simp [children, ofStmt]
  · exact List.subset_append_right _ _
  · exact List.Subset.refl _

theorem sizeOf_lt_of_mem_running (n : Node) : ∀ m ∈ n.running, sizeOf m < sizeOf n :=
  fun _ hm => sizeOf_lt_of_mem_children (running_subset_children n hm)

instance (P : Node → Prop) [DecidablePred P] (n : Node) : Decidable (n.Every running P) :=
  decidable_of_iff _ (every_iff_reached sizeOf_lt_of_mem_running).symm

/-- The names under which a node asks modules for what they offer. -/
def asked : Node → List String
  | .expr (.attribute _ attr _ _) => [attr]
  | .importAlias a => a.name :: nameParts a.name
  | _ => []

/-- The names of a module's own that a node reads or binds. -/
def used : Node → List String
  | .expr (.name id _ _) => [id]
  | .stmt (.function _ name _ _ _ _ _) | .stmt (.classDef name _ _ _ _ _) => [name]
  | .importAlias a => a.names
  | _ => []

end Node

end Source

/-- That nothing in a node asks a module for the marker, or uses it or what its statement needs at
the place where memories may differ. -/
def Pairing.Spares (c : Pairing) (s : SpaceId) (n : Node) : Prop :=
  n.Every Node.running fun m =>
    markerName ∉ m.asked ∧ (s = c.home → ∀ name ∈ m.used, name ∉ markerName :: givenNames)

/-- A frame with another answer to whether annotations are evaluated. -/
def Frame.hinted (f : Frame) (lazy : Bool) : Frame := ⟨f.space, lazy, f.kind⟩

/-! ## Names -/

section Names

variable {c : Pairing} {strict : Bool} {count : Nat} {f : Frame} {lazy : Bool} {l l' : Locals}
  {o o' : Object}

theorem Tandem.answers_lookup {m n : Memory} (h : Tandem c m n)
    (hl : c.PairsLocals f.kind m.registries l l') {name : String}
    (hname : f.space = c.home → name ≠ markerName) :
    Answers (c.Pairs m.registries) (f.lookup l name m) ((f.hinted lazy).lookup l' name n) := by
  unfold Frame.lookup
  by_cases hkey : name = hintsKey
  · rw [if_pos hkey, if_pos hkey]
    exact .error _
  rw [if_neg hkey, if_neg hkey, hl.get?_eq]
  cases hlocal : l.get? name with
  | some o => exact .ok ⟨rfl, hl.known name o hlocal⟩
  | none =>
      -- Not in the body: the answer comes from the space, and then from what every module is given.
      have howns : (f.hinted lazy).owns name = f.owns name := rfl
      simp only [Option.map_none, howns]
      split
      · exact .error _
      · have hown := h.own_eq f.space name (fun hs => hname hs.1 hs.2)
        simp only [Frame.hinted, hown]
        cases hcell : m.world.own f.space name with
        | some o => exact .ok ⟨rfl, h.known_own _ _ _ hcell⟩
        | none =>
            simp only [Option.map_none]
            split
            · exact .ok (Pairing.pairs_self (by simp))
            · exact .ok (Pairing.pairs_self (by simp))
            · exact .error _

theorem follows_find (hl : c.PairsLocals f.kind count l l') {name : String}
    (hname : f.space = c.home → name ≠ markerName) (line : Nat) :
    Follows c strict count c.Pairs (f.find l name line)
      ((f.hinted lazy).find l' name line) := by
  refine follows_bind follows_get ?_
  rintro count' hle m n ⟨htandem, rfl⟩
  exact follows_lift line (fun _ hle _ _ h => h.mono hle)
    (htandem.answers_lookup (hl.mono hle) hname)

theorem follows_expectGiven (hl : c.PairsLocals f.kind count l l') {name : String}
    (hname : name ≠ markerName) (line : Nat) :
    Follows c strict count (fun _ _ _ => True) (f.expectGiven l name line)
      ((f.hinted lazy).expectGiven l' name line) := by
  refine follows_bind (follows_find hl (fun _ => hname) line) ?_
  rintro count' hle o _ ⟨rfl, -⟩
  -- What a library offers is like itself and like nothing else, so both runs take the same branch.
  have hgiven : c.object o = .offered Library.everywhere (some name) ↔
      o = .offered Library.everywhere (some name) := by
    cases o <;> simp [Pairing.object]
  simp only [hgiven]
  split
  · exact follows_pure fun _ _ => trivial
  · refine follows_bind follows_get ?_
    rintro _ - m n ⟨htandem, -⟩
    rw [htandem.isCallable_eq, htandem.typeName_eq]
    split <;> exact follows_fail _ _

theorem follows_store (hl : c.PairsLocals f.kind count l l') (ho : c.Pairs count o o')
    {name : String} (hname : f.space = c.home → name ∉ markerName :: givenNames) :
    Follows c strict count (c.PairsLocals f.kind) (f.store l name o)
      ((f.hinted lazy).store l' name o') := by
  have hput : Follows c strict count (c.PairsLocals f.kind)
      (modify (·.put f.space name o) >>= fun _ => pure l)
      (modify (·.put f.space name o') >>= fun _ => pure l') := by
    refine follows_bind (follows_modify fun m n htandem hle => ?_) fun _ hle _ _ _ =>
      follows_pure fun _ hle' => (hl.mono hle).mono hle'
    exact ⟨htandem.put (ho.mono hle) hname, Nat.le_refl _⟩
  -- A class keeps its names in its body, a function some of them; all others go into the space.
  unfold Frame.store Frame.hinted
  by_cases hkey : name = hintsKey
  · rw [if_pos hkey, if_pos hkey]
    exact follows_fail _ _
  rw [if_neg hkey, if_neg hkey]
  cases hkind : f.kind with
  | module => simpa only [hkind] using hput
  | cls =>
      rw [hkind] at hl
      exact follows_pure fun _ hle => (hl.mono hle).put (by simp) (ho.mono hle) name
  | function own =>
      dsimp only
      split
      · rw [hkind] at hl
        exact follows_pure fun _ hle => (hl.mono hle).put (by simp) (ho.mono hle) name
      · simpa only [hkind] using hput

theorem follows_storeAll (ho : c.Pairs count o o') (line : Nat) {targets : List Expr}
    (hl : c.PairsLocals f.kind count l l') (h : ∀ e ∈ targets, c.Spares f.space (.expr e)) :
    Follows c strict count (c.PairsLocals f.kind) (f.storeAll o line l targets)
      ((f.hinted lazy).storeAll o' line l' targets) := by
  induction targets generalizing l l' count with
  | nil => exact follows_pure fun _ hle => hl.mono hle
  | cons e rest ih =>
      obtain ⟨he, hrest⟩ := List.forall_mem_cons.mp h
      cases e with
      | name id usage span =>
          have hid : f.space = c.home → id ∉ markerName :: givenNames := by
            simpa [Node.used] using he.self.2
          exact follows_bind (follows_store hl ho hid) fun _ hle _ _ hl' =>
            ih (ho.mono hle) hl' hrest
      | _ => exact follows_fail _ _

end Names

/-! ## Expressions -/

section Expressions

variable {c : Pairing} {strict : Bool} {f : Frame} {lazy : Bool}

/-- That lists of objects are like each other. -/
def Pairing.PairsAll (c : Pairing) (count : Nat) (os os' : List Object) : Prop :=
  os' = os.map c.object ∧ ∀ o ∈ os, o.Known count

/-- That the entries of dictionaries are like each other. -/
def Pairing.PairsEntries (c : Pairing) (count : Nat) (es es' : List (Object × Object)) : Prop :=
  es' = es.map (Prod.map c.object c.object) ∧ ∀ e ∈ es, e.1.Known count ∧ e.2.Known count

theorem Pairing.PairsEntries.mono {count count' : Nat} {es es' : List (Object × Object)}
    (h : c.PairsEntries count es es') (hle : count ≤ count') : c.PairsEntries count' es es' :=
  ⟨h.1, fun e he => ⟨(h.2 e he).1.mono hle, (h.2 e he).2.mono hle⟩⟩

theorem Pairing.PairsEntries.put {count : Nat} {m n : Memory} (htandem : Tandem c m n)
    {es es' : List (Object × Object)} (hes : c.PairsEntries count es es') {k k' v v' : Object}
    (hk : c.Pairs count k k') (hv : c.Pairs count v v') :
    c.PairsEntries count (m.putEntry k v es) (n.putEntry k' v' es') := by
  obtain ⟨rfl, hes⟩ := hes
  refine ⟨by rw [hk.eq, hv.eq, htandem.putEntry_eq], ?_⟩
  -- The entry that gets the new value stands at the same index in both dictionaries.
  induction es with
  | nil => simpa [Memory.putEntry] using ⟨hk.known, hv.known⟩
  | cons e es ih =>
      obtain ⟨he, hes⟩ := List.forall_mem_cons.mp hes
      simp only [Memory.putEntry]
      split
      · exact List.forall_mem_cons.mpr ⟨⟨he.1, hv.known⟩, hes⟩
      · exact List.forall_mem_cons.mpr ⟨he, ih hes⟩

theorem follows_make {count : Nat} (nature : Nature) {x x' : Content}
    (hx : x' = x.map c.object) (hknown : ∀ o ∈ x.objects, o.Known count) :
    Follows c strict count c.Pairs (Run.make nature x) (Run.make nature x') := by
  subst hx
  refine follows_modifyGet fun m n htandem hle => ?_
  obtain ⟨htandem', hpairs⟩ := htandem.make nature fun o ho => (hknown o ho).mono hle
  exact ⟨htandem', Nat.le_refl _, hpairs⟩

theorem follows_computed {count : Nat} (v : Literal) :
    Follows c strict count c.Pairs (Run.computed v) (Run.computed v) := by
  refine follows_modifyGet fun m n htandem hle => ?_
  obtain ⟨htandem', hpairs⟩ := htandem.computed v
  have hregistries : (m.computed v).2.registries = m.registries := by
    unfold Memory.computed
    split <;> rfl
  rw [hregistries]
  exact ⟨htandem', Nat.le_refl _, hpairs⟩

mutual

theorem follows_evaluate {count : Nat} {l l' : Locals} (hl : c.PairsLocals f.kind count l l') :
    (e : Expr) → c.Spares f.space (.expr e) →
      Follows c strict count c.Pairs (evaluate f l e) (evaluate (f.hinted lazy) l' e)
  | .constant v _ _, _ => follows_pure fun _ _ => Pairing.pairs_self (by simp [Memory.written])
  | .name id _ span, h => by
      have hid : f.space = c.home → id ∉ markerName :: givenNames := by
        simpa [Node.used] using h.self.2
      exact follows_find hl (fun hs hmarker => hid hs (hmarker ▸ List.mem_cons_self)) _
  | .list elements _ _, h => by
      have helements : ∀ e ∈ elements, c.Spares f.space (.expr e) := fun e he =>
        h.part (List.mem_map_of_mem he)
      refine follows_bind (follows_evaluateAll hl elements helements) ?_
      rintro count' - os _ ⟨rfl, hknown⟩
      rw [Nature.ofItems_map]
      exact follows_make _ rfl hknown
  | .tuple elements _ _, h => by
      have helements : ∀ e ∈ elements, c.Spares f.space (.expr e) := fun e he =>
        h.part (List.mem_map_of_mem he)
      refine follows_bind (follows_evaluateAll hl elements helements) ?_
      rintro count' - os _ ⟨rfl, hknown⟩
      rw [Nature.ofItems_map]
      exact follows_make _ rfl hknown
  | .dict items span, h => by
      have hkeys : ∀ i ∈ items, ∀ e ∈ i.key, c.Spares f.space (.expr e) := fun i hi e he =>
        h.part (List.mem_append_left _ (List.mem_map_of_mem (List.mem_filterMap.mpr ⟨i, hi, he⟩)))
      have hvalues : ∀ i ∈ items, c.Spares f.space (.expr i.value) := fun i hi =>
        h.part (List.mem_append_right _ (List.mem_map_of_mem (List.mem_map_of_mem hi)))
      refine follows_bind (follows_evaluateItems hl _ ⟨rfl, by simp⟩ items hkeys hvalues) ?_
      rintro count' - es _ ⟨rfl, hknown⟩
      rw [Nature.ofItems_map]
      refine follows_make _ rfl fun o ho => ?_
      simp only [Content.objects, List.mem_append, List.mem_map] at ho
      obtain ⟨e, he, rfl⟩ | ⟨e, he, rfl⟩ := ho
      · exact (hknown e he).1
      · exact (hknown e he).2
  | .unary .minus operand span, h => by
      refine follows_bind follows_get ?_
      rintro count' hle m n ⟨htandem, -⟩
      refine follows_bind (follows_evaluate (hl.mono hle) operand (h.part List.mem_cons_self)) ?_
      rintro count'' - o _ ⟨rfl, -⟩
      -- Only a literal can be negated, and it is the same one in both memories.
      rw [htandem.contentOf_eq]
      cases m.contentOf o with
      | literal v =>
          simp only [Content.map]
          split
          · exact follows_pure fun _ _ => Pairing.pairs_self (by simp [Memory.written])
          · exact follows_fail _ _
      | _ => exact follows_fail _ _
  | .attribute value attr _ span, h => by
      have hattr : attr ≠ markerName := by
        simpa [Node.asked, eq_comm] using h.self.1
      refine follows_bind (follows_evaluate hl value (h.part List.mem_cons_self)) ?_
      rintro count' - o _ ⟨rfl, -⟩
      cases o with
      | module s =>
          by_cases hkey : attr = hintsKey
          · simp only [Pairing.object, if_pos hkey]
            exact follows_fail _ _
          simp only [Pairing.object, if_neg hkey]
          refine follows_bind follows_get ?_
          rintro count'' - m n ⟨htandem, rfl⟩
          -- The attribute is not the marker, so that both memories have it or neither has.
          simp only [htandem.attribute?_eq s hattr, htandem.nameOf_eq]
          cases hcell : m.attribute? s attr with
          | none => exact follows_fail _ _
          | some p =>
              exact follows_pure fun _ hle => ⟨rfl, (htandem.known_own _ _ _ hcell).mono hle⟩
      | _ => exact follows_fail _ _
  | .call func args keywords span, _ => by
      -- The only call that is carried out is the one that makes a registry.
      simp only [evaluate]
      split
      · next bindings mutables _ =>
        refine follows_bind (follows_expectGiven hl (by decide) _) fun count' hle _ _ _ => ?_
        refine follows_bind (follows_expectGiven (hl.mono hle) (by decide) _) fun _ _ _ _ _ => ?_
        refine follows_modifyGet fun m n htandem _ => ?_
        obtain ⟨htandem', hpairs⟩ := htandem.makeRegistry bindings mutables f.space
        exact ⟨htandem', Nat.le_succ _, hpairs⟩
      · exact follows_fail _ _
  | .boolOp .., _ | .named .., _ | .binary .., _ | .lambda .., _ | .conditional .., _
  | .set .., _ | .comprehension .., _ | .dictComprehension .., _ | .await .., _ | .yield .., _
  | .yieldFrom .., _ | .compare .., _ | .formatted .., _ | .joined .., _ | .subscript .., _
  | .starred .., _ | .slice .., _ | .unary .invert .., _ | .unary .not .., _
  | .unary .plus .., _ => follows_fail _ _

theorem follows_evaluateAll {count : Nat} {l l' : Locals}
    (hl : c.PairsLocals f.kind count l l') :
    (es : List Expr) → (∀ e ∈ es, c.Spares f.space (.expr e)) →
      Follows c strict count c.PairsAll (evaluateAll f l es) (evaluateAll (f.hinted lazy) l' es)
  | [], _ => follows_pure fun _ _ => ⟨rfl, by simp⟩
  | e :: rest, h => by
      obtain ⟨he, hrest⟩ := List.forall_mem_cons.mp h
      refine follows_bind (follows_evaluate hl e he) ?_
      rintro count' hle o _ ⟨rfl, ho⟩
      refine follows_bind (follows_evaluateAll (hl.mono hle) rest hrest) ?_
      rintro count'' hle' os _ ⟨rfl, hos⟩
      refine follows_pure fun count₃ hle₃ => ⟨rfl, ?_⟩
      rintro p (_ | ⟨_, hp⟩)
      · exact (ho.mono hle').mono hle₃
      · exact (hos p hp).mono hle₃

theorem follows_evaluateItems {count : Nat} {l l' : Locals}
    (hl : c.PairsLocals f.kind count l l') (line : Nat) {es es' : List (Object × Object)}
    (hes : c.PairsEntries count es es') :
    (items : List DictItem) → (∀ i ∈ items, ∀ e ∈ i.key, c.Spares f.space (.expr e)) →
      (∀ i ∈ items, c.Spares f.space (.expr i.value)) →
      Follows c strict count c.PairsEntries (evaluateItems f l line es items)
        (evaluateItems (f.hinted lazy) l' line es' items)
  | [], _, _ => follows_pure fun _ hle => hes.mono hle
  | ⟨some key, value⟩ :: rest, hkeys, hvalues => by
      obtain ⟨hkey, hkeys⟩ := List.forall_mem_cons.mp hkeys
      obtain ⟨hvalue, hvalues⟩ := List.forall_mem_cons.mp hvalues
      refine follows_bind (follows_evaluate hl key (hkey key rfl)) ?_
      rintro count₁ hle₁ k k' hk
      refine follows_bind (follows_evaluate (hl.mono hle₁) value hvalue) ?_
      rintro count₂ hle₂ v v' hv
      refine follows_bind follows_get ?_
      rintro count₃ hle₃ m n ⟨htandem, -⟩
      obtain ⟨rfl, hknown⟩ := hk
      -- Whether an object may be a key is told by what it consists of.
      rw [htandem.isHashable_eq, htandem.typeName_eq]
      split
      · have hle := Nat.le_trans hle₁ (Nat.le_trans hle₂ hle₃)
        have hk : c.Pairs count₃ k (c.object k) := ⟨rfl, (hknown.mono hle₂).mono hle₃⟩
        have hes := (hes.mono hle).put htandem hk (hv.mono hle₃)
        exact follows_evaluateItems (hl.mono hle) line hes rest hkeys hvalues
      · exact follows_fail _ _
  | ⟨none, _⟩ :: _, _, _ => follows_fail _ _

end

/-! ## Annotations -/

theorem quiet_find (l : Locals) (name : String) (line : Nat) : Quiet (f.find l name line) := by
  intro m
  change (outcome (Run.lift line (f.lookup l name m)) m).2 = m
  cases f.lookup l name m <;> rfl

mutual

theorem quiet_checkHint (l : Locals) : (e : Expr) → Quiet (checkHint f l e)
  | .constant _ _ _ => fun _ => rfl
  | .name id _ span => quiet_bind (quiet_find l id _) fun _ _ => rfl
  | .attribute value _ _ _ => quiet_checkHint l value
  | .subscript value slice _ _ =>
      quiet_bind (quiet_checkHint l value) fun _ => quiet_checkHint l slice
  | .tuple elements _ _ | .list elements _ _ => quiet_checkHints l elements
  | .binary left op right _ => by
      cases op with
      | bitOr => exact quiet_bind (quiet_checkHint l left) fun _ => quiet_checkHint l right
      | _ => exact fun _ => rfl
  | .boolOp .. | .named .. | .unary .. | .lambda .. | .conditional .. | .dict .. | .set ..
  | .comprehension .. | .dictComprehension .. | .await .. | .yield .. | .yieldFrom ..
  | .compare .. | .call .. | .formatted .. | .joined .. | .starred .. | .slice .. => fun _ => rfl

theorem quiet_checkHints (l : Locals) : (es : List Expr) → Quiet (checkHints f l es)
  | [] => fun _ => rfl
  | e :: rest => quiet_bind (quiet_checkHint l e) fun _ => quiet_checkHints l rest

end

mutual

theorem follows_checkHint {count : Nat} {l l' : Locals} (hl : c.PairsLocals f.kind count l l')
    (hspace : f.space ≠ c.home) :
    (e : Expr) → Follows c strict count (fun _ _ _ => True) (checkHint f l e)
      (checkHint (f.hinted lazy) l' e)
  | .constant _ _ _ => follows_pure fun _ _ => trivial
  | .name id _ span =>
      follows_bind (follows_find hl (fun hs => absurd hs hspace) _) fun _ _ _ _ _ =>
        follows_pure fun _ _ => trivial
  | .attribute value _ _ _ => follows_checkHint hl hspace value
  | .subscript value slice _ _ =>
      follows_bind (follows_checkHint hl hspace value) fun _ hle _ _ _ =>
        follows_checkHint (hl.mono hle) hspace slice
  | .tuple elements _ _ | .list elements _ _ => follows_checkHints hl hspace elements
  | .binary left op right _ => by
      cases op with
      | bitOr =>
          exact follows_bind (follows_checkHint hl hspace left) fun _ hle _ _ _ =>
            follows_checkHint (hl.mono hle) hspace right
      | _ => exact follows_fail _ _
  | .boolOp .. | .named .. | .unary .. | .lambda .. | .conditional .. | .dict .. | .set ..
  | .comprehension .. | .dictComprehension .. | .await .. | .yield .. | .yieldFrom ..
  | .compare .. | .call .. | .formatted .. | .joined .. | .starred .. | .slice .. =>
      follows_fail _ _

theorem follows_checkHints {count : Nat} {l l' : Locals} (hl : c.PairsLocals f.kind count l l')
    (hspace : f.space ≠ c.home) :
    (es : List Expr) → Follows c strict count (fun _ _ _ => True) (checkHints f l es)
      (checkHints (f.hinted lazy) l' es)
  | [] => follows_pure fun _ _ => trivial
  | e :: rest =>
      follows_bind (follows_checkHint hl hspace e) fun _ hle _ _ _ =>
        follows_checkHints (hl.mono hle) hspace rest

end

/-- How the two runs of statements may treat annotations: elsewhere in the same way; at the place
where memories may differ the second run leaves them alone, and the first one is known to come to
its end. -/
def Hints (c : Pairing) (strict : Bool) (f : Frame) (hinted hinted' : Bool) : Prop :=
  (f.space ≠ c.home ∧ hinted' = hinted) ∨ (strict = false ∧ hinted' = false)

theorem Hints.evaluatesHints (h : Hints c strict f (!f.lazyHints) (!lazy)) :
    Hints c strict f f.evaluatesHints (f.hinted lazy).evaluatesHints := by
  obtain ⟨hspace, hsame⟩ | ⟨hlenient, hlazy⟩ := h
  · exact .inl ⟨hspace, by simp only [Frame.evaluatesHints, Frame.hinted, hsame]⟩
  · refine .inr ⟨hlenient, ?_⟩
    simp only [Frame.evaluatesHints, Frame.hinted, hlazy]
    split <;> rfl

/-- An annotation that is evaluated or not before a run goes on. -/
theorem follows_hint {α β : Type} {P : Nat → α → β → Prop} {hinted hinted' : Bool}
    (hhints : Hints c strict f hinted hinted') {count : Nat} {x y : Run Unit} {p : Run α}
    {q : Run β} (hquiet : Quiet x)
    (hxy : f.space ≠ c.home → Follows c strict count (fun _ _ _ => True) x y)
    (hr : ∀ count', count ≤ count' → Follows c strict count' P p q) :
    Follows c strict count P (if hinted then x >>= fun _ => p else p)
      (if hinted' then y >>= fun _ => q else q) := by
  obtain ⟨hspace, rfl⟩ | ⟨rfl, rfl⟩ := hhints
  · split
    · exact follows_bind (hxy hspace) fun _ hle _ _ _ => hr _ hle
    · exact hr _ (Nat.le_refl _)
  -- The second run passes the annotation by; of the first it is known that it comes to its end.
  · cases hinted with
    | false => exact hr _ (Nat.le_refl _)
    | true => exact follows_bind (y := pure ()) hquiet.follows_skip fun _ hle _ _ _ => hr _ hle

end Expressions

end Standin
