/-
The table of an opened module.

The table is made of the bindings of the statements, entered in order.  Of the order only
the first binding of each name is left in it (`allNames_tableOf`), and of the ways in which
a name is declared only whether some binding makes it one that may be assigned again
(`isMutable_tableOf`).  So it is enough to compare the bindings of each statement with those
of what it becomes (`Rebinds`): the registry binds the marker as the first marker did, and a
final declaration binds what it bound before, but as something that may be assigned again.

The comparison fails where there is nothing to compare.  The type that a final annotation
gave may itself be a text that cannot be tried to be read; the declaration could be opened,
since what it says was not asked before, but then the opened module has no table.
-/
import Standin.Proofs.Opened
import Mathlib.Data.List.Induction

set_option autoImplicit false

namespace Standin

open Source

/-! ## The table of a list of bindings -/

namespace Scope

/-- All names of a table, in the order of first bindings. -/
def allNames (s : Scope) : List String := s.bindings.map (·.name)

/-- That a name may be assigned again. -/
def IsMutable (s : Scope) (name : String) : Prop :=
  ∃ b ∈ s.bindings, b.name = name ∧ b.kind = .mutable

theorem contains_iff {s : Scope} {name : String} : s.contains name = true ↔ name ∈ s.allNames := by
  simp [contains, get?, List.find?_isSome, allNames]

theorem names_eq (s : Scope) (exclude : List String) :
    s.names exclude = s.allNames.filter (!exclude.contains ·) := rfl

theorem mem_mutables_iff {s : Scope} {name : String} {exclude : List String} :
    name ∈ s.mutables exclude ↔ s.IsMutable name ∧ name ∉ exclude := by
  simp only [mutables, IsMutable, List.mem_filter, List.mem_map, beq_iff_eq, List.contains_eq_mem,
    Bool.not_eq_true', decide_eq_false_iff_not, and_assoc, and_comm (a := _ = name)]

/-- A name that is bound anew comes last. -/
theorem allNames_bind (s : Scope) (b : Binding) :
    (s.bind b).allNames = if b.name ∈ s.allNames then s.allNames else s.allNames ++ [b.name] := by
  unfold bind
  simp only [contains_iff]
  split
  · next hbound =>
    split
    · unfold allNames
      rw [List.map_map]
      refine List.map_congr_left fun old _ => ?_
      simp only [Function.comp]
      split <;> rfl
    · rfl
  · simp [allNames]

/-- A name may be assigned again once it is bound by a plain assignment. -/
theorem isMutable_bind {s : Scope} {b : Binding} {name : String} :
    (s.bind b).IsMutable name ↔ s.IsMutable name ∨ (b.name = name ∧ b.kind = .mutable) := by
  unfold bind
  simp only [contains_iff]
  split
  · next hbound =>
    split
    · next hkind =>
      -- The first binding of the name is found in the table, and is the one that changes.
      obtain ⟨first, hfirst, hname⟩ := List.mem_map.mp hbound
      constructor
      · rintro ⟨new, hnew, rfl, hmutable⟩
        obtain ⟨old, hold, rfl⟩ := List.mem_map.mp hnew
        by_cases hsame : old.name = b.name
        · exact .inr ⟨by simp [hsame], hkind⟩
        · exact .inl ⟨old, hold, by simp [hsame], by simpa [hsame] using hmutable⟩
      · rintro (⟨old, hold, rfl, hmutable⟩ | ⟨rfl, -⟩)
        · refine ⟨_, List.mem_map.mpr ⟨old, hold, rfl⟩, ?_⟩
          by_cases hsame : old.name = b.name <;> simp [hsame, hmutable]
        · exact ⟨_, List.mem_map.mpr ⟨first, hfirst, rfl⟩, by simp [hname]⟩
    · next hkind => simp [hkind]
  · simp [IsMutable, or_and_right, exists_or]

end Scope

section Distinct

variable {α : Type} [DecidableEq α]

theorem eraseDups_append_singleton (l : List α) (a : α) :
    (l ++ [a]).eraseDups = if a ∈ l then l.eraseDups else l.eraseDups ++ [a] := by
  rw [List.eraseDups_append]
  split <;> simp_all [List.removeAll, List.eraseDups_cons]

/-- Leaving out what does not belong and leaving out what is there already can be done in either
order. -/
theorem eraseDups_filter (p : α → Bool) (l : List α) :
    (l.filter p).eraseDups = l.eraseDups.filter p := by
  induction l using List.reverseRecOn with
  | nil => rfl
  | append_singleton l a ih =>
      rw [List.filter_append, eraseDups_append_singleton]
      by_cases hp : p a = true
      · have ha : [a].filter p = [a] := by simp [hp]
        rw [ha, eraseDups_append_singleton, ih]
        split <;> simp_all
      · split <;> simp_all

end Distinct

/-- The table of these bindings, entered in order. -/
def tableOf (bs : List Binding) : Scope := bs.foldl Scope.bind .empty

theorem tableOf_append_singleton (bs : List Binding) (b : Binding) :
    tableOf (bs ++ [b]) = (tableOf bs).bind b := by
  simp [tableOf]

theorem allNames_tableOf (bs : List Binding) :
    (tableOf bs).allNames = (bs.map (·.name)).eraseDups := by
  induction bs using List.reverseRecOn with
  | nil => rfl
  | append_singleton bs b ih =>
      rw [tableOf_append_singleton, Scope.allNames_bind, ih]
      simp only [List.mem_eraseDups, List.map_append, List.map_singleton,
        eraseDups_append_singleton]

/-- That some binding in the list makes the name one that may be assigned again. -/
def MakesMutable (bs : List Binding) (name : String) : Prop :=
  ∃ b ∈ bs, b.name = name ∧ b.kind = .mutable

theorem isMutable_tableOf {bs : List Binding} {name : String} :
    (tableOf bs).IsMutable name ↔ MakesMutable bs name := by
  induction bs using List.reverseRecOn with
  | nil => simp [tableOf, Scope.empty, Scope.IsMutable, MakesMutable]
  | append_singleton bs b ih =>
      rw [tableOf_append_singleton, Scope.isMutable_bind, ih]
      simp [MakesMutable, or_and_right, exists_or]

/-! ## The bindings of what a statement becomes -/

/-- A node that binds nothing itself has the bindings of its parts. -/
theorem bindingsOf_of_enterAll {n : Node} (h : visits n = .ok (enterAll n)) :
    bindingsOf n = (do return (← n.children.mapM bindingsOf).flatten) := by
  have hmapM : (enterAll n).mapM Visit.bindings = n.children.mapM bindingsOf := by
    rw [enterAll, List.mapM_map]
    rfl
  rw [bindingsOf_eq, h, ← hmapM]
  rfl

/-- A node that binds nothing itself, nor in its parts, binds nothing. -/
theorem bindingsOf_eq_nil {n : Node} (h : visits n = .ok (enterAll n))
    (hchildren : ∀ m ∈ n.children, bindingsOf m = .ok []) : bindingsOf n = .ok [] := by
  have hmapM : n.children.mapM bindingsOf = .ok (n.children.map fun _ => []) := by
    generalize n.children = ms at hchildren
    induction ms with
    | nil => rfl
    | cons m ms ih =>
        obtain ⟨hm, hms⟩ := List.forall_mem_cons.mp hchildren
        simp [List.mapM_cons, hm, ih hms, bind, Except.bind, pure, Except.pure]
  rw [bindingsOf_of_enterAll h, hmapM]
  simp [bind, Except.bind, pure, Except.pure]

theorem bindingsOf_name_store (id : String) (span : Span) :
    bindingsOf (.expr (.name id .store span)) =
      .ok [⟨id, .mutable, .expr (.name id .store span)⟩] := by
  rw [bindingsOf_eq]
  rfl

theorem bindingsOf_assign (target value : Expr) (span : Span) :
    bindingsOf (.stmt (.assign [target] value span)) = (do
      let bs ← bindingsOf (.expr target)
      let bs' ← bindingsOf (.expr value)
      return bs ++ bs') := by
  rw [bindingsOf_of_enterAll rfl]
  simp [Node.children, Node.ofStmt, Node.ofExprs]

theorem bindingsOf_declaration (id : String) (usage : Usage) (place : Span) (hint value : Expr)
    (simple : Bool) (span : Span) :
    bindingsOf (.stmt (.annAssign (.name id usage place) hint (some value) simple span)) = (do
      let final ← isFinalHint hint
      let bs ← bindingsOf (.expr value)
      return ⟨id, if final then .constant else .mutable,
        .stmt (.annAssign (.name id usage place) hint (some value) simple span)⟩ :: bs) := by
  rw [bindingsOf_eq]
  simp only [visits]
  cases isFinalHint hint with
  | error e => rfl
  | ok final =>
      cases hvalue : bindingsOf (.expr value) <;>
        simp [Visit.bindings, hvalue, List.mapM_cons, bind, Except.bind, pure, Except.pure]

theorem bindingsOf_annAssign {target : Expr}
    (htarget : ∀ id usage place, target ≠ .name id usage place) (hint value : Expr)
    (simple : Bool) (span : Span) :
    bindingsOf (.stmt (.annAssign target hint (some value) simple span)) = (do
      let bs ← bindingsOf (.expr target)
      let bs' ← bindingsOf (.expr value)
      return bs ++ bs') := by
  rw [bindingsOf_eq]
  have hvisits : visits (.stmt (.annAssign target hint (some value) simple span)) =
      .ok [.enter (.expr target), .enter (.expr value)] := by
    cases target <;> first | rfl | exact absurd rfl (htarget _ _ _)
  cases htarget : bindingsOf (.expr target) <;> cases hvalue : bindingsOf (.expr value) <;>
    simp [hvisits, htarget, hvalue, Visit.bindings, List.mapM_cons, bind, Except.bind, pure,
      Except.pure]

theorem bindingsOf_textList (names : List String) (span : Span) :
    bindingsOf (.expr (textList names span)) = .ok [] := by
  refine bindingsOf_eq_nil rfl fun m hm => ?_
  simp only [textList, Node.children, Node.ofExpr, Node.ofExprs, List.map_map, List.mem_map,
    Function.comp_apply] at hm
  obtain ⟨name, -, rfl⟩ := hm
  exact bindingsOf_eq_nil rfl (by simp [Node.children, Node.ofExpr])

/-- The registry's statement binds the marker and nothing else. -/
theorem bindingsOf_registryStatement (bindings mutables : List String) (span : Span) :
    bindingsOf (.stmt (registryStatement bindings mutables span)) =
      .ok [⟨markerName, .mutable, .expr (.name markerName .store span)⟩] := by
  have hname (id : String) : bindingsOf (.expr (.name id .load span)) = .ok [] :=
    bindingsOf_eq_nil rfl (by simp [Node.children, Node.ofExpr])
  have hconstant (v : Literal) : bindingsOf (.expr (.constant v false span)) = .ok [] :=
    bindingsOf_eq_nil rfl (by simp [Node.children, Node.ofExpr])
  have hkeyword :
      bindingsOf (.keyword ⟨some "fromlist", textList ["Mockingbird"] span, span⟩) = .ok [] :=
    bindingsOf_eq_nil rfl (by simp [Node.children, bindingsOf_textList])
  have himport : bindingsOf (.expr (.call (.name "__import__" .load span)
      [.constant (.text "pytest_mockingbird.registry") false span]
      [⟨some "fromlist", textList ["Mockingbird"] span, span⟩] span)) = .ok [] :=
    bindingsOf_eq_nil rfl
      (by simp [Node.children, Node.ofExpr, Node.ofExprs, hname, hconstant, hkeyword])
  have hclass : bindingsOf (.expr (registryClass span)) = .ok [] :=
    bindingsOf_eq_nil rfl (by simp [registryClass, Node.children, Node.ofExpr, himport])
  have hcall : bindingsOf (.expr (.call (.name "globals" .load span) [] [] span)) = .ok [] :=
    bindingsOf_eq_nil rfl (by simp [Node.children, Node.ofExpr, Node.ofExprs, hname])
  have hvalue : bindingsOf (.expr (.call (registryClass span)
      [textList bindings span, textList mutables span,
        .call (.name "globals" .load span) [] [] span] [] span)) = .ok [] :=
    bindingsOf_eq_nil rfl
      (by simp [Node.children, Node.ofExpr, Node.ofExprs, hclass, hcall, bindingsOf_textList])
  rw [registryStatement, bindingsOf_assign, bindingsOf_name_store, hvalue]
  rfl

/-! ## The table of the opened module -/

/-- How the bindings of a statement compare with those of what it becomes when it is opened, the
marker left out: they have the same names in the same order, what may be assigned again still may,
and no more names may but the final ones. -/
structure Rebinds (final : String → Prop) (bs bs' : List Binding) : Prop where
  names_eq : (bs.map (·.name)).filter (· != markerName) =
    (bs'.map (·.name)).filter (· != markerName)
  kept : ∀ name, name ≠ markerName → MakesMutable bs name → MakesMutable bs' name
  new : ∀ name, name ≠ markerName → MakesMutable bs' name → MakesMutable bs name ∨ final name

theorem makesMutable_append {bs bs' : List Binding} {name : String} :
    MakesMutable (bs ++ bs') name ↔ MakesMutable bs name ∨ MakesMutable bs' name := by
  simp [MakesMutable, or_and_right, exists_or]

namespace Rebinds

variable {final final' : String → Prop} {bs bs' cs cs' : List Binding}

theorem refl (bs : List Binding) : Rebinds final bs bs :=
  ⟨rfl, fun _ _ h => h, fun _ _ h => .inl h⟩

theorem mono (h : Rebinds final bs bs') (hfinal : ∀ name, final name → final' name) :
    Rebinds final' bs bs' :=
  ⟨h.names_eq, h.kept, fun name hname hmutable =>
    (h.new name hname hmutable).imp_right (hfinal name)⟩

theorem append (h : Rebinds final bs bs') (h' : Rebinds final cs cs') :
    Rebinds final (bs ++ cs) (bs' ++ cs') where
  names_eq := by simp only [List.map_append, List.filter_append, h.names_eq, h'.names_eq]
  kept name hname := by
    rw [makesMutable_append, makesMutable_append]
    exact Or.imp (h.kept name hname) (h'.kept name hname)
  new name hname := by
    rw [makesMutable_append, makesMutable_append]
    rintro (hmutable | hmutable)
    · exact (h.new name hname hmutable).imp_left .inl
    · exact (h'.new name hname hmutable).imp_left .inr

/-- Statements that bind the marker alone compare. -/
theorem of_marker (hbs : ∀ b ∈ bs, b.name = markerName) (hbs' : ∀ b ∈ bs', b.name = markerName) :
    Rebinds final bs bs' := by
  have hnames {bs : List Binding} (h : ∀ b ∈ bs, b.name = markerName) :
      (bs.map (·.name)).filter (· != markerName) = [] := by simpa using h
  have hmutable {bs : List Binding} (h : ∀ b ∈ bs, b.name = markerName) {name : String}
      (hname : name ≠ markerName) : ¬ MakesMutable bs name := by
    rintro ⟨b, hb, rfl, -⟩
    exact hname (h b hb)
  exact ⟨by rw [hnames hbs, hnames hbs'], fun _ hname h => absurd h (hmutable hbs hname),
    fun _ hname h => absurd h (hmutable hbs' hname)⟩

/-- A name that was declared final may be assigned again. -/
theorem of_final {id : String} {kind kind' : DeclarationKind} {node node' : Node}
    (hfinal : final id) (hkind : kind ≠ .mutable) :
    Rebinds final (⟨id, kind, node⟩ :: bs) (⟨id, kind', node'⟩ :: bs) where
  names_eq := by simp
  kept name _ := by
    rintro ⟨b, hb, rfl, hmutable⟩
    rcases List.mem_cons.mp hb with rfl | hb
    · exact absurd hmutable hkind
    · exact ⟨b, List.mem_cons_of_mem _ hb, rfl, hmutable⟩
  new name _ := by
    rintro ⟨b, hb, rfl, hmutable⟩
    rcases List.mem_cons.mp hb with rfl | hb
    · exact .inr hfinal
    · exact .inl ⟨b, List.mem_cons_of_mem _ hb, rfl, hmutable⟩

end Rebinds

/-- That a statement declares a name final, with a value. -/
def Source.Stmt.DeclaresFinalName (s : Stmt) (name : String) : Prop :=
  ∃ usage place hint value simple span,
    s = .annAssign (.name name usage place) hint (some value) simple span ∧
      isFinalHint hint = .ok true

/-- That a name that a statement declares is there to be assigned to, as the language asks of every
tree. -/
def Source.Stmt.StoresFinal : Stmt → Prop
  | .annAssign (.name _ usage _) _ (some _) _ _ => usage = .store
  | _ => True

/-- The name of a final declaration is bound as before, but may be assigned again. -/
theorem rebinds_of_finalName {id : String} {place span : Span} {hint value : Expr} {simple : Bool}
    {s' : Stmt} {bs bs' : List Binding} (hhint : isFinalHint hint = .ok true)
    (hopened : s' = .assign [.name id .store place] value span ∨
      ∃ inner, s' = .annAssign (.name id .store place) inner (some value) simple span)
    (hbs : bindingsOf (.stmt (.annAssign (.name id .store place) hint (some value) simple span)) =
      .ok bs)
    (hbs' : bindingsOf (.stmt s') = .ok bs') :
    Rebinds (Stmt.annAssign (.name id .store place) hint (some value) simple
      span).DeclaresFinalName bs bs' := by
  have hdeclared : (Stmt.annAssign (.name id .store place) hint (some value) simple
      span).DeclaresFinalName id := ⟨.store, place, hint, value, simple, span, rfl, hhint⟩
  simp only [bindingsOf_declaration, hhint, bind_eq_ok] at hbs
  obtain ⟨_, ⟨⟩, found, hvalue, ⟨⟩⟩ := hbs
  obtain rfl | ⟨inner, rfl⟩ := hopened
  · simp only [bindingsOf_assign, bindingsOf_name_store, hvalue] at hbs'
    cases hbs'
    exact .of_final hdeclared (by decide)
  · simp only [bindingsOf_declaration, hvalue, bind_eq_ok] at hbs'
    obtain ⟨_, -, _, ⟨⟩, ⟨⟩⟩ := hbs'
    exact .of_final hdeclared (by decide)

/-- A final declaration binds what it bound before. -/
theorem rebinds_of_final {target hint value : Expr} {simple : Bool} {span : Span} {s' : Stmt}
    {bs bs' : List Binding} (hhint : isFinalHint hint = .ok true)
    (h : openDeclaration (.annAssign target hint (some value) simple span) = .ok s')
    (hstored : (Stmt.annAssign target hint (some value) simple span).StoresFinal)
    (hbs : bindingsOf (.stmt (.annAssign target hint (some value) simple span)) = .ok bs)
    (hbs' : bindingsOf (.stmt s') = .ok bs') :
    Rebinds (Stmt.annAssign target hint (some value) simple span).DeclaresFinalName bs bs' := by
  have hopened := openDeclaration_keeps h hhint
  by_cases htarget : ∃ id usage place, target = .name id usage place
  · obtain ⟨id, usage, place, rfl⟩ := htarget
    obtain rfl : usage = .store := hstored
    exact rebinds_of_finalName hhint hopened hbs hbs'
  · -- Any other target binds what is in it, whatever the annotation says.
    have htarget id usage place (h : target = .name id usage place) : False :=
      htarget ⟨id, usage, place, h⟩
    obtain rfl : bs = bs' := by
      rw [bindingsOf_annAssign htarget] at hbs
      obtain rfl | ⟨inner, rfl⟩ := hopened
      · rw [bindingsOf_assign] at hbs'
        exact Except.ok.inj (hbs.symm.trans hbs')
      · rw [bindingsOf_annAssign htarget] at hbs'
        exact Except.ok.inj (hbs.symm.trans hbs')
    exact .refl bs

/-- What a statement binds compares with what the opened one binds, if a marker that gives way to
the registry binds the marker alone. -/
theorem rebinds_of_opensTo {bindings mutables : List String} {injected : Bool} {s s' : Stmt}
    {bs bs' : List Binding} (h : OpensTo bindings mutables injected s s') (hstored : s.StoresFinal)
    (hmarker : injected = false → declaresMarker s = true → ∀ b ∈ bs, b.name = markerName)
    (hbs : bindingsOf (.stmt s) = .ok bs) (hbs' : bindingsOf (.stmt s') = .ok bs') :
    Rebinds s.DeclaresFinalName bs bs' := by
  obtain ⟨-, rfl⟩ | ⟨hfirst, hdeclares, rfl⟩ |
    ⟨-, ⟨target, hint, value, simple, span, rfl, hhint⟩, hopened⟩ := opensTo_cases h
  · obtain rfl : bs = bs' := Except.ok.inj (hbs.symm.trans hbs')
    exact .refl bs
  · rw [bindingsOf_registryStatement] at hbs'
    cases hbs'
    exact .of_marker (hmarker hfirst hdeclares) (by simp)
  · exact rebinds_of_final hhint hopened hstored hbs hbs'

/-- The bindings of a body compare with those of the opened body, if the first marker binds the
marker alone.  Statement by statement, as the body is opened. -/
theorem rebinds_of_openBody {bindings mutables : List String} {injected done : Bool}
    {body opened : List Stmt} {found found' : List (List Binding)}
    (h : openBody bindings mutables injected body = .ok (opened, done))
    (hstored : ∀ s ∈ body, s.StoresFinal)
    (hmarker : injected = false → ∀ s, body.find? declaresMarker = some s →
      ∀ bs, bindingsOf (.stmt s) = .ok bs → ∀ b ∈ bs, b.name = markerName)
    (hfound : body.mapM (fun s => bindingsOf (.stmt s)) = .ok found)
    (hfound' : opened.mapM (fun s => bindingsOf (.stmt s)) = .ok found') :
    Rebinds (fun name => ∃ s ∈ body, s.DeclaresFinalName name) found.flatten found'.flatten := by
  induction body generalizing injected opened found found' with
  | nil =>
      cases h
      cases hfound
      cases hfound'
      exact .refl []
  | cons s rest ih =>
      obtain ⟨s', rest', rfl, hs, hrest⟩ := openBody_cons_eq_ok h
      obtain ⟨hstored, hstoredRest⟩ := List.forall_mem_cons.mp hstored
      simp only [List.mapM_cons, bind_eq_ok] at hfound hfound'
      obtain ⟨bs, hbs, cs, hcs, ⟨⟩⟩ := hfound
      obtain ⟨bs', hbs', cs', hcs', ⟨⟩⟩ := hfound'
      have hhead : Rebinds s.DeclaresFinalName bs bs' :=
        rebinds_of_opensTo hs hstored (fun hnot hdeclares =>
          hmarker hnot s (by simp [hdeclares]) bs hbs) hbs hbs'
      -- If the first statement is no marker, the first marker of the rest is that of the body.
      have htail := ih hrest hstoredRest (fun hnot t ht => by
        obtain ⟨rfl, hdeclares⟩ := Bool.or_eq_false_iff.mp hnot
        exact hmarker rfl t (by simpa [hdeclares] using ht)) hcs hcs'
      exact (hhead.mono fun name hname => ⟨s, List.mem_cons_self, hname⟩).append
        (htail.mono fun name ⟨t, ht, hname⟩ => ⟨t, List.mem_cons_of_mem _ ht, hname⟩)

/-- The table of a module is that of the bindings of its statements. -/
theorem scopeOf_eq_ok {m : Module} {scope : Scope} :
    scopeOf m = .ok scope ↔
      ∃ found, m.body.mapM (fun s => bindingsOf (.stmt s)) = .ok found ∧
        scope = tableOf found.flatten := by
  simp only [scopeOf, bind_eq_ok]
  refine exists_congr fun found => and_congr_right fun _ => ?_
  exact ⟨fun h => (Except.ok.inj h).symm, fun h => h ▸ rfl⟩

/-- Bindings that compare make tables with the same names, the marker left out. -/
theorem Rebinds.names_tableOf {final : String → Prop} {bs bs' : List Binding}
    (h : Rebinds final bs bs') :
    (tableOf bs').names [markerName] = (tableOf bs).names [markerName] := by
  have hnames (bs : List Binding) : (tableOf bs).names [markerName] =
      ((bs.map (·.name)).filter (· != markerName)).eraseDups := by
    rw [Scope.names_eq, allNames_tableOf, eraseDups_filter]
    congr 1
    funext name
    simp [bne, Bool.beq_eq_decide_eq]
  rw [hnames, hnames, h.names_eq]

/-- What a statement becomes has no sealed declaration in its scope but perhaps itself. -/
theorem every_of_opensTo {bindings mutables : List String} {injected : Bool} {s s' : Stmt}
    (hs : OpensTo bindings mutables injected s s')
    (hscope : (Node.stmt s).Every Node.inScope (¬ ·.Sealed)) (hnot : ¬ (Node.stmt s').Sealed) :
    (Node.stmt s').Every Node.inScope (¬ ·.Sealed) := by
  obtain ⟨-, rfl⟩ | ⟨-, -, rfl⟩ | ⟨-, ⟨target, hint, value, simple, span, rfl, hhint⟩, hopened⟩ :=
    opensTo_cases hs
  · exact hscope
  · rw [← gives_bindingsOf, bindingsOf_registryStatement]
    exact gives_ok _
  · have hparts : (Node.expr target).Every Node.inScope (¬ ·.Sealed) ∧
        (Node.expr value).Every Node.inScope (¬ ·.Sealed) := by
      cases target
      case name id usage place =>
        refine ⟨Node.every_iff.mpr ⟨fun h => h, ?_⟩, hscope.part (by simp [Node.inScope])⟩
        simp [Node.inScope, Node.children, Node.ofExpr]
      all_goals
        exact ⟨hscope.part (by simp [Node.inScope]), hscope.part (by simp [Node.inScope])⟩
    obtain rfl | ⟨inner, rfl⟩ := openDeclaration_keeps hopened hhint
    · refine Node.every_iff.mpr ⟨hnot, ?_⟩
      simpa [Node.inScope, Node.children, Node.ofStmt, Node.ofExprs] using hparts
    · refine Node.every_iff.mpr ⟨hnot, ?_⟩
      cases target <;> simp [Node.inScope, hparts]

/-- The opened module has a table exactly if no declaration of its own is sealed. -/
theorem gives_scopeOf_opened {tree : Module} {source : String} {o : Outcome}
    (hasks : asksToOpen source = true) (h : openTree tree source = .ok o) :
    Gives (scopeOf o.tree) ↔ ∀ s ∈ o.tree.body, ¬ (Node.stmt s).Sealed := by
  obtain ⟨scope, body, injected, hscope, hbody, rfl⟩ := openTree_eq_ok hasks h
  have hevery := (gives_scopeOf tree).mp ⟨scope, hscope⟩
  rw [gives_scopeOf]
  refine ⟨fun h s' hs' => (h s' hs').self, fun hnot s' hs' => ?_⟩
  obtain ⟨_, s, hs, hopens⟩ := exists_mem_of_mem_opened hbody hs'
  exact every_of_opensTo hopens (hevery s hs) (hnot s' hs')

/-- **Opening a module keeps its table.**  The registry is given the names of the table, the marker
left out, and if the opened module has a table, then it has the same names in the same order.  What
could be assigned again still can, and what else can be was declared final.  The opened module has a
table exactly if none of its own declarations is sealed. -/
theorem scopeOf_opened {tree : Module} {source : String} {o : Outcome}
    (hasks : asksToOpen source = true) (h : openTree tree source = .ok o)
    (hstored : ∀ s ∈ tree.body, s.StoresFinal)
    (hmarker : ∀ s, tree.body.find? declaresMarker = some s →
      ∀ bs, bindingsOf (.stmt s) = .ok bs → ∀ b ∈ bs, b.name = markerName) :
    (Gives (scopeOf o.tree) ↔ ∀ s ∈ o.tree.body, ¬ (Node.stmt s).Sealed) ∧
      ∃ scope, scopeOf tree = .ok scope ∧ o.bindings = scope.names [markerName] ∧
        o.mutables = scope.mutables [markerName] ∧
        ∀ scope', scopeOf o.tree = .ok scope' →
          scope'.names [markerName] = o.bindings ∧
          (∀ name ∈ o.mutables, name ∈ scope'.mutables [markerName]) ∧
          ∀ name ∈ scope'.mutables [markerName], name ∉ o.mutables →
            ∃ s ∈ tree.body, s.DeclaresFinalName name := by
  refine ⟨gives_scopeOf_opened hasks h, ?_⟩
  obtain ⟨scope, body, injected, hscope, hbody, rfl⟩ := openTree_eq_ok hasks h
  refine ⟨scope, hscope, rfl, rfl, fun scope' hscope' => ?_⟩
  obtain ⟨found, hfound, rfl⟩ := scopeOf_eq_ok.mp hscope
  obtain ⟨found', hfound', rfl⟩ := scopeOf_eq_ok.mp hscope'
  have hrebinds := rebinds_of_openBody hbody hstored (fun _ => hmarker) hfound hfound'
  refine ⟨hrebinds.names_tableOf, fun name hname => ?_, fun name hname hnot => ?_⟩
  · rw [Scope.mem_mutables_iff, isMutable_tableOf] at hname ⊢
    exact ⟨hrebinds.kept name (by simpa using hname.2) hname.1, hname.2⟩
  · rw [Scope.mem_mutables_iff, isMutable_tableOf] at hname hnot
    refine (hrebinds.new name (by simpa using hname.2) hname.1).resolve_left fun hold => ?_
    exact hnot ⟨hold, hname.2⟩

/-- The table of an opened module, if it is opened and has one. -/
def openedScope? (tree : Module) (source : String) : Option Scope :=
  (openTree tree source).toOption.bind fun o => (scopeOf o.tree).toOption

theorem openedScope?_of_openTree {tree : Module} {source : String} {o : Outcome}
    (h : openTree tree source = .ok o) :
    (openedScope? tree source).isSome = true ↔ Gives (scopeOf o.tree) := by
  cases htable : scopeOf o.tree <;> simp [openedScope?, h, htable, Except.toOption]

/-- The module of a final declaration is opened, and its name may then be assigned again. -/
theorem scopeOf_opened_feeder :
    let tree := feederModule (.subscript (.name "Final" .load ⟨⟨2, 8⟩, ⟨2, 13⟩⟩)
      (.name "int" .load ⟨⟨2, 14⟩, ⟨2, 17⟩⟩) .load ⟨⟨2, 8⟩, ⟨2, 18⟩⟩)
    ∃ o scope', openTree tree "mockingbird = None\n" = .ok o ∧ scopeOf o.tree = .ok scope' ∧
      scope'.names [markerName] = o.bindings ∧
      ∀ name ∈ scope'.mutables [markerName], name ∉ o.mutables →
        ∃ s ∈ tree.body, s.DeclaresFinalName name := by
  intro tree
  have hasks : asksToOpen "mockingbird = None\n" = true := by decide
  have hopens : Gives (openTree tree "mockingbird = None\n") := by decide +kernel
  have htable : (openedScope? tree "mockingbird = None\n").isSome = true := by decide +kernel
  have hstored : ∀ s ∈ tree.body, s.StoresFinal := by
    simp [tree, feederModule, Stmt.StoresFinal]
  have hmarker : ∀ s, tree.body.find? declaresMarker = some s →
      ∀ bs, bindingsOf (.stmt s) = .ok bs → ∀ b ∈ bs, b.name = markerName := by
    rintro s ⟨⟩ bs hbs
    have hvalue : bindingsOf (.expr (.constant .none false ⟨⟨1, 14⟩, ⟨1, 18⟩⟩)) = .ok [] :=
      bindingsOf_eq_nil rfl (by simp [Node.children, Node.ofExpr])
    rw [bindingsOf_assign, bindingsOf_name_store, hvalue] at hbs
    cases hbs
    simp
  obtain ⟨o, ho⟩ := hopens
  obtain ⟨scope', hscope'⟩ := (openedScope?_of_openTree ho).mp htable
  obtain ⟨-, scope, -, -, -, hsame⟩ := scopeOf_opened hasks ho hstored hmarker
  obtain ⟨hnames, -, hnew⟩ := hsame scope' hscope'
  exact ⟨o, scope', ho, hscope', hnames, hnew⟩

/-- A declaration whose type is a text with a null character is opened, and then the module has no
table. -/
theorem not_gives_scopeOf_opened :
    let tree := feederModule (.subscript (.name "Final" .load ⟨⟨2, 8⟩, ⟨2, 13⟩⟩)
      (.constant (.text "\x00") false ⟨⟨2, 14⟩, ⟨2, 18⟩⟩) .load ⟨⟨2, 8⟩, ⟨2, 19⟩⟩)
    ∃ o, openTree tree "mockingbird = None\n" = .ok o ∧ ¬ Gives (scopeOf o.tree) := by
  intro tree
  have hopens : Gives (openTree tree "mockingbird = None\n") := by decide +kernel
  have hnone : ¬ (openedScope? tree "mockingbird = None\n").isSome = true := by decide +kernel
  obtain ⟨o, ho⟩ := hopens
  exact ⟨o, ho, fun htable => hnone ((openedScope?_of_openTree ho).mpr htable)⟩

end Standin
