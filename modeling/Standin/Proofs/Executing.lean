/-
Statements keep memories in tandem.

The proof goes along `execute` (`follows_execute`, `follows_executeAll`), with one lemma for
each thing a statement does besides evaluating expressions: adding, raising, importing.  Of
whatever loads other modules only this is assumed, that it keeps memories alike
(`Importer.KeepsAlike`).  The frame of the second run may differ from that of the first in
whether annotations are evaluated (`Frame.hinted`).
-/
import Standin.Proofs.Evaluating

set_option autoImplicit false

namespace Standin

open Source

section

variable {c : Pairing} {strict : Bool} {f : Frame} {lazy : Bool}

/-! ## Addition and errors -/

theorem follows_addTo {count : Nat} {o o' p p' : Object} (ho : c.Pairs count o o')
    (hp : c.Pairs count p p') (line : Nat) :
    Follows c strict count c.Pairs (addTo line o p) (addTo line o' p') := by
  obtain ⟨rfl, -⟩ := ho
  obtain ⟨rfl, -⟩ := hp
  refine follows_bind follows_get ?_
  rintro count' - m n ⟨htandem, rfl⟩
  -- Both memories tell the same of what the two operands consist of.
  have hknown := htandem.known_contentOf o
  have hknown' := htandem.known_contentOf p
  simp only [htandem.contentOf_eq, htandem.typeName_eq]
  cases hleft : m.contentOf o with
  | literal a =>
      cases hright : m.contentOf p with
      | literal b =>
          simp only [Content.map]
          split
          · exact follows_computed _
          · exact follows_fail _ _
      | _ => exact follows_fail _ _
  | tuple a =>
      cases hright : m.contentOf p with
      | tuple b =>
          rw [hleft] at hknown
          rw [hright] at hknown'
          simp only [Content.map, ← List.map_append, Nature.ofItems_map]
          refine follows_make _ rfl fun q hq => ?_
          rcases List.mem_append.mp hq with hq | hq
          · exact hknown q hq
          · exact hknown' q hq
      | _ => exact follows_fail _ _
  | standIn => exact follows_make _ rfl (by simp [Content.objects])
  | _ => exact follows_fail _ _

theorem spares_raisedParts {s : SpaceId} {e : Expr} (he : c.Spares s (.expr e)) :
    c.Spares s (.expr (raisedParts e).1) ∧
      ∀ arg ∈ (raisedParts e).2, c.Spares s (.expr arg) := by
  unfold raisedParts
  split
  · refine ⟨he.part List.mem_cons_self, fun arg harg => he.part ?_⟩
    exact List.mem_cons_of_mem _ (List.mem_append_left _ (List.mem_map_of_mem harg))
  · exact ⟨he, by simp⟩

theorem follows_raise {count : Nat} {l l' : Locals} (hl : c.PairsLocals f.kind count l l')
    (line : Nat) {e : Expr} (he : c.Spares f.space (.expr e)) :
    Follows c strict count (fun _ _ _ => True) (raise f l line e)
      (raise (f.hinted lazy) l' line e) := by
  obtain ⟨hcls, hargs⟩ := spares_raisedParts he
  unfold raise
  refine follows_bind (follows_evaluate hl _ hcls) ?_
  rintro count₁ hle₁ o _ ⟨rfl, -⟩
  refine follows_bind (follows_evaluateAll (hl.mono hle₁) _ hargs) ?_
  rintro count₂ - given _ ⟨rfl, -⟩
  -- Only what a library offers under a name can be raised, and a registry is none of it.
  cases o with
  | offered library kind =>
      cases kind with
      | none => exact follows_fail _ _
      | some kind =>
          simp only [Pairing.object]
          split
          · rcases given with _ | ⟨arg, _ | ⟨other, rest⟩⟩
            · exact follows_fail _ _
            · refine follows_bind follows_get ?_
              rintro count₃ - m n ⟨htandem, -⟩
              rw [htandem.contentOf_eq]
              cases m.contentOf arg with
              | literal v =>
                  simp only [Content.map]
                  split <;> exact follows_fail _ _
              | _ => exact follows_fail _ _
            · exact follows_fail _ _
          · exact follows_fail _ _
  | _ => exact follows_fail _ _

/-! ## Imports -/

/-- The name that is given to what an import is of, or else its own, is one of its names. -/
theorem Source.Alias.getD_mem_names (a : Alias) : a.asName.getD a.name ∈ a.names := by
  cases h : a.asName <;> simp [Alias.names, h]

theorem Tandem.answers_offered {m n : Memory} (h : Tandem c m n) (s : SpaceId) {name : String}
    (hname : name ≠ markerName) :
    Answers (c.Pairs m.registries) (offered m s name) (offered n s name) := by
  simp only [offered, h.attribute?_eq s hname, h.nameOf_eq, h.module?_eq, h.record_eq]
  by_cases hkey : name = hintsKey
  · rw [if_pos hkey, if_pos hkey]
    exact .error _
  rw [if_neg hkey, if_neg hkey]
  cases hcell : m.attribute? s name with
  | some o => exact .ok ⟨rfl, h.known_own _ _ _ hcell⟩
  | none =>
      simp only [Option.map_none]
      split
      · exact .ok (Pairing.pairs_self (by simp))
      · exact .error _

theorem answers_libraryOffer (count : Nat) (library name : String) :
    Answers (c.Pairs count) (libraryOffer library name) (libraryOffer library name) := by
  refine Answers.refl fun o ho => Pairing.pairs_self fun id hid => ?_
  subst hid
  unfold libraryOffer at ho
  split at ho <;> simp at ho

theorem Tandem.importedName {m n : Memory} (h : Tandem c m n) (level : Nat)
    (name : Option String) :
    (f.hinted lazy).importedName n level name = f.importedName m level name := by
  unfold Frame.importedName
  rw [show (f.hinted lazy).space = f.space from rfl, h.text_own_eq f.space (by decide)]

theorem follows_bindImports {count : Nat} {l l' : Locals}
    (hl : c.PairsLocals f.kind count l l') (line : Nat)
    {ask : String → Memory → Except Reason Object} {names : List Alias}
    (hask : ∀ a ∈ names, ∀ m n, Tandem c m n →
      Answers (c.Pairs m.registries) (ask a.name m) (ask a.name n))
    (hnames : f.space = c.home → ∀ a ∈ names, a.asName.getD a.name ∉ markerName :: givenNames) :
    Follows c strict count (c.PairsLocals f.kind) (bindImports f line ask l names)
      (bindImports (f.hinted lazy) line ask l' names) := by
  induction names generalizing l l' count with
  | nil => exact follows_pure fun _ hle => hl.mono hle
  | cons a rest ih =>
      obtain ⟨ha, hrest⟩ := List.forall_mem_cons.mp hask
      refine follows_bind follows_get ?_
      rintro count₁ hle₁ m n ⟨htandem, rfl⟩
      refine follows_bind
        (follows_lift line (fun _ hle _ _ h => h.mono hle) (ha m n htandem)) ?_
      intro count₂ hle₂ o o' ho
      -- What one name is bound to may have made registries, so the others are bound after that.
      have hname := fun hs => hnames hs a List.mem_cons_self
      refine follows_bind (follows_store (hl.mono (Nat.le_trans hle₁ hle₂)) ho hname) ?_
      intro count₃ _ l₃ l₃' hl₃
      exact ih hl₃ hrest fun hs b hb => hnames hs b (List.mem_cons_of_mem _ hb)

/-- That an importer keeps memories alike. -/
def Importer.KeepsAlike (importer : Importer) (c : Pairing) : Prop :=
  ∀ name count, Follows c true count (fun _ _ _ => True) (importer name) (importer name)

theorem follows_loadPart {importer : Importer} (himporter : importer.KeepsAlike c)
    {count : Nat} (s : SpaceId) {name : String} (hname : name ≠ markerName) :
    Follows c true count (fun _ _ _ => True) (loadPart importer s name)
      (loadPart importer s name) := by
  refine follows_bind follows_get ?_
  rintro count' - m n ⟨htandem, -⟩
  simp only [htandem.attribute?_eq s hname, htandem.record_eq, htandem.nameOf_eq,
    Option.isNone_map]
  -- A part is loaded if the module does not have it; that it cannot be found is no fault.
  split
  · refine follows_tryCatch (himporter _ _) fun count'' _ fault => ?_
    split
    · split
      · exact follows_pure fun _ _ => trivial
      · exact follows_fail _ _
    · exact follows_fail _ _
  · exact follows_pure fun _ _ => trivial

theorem Tandem.answers_descend {m n : Memory} (h : Tandem c m n) (parts : List String)
    (hparts : markerName ∉ parts) {o o' : Object} (ho : c.Pairs m.registries o o') :
    Answers (c.Pairs m.registries) (descend m o parts) (descend n o' parts) := by
  induction parts generalizing o o' with
  | nil => exact .ok ho
  | cons part rest ih =>
      have hpart : markerName ≠ part := List.ne_of_not_mem_cons hparts
      have hrest : markerName ∉ rest := List.not_mem_of_not_mem_cons hparts
      obtain ⟨rfl, -⟩ := ho
      -- Only a module has parts to go down to.
      cases o with
      | module s =>
          have hoffered := h.answers_offered s (Ne.symm hpart)
          simp only [Pairing.object, descend]
          generalize offered m s part = r at hoffered
          generalize offered n s part = r' at hoffered
          cases hoffered with
          | ok ho => exact ih hrest ho
          | error reason => exact .error reason
      | _ => exact .error _

variable {importer : Importer}

theorem follows_importFrom (himporter : importer.KeepsAlike c) {count : Nat} {l l' : Locals}
    (hl : c.PairsLocals f.kind count l l') (line : Nat) (name : Option String)
    {names : List Alias} (level : Nat)
    (h : ∀ a ∈ names, c.Spares f.space (.importAlias a)) :
    Follows c strict count (c.PairsLocals f.kind) (importFrom importer f l line name names level)
      (importFrom importer (f.hinted lazy) l' line name names level) := by
  have hasked : ∀ a ∈ names, a.name ≠ markerName := fun a ha hname =>
    (h a ha).self.1 (by simp [Node.asked, hname])
  have hbound : f.space = c.home →
      ∀ a ∈ names, a.asName.getD a.name ∉ markerName :: givenNames := fun hs a ha =>
    (h a ha).self.2 hs _ (Alias.getD_mem_names a)
  refine follows_bind follows_get ?_
  rintro count₁ hle₁ m n ⟨htandem, rfl⟩
  rw [htandem.importedName]
  refine follows_bind (P := fun _ a b => a = b) (follows_lift line (fun _ _ _ _ h => h)
    (Answers.refl fun _ _ => rfl)) ?_
  rintro count₂ hle₂ target _ rfl
  have hl := hl.mono (Nat.le_trans hle₁ hle₂)
  -- A library's names are the same in every memory; any other module is loaded first.
  split
  · exact follows_bindImports hl line (fun a _ m n _ => answers_libraryOffer _ _ _) hbound
  · refine follows_bind (himporter target _).lenient ?_
    intro count₃ hle₃ _ _ _
    refine follows_bind follows_get ?_
    rintro count₄ hle₄ m₄ n₄ ⟨htandem₄, -⟩
    rw [htandem₄.module?_eq]
    split
    · exact follows_fail _ _
    · next s _ =>
      refine follows_bind (follows_forM fun a ha _ =>
        (follows_loadPart himporter s (hasked a ha)).lenient) ?_
      intro count₅ hle₅ _ _ _
      have hle := Nat.le_trans hle₃ (Nat.le_trans hle₄ hle₅)
      exact follows_bindImports (hl.mono hle) line
        (fun a ha m n htandem => htandem.answers_offered s (hasked a ha)) hbound

theorem follows_importModule (himporter : importer.KeepsAlike c) {count : Nat} {l l' : Locals}
    (hl : c.PairsLocals f.kind count l l') (line : Nat) {a : Alias}
    (h : c.Spares f.space (.importAlias a)) :
    Follows c strict count (c.PairsLocals f.kind) (importModule importer f l line a)
      (importModule importer (f.hinted lazy) l' line a) := by
  have hused : f.space = c.home → ∀ name ∈ a.names, name ∉ markerName :: givenNames := h.self.2
  have hparts : markerName ∉ nameParts a.name :=
    fun hname => h.self.1 (List.mem_cons_of_mem _ hname)
  unfold importModule
  split
  · exact follows_store hl (Pairing.pairs_self (by simp)) fun hs =>
      hused hs _ a.getD_mem_names
  · refine follows_bind (himporter _ _).lenient ?_
    intro count₁ hle₁ _ _ _
    refine follows_bind (himporter _ _).lenient ?_
    intro count₂ hle₂ _ _ _
    refine follows_bind follows_get ?_
    rintro count₃ hle₃ m n ⟨htandem, -⟩
    have hl := hl.mono (Nat.le_trans hle₁ (Nat.le_trans hle₂ hle₃))
    rw [htandem.module?_eq]
    split
    · exact follows_fail _ _
    · next s _ =>
      -- A module is no registry, so that it has the same number in both memories.
      have hmodule : ∀ count, c.Pairs count (.module s) (.module s) := fun _ =>
        Pairing.pairs_self (by simp)
      split
      · refine follows_store hl (hmodule _) fun hs => ?_
        -- The outermost package is named by the first part.
        cases hfirst : nameParts a.name with
        | nil => decide
        | cons top rest => exact hused hs top (by simp [Alias.names, hfirst])
      · next asName hname =>
        refine follows_bind follows_get ?_
        rintro count₄ hle₄ m₄ n₄ ⟨htandem₄, rfl⟩
        have hdescend := htandem₄.answers_descend ((nameParts a.name).drop 1)
          (fun hmem => hparts (List.mem_of_mem_drop hmem)) (hmodule _)
        refine follows_bind (follows_lift line (fun _ hle _ _ ho => ho.mono hle) hdescend) ?_
        intro count₅ hle₅ o o' ho
        exact follows_store (hl.mono (Nat.le_trans hle₄ hle₅)) ho fun hs =>
          hused hs asName (by simp [Alias.names, hname])

theorem follows_importModules (himporter : importer.KeepsAlike c) {count : Nat} {l l' : Locals}
    (hl : c.PairsLocals f.kind count l l') (line : Nat) {names : List Alias}
    (h : ∀ a ∈ names, c.Spares f.space (.importAlias a)) :
    Follows c strict count (c.PairsLocals f.kind) (importModules importer f line l names)
      (importModules importer (f.hinted lazy) line l' names) := by
  induction names generalizing l l' count with
  | nil => exact follows_pure fun _ hle => hl.mono hle
  | cons a rest ih =>
      obtain ⟨ha, hrest⟩ := List.forall_mem_cons.mp h
      exact follows_bind (follows_importModule himporter hl line ha) fun _ _ _ _ hl' =>
        ih hl' hrest

/-! ## Statements -/

/-- That statements have gone on alike: none of them has returned. -/
structure Pairing.PairsProgress (c : Pairing) (kind : BodyKind) (count : Nat) (p p' : Progress) :
    Prop where
  names : c.PairsLocals kind count p.1 p'.1
  goesOn : p.2 = none
  goesOn' : p'.2 = none

theorem follows_goesOn {count : Nat} {x y : Run Locals}
    (h : Follows c strict count (c.PairsLocals f.kind) x y) :
    Follows c strict count (c.PairsProgress f.kind) (x >>= fun l => pure (l, none))
      (y >>= fun l => pure (l, none)) :=
  follows_bind h fun _ _ _ _ hl => follows_pure fun _ hle => ⟨hl.mono hle, rfl, rfl⟩

theorem follows_assign {count : Nat} {l l' : Locals} (hl : c.PairsLocals f.kind count l l')
    {targets : List Expr} {value : Expr} {span : Span}
    (h : c.Spares f.space (.stmt (.assign targets value span))) :
    Follows c strict count (c.PairsProgress f.kind)
      (execute importer f l (.assign targets value span))
      (execute importer (f.hinted lazy) l' (.assign targets value span)) := by
  have htargets : ∀ e ∈ targets, c.Spares f.space (.expr e) := fun e he =>
    h.part (List.mem_append_left _ (List.mem_map_of_mem he))
  have hvalue : c.Spares f.space (.expr value) :=
    h.part (List.mem_append_right _ List.mem_cons_self)
  refine follows_bind (follows_evaluate hl value hvalue) ?_
  intro count₁ hle₁ o o' ho
  exact follows_goesOn (follows_storeAll ho _ (hl.mono hle₁) htargets)

theorem follows_annAssign (hhints : Hints c strict f (!f.lazyHints) (!lazy)) {count : Nat}
    {l l' : Locals} (hl : c.PairsLocals f.kind count l l') {target hint : Expr}
    {value : Option Expr} {simple : Bool} {span : Span}
    (h : c.Spares f.space (.stmt (.annAssign target hint value simple span))) :
    Follows c strict count (c.PairsProgress f.kind)
      (execute importer f l (.annAssign target hint value simple span))
      (execute importer (f.hinted lazy) l' (.annAssign target hint value simple span)) := by
  -- The annotation comes last, with a value and without one.
  have hrest {count' : Nat} {l₁ l₁' : Locals} (hl₁ : c.PairsLocals f.kind count' l₁ l₁') :=
    follows_hint (P := c.PairsProgress f.kind) hhints.evaluatesHints (quiet_checkHint l₁ hint)
      (y := checkHint (f.hinted lazy) l₁' hint) (p := pure (l₁, none)) (q := pure (l₁', none))
      (fun hspace => follows_checkHint hl₁ hspace hint)
      (fun _ hle => follows_pure fun _ hle' => ⟨(hl₁.mono hle).mono hle', rfl, rfl⟩)
  cases value with
  | none =>
      exact follows_bind (follows_pure fun _ hle => hl.mono hle) fun _ _ _ _ hl₁ => hrest hl₁
  | some e =>
      have he : c.Spares f.space (.expr e) := h.part (by simp [Node.running, Node.ofExpr?])
      refine follows_bind (follows_evaluate hl e he) ?_
      intro count₁ hle₁ o o' ho
      refine follows_bind (follows_storeAll ho _ (hl.mono hle₁) (List.forall_mem_singleton.mpr
        (h.part List.mem_cons_self))) ?_
      exact fun _ _ _ _ hl₁ => hrest hl₁

theorem follows_augAssign {count : Nat} {l l' : Locals} (hl : c.PairsLocals f.kind count l l')
    {target value : Expr} {op : BinaryOp} {span : Span}
    (h : c.Spares f.space (.stmt (.augAssign target op value span))) :
    Follows c strict count (c.PairsProgress f.kind)
      (execute importer f l (.augAssign target op value span))
      (execute importer (f.hinted lazy) l' (.augAssign target op value span)) := by
  have htarget : c.Spares f.space (.expr target) := h.part List.mem_cons_self
  have hvalue : c.Spares f.space (.expr value) :=
    h.part (List.mem_cons_of_mem _ List.mem_cons_self)
  -- Only an addition to a name is carried out.
  cases target with
  | name id usage place =>
      cases op with
      | add =>
          have hid : f.space = c.home → id ∉ markerName :: givenNames := by
            simpa [Node.used] using htarget.self.2
          refine follows_bind (follows_find hl
            (fun hs hmarker => hid hs (hmarker ▸ List.mem_cons_self)) _) ?_
          intro count₁ hle₁ old old' hold
          refine follows_bind (follows_evaluate (hl.mono hle₁) value hvalue) ?_
          intro count₂ hle₂ p p' hp
          refine follows_bind (follows_addTo (hold.mono hle₂) hp _) ?_
          intro count₃ hle₃ o o' ho
          have hl := hl.mono (Nat.le_trans hle₁ (Nat.le_trans hle₂ hle₃))
          exact follows_goesOn (follows_store hl ho hid)
      | _ => exact follows_fail _ _
  | _ => exact follows_fail _ _

theorem follows_function (hhints : Hints c strict f (!f.lazyHints) (!lazy)) {count : Nat}
    {l l' : Locals} (hl : c.PairsLocals f.kind count l l') {name : String} {params : Parameters}
    {body : List Stmt} {returns : Option Expr} {span : Span}
    (h : c.Spares f.space (.stmt (.function false name params body [] returns span))) :
    Follows c strict count (c.PairsProgress f.kind)
      (execute importer f l (.function false name params body [] returns span))
      (execute importer (f.hinted lazy) l' (.function false name params body [] returns span)) := by
  have hname : f.space = c.home → name ∉ markerName :: givenNames := by
    simpa [Node.used] using h.self.2
  -- The body is not run where the function is declared, but its defaults are evaluated.
  have hdefaults : ∀ e ∈ params.defaults, c.Spares f.space (.expr e) := fun e he =>
    (h.part List.mem_cons_self).part (List.mem_map_of_mem he)
  refine follows_bind (P := fun _ _ _ => True) (follows_bind
    (follows_evaluateAll hl _ hdefaults) fun _ _ _ _ _ => follows_pure fun _ _ => trivial) ?_
  intro count₁ hle₁ _ _ _
  have hl := hl.mono hle₁
  refine follows_hint hhints (quiet_checkHints l _)
    (y := checkHints (f.hinted lazy) l' _) (fun hspace => follows_checkHints hl hspace _)
    fun count₂ hle₂ => ?_
  refine follows_bind (follows_make _ rfl (by simp [Content.objects])) ?_
  intro count₃ hle₃ o o' ho
  exact follows_goesOn (follows_store (hl.mono (Nat.le_trans hle₂ hle₃)) ho hname)

mutual

/-- **A statement that is spared from the marker keeps memories in tandem.**  By induction on the
statement, with that of lists of them for the bodies of classes and conditions; the kinds of
statement that have no body, or do not run it, are done above.  Outside a function there is no
`return`, so that no list of statements ends early. -/
theorem follows_execute (himporter : importer.KeepsAlike c) {f : Frame}
    (hhints : Hints c strict f (!f.lazyHints) (!lazy))
    {here : Placement.Setting} (hhere : here.inFunction = false) {count : Nat} {l l' : Locals}
    (hl : c.PairsLocals f.kind count l l') :
    (s : Stmt) → c.Spares f.space (.stmt s) → Placement.isMisplaced here s = false →
      Follows c strict count (c.PairsProgress f.kind) (execute importer f l s)
        (execute importer (f.hinted lazy) l' s)
  | .pass _, _, _ | .global _ _, _, _ => follows_pure fun _ hle => ⟨hl.mono hle, rfl, rfl⟩
  | .expr e _, h, _ =>
      follows_bind
        (follows_bind (follows_evaluate hl e (h.part List.mem_cons_self)) fun _ _ _ _ _ =>
          follows_pure (P := fun _ _ _ => True) fun _ _ => trivial)
        fun _ hle _ _ _ => follows_pure fun _ hle' => ⟨(hl.mono hle).mono hle', rfl, rfl⟩
  | .assign _ _ _, h, _ => follows_assign hl h
  | .annAssign _ _ _ _ _, h, _ => follows_annAssign hhints hl h
  | .augAssign _ _ _ _, h, _ => follows_augAssign hl h
  | .function true .., _, _ | .function false _ _ _ (_ :: _) .., _, _ => follows_fail _ _
  | .function false _ _ _ [] _ _, h, _ => follows_function hhints hl h
  | .classDef _ (_ :: _) .., _, _ | .classDef _ [] (_ :: _) .., _, _
  | .classDef _ [] [] _ (_ :: _) _, _, _ => follows_fail _ _
  | .classDef name [] [] body [] span, h, hplaced => by
      have hname : f.space = c.home → name ∉ markerName :: givenNames := by
        simpa [Node.used] using h.self.2
      have hbody : ∀ s ∈ body, c.Spares f.space (.stmt s) := fun s hs =>
        h.part (List.mem_append_left _ (List.mem_append_right _ (List.mem_map_of_mem hs)))
      refine follows_bind (P := fun _ _ _ => True) (follows_bind
        (follows_executeAll himporter (f := { f with kind := .cls }) hhints
          (show (Placement.Setting.mk false false).inFunction = false from rfl) .nil body hbody
          hplaced) fun _ _ _ _ _ => follows_pure fun _ _ => trivial) ?_
      intro count₁ hle₁ _ _ _
      refine follows_bind (follows_make _ rfl (by simp [Content.objects])) ?_
      intro count₂ hle₂ o o' ho
      exact follows_goesOn (follows_store (hl.mono (Nat.le_trans hle₁ hle₂)) ho hname)
  | .if test body orElse span, h, hplaced => by
      have hbody : ∀ s ∈ body, c.Spares f.space (.stmt s) := fun s hs =>
        h.part (List.mem_cons_of_mem _ (List.mem_append_left _ (List.mem_map_of_mem hs)))
      have horElse : ∀ s ∈ orElse, c.Spares f.space (.stmt s) := fun s hs =>
        h.part (List.mem_cons_of_mem _ (List.mem_append_right _ (List.mem_map_of_mem hs)))
      simp only [Placement.isMisplaced, Bool.or_eq_false_iff] at hplaced
      refine follows_bind (follows_evaluate hl test (h.part List.mem_cons_self)) ?_
      rintro count₁ hle₁ o _ ⟨rfl, -⟩
      refine follows_bind follows_get ?_
      rintro count₂ hle₂ m n ⟨htandem, -⟩
      rw [htandem.isTrue_eq]
      have hl := hl.mono (Nat.le_trans hle₁ hle₂)
      split
      · exact follows_executeAll himporter hhints hhere hl body hbody hplaced.1
      · exact follows_executeAll himporter hhints hhere hl orElse horElse hplaced.2
  | .ret _ _, _, hplaced => by simp [Placement.isMisplaced, hhere] at hplaced
  | .raise (some e) none span, h, _ =>
      follows_bind (follows_raise hl _ (h.part (by simp [Node.running, Node.children, Node.ofStmt,
        Node.ofExpr?]))) fun _ hle _ _ _ =>
          follows_pure fun _ hle' => ⟨(hl.mono hle).mono hle', rfl, rfl⟩
  | .raise none _ _, _, _ | .raise (some _) (some _) _, _, _ => follows_fail _ _
  | .importFrom name names level span, h, _ =>
      follows_goesOn (follows_importFrom himporter hl _ _ _ fun a ha =>
        h.part (List.mem_map_of_mem ha))
  | .importModules names span, h, _ =>
      follows_goesOn (follows_importModules himporter hl _ fun a ha =>
        h.part (List.mem_map_of_mem ha))
  | .delete .., _, _ | .for .., _, _ | .while .., _, _ | .with .., _, _ | .match .., _, _
  | .try .., _, _ | .assert .., _, _ | .nonlocal .., _, _ | .break .., _, _
  | .continue .., _, _ => follows_fail _ _

theorem follows_executeAll (himporter : importer.KeepsAlike c) {f : Frame}
    (hhints : Hints c strict f (!f.lazyHints) (!lazy))
    {here : Placement.Setting} (hhere : here.inFunction = false) {count : Nat} {l l' : Locals}
    (hl : c.PairsLocals f.kind count l l') :
    (ss : List Stmt) → (∀ s ∈ ss, c.Spares f.space (.stmt s)) →
      Placement.anyMisplaced here ss = false →
      Follows c strict count (c.PairsProgress f.kind) (executeAll importer f l ss)
        (executeAll importer (f.hinted lazy) l' ss)
  | [], _, _ => follows_pure fun _ hle => ⟨hl.mono hle, rfl, rfl⟩
  | s :: rest, h, hplaced => by
      obtain ⟨hs, hrest⟩ := List.forall_mem_cons.mp h
      simp only [Placement.anyMisplaced, Bool.or_eq_false_iff] at hplaced
      refine follows_bind (follows_execute himporter hhints hhere hl s hs hplaced.1) ?_
      rintro count₁ hle₁ ⟨l₁, _⟩ ⟨l₁', _⟩ ⟨hl₁, rfl, rfl⟩
      exact follows_executeAll himporter hhints hhere hl₁ rest hrest hplaced.2

end

end

end Standin
