/-
The list of finders, whatever other code does to it.

Other code may put finders into the list and take them out, those of this kind included, so
that the list and what is known of it drift apart: the registered finder may be gone, and
more of its kind may stand anywhere.  A call relies on neither.  It takes the registered
finder out and then everything of its kind, and what the list holds afterwards is told by
the finders of other kinds alone (`finders_unregister`, `finders_register`).

That the finder in front is the registered one, and no other, rests on the numbers by which
finders are told apart: those of the finders in the list have been given out already, through
all changes (`Numbered.changeAll`), and a new finder gets the next one.
-/
import Standin.Hook

set_option autoImplicit false

namespace Standin

/-! ## Taking finders out -/

/-- Taking out something that is filtered out anyway changes nothing. -/
theorem filter_eraseP {α : Type} {p q : α → Bool} (h : ∀ a, p a = true → q a = false)
    (l : List α) : (l.eraseP p).filter q = l.filter q := by
  induction l with
  | nil => rfl
  | cons a l ih =>
      by_cases hp : p a = true
      · rw [List.eraseP_cons_of_pos hp, List.filter_cons_of_neg (by simp [h a hp])]
      · rw [List.eraseP_cons_of_neg hp]
        simp only [List.filter_cons, ih]

namespace ListedFinder

@[simp] theorem isOwn_own (id : Nat) (f : Finder) : (own id f).isOwn = true := rfl

@[simp] theorem isOwn_foreign (id : Nat) : (foreign id).isOwn = false := rfl

theorem isOwn_of_ownId? {l : ListedFinder} {id : Nat} (h : l.ownId? = some id) :
    l.isOwn = true := by
  cases l with
  | foreign _ => cases h
  | own _ _ => rfl

end ListedFinder

namespace Hooks

variable {h : Hooks}

/-- The finders of other kinds, in their order. -/
def others (h : Hooks) : List ListedFinder := h.finders.filter (!·.isOwn)

/-- Both ways of taking out come to one: everything of this kind goes. -/
@[simp] theorem finders_unregister (h : Hooks) : h.unregister.finders = h.others := by
  unfold unregister withoutRegistered others
  cases h.registered with
  | none => rfl
  | some id =>
      refine filter_eraseP (fun l hl => ?_) h.finders
      simp [ListedFinder.isOwn_of_ownId? (by simpa using hl)]

@[simp] theorem finders_register (h : Hooks) (f : Finder) :
    (h.register f).finders = .own h.next f :: h.others := by
  simp [register, unregister, ← finders_unregister]

theorem isOwn_of_mem_others {l : ListedFinder} (hl : l ∈ h.others) : l.isOwn = false := by
  simpa using (List.mem_filter.mp hl).2

@[simp] theorem others_unregister (h : Hooks) : h.unregister.others = h.others := by
  rw [others, finders_unregister, others, List.filter_filter]
  simp

@[simp] theorem others_register (h : Hooks) (f : Finder) : (h.register f).others = h.others := by
  rw [others, finders_register, List.filter_cons_of_neg (by simp), others, List.filter_filter]
  simp

/-- Where nothing is of this kind, no finder of it has a place. -/
theorem filterMap_own_zipIdx {l : List ListedFinder} (hl : ∀ x ∈ l, x.isOwn = false) (n : Nat) :
    ((l.zipIdx n).filterMap fun (f, i) => f.own?.map fun f => (i, f)) = [] := by
  induction l generalizing n with
  | nil => rfl
  | cons x l ih =>
      obtain ⟨hx, hrest⟩ := List.forall_mem_cons.mp hl
      cases x with
      | own id f => simp at hx
      | foreign id => exact ih hrest (n + 1)

theorem ownFinders_ofForeign (ids : List Nat) : (ofForeign ids).ownFinders = [] :=
  filterMap_own_zipIdx (by simp [ofForeign]) 0

theorem ownFinders_unregister (h : Hooks) : h.unregister.ownFinders = [] := by
  rw [ownFinders, finders_unregister]
  exact filterMap_own_zipIdx (fun _ => isOwn_of_mem_others) 0

theorem ownFinders_register (h : Hooks) (f : Finder) : (h.register f).ownFinders = [(0, f)] := by
  rw [ownFinders, finders_register, List.zipIdx_cons, List.filterMap_cons]
  exact congrArg _ (filterMap_own_zipIdx (fun _ => isOwn_of_mem_others) 1)

/-! ## Changes of the list -/

/-- What is done to the list: a call, or a change that other code makes. -/
inductive Change where
  | register (f : Finder)
  | unregister
  /-- Other code puts a finder of any kind at a place; past the end, it comes last. -/
  | insert (place : Nat) (l : ListedFinder)
  /-- Other code takes out the finder at a place. -/
  | remove (place : Nat)

/-- The list after a change. -/
def change (h : Hooks) : Change → Hooks
  | .register f => h.register f
  | .unregister => h.unregister
  | .insert place l =>
    { h with
      finders := h.finders.take place ++ l :: h.finders.drop place
      -- The number of a finder that other code has made is not given out again.
      next := max h.next (l.ownId?.elim 0 (· + 1)) }
  | .remove place => { h with finders := h.finders.eraseIdx place }

/-- The list after changes, one after the other. -/
def changeAll (h : Hooks) (changes : List Change) : Hooks := changes.foldl change h

/-- That the numbers of all finders of this kind in the list have been given out. -/
def Numbered (h : Hooks) : Prop := ∀ l ∈ h.finders, ∀ id, l.ownId? = some id → id < h.next

namespace Numbered

theorem ofForeign (ids : List Nat) : (Hooks.ofForeign ids).Numbered := by
  intro l hl id hid
  obtain ⟨n, -, rfl⟩ := List.mem_map.mp hl
  cases hid

theorem change (hn : h.Numbered) (c : Change) : (h.change c).Numbered := by
  intro l hl id hid
  cases c with
  | register f =>
      simp only [Hooks.change, finders_register, List.mem_cons] at hl
      obtain rfl | hl := hl
      · cases hid
        exact Nat.lt_succ_self _
      · exact Nat.lt_succ_of_lt (hn l (List.mem_filter.mp hl).1 id hid)
  | unregister =>
      simp only [Hooks.change, finders_unregister] at hl
      exact hn l (List.mem_filter.mp hl).1 id hid
  | insert place new =>
      simp only [Hooks.change, List.mem_append, List.mem_cons] at hl ⊢
      obtain hl | rfl | hl := hl
      · exact Nat.lt_of_lt_of_le (hn l (List.mem_of_mem_take hl) id hid) (Nat.le_max_left _ _)
      · rw [hid]
        exact Nat.le_max_right h.next (id + 1)
      · exact Nat.lt_of_lt_of_le (hn l (List.mem_of_mem_drop hl) id hid) (Nat.le_max_left _ _)
  | remove place => exact hn l (List.mem_of_mem_eraseIdx hl) id hid

theorem changeAll (hn : h.Numbered) (changes : List Change) : (h.changeAll changes).Numbered := by
  induction changes generalizing h with
  | nil => exact hn
  | cons c changes ih => exact ih (hn.change c)

end Numbered

/-- **Calls leave one finder or none, in every list.**  After any changes that calls and other code
have made, registering leaves exactly one finder of this kind in the list: the registered one, which
is new, in front.  Unregistering leaves none, and none is registered.  The finders of other kinds
stay in both cases, in their order and as often. -/
theorem changeAll_register_unregister (ids : List Nat) (changes : List Change) :
    let before := (ofForeign ids).changeAll changes
    (∀ f, let after := before.change (.register f)
      ∃ id, after.registered = some id ∧ after.finders = .own id f :: before.others ∧
        after.ownFinders = [(0, f)] ∧ after.others = before.others ∧
        ∀ l ∈ before.finders, l.ownId? ≠ some id) ∧
    let after := before.change .unregister
    after.registered = none ∧ after.finders = before.others ∧ after.ownFinders = [] ∧
      after.others = before.others := by
  intro before
  have hn : before.Numbered := (Numbered.ofForeign ids).changeAll changes
  refine ⟨fun f => ⟨before.next, rfl, finders_register before f, ownFinders_register before f,
    others_register before f, fun l hl hid => ?_⟩, rfl, finders_unregister before,
    ownFinders_unregister before, others_unregister before⟩
  exact Nat.lt_irrefl _ (hn l hl _ hid)

end Hooks

end Standin
