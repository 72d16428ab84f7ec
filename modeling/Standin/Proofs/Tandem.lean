/-
Memories that are alike but for the marker of one module.

When a module is run as it stands and once more as an opened one, the second memory holds a
registry that the first one does not, so that all registries made later have other numbers
there.  A `Pairing` says for which space the two may differ and which registry came in
between; along it every object of the first memory has one of the second that is like it
(`Pairing.object`).  Two memories are in tandem if all that they hold is alike in this sense,
but for what the marker stands for in that one space.

Nothing that a memory says of an object tells one memory from the other: what an object
consists of, its type, whether it is true, and how it looks (`Tandem.view_eq`).  And every
change that a running module can make keeps them in tandem, if it is made to both and does
not touch the marker there.  The names that the registry's own statement needs have to stay
free in that space as well (`givenNames`); they are kept with the rest.
-/
import Standin.Program
import Standin.Proofs.Writing

set_option autoImplicit false

namespace Standin

open Source

/-! ## Renaming registries -/

/-- That an object is no registry but one of the first `count`. -/
def Object.Known (count : Nat) : Object → Prop
  | .registry id => id < count
  | _ => True

theorem Object.Known.mono {count count' : Nat} {o : Object} (h : o.Known count)
    (hle : count ≤ count') : o.Known count' := by
  cases o with
  | registry id => exact Nat.lt_of_lt_of_le h hle
  | _ => trivial

namespace Content

/-- The objects that an object consists of. -/
def objects : Content → List Object
  | .list items | .tuple items => items
  | .dict entries => entries.map Prod.fst ++ entries.map Prod.snd
  | _ => []

/-- What is made of other objects in the same way. -/
def map (f : Object → Object) : Content → Content
  | .list items => .list (items.map f)
  | .tuple items => .tuple (items.map f)
  | .dict entries => .dict (entries.map (Prod.map f f))
  | c => c

end Content

/-- How two memories are compared: at which space the marker is left out, and which registry there
is in the second one only, if there is one. -/
structure Pairing where
  home : SpaceId
  extra : Option (Nat × Registry)

namespace Pairing

variable (c : Pairing)

/-- The number that a registry of the first memory has in the second. -/
def index (id : Nat) : Nat :=
  match c.extra with
  | none => id
  | some (k, _) => if id < k then id else id + 1

/-- The object of the second memory that is like one of the first. -/
def object : Object → Object
  | .registry id => .registry (c.index id)
  | o => o

theorem index_injective : Function.Injective c.index := by
  intro i j h
  unfold index at h
  -- Without a registry in between the numbers are the same; with one, those from it on are one
  -- higher.
  split at h
  · exact h
  · split at h <;> split at h <;> omega

theorem object_injective : Function.Injective c.object := by
  intro o o' h
  cases o <;> cases o' <;> simp_all [object, c.index_injective.eq_iff]

end Pairing

/-- That an object of the second memory is like one of the first, of which there are `count`
registries. -/
structure Pairing.Pairs (c : Pairing) (count : Nat) (o o' : Object) : Prop where
  eq : o' = c.object o
  known : o.Known count

/-- That the names of a body stand for objects that are like each other.  The body of a module has
no names but those in its space. -/
structure Pairing.PairsLocals (c : Pairing) (kind : BodyKind) (count : Nat) (l l' : Locals) :
    Prop where
  get?_eq : ∀ name, l'.get? name = (l.get? name).map c.object
  known : ∀ name o, l.get? name = some o → o.Known count
  empty : kind = .module → l = [] ∧ l' = []

/-- The names under which the registry's statement needs to find what is there in every module. -/
def givenNames : List String := ["__import__", "globals"]

/-- That two memories are alike but for the marker at one place. -/
structure Tandem (c : Pairing) (m n : Memory) : Prop where
  own_eq : ∀ s name, ¬ (s = c.home ∧ name = markerName) →
    n.world.own s name = (m.world.own s name).map c.object
  loaded_eq : n.world.loaded = m.world.loaded
  nextObject_eq : n.world.nextObject = m.world.nextObject
  events_eq : n.world.events = m.world.events
  content_eq : ∀ id, n.content id = (m.content id).map c.object
  record_eq : n.record = m.record
  spaces_eq : n.spaces = m.spaces
  unreadable_eq : n.unreadable = m.unreadable
  registries_eq : n.registries = c.index m.registries
  registry_eq : ∀ id < m.registries, n.world.registry (c.index id) = m.world.registry id
  known_own : ∀ s name o, m.world.own s name = some o → o.Known m.registries
  known_content : ∀ id, ∀ o ∈ (m.content id).objects, o.Known m.registries
  home_lt : c.home < m.spaces
  given_free : ∀ name ∈ givenNames, m.world.own c.home name = none
  extra : ∀ k r, c.extra = some (k, r) → k ≤ m.registries ∧
    n.world.own c.home markerName = some (.registry k) ∧ n.world.registry k = r

/-! ## What memories say of objects that are alike -/

namespace Pairing

variable {c : Pairing} {count count' : Nat} {o o' : Object}

theorem Pairs.mono (h : c.Pairs count o o') (hle : count ≤ count') : c.Pairs count' o o' :=
  ⟨h.eq, h.known.mono hle⟩

theorem PairsLocals.mono {kind : BodyKind} {l l' : Locals} (h : c.PairsLocals kind count l l')
    (hle : count ≤ count') : c.PairsLocals kind count' l l' :=
  { h with known := fun name o ho => (h.known name o ho).mono hle }

theorem PairsLocals.nil {kind : BodyKind} : c.PairsLocals kind count [] [] :=
  ⟨fun _ => rfl, by simp, fun _ => ⟨rfl, rfl⟩⟩

theorem PairsLocals.put {kind : BodyKind} {l l' : Locals} (h : c.PairsLocals kind count l l')
    (hkind : kind ≠ .module) (ho : c.Pairs count o o') (name : String) :
    c.PairsLocals kind count (l.put name o) (l'.put name o') := by
  refine ⟨?_, ?_, fun hmodule => absurd hmodule hkind⟩
  · intro other
    rw [Table.get?_put, Table.get?_put, ho.eq, h.get?_eq]
    split <;> rfl
  · intro other p hp
    rw [Table.get?_put] at hp
    split at hp
    · cases hp
      exact ho.known
    · exact h.known other p hp

/-- An object that is no registry is like itself. -/
theorem pairs_self (h : ∀ id, o ≠ .registry id) : c.Pairs count o o := by
  cases o with
  | registry id => exact absurd rfl (h id)
  | _ => exact ⟨rfl, trivial⟩

@[simp] theorem text?_object (o : Object) : (c.object o).text? = o.text? := by
  cases o <;> rfl

@[simp] theorem name?_object (o : Object) : (c.object o).name? = o.name? := by
  cases o <;> rfl

end Pairing

theorem Content.map_congr {f g : Object → Object} {x : Content} (h : ∀ o ∈ x.objects, f o = g o) :
    x.map f = x.map g := by
  cases x with
  | list items => exact congrArg Content.list (List.map_congr_left h)
  | tuple items => exact congrArg Content.tuple (List.map_congr_left h)
  | dict entries =>
      refine congrArg Content.dict (List.map_congr_left fun e he => ?_)
      have hkey := h e.1 (List.mem_append_left _ (List.mem_map_of_mem he))
      have hvalue := h e.2 (List.mem_append_right _ (List.mem_map_of_mem he))
      exact Prod.ext hkey hvalue
  | _ => rfl

theorem Content.map_id (x : Content) : x.map (fun o => o) = x := by
  cases x <;> simp [Content.map]

/-- A module begins with constants in its space, and in other spaces nothing changes. -/
theorem own_beginModule (name : String) (file : Option Path) (search : Option (List Path)) :
    ∃ cells : Table Object, (∀ other o, cells.get? other = some o → ∃ v, o = .constant none v) ∧
      (∀ other ∈ givenNames, cells.get? other = none) ∧
      ∀ (m : Memory) t other, (m.beginModule name file search).2.world.own t other =
        if t = m.spaces then cells.get? other else m.world.own t other := by
  -- The name, no introduction, the package and, if there is one, the file.
  let package := if search.isSome then name else Package.parent name
  refine ⟨[(World.nameKey, .constant none (.text name)), ("__doc__", .nothing),
    ("__package__", .constant none (.text package))] ++
      (file.map fun p => ("__file__", .constant none (.text p.text))).toList, ?_, ?_, ?_⟩
  · intro other o ho
    cases file <;> simp only [Option.map_none, Option.map_some, Option.toList_none,
      Option.toList_some, List.append_nil, List.cons_append, List.nil_append, Table.get?_cons,
      Table.get?_nil] at ho
    all_goals
      repeat' split at ho
      all_goals first | exact ⟨_, (Option.some.inj ho).symm⟩ | cases ho
  · intro other hother
    simp only [givenNames, List.mem_cons, List.not_mem_nil, or_false] at hother
    obtain rfl | rfl := hother <;> cases file <;> simp [World.nameKey]
  · intro m t other
    simp only [Memory.beginModule, World.own, World.setSpace]
    split <;> rfl

namespace Tandem

variable {c : Pairing} {m n : Memory}

theorem contentOf_eq (h : Tandem c m n) (o : Object) :
    n.contentOf (c.object o) = (m.contentOf o).map c.object := by
  cases o with
  | item id nature =>
      cases nature <;> simp only [Pairing.object, Memory.contentOf, h.content_eq]
      cases m.content id <;> rfl
  | _ => rfl

theorem known_contentOf (h : Tandem c m n) (o : Object) :
    ∀ p ∈ (m.contentOf o).objects, p.Known m.registries := by
  cases o with
  | item id nature =>
      have hknown := h.known_content id
      cases nature <;> simp only [Memory.contentOf] <;> try exact hknown
      split
      · simp [Content.objects]
      · exact hknown
  | _ => simp [Memory.contentOf, Content.objects]

theorem text_own_eq (h : Tandem c m n) (s : SpaceId) {name : String} (hname : name ≠ markerName) :
    (n.world.own s name).bind Object.text? = (m.world.own s name).bind Object.text? := by
  rw [h.own_eq s name (fun hs => hname hs.2)]
  cases m.world.own s name <;> simp

theorem moduleName_eq (h : Tandem c m n) (r : Registry) :
    n.world.moduleName r = m.world.moduleName r := by
  unfold World.moduleName
  rw [h.own_eq r.home World.nameKey (fun hs => absurd hs.2 (by decide))]
  cases m.world.own r.home World.nameKey <;> simp

theorem nameOf_eq (h : Tandem c m n) (s : SpaceId) : n.nameOf s = m.nameOf s := by
  rw [Memory.nameOf, Memory.nameOf, h.text_own_eq s (by decide)]

theorem attribute?_eq (h : Tandem c m n) (s : SpaceId) {name : String}
    (hname : name ≠ markerName) :
    n.attribute? s name = (m.attribute? s name).map c.object :=
  h.own_eq s name fun hs => hname hs.2

theorem module?_eq (h : Tandem c m n) (name : String) :
    n.world.module? name = m.world.module? name := by
  rw [World.module?, World.module?, h.loaded_eq]

theorem typeName_eq (h : Tandem c m n) (o : Object) : n.typeName (c.object o) = m.typeName o := by
  have hcontent := h.contentOf_eq o
  -- Only of an item the type is told by what it consists of.
  cases o with
  | item id nature =>
      simp only [Pairing.object] at hcontent
      simp only [Memory.typeName, Pairing.object, hcontent]
      cases m.contentOf (.item id nature) <;> rfl
  | constant home v => rfl
  | offered library name => cases name <;> rfl
  | _ => rfl

theorem isTrue_eq (h : Tandem c m n) (o : Object) : n.isTrue (c.object o) = m.isTrue o := by
  rw [Memory.isTrue, Memory.isTrue, h.contentOf_eq]
  cases m.contentOf o <;> simp [Content.map]

theorem isHashable_eq (h : Tandem c m n) (o : Object) :
    n.isHashable (c.object o) = m.isHashable o := by
  rw [Memory.isHashable, Memory.isHashable, h.contentOf_eq]
  cases m.contentOf o <;> rfl

theorem isCallable_eq (h : Tandem c m n) (o : Object) :
    n.isCallable (c.object o) = m.isCallable o := by
  have hcontent := h.contentOf_eq o
  cases o with
  | item id nature =>
      simp only [Pairing.object] at hcontent
      simp only [Memory.isCallable, Pairing.object, hcontent]
      cases m.contentOf (.item id nature) <;> rfl
  | offered library name => cases name <;> rfl
  | _ => rfl

theorem isSameKey_eq (h : Tandem c m n) (o p : Object) :
    n.isSameKey (c.object o) (c.object p) = m.isSameKey o p := by
  -- No two objects of the first memory are like the same object of the second.
  have hsame : (c.object o == c.object p) = (o == p) := by
    rw [Bool.eq_iff_iff, beq_iff_eq, beq_iff_eq, c.object_injective.eq_iff]
  rw [Memory.isSameKey, Memory.isSameKey, h.contentOf_eq, h.contentOf_eq, hsame]
  cases m.contentOf o <;> cases m.contentOf p <;> rfl

theorem putEntry_eq (h : Tandem c m n) (key value : Object) (entries : List (Object × Object)) :
    n.putEntry (c.object key) (c.object value) (entries.map (Prod.map c.object c.object)) =
      (m.putEntry key value entries).map (Prod.map c.object c.object) := by
  induction entries with
  | nil => rfl
  | cons entry entries ih =>
      obtain ⟨k, v⟩ := entry
      simp only [List.map_cons, Prod.map_apply, Memory.putEntry, h.isSameKey_eq, ih]
      split <;> simp

/-! ### Changes that keep memories alike -/

theorem make (h : Tandem c m n) (nature : Nature) {x : Content}
    (hknown : ∀ o ∈ x.objects, o.Known m.registries) :
    Tandem c (m.make nature x).2 (n.make nature (x.map c.object)).2 ∧
      c.Pairs m.registries (m.make nature x).1 (n.make nature (x.map c.object)).1 := by
  have hmade : (n.make nature (x.map c.object)).1 = (m.make nature x).1 := by
    simp [Memory.make, World.newObject, h.nextObject_eq]
  refine ⟨{ h with
    nextObject_eq := by simp [Memory.make, World.newObject, h.nextObject_eq]
    content_eq := fun id => ?_
    known_content := fun id => ?_ }, ?_⟩
  · simp only [Memory.make, h.nextObject_eq, h.content_eq]
    split <;> rfl
  · simp only [Memory.make]
    split
    · exact hknown
    · exact h.known_content id
  · rw [hmade]
    exact Pairing.pairs_self (by simp [Memory.make, World.newObject])

theorem put (h : Tandem c m n) {s : SpaceId} {name : String} {o o' : Object}
    (ho : c.Pairs m.registries o o') (hname : s = c.home → name ∉ markerName :: givenNames) :
    Tandem c (m.put s name o) (n.put s name o') := by
  -- Neither the marker nor a given name is touched at the place where the memories may differ.
  have hkept {other : String} (hother : other ∈ markerName :: givenNames) :
      ¬ (c.home = s ∧ other = name) := by
    rintro ⟨rfl, rfl⟩
    exact hname rfl hother
  exact { h with
    own_eq := fun t other hother => by
      simp only [Memory.put, World.own_put, ho.eq, h.own_eq t other hother]
      split <;> rfl
    known_own := fun t other p hp => by
      simp only [Memory.put, World.own_put] at hp
      split at hp
      · cases hp
        exact ho.known
      · exact h.known_own t other p hp
    given_free := fun other hother => by
      simp only [Memory.put, World.own_put, if_neg (hkept (List.mem_cons_of_mem _ hother))]
      exact h.given_free other hother
    extra := fun k r hextra => by
      obtain ⟨hle, hown, hregistry⟩ := h.extra k r hextra
      refine ⟨hle, ?_, hregistry⟩
      simp only [Memory.put, World.own_put, if_neg (hkept List.mem_cons_self)]
      exact hown }

/-- The next registry of the second memory is the one that is like the next one of the first. -/
theorem index_succ (h : Tandem c m n) : c.index (m.registries + 1) = c.index m.registries + 1 := by
  unfold Pairing.index
  split
  · rfl
  · next k r hextra =>
    -- The registry in between is one of those that are there already.
    have hle := (h.extra k r hextra).1
    rw [if_neg (by omega), if_neg (by omega)]

theorem makeRegistry (h : Tandem c m n) (bindings mutables : List String) (s : SpaceId) :
    Tandem c (m.makeRegistry bindings mutables s).2 (n.makeRegistry bindings mutables s).2 ∧
      c.Pairs (m.registries + 1) (m.makeRegistry bindings mutables s).1
        (n.makeRegistry bindings mutables s).1 := by
  have hsucc : m.registries ≤ m.registries + 1 := Nat.le_succ _
  constructor
  · exact { h with
      registries_eq := by
        simp only [Memory.makeRegistry, h.registries_eq, h.index_succ]
      registry_eq := fun id hid => by
        simp only [Memory.makeRegistry, h.registries_eq, World.registry_setRegistry,
          c.index_injective.eq_iff]
        split
        · rfl
        · exact h.registry_eq id (by simp only [Memory.makeRegistry] at hid; omega)
      known_own := fun t name o ho => (h.known_own t name o ho).mono hsucc
      known_content := fun id o ho => (h.known_content id o ho).mono hsucc
      extra := fun k r hextra => by
        obtain ⟨hle, hown, hregistry⟩ := h.extra k r hextra
        refine ⟨Nat.le_trans hle hsucc, hown, ?_⟩
        -- The new number lies beyond that of the registry in between.
        have hne : k ≠ n.registries := by
          have : c.index m.registries = m.registries + 1 := by
            simp [Pairing.index, hextra, Nat.not_lt.mpr hle]
          rw [h.registries_eq]
          omega
        simp only [Memory.makeRegistry, World.registry_setRegistry, if_neg hne, hregistry] }
  · exact ⟨by simp [Memory.makeRegistry, Pairing.object, h.registries_eq], Nat.lt_succ_self _⟩

theorem beginModule (h : Tandem c m n) (name : String) (file : Option Path)
    (search : Option (List Path)) :
    Tandem c (m.beginModule name file search).2 (n.beginModule name file search).2 := by
  obtain ⟨cells, hconstant, -, hown⟩ := own_beginModule name file search
  have hhome := h.home_lt
  -- The space where memories may differ is there already, so it is not the new one.
  have hne : c.home ≠ m.spaces := Nat.ne_of_lt hhome
  exact { h with
    own_eq := fun t other hother => by
      rw [hown, hown, h.spaces_eq, h.own_eq t other hother]
      split
      · cases hcell : cells.get? other with
        | none => rfl
        | some o =>
            obtain ⟨v, rfl⟩ := hconstant other o hcell
            rfl
      · rfl
    loaded_eq := by simp [Memory.beginModule, World.setSpace, h.loaded_eq, h.spaces_eq]
    record_eq := by simp [Memory.beginModule, h.record_eq, h.spaces_eq]
    spaces_eq := by simp [Memory.beginModule, h.spaces_eq]
    known_own := fun t other o ho => by
      rw [hown] at ho
      split at ho
      · obtain ⟨v, rfl⟩ := hconstant other o ho
        trivial
      · exact h.known_own t other o ho
    home_lt := Nat.lt_succ_of_lt hhome
    given_free := fun other hother => by
      rw [hown, if_neg hne]
      exact h.given_free other hother
    extra := fun k r hextra => by
      obtain ⟨hle, hmarker, hregistry⟩ := h.extra k r hextra
      refine ⟨hle, ?_, hregistry⟩
      rw [hown, h.spaces_eq, if_neg hne]
      exact hmarker }

theorem complete (h : Tandem c m n) (s : SpaceId) : Tandem c (m.complete s) (n.complete s) :=
  { h with record_eq := by simp only [Memory.complete, h.record_eq] }

theorem forget (h : Tandem c m n) (name : String) : Tandem c (m.forget name) (n.forget name) :=
  { h with loaded_eq := by simp only [Memory.forget, h.loaded_eq] }

theorem missed (h : Tandem c m n) :
    Tandem c { m with unreadable := m.unreadable + 1 } { n with unreadable := n.unreadable + 1 } :=
  { h with unreadable_eq := by simp only [h.unreadable_eq] }

theorem computed (h : Tandem c m n) (v : Literal) :
    Tandem c (m.computed v).2 (n.computed v).2 ∧
      c.Pairs m.registries (m.computed v).1 (n.computed v).1 := by
  unfold Memory.computed
  split
  · exact ⟨h, Pairing.pairs_self (by simp)⟩
  · exact h.make _ (by simp [Content.objects])

end Tandem

/-! ## What is seen -/

theorem Tandem.showTo_eq {c : Pairing} {m n : Memory} (h : Tandem c m n) (depth : Nat) {o : Object}
    (ho : o.Known m.registries) : n.showTo depth (c.object o) = m.showTo depth o := by
  induction depth generalizing o with
  | zero => rfl
  | succ depth ih =>
      have hcontent := h.contentOf_eq o
      have hknown := h.known_contentOf o
      cases o with
      | registry id =>
          -- A registry shows the name of its module, which is not kept under the marker.
          simp only [Pairing.object, Memory.showTo, h.registry_eq id ho, h.moduleName_eq]
      | module s => simp [Pairing.object, Memory.showTo, h.nameOf_eq]
      | offered library name => cases name <;> rfl
      | constant home v => rfl
      | item id nature =>
          simp only [Pairing.object] at hcontent
          simp only [Pairing.object, Memory.showTo, hcontent]
          cases hx : m.contentOf (.item id nature) with
          | list items | tuple items =>
              rw [hx] at hknown
              simp only [Content.map, List.map_map]
              congr 1
              exact List.map_congr_left fun p hp => ih (hknown p hp)
          | dict entries =>
              rw [hx] at hknown
              simp only [Content.map, List.map_map]
              congr 1
              refine List.map_congr_left fun p hp => Prod.ext (ih (hknown _ ?_)) (ih (hknown _ ?_))
              · exact List.mem_append_left _ (List.mem_map_of_mem hp)
              · exact List.mem_append_right _ (List.mem_map_of_mem hp)
          | standIn => simp [Content.map, World.callCount, h.events_eq]
          | _ => rfl

/-- Objects that are like each other look the same. -/
theorem Tandem.view_eq {c : Pairing} {m n : Memory} (h : Tandem c m n) {o : Object}
    (ho : o.Known m.registries) : n.view (c.object o) = m.view o := by
  rw [Memory.view, Memory.view, h.nextObject_eq]
  exact h.showTo_eq _ ho

end Standin
