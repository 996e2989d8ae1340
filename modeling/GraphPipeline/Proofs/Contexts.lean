import GraphPipeline.Proofs.Compile.Fitting
import GraphPipeline.Proofs.Evaluation.Computes
import GraphPipeline.Proofs.Meaning

/-!
# Contexts and what they find

The frames of a chain are a program with a hole.  `Lands` says to which item
such a context leads from a value, `Collects` what it makes of the programs that
go in the hole once it has led to several items, and `Carries` puts both
together for the frames of a chain.  The programs in the hole are those that
yield, for each object the context leads to, some JSON value of the object.
-/

namespace GraphPipeline

theorem mapM_map {α β γ : Type} (change : α → β) (next : β → Option γ)
    (items : List α) :
    (items.map change).mapM next =
      items.mapM fun item => next (change item) := by
  induction items with
  | nil => rfl
  | cons item items induction =>
    rw [List.map_cons, List.mapM_cons, List.mapM_cons, induction]

theorem mapM_bind {α β γ : Type} (first : α → Option β) (second : β → Option γ)
    (items : List α) :
    (items.mapM first).bind (fun found => found.mapM second) =
      items.mapM fun item => (first item).bind second := by
  induction items with
  | nil => rfl
  | cons item items induction =>
      rw [List.mapM_cons, List.mapM_cons, ← induction]
      cases first item with
      | none => rfl
      | some found =>
          simp only [Option.bind_eq_bind, Option.bind_some, Option.pure_def]
          cases items.mapM first with
          | none => cases second found <;> rfl
          | some others => simp [List.mapM_cons]

namespace Found

variable {Node : Type}

/-- Reading what is found further on, in terms of what is found before. -/
theorem read_each (gather : List Json → Option Json)
    (valueOf : Item Node → Option Json)
    (next : Item Node → Option (Option (Item Node))) (found : Found Node) :
    (found.each next).bind (read gather valueOf) =
      found.read gather fun item => (next item).bind (Item.read valueOf) := by
  have step : ∀ item, (Item.follow next item).bind (Item.read valueOf) =
      Item.read (fun item => (next item).bind (Item.read valueOf)) item := by
    intro item
    cases item <;> rfl
  cases found with
  | one item =>
      change ((Item.follow next item).map Found.one).bind _ = Item.read _ item
      rw [← step]
      cases Item.follow next item <;> rfl
  | many items =>
      have items' := mapM_bind (Item.follow next) (Item.read valueOf) items
      simp only [step] at items'
      change ((items.mapM (Item.follow next)).map Found.many).bind _ =
        (items.mapM (Item.read _)).bind gather
      rw [← items']
      cases items.mapM (Item.follow next) <;> rfl

/-- No item is found outside of a list. -/
def IsListed (found : Option (Found Node)) : Prop :=
  ∀ item, found ≠ some (.one (some item))

theorem IsListed.each {found : Option (Found Node)} (listed : IsListed found)
    (next : Item Node → Option (Option (Item Node))) :
    IsListed (found.bind (Found.each next)) := by
  intro item same
  match found with
  | none => cases same
  | some (.one none) => cases same
  | some (.one (some other)) => exact listed other rfl
  | some (.many items) =>
      cases following : items.mapM (Item.follow next) with
      | none => simp [Found.each, following] at same
      | some others => simp [Found.each, following] at same

/-- Projecting the items of a list is going on from each. -/
theorem IsListed.project {found : Option (Found Node)} (listed : IsListed found)
    (inside : Node → Option (Found Node)) :
    found.bind (Found.project inside) =
      found.bind
        (Found.each (Item.onObject fun node => (inside node).bind inList)) := by
  match found with
  | none => rfl
  | some (.one none) => rfl
  | some (.one (some item)) => exact absurd rfl (listed item)
  | some (.many items) => rfl

/-- The JSON of a projection, in terms of what it is applied to. -/
theorem json?_project (inside : Node → Option (Found Node))
    (found : Option (Found Node)) :
    (found.bind (project inside)).bind json? =
      found.bind
        (read arrayOf
          (Item.onObject fun node => (inside node).bind json?)) := by
  match found with
  | none => rfl
  | some (.one none) => rfl
  | some (.one (some (.object node))) => rfl
  | some (.one (some (.value _))) => rfl
  | some (.many items) =>
      have inner : ∀ found : Found Node,
          (found.inList).bind (Item.read Item.json?) = found.json? := by
        intro found
        match found with
        | .one item => rfl
        | .many items =>
            unfold inList
            cases json? (.many items) <;> rfl
      let step : Item Node → Option (Option (Item Node)) :=
        Item.onObject fun node => (inside node).bind inList
      change ((Found.many items).each step).bind (read arrayOf Item.json?) =
        (Found.many items).read arrayOf _
      rw [read_each]
      congr 1
      funext item
      cases item with
      | value result => rfl
      | object node =>
          change ((inside node).bind inList).bind (Item.read Item.json?) = _
          rw [Option.bind_assoc]
          congr 1
          funext found
          exact inner found

theorem json?_record (members : Node → Option (List (String × Json)))
    (found : Option (Found Node)) :
    (found.bind (record members)).bind json? =
      found.bind
        (read arrayOf
          (Item.onObject fun node => (members node).map Json.object)) := by
  cases found with
  | none => rfl
  | some found =>
      change (found.each _).bind (read arrayOf Item.json?) =
        read arrayOf _ found
      rw [read_each]
      congr 1
      funext item
      cases item with
      | value result => rfl
      | object node =>
          simp only [Item.onObject]
          cases members node <;> rfl

theorem json?_required (found : Option (Found Node)) :
    (found.bind required).bind json? =
      (found.bind json?).filter fun value => !value.isNull := by
  cases found with
  | none => rfl
  | some found =>
      simp only [Option.bind_some, required]
      cases known : found.json? with
      | none => rfl
      | some value =>
        cases absence : value.isNull <;> simp [Option.filter, absence, known]

end Found

/-! ### Contexts -/

section contexts

variable {Node : Type}

/-- A context leads from a value to an item.  Where it leads to an object, it
yields what the program put into it yields there, with some bindings that stand
for the object together with the value at hand. -/
inductive Lands (stands : (Nat → Option Json) → Json → Node → Prop)
    (context : Program → Program) (bindings : Nat → Option Json)
    (value : Json) :
    Option (Option (Item Node)) → Prop where
  | fails :
      (∀ program, (context program).Computes bindings value none) →
      Lands stands context bindings value none
  | absent :
      (∀ program, (context program).Computes bindings value (some .null)) →
      Lands stands context bindings value (some none)
  | reaches {inside : Nat → Option Json} {element : Json} {node : Node} :
      stands inside element node →
      (∀ {program result}, program.Computes inside element result →
        (context program).Computes bindings value result) →
      Lands stands context bindings value (some (some (.object node)))

/-- A context makes of a program what is gathered from what the program
yields. -/
structure Collects (stands : (Nat → Option Json) → Json → Node → Prop)
    (gather : List Json → Option Json) (context : Program → Program)
    (bindings : Nat → Option Json) (value : Json)
    (found : Option (Found Node)) :
    Prop where
  yields : ∀ {program : Program} {valueOf : Item Node → Option Json},
    (∀ {inside element node}, stands inside element node →
      program.Computes inside element (valueOf (.object node))) →
        (context program).Computes bindings value
          (found.bind (Found.read gather valueOf))

/-- A program around that of the items of a list gathers what they yield. -/
structure Combines (wrap : Program → Program)
    (gather : List Json → Option Json) :
    Prop where
  yields :
    ∀ {inner : Program} {bindings : Nat → Option Json} {items : List Json}
      {results : List (Option Json)}, List.Forall₂ (inner.Computes bindings)
      items results →
      (wrap inner).Computes bindings (.array items)
        ((results.mapM id).bind gather)

theorem mapList_combines : Combines (.mapList 0) Found.arrayOf := by
  constructor
  intro inner bindings items results each
  have yields := Program.Computes.mapList each
  cases gathered : results.mapM id <;>
    simpa [gathered, Found.arrayOf] using yields

/-- How the JSON of a dictionary is put together from its entries. -/
def Found.objectOf (entries : List Json) : Option Json :=
  (entries.foldlM Json.enter []).map Json.object

theorem toDictionary_combines : Combines .toDictionary Found.objectOf :=
  ⟨fun each => Program.Computes.toDictionary each⟩

variable {stands others : (Nat → Option Json) → Json → Node → Prop}
  {context next : Program → Program} {bindings : Nat → Option Json}
  {value : Json} {item : Option (Option (Item Node))}
  {found : Option (Found Node)} {gather : List Json → Option Json}

namespace Lands

theorem mono (lands : Lands stands context bindings value item)
    (implies : ∀ {inside element node}, stands inside element node →
      others inside element node) :
    Lands others context bindings value item := by
  cases lands with
  | fails yields => exact .fails yields
  | absent yields => exact .absent yields
  | reaches standing through => exact .reaches (implies standing) through

theorem yields (lands : Lands stands context bindings value item)
    {program : Program} {valueOf : Item Node → Option Json}
    (each : ∀ {inside element node}, stands inside element node →
      program.Computes inside element (valueOf (.object node))) :
    (context program).Computes bindings value
      (item.bind (Item.read valueOf)) := by
  cases lands with
  | fails yields => exact yields program
  | absent yields => exact yields program
  | reaches standing through => exact through (each standing)

theorem collects (lands : Lands stands context bindings value item) :
    Collects stands gather context bindings value (item.map Found.one) := by
  constructor
  intro program valueOf each
  have yields := lands.yields each
  cases item with
  | none => exact yields
  | some item => exact yields

/-- Two contexts one inside of the other. -/
theorem follow (lands : Lands stands context bindings value item)
    {step : Item Node → Option (Option (Item Node))}
    (rest : ∀ {inside element node}, stands inside element node →
      Lands others next inside element (step (.object node))) :
    Lands others (fun program => context (next program)) bindings value
      (item.bind (Item.follow step)) := by
  cases lands with
  | fails yields => exact .fails fun program => yields _
  | absent yields => exact .absent fun program => yields _
  | @reaches inside element node standing through =>
      have further := rest standing
      change Lands others _ bindings value (step (.object node))
      generalize step (.object node) = last at further ⊢
      cases further with
      | fails yields => exact .fails fun program => through (yields program)
      | absent yields => exact .absent fun program => through (yields program)
      | reaches standing further =>
        exact .reaches standing fun inner => through (further inner)

/-- A context around one that leads to single items. -/
theorem project (lands : Lands stands context bindings value item)
    {inside : Node → Option (Found Node)}
    (rest : ∀ {bound element node}, stands bound element node →
      ∃ last, inside node = last.map Found.one ∧
        Lands others next bound element last) :
    ∃ last,
      (item.map Found.one).bind (Found.project inside) = last.map Found.one ∧
      Lands others (fun program => context (next program)) bindings value
        last := by
  cases lands with
  | fails yields => exact ⟨none, rfl, .fails fun program => yields _⟩
  | absent yields => exact ⟨some none, rfl, .absent fun program => yields _⟩
  | reaches standing through =>
      obtain ⟨last, same, further⟩ := rest standing
      refine ⟨last, same, ?_⟩
      cases further with
      | fails yields => exact .fails fun program => through (yields program)
      | absent yields => exact .absent fun program => through (yields program)
      | reaches standing further =>
        exact .reaches standing fun inner => through (further inner)

/-- A context around one that leads to a list. -/
theorem collects_project (lands : Lands stands context bindings value item)
    {inside : Node → Option (Found Node)}
    (rest : ∀ {bound element node}, stands bound element node →
      Collects others gather next bound element (inside node)) :
    Collects others gather (fun program => context (next program)) bindings
      value
      ((item.map Found.one).bind (Found.project inside)) := by
  constructor
  intro program valueOf each
  cases lands with
  | fails yields => exact yields _
  | absent yields => exact yields _
  | reaches standing through => exact through ((rest standing).yields each)

theorem isListed_project (lands : Lands stands context bindings value item)
    {inside : Node → Option (Found Node)}
    (rest : ∀ {bound element node}, stands bound element node →
      Found.IsListed (inside node)) :
    Found.IsListed ((item.map Found.one).bind (Found.project inside)) := by
  cases lands with
  | fails yields => exact fun _ same => by cases same
  | absent yields => exact fun _ same => by cases same
  | reaches standing through => exact rest standing

end Lands

theorem Collects.mono
    (collects : Collects stands gather context bindings value found)
    (implies : ∀ {inside element node}, stands inside element node →
      others inside element node) :
    Collects others gather context bindings value found :=
  ⟨fun each => collects.yields fun standing => each (implies standing)⟩

/-- Inside of a context that leads to several items, one that leads on from
each. -/
theorem Collects.each
    (collects : Collects stands gather context bindings value found)
    {step : Item Node → Option (Option (Item Node))}
    (rest : ∀ {inside element node}, stands inside element node →
      Lands others next inside element (step (.object node))) :
    Collects others gather (fun program => context (next program)) bindings
      value
      (found.bind (Found.each step)) := by
  constructor
  intro program valueOf each
  have same : (found.bind (Found.each step)).bind (Found.read gather valueOf) =
      found.bind
        (Found.read gather
          fun item => (step item).bind (Item.read valueOf)) := by
    cases found with
    | none => rfl
    | some found => exact Found.read_each gather valueOf step found
  rw [same]
  exact collects.yields fun standing => (rest standing).yields each

end contexts

/-! ### Frames -/

/-- Fills some frames, with another program in place of the one that maps a
list. -/
def fillList (frames : List Frame) (index : Nat) (wrap : Program → Program)
    (program : Program) : Program :=
  fillFrames (frames.take index)
    (wrap (fillFrames (frames.drop (index + 1)) program))

/-- The frame at the position of a list maps it. -/
def Framed (frames : List Frame) (list : Option Nat) : Prop :=
  ∀ index, list = some index →
    ∃ outer inner, frames = outer ++ .mapList 0 :: inner ∧ outer.length = index

theorem fillFrames_append_eq (outer inner : List Frame) :
    fillFrames (outer ++ inner) =
      fun program => fillFrames outer (fillFrames inner program) :=
  funext (fillFrames_append outer inner)

theorem fillList_length (outer : List Frame) (frame : Frame)
    (inner : List Frame) (wrap : Program → Program) :
    fillList (outer ++ frame :: inner) outer.length wrap =
      fun program => fillFrames outer (wrap (fillFrames inner program)) := by
  funext program
  simp [fillList]

theorem fillList_under (outer inner : List Frame) (index : Nat)
    (wrap : Program → Program) :
    fillList (outer ++ inner) (outer.length + index) wrap =
      fun program => fillFrames outer (fillList inner index wrap program) := by
  funext program
  unfold fillList
  rw [List.take_length_add_append, Nat.add_assoc, List.drop_length_add_append,
    fillFrames_append]

namespace Framed

variable {frames : List Frame} {index : Nat}

theorem none : Framed frames none := fun _ same => by cases same

theorem length (outer inner : List Frame) :
    Framed (outer ++ .mapList 0 :: inner) (some outer.length) := by
  intro index same
  exact ⟨outer, inner, rfl, Option.some.inj same⟩

theorem append {list : Option Nat} (framed : Framed frames list)
    (more : List Frame) :
    Framed (frames ++ more) list := by
  intro index same
  obtain ⟨outer, inner, rfl, length⟩ := framed _ same
  exact ⟨outer, inner ++ more, by simp, length⟩

theorem under {list : Option Nat} (framed : Framed frames list)
    (outside : List Frame) :
    Framed (outside ++ frames) (list.map (outside.length + ·)) := by
  intro index same
  obtain ⟨own, known, rfl⟩ := Option.map_eq_some_iff.mp same
  obtain ⟨outer, inner, rfl, rfl⟩ := framed _ known
  exact ⟨outside ++ outer, inner, by simp, by simp⟩

theorem fillFrames_eq (framed : Framed frames (some index)) :
    fillFrames frames = fillList frames index (.mapList 0) := by
  obtain ⟨outer, inner, rfl, rfl⟩ := framed _ rfl
  rw [fillList_length, fillFrames_append_eq]
  rfl

theorem fillList_append (framed : Framed frames (some index))
    (more : List Frame) (wrap : Program → Program) :
    fillList (frames ++ more) index wrap =
      fun program => fillList frames index wrap (fillFrames more program) := by
  obtain ⟨outer, inner, rfl, rfl⟩ := framed _ rfl
  rw [List.append_assoc, List.cons_append, fillList_length, fillList_length,
    fillFrames_append_eq]

end Framed

section frames

variable {Node : Type}
  {stands others : (Nat → Option Json) → Json → Node → Prop}
  {frames more : List Frame} {list : Option Nat} {bindings : Nat → Option Json}
  {value : Json} {found : Option (Found Node)}

/-- The frames of a chain lead from a value to what is found: to a single item,
or to the items of the list at a position among the frames. -/
def Carries (stands : (Nat → Option Json) → Json → Node → Prop)
    (frames : List Frame) (list : Option Nat) (bindings : Nat → Option Json)
    (value : Json) (found : Option (Found Node)) : Prop :=
  match list with
  | none => ∃ item, found = item.map Found.one ∧
      Lands stands (fillFrames frames) bindings value item
  | some index => Found.IsListed found ∧ ∀ {wrap gather}, Combines wrap gather →
      Collects stands gather (fillList frames index wrap) bindings value found

namespace Carries

theorem mono (carries : Carries stands frames list bindings value found)
    (implies : ∀ {inside element node}, stands inside element node →
      others inside element node) :
    Carries others frames list bindings value found := by
  cases list with
  | none =>
      obtain ⟨item, same, lands⟩ := carries
      exact ⟨item, same, lands.mono implies⟩
  | some index =>
      exact ⟨carries.1, fun combines => (carries.2 combines).mono implies⟩

/-- What the frames make of a program that goes on from each object. -/
theorem collects (framed : Framed frames list)
    (carries : Carries stands frames list bindings value found) :
    Collects stands Found.arrayOf (fillFrames frames) bindings value found := by
  cases list with
  | none =>
      obtain ⟨item, rfl, lands⟩ := carries
      exact lands.collects
  | some index =>
      rw [framed.fillFrames_eq]
      exact carries.2 mapList_combines

/-- Frames more that lead on from each object. -/
theorem each (framed : Framed frames list)
    (carries : Carries stands frames list bindings value found)
    {step : Item Node → Option (Option (Item Node))}
    (rest : ∀ {inside element node}, stands inside element node →
      Lands others (fillFrames more) inside element (step (.object node))) :
    Carries others (frames ++ more) list bindings value
      (found.bind (Found.each step)) := by
  cases list with
  | none =>
      obtain ⟨item, rfl, lands⟩ := carries
      refine ⟨item.bind (Item.follow step), ?_, ?_⟩
      · cases item <;> rfl
      · rw [fillFrames_append_eq]
        exact lands.follow rest
  | some index =>
      refine ⟨carries.1.each step, fun combines => ?_⟩
      rw [framed.fillList_append]
      exact (carries.2 combines).each rest

/-- Frames more that may lead to a list, unless those before have led to one
already. -/
theorem project (framed : Framed frames list)
    (carries : Carries stands frames list bindings value found)
    {innerList : Option Nat} {inside : Node → Option (Found Node)}
    (rest : ∀ {bound element node}, stands bound element node →
      Carries others more innerList bound element (inside node))
    (oneList : list = none ∨ innerList = none) :
    Carries others (frames ++ more)
      (list.or (innerList.map (frames.length + ·))) bindings
      value (found.bind (Found.project inside)) := by
  cases list with
  | none =>
      obtain ⟨item, rfl, lands⟩ := carries
      cases innerList with
      | none =>
          change ∃ last,
            _ ∧ Lands others (fillFrames (frames ++ more)) bindings value last
          rw [fillFrames_append_eq]
          exact lands.project rest
      | some index =>
          refine ⟨lands.isListed_project fun standing => (rest standing).1,
            fun combines => ?_⟩
          rw [fillList_under]
          exact lands.collects_project
            fun standing => (rest standing).2 combines
  | some index =>
      obtain rfl : innerList = none := oneList.resolve_left (by simp)
      rw [carries.1.project]
      refine carries.each framed fun standing => ?_
      obtain ⟨last, same, lands⟩ := rest standing
      change Lands others _ _ _ ((inside _).bind Found.inList)
      rw [same]
      cases last <;> exact lands

/-- The element at hand is bound for what is inside. -/
theorem bind {depth : Nat}
    (carries :
      Carries stands frames list (Function.update bindings depth (some value))
        value found) :
    Carries stands (.bind depth :: frames)
      (list.map ([Frame.bind depth].length + ·)) bindings
      value found := by
  cases list with
  | none =>
      obtain ⟨item, same, lands⟩ := carries
      refine ⟨item, same, ?_⟩
      cases lands with
      | fails yields => exact .fails fun program => (yields program).bindIfRead
      | absent yields =>
        exact .absent fun program => (yields program).bindIfRead
      | reaches standing through =>
          exact .reaches standing fun inner => (through inner).bindIfRead
  | some index =>
      refine ⟨carries.1, fun combines => ?_⟩
      rw [← List.singleton_append, fillList_under]
      exact ⟨fun each => ((carries.2 combines).yields each).bindIfRead⟩

end Carries

end frames

end GraphPipeline
