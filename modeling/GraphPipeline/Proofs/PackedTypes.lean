import GraphPipeline.Document
import GraphPipeline.Proofs.ResponseKeys
import GraphPipeline.Proofs.TypeTrees

/-!
# Packed types

Packed words and type trees go through the same steps together: a type is marked
as non-null, becomes the element of a list, or gives way to its own elements.  A
word has no bits that its tree does not tell of, so there is one word for each
tree, and taking the elements of a list brings back the word that was put into
it.  The text of a type tells its name and its tree, and ends with a mark
exactly if the type is non-null, which is where a variable takes it from.
-/

namespace GraphPipeline

/-- What changes a type: it is marked as non-null, becomes the element of a
list, or gives way to its own elements. -/
inductive WrappingStep where
  | nonNull
  | inList (isNonNull : Bool)
  | element

namespace TypeTree

def isList : TypeTree → Bool
  | .named _ => false
  | .list _ _ => true

def element? : TypeTree → Option TypeTree
  | .named _ => none
  | .list _ element => some element

/-- The tree after a step, if it has at most seven lists. -/
def step? (tree : TypeTree) : WrappingStep → Option TypeTree
  | .nonNull => some tree.nonNull
  | .inList isNonNull =>
      if tree.depth < Wrapping.greatestCount then some (.list isNonNull tree)
      else none
  | .element => tree.element?

/-- The tree after some steps, as long as there are at most seven lists. -/
def run? (steps : List WrappingStep) (tree : TypeTree) : Option TypeTree :=
  steps.foldlM step? tree

end TypeTree

namespace Wrapping

/-- The word after a step. -/
def step? (wrapping : Wrapping) : WrappingStep → Option Wrapping
  | .nonNull => some wrapping.nonNull
  | .inList isNonNull => (wrapping.inList isNonNull).toOption
  | .element => wrapping.element?

/-- The word after some steps. -/
def run? (steps : List WrappingStep) (wrapping : Wrapping) : Option Wrapping :=
  steps.foldlM step? wrapping

/-! ### Words made in steps -/

theorem Packs.inList_of_lt {tree : TypeTree} {wrapping : Wrapping}
    (packs : Packs tree wrapping) (below : tree.depth < greatestCount)
    (isNonNull : Bool) :
    ∃ list, wrapping.inList isNonNull = .ok list := by
  rw [Wrapping.inList, packs.count, if_pos below]
  exact ⟨_, rfl⟩

theorem Packs.inList_of_full {tree : TypeTree} {wrapping : Wrapping}
    (packs : Packs tree wrapping) (full : ¬ tree.depth < greatestCount)
    (isNonNull : Bool) :
    wrapping.inList isNonNull = .error .tooManyLists := by
  rw [Wrapping.inList, packs.count, if_neg full]

theorem Builds.step {tree : TypeTree} {wrapping : Wrapping}
    (built : Builds tree wrapping) (step : WrappingStep) :
    Option.Rel Builds (tree.step? step) (wrapping.step? step) := by
  cases step with
  | nonNull => exact .some built.nonNull
  | inList isNonNull =>
      rw [TypeTree.step?, Wrapping.step?]
      split
      · rename_i below
        obtain ⟨list, wrapped⟩ := built.packs.inList_of_lt below isNonNull
        rw [wrapped]
        exact .some (built.inList wrapped)
      · rename_i full
        rw [built.packs.inList_of_full full]
        exact .none
  | element =>
      cases tree with
      | named isRequired =>
          have count : wrapping.listCount = 0 := built.packs.count
          rw [Wrapping.step?, Wrapping.element?, count]
          exact .none
      | list isRequired element =>
          obtain ⟨inside, taken, _⟩ := built.packs.element?
          rw [Wrapping.step?, taken]
          exact .some (built.element taken)

/-- Words and trees go through the same steps together. -/
theorem Builds.run {tree : TypeTree} {wrapping : Wrapping}
    (built : Builds tree wrapping) (steps : List WrappingStep) :
    Option.Rel Builds (tree.run? steps) (wrapping.run? steps) := by
  induction steps generalizing tree wrapping with
  | nil => exact .some built
  | cons step steps induction =>
      rw [TypeTree.run?, Wrapping.run?, List.foldlM_cons, List.foldlM_cons]
      have stepped := built.step step
      generalize tree.step? step = nextTree,
        wrapping.step? step = nextWord at stepped ⊢
      cases stepped with
      | none => exact .none
      | some next => exact induction next

theorem exists_builds_of_run {isRequired : Bool} {steps : List WrappingStep}
    {word : Wrapping}
    (made : (Wrapping.named isRequired).run? steps = some word) :
    ∃ tree, Builds tree word := by
  have runs := (Builds.named isRequired).run steps
  rw [made] at runs
  generalize (TypeTree.named isRequired).run? steps = tree at runs
  cases runs with
  | some built => exact ⟨_, built⟩

/-! ### Unused bits -/

theorem ext_bits {left right : Wrapping}
    (same : ∀ position < 16, bit left.bits position = bit right.bits position) :
    left = right := by
  obtain ⟨⟨left⟩⟩ := left
  obtain ⟨⟨right⟩⟩ := right
  have sameWords : left = right := BitVec.eq_of_getLsbD_eq same
  rw [sameWords]

theorem bit_and (left right : UInt16) (position : Nat) :
    bit (left &&& right) position =
      (bit left position && bit right position) := by
  simp [bit]

/-- The bits 12 to 14 are those of the count of lists. -/
theorem bit_of_listCount (wrapping : Wrapping) {position : Nat}
    (from12 : 12 ≤ position) (below : position < 15) :
    bit wrapping.bits position =
      wrapping.listCount.testBit (position - 12) := by
  have masked :
      bit (wrapping.bits &&& countMask) position =
        bit wrapping.bits position := by
    have kept :
        ∀ position < 15, 12 ≤ position → bit countMask position = true := by
      decide
    rw [bit_and, kept position below from12, Bool.and_true]
  have place : 12 + (position - 12) = position := by omega
  have shifted : ((wrapping.bits &&& countMask) >>> countShift).toBitVec =
      (wrapping.bits &&& countMask).toBitVec >>> 12 := rfl
  rw [listCount, ← UInt16.toNat_toBitVec, BitVec.testBit_toNat, shifted,
    BitVec.getLsbD_ushiftRight, place]
  exact masked.symm

/-- A mark on the outermost part sets no bit beside the marks. -/
theorem unused_nonNull {wrapping : Wrapping}
    (fits : wrapping.listCount ≤ greatestCount)
    {position : Nat} (beyond : 7 ≤ position) (below : position < 12) :
    bit wrapping.nonNull.bits position = bit wrapping.bits position := by
  have inside : position < 16 := by omega
  rw [Wrapping.nonNull]
  split
  · have elsewhere : position ≠ 15 := by omega
    rw [bit_or, bit_innerRequiredBit position inside, decide_eq_false elsewhere,
      Bool.or_false]
  · rename_i inner count
    have small : inner < 7 := by rwa [count] at fits
    have elsewhere : position ≠ inner := by omega
    rw [bit_or, bit_listBit inner small position inside,
      decide_eq_false elsewhere, Bool.or_false]

theorem unused_inList {wrapping list : Wrapping} {isNonNull : Bool}
    (wrapped : wrapping.inList isNonNull = .ok list) {position : Nat}
    (beyond : 7 ≤ position) (below : position < 12) :
    bit list.bits position = bit wrapping.bits position := by
  have inside : position < 16 := by omega
  simp only [Wrapping.inList] at wrapped
  split at wrapped
  · rename_i small
    have small : wrapping.listCount < 7 := small
    have elsewhere : position ≠ wrapping.listCount := by omega
    have counted := bit_withCount wrapping.bits
      (show wrapping.listCount + 1 < 8 by omega) (Or.inl below)
    cases wrapped
    cases isNonNull with
    | false => exact counted
    | true =>
        rw [if_pos rfl, bit_or, counted, bit_listBit _ small position inside,
          decide_eq_false elsewhere, Bool.or_false]
  · cases wrapped

theorem unused_element? {wrapping element : Wrapping}
    (fits : wrapping.listCount ≤ greatestCount)
    (taken : wrapping.element? = some element) {position : Nat}
    (beyond : 7 ≤ position) (below : position < 12) :
    bit element.bits position = bit wrapping.bits position := by
  have inside : position < 16 := by omega
  rw [Wrapping.element?] at taken
  split at taken
  · cases taken
  · rename_i inner count
    have small : inner < 7 := by rwa [count] at fits
    have elsewhere : position ≠ inner := by omega
    cases taken
    rw [bit_withCount _ (by omega) (Or.inl below), bit_and_not _ _ inside,
      bit_listBit inner small position inside, decide_eq_false elsewhere,
      Bool.not_false, Bool.and_true]

theorem Builds.listCount_le {tree : TypeTree} {wrapping : Wrapping}
    (built : Builds tree wrapping) : wrapping.listCount ≤ greatestCount :=
  built.packs.count ▸ built.packs.fits

/-- No word has bits between the marks of its lists and their count. -/
theorem Builds.unused {tree : TypeTree} {wrapping : Wrapping}
    (built : Builds tree wrapping)
    {position : Nat} (beyond : 7 ≤ position) (below : position < 12) :
    bit wrapping.bits position = false := by
  induction built with
  | named isRequired =>
      have unset : ∀ position < 12, 7 ≤ position → ∀ isRequired,
          bit (Wrapping.named isRequired).bits position = false := by decide
      exact unset position below beyond isRequired
  | nonNull built unused =>
    rw [unused_nonNull built.listCount_le beyond below, unused]
  | inList built wrapped unused =>
    rw [unused_inList wrapped beyond below, unused]
  | element built taken unused =>
    rw [unused_element? built.listCount_le taken beyond below, unused]

/-- There is one word for each tree. -/
theorem Builds.unique {tree : TypeTree} {left right : Wrapping}
    (built : Builds tree left) (other : Builds tree right) : left = right := by
  apply ext_bits
  intro position bound
  have packs := built.packs
  have otherPacks := other.packs
  -- From the lowest bit up: the marks, the unused bits, the count, and the
  -- named type.
  rcases Nat.lt_or_ge position 7 with mark | beyond
  · rw [packs.marks position mark, otherPacks.marks position mark]
  rcases Nat.lt_or_ge position 12 with unused | from12
  · rw [built.unused beyond unused, other.unused beyond unused]
  rcases Nat.lt_or_ge position 15 with count | last
  · rw [bit_of_listCount _ from12 count, bit_of_listCount _ from12 count,
      packs.count, otherPacks.count]
  · obtain rfl : position = 15 := by omega
    rw [packs.inner, otherPacks.inner]

/-! ### Undoing a list -/

/-- A list around a word of fewer than seven lists has the word for its
elements. -/
theorem Builds.element?_inList {tree : TypeTree} {wrapping : Wrapping}
    (built : Builds tree wrapping) (isNonNull : Bool)
    (below : tree.depth < greatestCount) :
    ∃ list,
      wrapping.inList isNonNull = .ok list ∧ list.element? = some wrapping := by
  obtain ⟨list, wrapped⟩ := built.packs.inList_of_lt below isNonNull
  have listed : Builds (.list isNonNull tree) list := built.inList wrapped
  obtain ⟨inside, taken, _⟩ := listed.packs.element?
  rw [(listed.element taken).unique built] at taken
  exact ⟨list, wrapped, taken⟩

end Wrapping

/-! ### Written types -/

namespace TypeTree

variable {name other : String}

theorem mark_notMem_name (named : isGraphqlName name = true) (mark : Char)
    (isMark : isNameCharacter mark = false) : mark ∉ name.toList := by
  intro member
  rw [isNameCharacter_of_mem named member] at isMark
  cases isMark

/-- A written type ends with its mark, after a character that is none. -/
theorem exists_render_toList (named : isGraphqlName name = true)
    (tree : TypeTree) :
    ∃ start last, (tree.render name).toList =
      start ++ last :: (Wrapping.mark tree.isRequired).toList ∧ last ≠ '!' := by
  cases tree with
  | named isRequired =>
      obtain ⟨start, last, letters⟩ :=
        (List.eq_nil_or_concat' name.toList).resolve_left
          (isGraphqlName_ne_empty named)
      refine ⟨start, last, ?_, ?_⟩
      · simp [render, TypeTree.isRequired, letters]
      · rintro rfl
        refine mark_notMem_name named '!' (by decide) ?_
        rw [letters]
        exact List.mem_append_right _ (List.mem_singleton_self _)
  | list isRequired element =>
      refine ⟨'[' :: (element.render name).toList, ']', ?_, by decide⟩
      simp [render, TypeTree.isRequired]

theorem getLast?_render (named : isGraphqlName name = true) (tree : TypeTree) :
    (tree.render name).toList.getLast? = some '!' ↔ tree.isRequired = true := by
  obtain ⟨start, last, text, notMark⟩ := exists_render_toList named tree
  rw [text]
  cases tree.isRequired with
  | false => simpa [Wrapping.mark] using notMark
  | true => simp [Wrapping.mark]

theorem render_named_ne_list (named : isGraphqlName name = true)
    (isRequired otherRequired : Bool) (element : TypeTree) :
    (TypeTree.named isRequired).render name ≠
      (list otherRequired element).render other := by
  intro same
  have letters := congrArg String.toList same
  simp only [render, String.toList_append, String.reduceToList,
    List.cons_append] at letters
  cases first : name.toList with
  | nil => exact isGraphqlName_ne_empty named first
  | cons letter rest =>
      rw [first, List.cons_append] at letters
      refine mark_notMem_name named '[' (by decide) ?_
      rw [first, (List.cons.inj letters).1]
      exact List.mem_cons_self

theorem isRequired_of_render (named : isGraphqlName name = true)
    (otherNamed : isGraphqlName other = true) {tree otherTree : TypeTree}
    (same : tree.render name = otherTree.render other) :
    tree.isRequired = otherTree.isRequired := by
  rw [Bool.eq_iff_iff, ← getLast?_render named, ← getLast?_render otherNamed,
    same]

/-- The display of a type tells its name and its tree. -/
theorem render_injective (named : isGraphqlName name = true)
    (otherNamed : isGraphqlName other = true) {tree otherTree : TypeTree}
    (same : tree.render name = otherTree.render other) :
    name = other ∧ tree = otherTree := by
  have sameMark := isRequired_of_render named otherNamed same
  induction tree generalizing otherTree with
  | named isRequired =>
      cases otherTree with
      | named otherRequired =>
          obtain rfl : isRequired = otherRequired := sameMark
          exact ⟨(String.append_left_inj _).mp same, rfl⟩
      | list otherRequired element =>
        exact absurd same (render_named_ne_list named _ _ _)
  | list isRequired element induction =>
      cases otherTree with
      | named otherRequired =>
          exact absurd same.symm (render_named_ne_list otherNamed _ _ _)
      | list otherRequired otherElement =>
          obtain rfl : isRequired = otherRequired := sameMark
          have sameElement :
              element.render name = otherElement.render other := by
            simpa [render] using same
          obtain ⟨sameName, rfl⟩ :=
            induction sameElement
              (isRequired_of_render named otherNamed sameElement)
          exact ⟨sameName, rfl⟩

end TypeTree

namespace Wrapping

/-- Every reading of a word agrees with a tree, around a name: its text, its
lists, its marks, and whether a variable declared with the text needs a
value. -/
structure Describes (name : String) (tree : TypeTree) (wrapping : Wrapping) :
    Prop where
  text : wrapping.render name = tree.render name
  lists : wrapping.lists = tree.marks
  isList : wrapping.isList = tree.isList
  isRequired : wrapping.isRequired = tree.isRequired
  isNullable : wrapping.isNullable = !tree.isRequired
  innerIsRequired : wrapping.innerIsRequired = tree.innerIsRequired
  marked :
    (wrapping.render name).toList.getLast? = some '!' ↔
      wrapping.isRequired = true
  declared : ∀ variableName kind, VariableDefinition.isRequired
    { name := variableName, type := TypeRef.render { name, kind, wrapping } } =
      wrapping.isRequired

/-- A word describes a tree, the word of its elements describes the elements of
the tree, and a list around the word, if there is room for one, has the word for
its elements. -/
structure Refines (name : String) (tree : TypeTree) (wrapping : Wrapping) :
    Prop where
  describes : Describes name tree wrapping
  element : Option.Rel (Describes name) tree.element? wrapping.element?
  undone : ∀ isNonNull, tree.depth < greatestCount →
    ∃ list, wrapping.inList isNonNull = .ok list ∧ list.element? = some wrapping

variable {name : String} {tree : TypeTree} {wrapping : Wrapping}

theorem Packs.isList_eq (packs : Packs tree wrapping) :
    wrapping.isList = tree.isList := by
  cases tree with
  | named isRequired => exact packs.isList_named
  | list isRequired element => exact packs.isList_list

theorem Packs.describes (packs : Packs tree wrapping)
    (named : isGraphqlName name = true) :
    Describes name tree wrapping := by
  have marked : (wrapping.render name).toList.getLast? = some '!' ↔
      wrapping.isRequired = true := by
    rw [packs.render_eq, packs.isRequired_eq]
    exact TypeTree.getLast?_render named tree
  exact {
    text := packs.render_eq name
    lists := packs.lists_eq
    isList := packs.isList_eq
    isRequired := packs.isRequired_eq
    isNullable := congrArg Bool.not packs.isRequired_eq
    innerIsRequired := (innerIsRequired_eq wrapping).trans packs.inner
    marked := marked
    declared := fun _ _ => Bool.eq_iff_iff.mpr (beq_iff_eq.trans marked) }

theorem Builds.refines (built : Builds tree wrapping)
    (named : isGraphqlName name = true) :
    Refines name tree wrapping := by
  refine ⟨built.packs.describes named, ?_, built.element?_inList⟩
  have elements := built.step .element
  rw [TypeTree.step?, step?] at elements
  generalize tree.element? = treeElement,
    wrapping.element? = element at elements ⊢
  cases elements with
  | none => exact .none
  | some built => exact .some (built.packs.describes named)

/-- Words of the same text are the same, around the same name. -/
theorem Builds.render_injective {other : String} {otherTree : TypeTree}
    {otherWord : Wrapping}
    (built : Builds tree wrapping) (otherBuilt : Builds otherTree otherWord)
    (named : isGraphqlName name = true)
    (otherNamed : isGraphqlName other = true)
    (same : wrapping.render name = otherWord.render other) :
    name = other ∧ wrapping = otherWord := by
  rw [built.packs.render_eq, otherBuilt.packs.render_eq] at same
  obtain ⟨sameName, rfl⟩ := TypeTree.render_injective named otherNamed same
  exact ⟨sameName, built.unique otherBuilt⟩

/-- Along all steps a word refines the tree that the same steps make, and it can
be made exactly as long as there are lists to open and at most seven of them;
and the text of a type tells its name and its word. -/
theorem run_refines (named : isGraphqlName name = true) (isRequired : Bool)
    (steps : List WrappingStep) :
    Option.Rel (Refines name) ((TypeTree.named isRequired).run? steps)
      ((Wrapping.named isRequired).run? steps) ∧
    ∀ {other : String},
      isGraphqlName other = true → ∀ otherRequired otherSteps word otherWord,
      (Wrapping.named isRequired).run? steps = some word →
      (Wrapping.named otherRequired).run? otherSteps = some otherWord →
      word.render name = otherWord.render other →
        name = other ∧ word = otherWord := by
  refine ⟨?_, ?_⟩
  · have runs := (Builds.named isRequired).run steps
    generalize (TypeTree.named isRequired).run? steps = tree,
      (Wrapping.named isRequired).run? steps = word at runs ⊢
    cases runs with
    | none => exact .none
    | some built => exact .some (built.refines named)
  · intro other otherNamed otherRequired otherSteps word otherWord made
      otherMade same
    obtain ⟨tree, built⟩ := exists_builds_of_run made
    obtain ⟨otherTree, otherBuilt⟩ := exists_builds_of_run otherMade
    exact built.render_injective otherBuilt named otherNamed same

end Wrapping

namespace Sample

/-- A list that is marked as non-null is opened, and two other lists come in its
place. -/
def reopened : List WrappingStep :=
  [.nonNull, .inList true, .inList true, .element, .element, .inList true,
   .inList false]

end Sample

/-- The opened lists leave no marks behind: the outer one of the two lists that
come in their place may be null, and the word is the one that is made without
opening any. -/
theorem run_reopened :
    isGraphqlName "ID" = true ∧
      ∃ word direct, (Wrapping.named false).run? Sample.reopened = some word ∧
        (Wrapping.named true).run? [.inList true, .inList false] = some direct ∧
        word.render "ID" = direct.render "ID" ∧ word = direct ∧
        word.render "ID" = "[[ID!]!]" ∧ word.lists = [true, false] ∧
        word.isRequired = false := by
  have named : isGraphqlName "ID" = true := by decide
  have tree : (TypeTree.named false).run? Sample.reopened =
      some (.list false (.list true (.named true))) := rfl
  have made : (Wrapping.named false).run? Sample.reopened = some ⟨0xA001⟩ := by
    decide
  have madeDirectly : (Wrapping.named true).run? [.inList true, .inList false] =
      some ⟨0xA001⟩ := by decide
  obtain ⟨refines, distinct⟩ := Wrapping.run_refines named false Sample.reopened
  rw [tree, made] at refines
  cases refines with
  | some refines =>
      exact ⟨named, _, _, made, madeDirectly, rfl,
        (distinct named true _ _ _ made madeDirectly rfl).2,
        refines.describes.text,
        refines.describes.lists, refines.describes.isRequired⟩

end GraphPipeline
