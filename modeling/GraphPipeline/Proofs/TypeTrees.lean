import GraphPipeline.Schema.TypeRef

/-!
# Type trees

What a packed wrapping stands for: a named type, or a list of elements, each of
which may be non-null.  `Builds` follows the tree through the operations on
packed words, and `Packs` says where a word keeps what the tree says.  Marks of
lists that a word does not have are unset, so that a list pushed later starts as
a nullable one.
-/

namespace GraphPipeline

/-- A named type or a list, inside of which are its elements. -/
inductive TypeTree where
  | named (isRequired : Bool)
  | list (isRequired : Bool) (element : TypeTree)
  deriving DecidableEq

namespace TypeTree

def isRequired : TypeTree → Bool
  | .named isRequired => isRequired
  | .list isRequired _ => isRequired

/-- The type with its outermost part marked as non-null. -/
def nonNull : TypeTree → TypeTree
  | .named _ => .named true
  | .list _ element => .list true element

/-- How many lists surround the named type. -/
def depth : TypeTree → Nat
  | .named _ => 0
  | .list _ element => element.depth + 1

def innerIsRequired : TypeTree → Bool
  | .named isRequired => isRequired
  | .list _ element => element.innerIsRequired

/-- For each list, from inside to outside, whether it is non-null. -/
def marks : TypeTree → List Bool
  | .named _ => []
  | .list isRequired element => element.marks ++ [isRequired]

/-- The type in GraphQL notation. -/
def render (name : String) : TypeTree → String
  | .named isRequired => name ++ Wrapping.mark isRequired
  | .list isRequired element =>
      "[" ++ element.render name ++ "]" ++ Wrapping.mark isRequired

@[simp] theorem length_marks (tree : TypeTree) :
    tree.marks.length = tree.depth := by
  induction tree with
  | named isRequired => rfl
  | list isRequired element induction =>
      rw [marks, List.length_append, induction, depth, List.length_singleton]

/-- The mark of the outermost list is the last one. -/
theorem marks_outermost (isRequired : Bool) (element : TypeTree) :
    (list isRequired element).marks[element.depth]? = some isRequired := by
  rw [marks, List.getElem?_append_right (by simp), length_marks, Nat.sub_self]
  rfl

theorem marks_inside (isRequired : Bool) (element : TypeTree) {position : Nat}
    (inside : position < element.depth) :
    (list isRequired element).marks[position]? = element.marks[position]? := by
  rw [marks, List.getElem?_append_left (by simpa using inside)]

end TypeTree

namespace Wrapping

/-! ### Words -/

/-- The bit of a word at a position. -/
def bit (bits : UInt16) (position : Nat) : Bool :=
  bits.toBitVec.getLsbD position

theorem bit_or (left right : UInt16) (position : Nat) :
    bit (left ||| right) position =
      (bit left position || bit right position) := by
  simp [bit]

theorem bit_and_not (left right : UInt16) {position : Nat}
    (bound : position < 16) :
    bit (left &&& ~~~right) position =
      (bit left position && !bit right position) := by
  simp [bit, bound]

theorem hasBit_eq (wrapping : Wrapping) {mark : UInt16} {position : Nat}
    (single : mark = ⟨BitVec.twoPow 16 position⟩) (bound : position < 16) :
    wrapping.hasBit mark = bit wrapping.bits position := by
  rw [hasBit, Bool.eq_iff_iff, bne_iff_ne, ne_eq, ← UInt16.toBitVec_inj, single,
    UInt16.toBitVec_and, BitVec.and_twoPow, bit]
  have nonzero : BitVec.twoPow 16 position ≠ 0#16 := by
    intro zero
    have flag := congrArg (BitVec.getLsbD · position) zero
    simp [bound] at flag
  split
  · simp_all
  · simp_all

theorem listBit_eq :
    ∀ position < 16, listBit position = ⟨BitVec.twoPow 16 position⟩ := by
  decide

theorem hasBit_listBit (wrapping : Wrapping) {position : Nat}
    (bound : position < 16) :
    wrapping.hasBit (listBit position) = bit wrapping.bits position :=
  hasBit_eq wrapping (listBit_eq position bound) bound

theorem innerIsRequired_eq (wrapping : Wrapping) :
    wrapping.innerIsRequired = bit wrapping.bits 15 :=
  hasBit_eq wrapping (by decide) (by decide)

theorem bit_listBit : ∀ mark < 7, ∀ position < 16,
    bit (listBit mark) position = decide (position = mark) := by
  decide

theorem bit_innerRequiredBit : ∀ position < 16,
    bit innerRequiredBit position = decide (position = 15) := by
  decide

theorem bit_count :
    ∀ count < 8, ∀ position < 16, position < 12 ∨ position = 15 →
      bit (UInt16.ofNat count <<< countShift) position = false := by
  decide

theorem bit_countMask : ∀ position < 16, position < 12 ∨ position = 15 →
    bit countMask position = false := by
  decide

/-- Changing the count leaves the marks alone. -/
theorem bit_withCount (bits : UInt16) {count position : Nat} (small : count < 8)
    (mark : position < 12 ∨ position = 15) :
    bit (withCount bits count) position = bit bits position := by
  have bound : position < 16 := by omega
  rw [withCount, bit_or, bit_and_not _ _ bound,
    bit_count count small position bound mark,
    bit_countMask position bound mark, Bool.not_false, Bool.and_true,
    Bool.or_false]

theorem and_or_masked (bits word mask : UInt16) :
    ((bits &&& ~~~mask) ||| word) &&& mask = word &&& mask := by
  rw [← UInt16.toBitVec_inj]
  ext position bound
  simp only [UInt16.toBitVec_and, UInt16.toBitVec_or, UInt16.toBitVec_not,
    BitVec.getElem_and, BitVec.getElem_or, BitVec.getElem_not]
  cases bits.toBitVec[position] <;> cases word.toBitVec[position] <;>
    cases mask.toBitVec[position] <;> rfl

theorem or_and_masked (bits : UInt16) {word mask : UInt16}
    (apart : word &&& mask = 0) :
    (bits ||| word) &&& mask = bits &&& mask := by
  have distributed :
      (bits ||| word) &&& mask = (bits &&& mask) ||| (word &&& mask) := by
    rw [← UInt16.toBitVec_inj]
    ext position bound
    simp only [UInt16.toBitVec_and, UInt16.toBitVec_or, BitVec.getElem_and,
      BitVec.getElem_or, Bool.and_or_distrib_right]
  rw [distributed, apart, UInt16.or_zero]

theorem toNat_count : ∀ count < 8,
    (((UInt16.ofNat count <<< countShift) &&& countMask) >>> countShift).toNat =
      count := by
  decide

@[simp] theorem listCount_withCount (bits : UInt16) {count : Nat}
    (small : count < 8) :
    listCount ⟨withCount bits count⟩ = count := by
  rw [listCount, withCount, and_or_masked, toNat_count count small]

theorem listBit_apart : ∀ position < 7, listBit position &&& countMask = 0 := by
  decide

/-- A mark leaves the count alone. -/
theorem listCount_or (bits : UInt16) {mark : UInt16}
    (apart : mark &&& countMask = 0) :
    listCount ⟨bits ||| mark⟩ = listCount ⟨bits⟩ := by
  rw [listCount, listCount, or_and_masked bits apart]

/-! ### Words of trees -/

/-- The word keeps what the tree says, and no marks beyond its lists. -/
structure Packs (tree : TypeTree) (wrapping : Wrapping) : Prop where
  fits : tree.depth ≤ greatestCount
  count : wrapping.listCount = tree.depth
  inner : bit wrapping.bits 15 = tree.innerIsRequired
  marks :
    ∀ position < 7,
      bit wrapping.bits position = tree.marks[position]?.getD false

/-- The word is made by the operations on wrappings, which make the tree when
they are applied to trees. -/
inductive Builds : TypeTree → Wrapping → Prop where
  | named (isRequired : Bool) : Builds (.named isRequired) (named isRequired)
  | nonNull {tree : TypeTree} {wrapping : Wrapping} :
      Builds tree wrapping → Builds tree.nonNull wrapping.nonNull
  | inList {tree : TypeTree} {wrapping list : Wrapping} {isRequired : Bool} :
      Builds tree wrapping → wrapping.inList isRequired = .ok list →
        Builds (.list isRequired tree) list
  | element {tree : TypeTree} {wrapping element : Wrapping}
      {isRequired : Bool} :
      Builds (.list isRequired tree) wrapping →
        wrapping.element? = some element →
        Builds tree element

theorem packs_named (isRequired : Bool) :
    Packs (.named isRequired) (named isRequired) := by
  constructor
  · exact Nat.zero_le _
  · cases isRequired <;> rfl
  · cases isRequired <;> rfl
  · cases isRequired <;> decide

theorem Packs.nonNull {tree : TypeTree} {wrapping : Wrapping}
    (packs : Packs tree wrapping) :
    Packs tree.nonNull wrapping.nonNull := by
  cases tree with
  | named isRequired =>
      have count : wrapping.listCount = 0 := packs.count
      rw [Wrapping.nonNull, count]
      constructor
      · exact packs.fits
      · exact (listCount_or _ (by decide)).trans count
      · rw [bit_or, bit_innerRequiredBit 15 (by decide)]
        simp [TypeTree.nonNull, TypeTree.innerIsRequired]
      · intro position bound
        have elsewhere : position ≠ 15 := by omega
        rw [bit_or, bit_innerRequiredBit position (by omega),
          packs.marks position bound]
        simp [elsewhere, TypeTree.nonNull, TypeTree.marks]
  | list isRequired element =>
      have count : wrapping.listCount = element.depth + 1 := packs.count
      have fits : element.depth + 1 ≤ 7 := packs.fits
      have small : element.depth < 7 := fits
      rw [Wrapping.nonNull, count]
      constructor
      · exact packs.fits
      · exact (listCount_or _ (listBit_apart _ small)).trans count
      · have elsewhere : 15 ≠ element.depth := by omega
        rw [bit_or, bit_listBit _ small 15 (by decide), packs.inner]
        simp [elsewhere, TypeTree.nonNull, TypeTree.innerIsRequired]
      · intro position bound
        rw [bit_or, bit_listBit _ small position (by omega),
          packs.marks position bound]
        by_cases outermost : position = element.depth
        · subst outermost
          simp [TypeTree.nonNull, TypeTree.marks_outermost]
        · have same : (TypeTree.list true element).marks[position]? =
              (TypeTree.list isRequired element).marks[position]? := by
            simp only [TypeTree.marks, List.getElem?_append,
              TypeTree.length_marks]
            split
            · rfl
            · have beyond : position - element.depth ≠ 0 := by omega
              simp [beyond]
          simp [TypeTree.nonNull, same, outermost]

theorem Packs.inList {tree : TypeTree} {wrapping list : Wrapping}
    {isRequired : Bool}
    (packs : Packs tree wrapping)
    (wrapped : wrapping.inList isRequired = .ok list) :
    Packs (.list isRequired tree) list := by
  simp only [Wrapping.inList, packs.count] at wrapped
  have small : tree.depth < greatestCount := by
    refine Decidable.byContradiction fun full => ?_
    rw [if_neg full] at wrapped
    cases wrapped
  rw [if_pos small] at wrapped
  have small : tree.depth < 7 := small
  -- The new list is the outermost one, and no list had a mark at its place
  -- before.
  have unmarked : bit wrapping.bits tree.depth = false := by
    rw [packs.marks _ small, List.getElem?_eq_none (by simp)]
    rfl
  have marked : ∀ position < 7, position ≠ tree.depth →
      bit wrapping.bits position =
        (TypeTree.list isRequired tree).marks[position]?.getD false := by
    intro position bound elsewhere
    rw [packs.marks position bound]
    rcases Nat.lt_or_ge position tree.depth with inside | beyond
    · rw [TypeTree.marks_inside _ _ inside]
    · rw [List.getElem?_eq_none (by simpa using beyond),
        List.getElem?_eq_none (by simp [TypeTree.depth]; omega)]
  have count :
      listCount ⟨withCount wrapping.bits (tree.depth + 1)⟩ = tree.depth + 1 :=
    listCount_withCount _ (by omega)
  have inner :
      bit (withCount wrapping.bits (tree.depth + 1)) 15 =
        tree.innerIsRequired := by
    rw [bit_withCount _ (by omega) (by omega), packs.inner]
  cases isRequired with
  | false =>
      obtain rfl : ⟨withCount wrapping.bits (tree.depth + 1)⟩ = list := by
        simpa using wrapped
      refine ⟨small, count, inner, fun position bound => ?_⟩
      rw [bit_withCount _ (by omega) (by omega)]
      by_cases outermost : position = tree.depth
      · subst outermost
        rw [unmarked, TypeTree.marks_outermost]
        rfl
      · exact marked position bound outermost
  | true =>
      obtain rfl :
          ⟨withCount wrapping.bits (tree.depth + 1) ||| listBit tree.depth⟩ =
            list := by
        simpa using wrapped
      refine ⟨small, (listCount_or _ (listBit_apart _ small)).trans count, ?_,
        fun position bound => ?_⟩
      · have elsewhere : 15 ≠ tree.depth := by omega
        rw [bit_or, bit_listBit _ small 15 (by decide), inner]
        simp [elsewhere, TypeTree.innerIsRequired]
      · rw [bit_or, bit_listBit _ small position (by omega),
          bit_withCount _ (by omega) (by omega)]
        by_cases outermost : position = tree.depth
        · subst outermost
          simp [TypeTree.marks_outermost]
        · rw [marked position bound outermost]
          simp [outermost]

theorem Packs.element? {element : TypeTree} {wrapping : Wrapping}
    {isRequired : Bool}
    (packs : Packs (.list isRequired element) wrapping) :
    ∃ inside, wrapping.element? = some inside ∧ Packs element inside := by
  have count : wrapping.listCount = element.depth + 1 := packs.count
  have fits : element.depth + 1 ≤ 7 := packs.fits
  have small : element.depth < 7 := fits
  refine ⟨⟨withCount (wrapping.bits &&& ~~~listBit element.depth)
        element.depth⟩, ?_, ?_⟩
  · rw [Wrapping.element?, count]
  constructor
  · exact Nat.le_of_lt small
  · exact listCount_withCount _ (by omega)
  · have elsewhere : 15 ≠ element.depth := by omega
    rw [bit_withCount _ (by omega) (by omega), bit_and_not _ _ (by decide),
      bit_listBit _ small 15 (by decide), packs.inner]
    simp [elsewhere, TypeTree.innerIsRequired]
  · intro position bound
    rw [bit_withCount _ (by omega) (by omega), bit_and_not _ _ (by omega),
      bit_listBit _ small position (by omega), packs.marks position bound]
    rcases Nat.lt_or_ge position element.depth with inside | beyond
    · have elsewhere : position ≠ element.depth := Nat.ne_of_lt inside
      rw [TypeTree.marks_inside _ _ inside]
      simp [elsewhere]
    · have unmarked : element.marks[position]? = none :=
        List.getElem?_eq_none (by simpa using beyond)
      rw [unmarked]
      by_cases outermost : position = element.depth
      · simp [outermost]
      · rw [List.getElem?_eq_none (by simp [TypeTree.depth]; omega)]
        rfl

theorem Builds.packs {tree : TypeTree} {wrapping : Wrapping}
    (built : Builds tree wrapping) :
    Packs tree wrapping := by
  induction built with
  | named isRequired => exact packs_named isRequired
  | nonNull _ packs => exact packs.nonNull
  | inList _ wrapped packs => exact packs.inList wrapped
  | element _ taken packs =>
      obtain ⟨inside, same, inner⟩ := packs.element?
      rw [taken] at same
      cases same
      exact inner

/-! ### What the accessors say -/

namespace Packs

variable {tree element : TypeTree} {wrapping : Wrapping} {isRequired : Bool}

theorem isRequired_eq (packs : Packs tree wrapping) :
    wrapping.isRequired = tree.isRequired := by
  cases tree with
  | named isRequired =>
      have count : wrapping.listCount = 0 := packs.count
      rw [Wrapping.isRequired, count]
      exact (innerIsRequired_eq wrapping).trans packs.inner
  | list isRequired element =>
      have count : wrapping.listCount = element.depth + 1 := packs.count
      have fits : element.depth + 1 ≤ 7 := packs.fits
      rw [Wrapping.isRequired, count]
      simp only [hasBit_listBit wrapping (show element.depth < 16 by omega)]
      rw [packs.marks element.depth fits, TypeTree.marks_outermost]
      rfl

theorem isList_named (packs : Packs (.named isRequired) wrapping) :
    wrapping.isList = false := by
  rw [Wrapping.isList, packs.count]
  rfl

theorem isList_list (packs : Packs (.list isRequired element) wrapping) :
    wrapping.isList = true := by
  rw [Wrapping.isList, packs.count]
  simp [TypeTree.depth]

theorem lists_eq (packs : Packs tree wrapping) :
    wrapping.lists = tree.marks := by
  apply List.ext_getElem?
  intro position
  have fits : tree.depth ≤ 7 := packs.fits
  rw [lists, packs.count, List.getElem?_map]
  rcases Nat.lt_or_ge position tree.depth with inside | beyond
  · rw [List.getElem?_range inside, Option.map_some,
      hasBit_listBit wrapping (show position < 16 by omega),
      packs.marks position (by omega)]
    have present : position < tree.marks.length := by simpa using inside
    rw [List.getElem?_eq_getElem present]
    rfl
  · rw [List.getElem?_eq_none (by simpa using beyond),
      List.getElem?_eq_none (by simpa using beyond)]
    rfl

end Packs

theorem closings_append (inner outer : List Bool) :
    closings (inner ++ outer) = closings inner ++ closings outer := by
  induction inner with
  | nil => simp [closings]
  | cons mark inner induction => simp [closings, induction, String.append_assoc]

theorem render_of_tree (name : String) (tree : TypeTree) :
    openings tree.depth ++ name ++ mark tree.innerIsRequired ++
      closings tree.marks =
      tree.render name := by
  induction tree with
  | named isRequired =>
      simp [TypeTree.depth, openings, TypeTree.innerIsRequired, TypeTree.marks,
        closings, TypeTree.render]
  | list isRequired element induction =>
      rw [TypeTree.render, ← induction]
      simp [TypeTree.depth, openings, TypeTree.innerIsRequired, TypeTree.marks,
        closings_append, closings, String.append_assoc]

/-- The word is written as its tree. -/
theorem Packs.render_eq {tree : TypeTree} {wrapping : Wrapping}
    (packs : Packs tree wrapping) (name : String) :
    wrapping.render name = tree.render name := by
  rw [render, packs.count, packs.lists_eq, innerIsRequired_eq, packs.inner,
    render_of_tree]

end Wrapping

end GraphPipeline
