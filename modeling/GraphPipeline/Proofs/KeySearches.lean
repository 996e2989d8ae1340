import GraphPipeline.Proofs.SelectionArena

/-!
# The search for a response key

A field that has no response key yet looks for one.  Its name is tried first,
and then the name with each number of a counter, from one on, until a candidate
is free; if the counter came to its end, the name would be taken a second time.
No two candidates are the same, so that a search passes at most one candidate
for each taken key, and the counter does not end before there are as many keys
as it has numbers.  Names with numbers of their own are taken keys like all
others.
-/

namespace GraphPipeline

/-- How a search for a response key went: the candidates it looked at, and the
free one it came to, if there was one. -/
structure KeySearch where
  inspected : List String
  found : Option String

/-- The search, with one candidate looked at before. -/
def KeySearch.after (search : KeySearch) (candidate : String) : KeySearch :=
  { search with inspected := candidate :: search.inspected }

/-- The key that is taken in the end.  Without a free one it is the name, which
is taken. -/
def KeySearch.key (search : KeySearch) (name : String) : String :=
  search.found.getD name

/-- Looks at a name with one number after the other, from a counter on, as long
as numbers are left. -/
def searchNumbers (taken : List String) (name : String) :
    (left counter : Nat) → KeySearch
  | 0, _ => { inspected := [], found := none }
  | left + 1, counter =>
      let candidate := name ++ toString counter
      if candidate ∈ taken then
        (searchNumbers taken name left (counter + 1)).after candidate
      else { inspected := [candidate], found := some candidate }

/-- Looks at a name, and then at the name with each number from one to a
limit. -/
def searchKey (limit : Nat) (taken : List String) (name : String) : KeySearch :=
  if name ∈ taken then (searchNumbers taken name limit 1).after name
  else { inspected := [name], found := some name }

/-- The greatest number of a counter that is a signed word of 32 bits. -/
def greatestNumber : Nat := 0x7fffffff

/-- The key that a name gets next: the name if it is free, and otherwise the
name with the least number, from one on, that makes it free. -/
inductive IsNextKey (taken : List String) (name : String) : String → Prop where
  | itself : name ∉ taken → IsNextKey taken name name
  | numbered {number : Nat} : name ∈ taken → 0 < number →
      (∀ smaller,
        0 < smaller → smaller < number → name ++ toString smaller ∈ taken) →
      name ++ toString number ∉ taken →
        IsNextKey taken name (name ++ toString number)

variable {taken : List String} {name key : String}

/-! ### The numbers of a name -/

theorem mem_keyCandidates_iff {count : Nat} :
    key ∈ keyCandidates name count ↔
      key = name ∨
        ∃ number,
          0 < number ∧ number ≤ count ∧ key = name ++ toString number := by
  rw [keyCandidates, List.mem_cons, List.mem_map]
  refine or_congr_right ⟨?_, ?_⟩
  · rintro ⟨index, member, rfl⟩
    exact ⟨index + 1, Nat.succ_pos index, List.mem_range.mp member, rfl⟩
  · rintro ⟨number, positive, bound, rfl⟩
    refine ⟨number - 1, List.mem_range.mpr (by omega), ?_⟩
    rw [Nat.sub_add_cancel positive]

/-- The number of a next key is at most the number of taken keys: the name and
its smaller numbers are all taken, and they all differ. -/
theorem number_le_length {number : Nat} (nameTaken : name ∈ taken)
    (positive : 0 < number)
    (smallerTaken : ∀ smaller, 0 < smaller → smaller < number →
      name ++ toString smaller ∈ taken) : number ≤ taken.length := by
  have allTaken : keyCandidates name (number - 1) ⊆ taken := by
    intro candidate member
    rcases mem_keyCandidates_iff.mp member with
      rfl | ⟨smaller, fromOne, bound, rfl⟩
    · exact nameTaken
    · exact smallerTaken smaller fromOne (by omega)
  have below := lt_length_of_keyCandidates_subset allTaken
  omega

/-! ### The loop over the numbers -/

theorem searchNumbers_taken {counter : Nat}
    (isTaken : name ++ toString counter ∈ taken) (left : Nat) :
    searchNumbers taken name (left + 1) counter =
      (searchNumbers taken name left (counter + 1)).after
        (name ++ toString counter) := by
  rw [searchNumbers]
  exact if_pos isTaken

theorem searchNumbers_free {counter : Nat}
    (isFree : name ++ toString counter ∉ taken) (left : Nat) :
    searchNumbers taken name (left + 1) counter =
      { inspected := [name ++ toString counter],
        found := some (name ++ toString counter) } := by
  rw [searchNumbers]
  exact if_neg isFree

/-- The loop looks at every number from the counter on to the first one that is
free, if there are numbers left for it. -/
theorem searchNumbers_reaches {number left counter : Nat}
    (ahead : counter ≤ number) (within : number < counter + left)
    (smallerTaken : ∀ smaller, counter ≤ smaller → smaller < number →
      name ++ toString smaller ∈ taken)
    (isFree : name ++ toString number ∉ taken) :
    (searchNumbers taken name left counter).found =
      some (name ++ toString number) ∧
      (searchNumbers taken name left counter).inspected.length =
        number - counter + 1 := by
  induction left generalizing counter with
  | zero => omega
  | succ left induction =>
      rcases Nat.eq_or_lt_of_le ahead with rfl | before
      · rw [searchNumbers_free isFree, Nat.sub_self]
        exact ⟨rfl, rfl⟩
      · obtain ⟨found, count⟩ := induction before (by omega)
          fun smaller later => smallerTaken smaller (Nat.le_of_lt later)
        rw [searchNumbers_taken
            (smallerTaken counter (Nat.le_refl counter) before)]
        refine ⟨found, (congrArg (· + 1) count).trans ?_⟩
        omega

/-! ### The whole search -/

/-- A search with as many numbers as there are taken keys comes to the next key,
and looks at one candidate more than there are taken keys at most. -/
theorem IsNextKey.searched {limit : Nat} (next : IsNextKey taken name key)
    (enough : taken.length ≤ limit) :
    (searchKey limit taken name).found = some key ∧
      (searchKey limit taken name).inspected.length ≤ taken.length + 1 := by
  cases next with
  | itself isFree =>
      rw [searchKey, if_neg isFree]
      exact ⟨rfl, Nat.succ_le_succ (Nat.zero_le _)⟩
  | @numbered number nameTaken positive smallerTaken isFree =>
      have bound := number_le_length nameTaken positive smallerTaken
      have within : number < 1 + limit := by omega
      obtain ⟨found, count⟩ :=
        searchNumbers_reaches positive within smallerTaken isFree
      rw [searchKey, if_pos nameTaken]
      refine ⟨found, (congrArg (· + 1) count).trans_le ?_⟩
      omega

theorem getElem_keyCandidates {count index : Nat}
    (bound : index + 1 < (keyCandidates name count).length) :
    (keyCandidates name count)[index + 1] = name ++ toString (index + 1) := by
  simp [keyCandidates]

/-- The first free candidate is the next key. -/
theorem freeKey_isNext (taken : List String) (name : String) :
    IsNextKey taken name (freeKey taken name) := by
  have isFree := freeKey_notMem taken name
  obtain ⟨-, position, bound, same, before⟩ :=
    List.find?_eq_some_iff_getElem.mp (find?_keyCandidates taken name)
  have beforeTaken : ∀ earlier (below : earlier < position),
      (keyCandidates name taken.length)[earlier] ∈ taken := by
    intro earlier below
    simpa using before earlier below
  rw [← same] at isFree ⊢
  cases position with
  | zero => exact .itself isFree
  | succ index =>
      rw [getElem_keyCandidates] at isFree ⊢
      refine .numbered (beforeTaken 0 (Nat.succ_pos index)) (Nat.succ_pos index)
        ?_ isFree
      intro smaller fromOne below
      have smallerTaken := beforeTaken (smaller - 1 + 1) (by omega)
      rwa [getElem_keyCandidates, Nat.sub_add_cancel fromOne] at smallerTaken

/-- The key taken for a field is the one the search comes to before its counter
ends. -/
theorem takeKey_searches (selections : Selections) (space : KeySpaceId)
    (name signature : String) (type : TypeRef)
    (inRange : (selections.keys space).length < 0x80000000) :
    let taken := Entries.keys (selections.keys space)
    let search := searchKey greatestNumber taken name
    let key := (selections.takeKey space name signature type).1.1
    search.key name = key ∧ search.found ≠ none ∧
      search.inspected.length ≤ taken.length + 1 ∧
      key ∉ taken ∧ IsNextKey taken name key := by
  intro taken search key
  have sameKey : key = freeKey taken name :=
    congrArg Prod.fst (selections.takeKey_fst space name signature type)
  have next : IsNextKey taken name key := sameKey ▸ freeKey_isNext taken name
  have count : taken.length = (selections.keys space).length :=
    List.length_map _
  have enough : taken.length ≤ greatestNumber :=
    count ▸ Nat.le_of_lt_succ inRange
  obtain ⟨found, few⟩ := next.searched enough
  refine ⟨?_, ?_, few, sameKey ▸ freeKey_notMem taken name, next⟩
  · rw [KeySearch.key, found, Option.getD_some]
  · rw [found]
    exact Option.some_ne_none key

namespace Sample

/-- A field with a number in its name took the first number of another name, and
`items11` is its own second key. -/
def itemKeys : Selections :=
  { sets := [],
    keySpaces := [["items", "items1", "items11"].map fun key =>
      (key, { signature := key, type := .object "Item", child := none })] }

end Sample

/-- The second number is the first that is free. -/
theorem takeKey_items :
    (Sample.itemKeys.keys 0).length < 0x80000000 ∧
      (Sample.itemKeys.takeKey 0 "items" "items(first: 1)"
          (.object "Item")).1.1 = "items2" ∧
      (searchKey greatestNumber ["items", "items1", "items11"] "items").key
          "items" = "items2" ∧
      (searchKey greatestNumber ["items", "items1", "items11"] "items").found ≠
        none ∧
      (searchKey greatestNumber ["items", "items1", "items11"]
          "items").inspected.length ≤ 4 ∧
      IsNextKey ["items", "items1", "items11"] "items" "items2" := by
  have inRange : (Sample.itemKeys.keys 0).length < 0x80000000 := by decide
  have key :
      (Sample.itemKeys.takeKey 0 "items" "items(first: 1)"
        (.object "Item")).1.1 =
        "items2" := by cbv
  obtain ⟨same, found, few, -, next⟩ :=
    takeKey_searches Sample.itemKeys 0 "items" "items(first: 1)"
      (.object "Item") inRange
  rw [key] at same next
  exact ⟨inRange, key, same, found, few, next⟩

end GraphPipeline
