import GraphPipeline.Program.Page
import GraphPipeline.Proofs.Compile.Action

/-!
# Pages of connections

What a page that is read says of its connection.  The path of the connection
stands in the errors of unreadable pages alone.
-/

namespace GraphPipeline

namespace Page

variable {path : ResponsePath} {keys : PageKeys} {members info : Entries Json}

theorem objectAt_eq_ok {value : Json} :
    objectAt path value = .ok members ↔ value = .object members := by
  cases value <;> simp [objectAt]

theorem pageInfoAt_eq_ok :
    pageInfoAt path keys members = .ok info ↔
      Entries.lookup? members keys.pageInfo = some (.object info) := by
  unfold pageInfoAt
  cases Entries.lookup? members keys.pageInfo with
  | none => simp
  | some value => cases value <;> simp [Json.members?]

theorem hasNextPageAt_eq_ok {flag : Bool} :
    hasNextPageAt path keys info = .ok flag ↔
      Entries.lookup? info keys.hasNextPage = some (.bool flag) := by
  unfold hasNextPageAt
  cases Entries.lookup? info keys.hasNextPage with
  | none => simp
  | some value => cases value <;> simp [Json.bool?]

theorem nodesAt_eq_ok {nodes : List Json} :
    nodesAt path keys members = .ok nodes ↔
      Entries.lookup? members keys.nodes = some (.array nodes) ∨
        Entries.lookup? members keys.nodes = some .null ∧ nodes = [] := by
  unfold nodesAt
  cases Entries.lookup? members keys.nodes with
  | none => simp
  | some value => cases value <;> simp [eq_comm]

/-- What can be read from a connection. -/
theorem read_eq_ok {connection : Json} {page : Page} :
    read connection keys path = .ok page ↔
      ∃ info, connection.member? keys.pageInfo = some (.object info) ∧
        Entries.lookup? info keys.hasNextPage =
          some (.bool page.hasNextPage) ∧
        (Entries.lookup? info keys.endCursor).bind Json.text? =
          page.endCursor ∧
        (connection.member? keys.nodes = some (.array page.nodes) ∨
          connection.member? keys.nodes = some .null ∧ page.nodes = []) := by
  simp only [read, except_bind_eq_ok, objectAt_eq_ok, pageInfoAt_eq_ok,
    hasNextPageAt_eq_ok, nodesAt_eq_ok]
  constructor
  · rintro ⟨members, rfl, info, infoFound, flag, flagFound, items, itemsFound,
      success⟩
    obtain rfl := Except.ok.inj success
    exact ⟨info, infoFound, flagFound, rfl, itemsFound⟩
  · rintro ⟨info, infoFound, flagFound, cursor, itemsFound⟩
    cases connection with
    | object members =>
        refine ⟨members, rfl, info, infoFound, _, flagFound, _, itemsFound, ?_⟩
        rw [cursor]
        rfl
    | null => cases infoFound
    | bool value => cases infoFound
    | number value => cases infoFound
    | string value => cases infoFound
    | array items => cases infoFound

/-- A page that is read at one path is read at every path. -/
theorem read_anywhere {connection : Json} {page : Page}
    (success : read connection keys path = .ok page) (other : ResponsePath) :
    read connection keys other = .ok page :=
  read_eq_ok.mpr (read_eq_ok.mp success)

/-- The pages of a connection can be read. -/
def Readable (connection : Json) (keys : PageKeys) : Prop :=
  ∃ path page, read connection keys path = .ok page

theorem Readable.read {connection : Json} (readable : Readable connection keys)
    (path : ResponsePath) :
    ∃ page, Page.read connection keys path = .ok page := by
  obtain ⟨_, page, success⟩ := readable
  exact ⟨page, read_anywhere success path⟩

end Page

end GraphPipeline
