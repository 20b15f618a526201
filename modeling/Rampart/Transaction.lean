import Rampart.Collection.Compartment
import Rampart.Collection.Registry
import Rampart.Decision
import Rampart.Request

/-!
# Transactions

The state that rules read and write while one request is inspected: the request, the values that
matched last, the collection of the transaction itself, the environment and the decisions. The shared
collections stand beside it, since other transactions write to them too; a transaction reaches one
of them once it is bound to a compartment of it.
-/

namespace Rampart

/-- Texts by name, in the order of the names. -/
structure Environment where
  entries : List (String × String)

namespace Environment

/-- No names. -/
def empty : Environment := ⟨[]⟩

/-- Inserts a name in its place, or replaces its text. -/
def insert (name text : String) : List (String × String) → List (String × String)
  | [] => [(name, text)]
  | e :: es =>
    if name = e.1 then (name, text) :: es
    else if name < e.1 then (name, text) :: e :: es
    else e :: insert name text es

/-- The environment with a text under a name. -/
def set (v : Environment) (name text : String) : Environment := ⟨insert name text v.entries⟩

/-- The environment of some pairs, of which the last of each name counts. -/
def ofList (entries : List (String × String)) : Environment :=
  entries.foldl (fun v e => v.set e.1 e.2) empty

end Environment

/-- The values that matched last. -/
structure Matches where
  last : Anchor
  lastName : Anchor
  values : AnchoredSet
  names : AnchoredSet

namespace Matches

/-- Nothing has matched. -/
def none : Matches :=
  ⟨.unset "MATCHED_VAR", .unset "MATCHED_VAR_NAME", .empty "MATCHED_VARS",
    .empty "MATCHED_VARS_NAMES"⟩

/-- One more match: the name of the value, the text that matched, and the offset of the value. -/
def record (m : Matches) (name text : String) (offset : Nat) : Matches where
  last := m.last.set text offset
  lastName := m.lastName.set name offset
  values := m.values.pushWhole name text offset
  names := m.names.pushWhole name name offset

/-- Forgets every match. -/
def clear (m : Matches) : Matches := ⟨m.last.clear, m.lastName.clear, m.values.clear, m.names.clear⟩

end Matches

/-- The state of one transaction. -/
structure Transaction where
  request : Request
  matched : Matches
  own : Collection
  registry : Registry
  /-- The compartments that shared collections are bound to, by name. -/
  bindings : List (String × String)
  environment : Environment
  decision : Decision

namespace Transaction

/-- The name of the collection that every transaction has of its own. -/
def ownName : String := "TX"

/-- A transaction about a request of which nothing is known yet. -/
def new (id : String) (time : Int) (registry : Registry) : Transaction where
  request := .new id time
  matched := .none
  own := .empty ownName
  registry := registry
  bindings := []
  environment := .empty
  decision := {}

/-- The compartment that a shared collection is bound to. -/
def binding? (t : Transaction) (name : String) : Option String :=
  (t.bindings.find? fun b => Text.sameText b.1 name).map (·.2)

/-- Binds a shared collection to a compartment; says whether there is such a collection. -/
def bind (t : Transaction) (name key : String) : Bool × Transaction :=
  if t.registry.contains name then
    (true, { t with bindings := (name, key) :: t.bindings.filter fun b => !Text.sameText b.1 name })
  else (false, t)

/-- The transaction with another decision. -/
def decide (t : Transaction) (f : Decision → Decision) : Transaction :=
  { t with decision := f t.decision }

/-- The transaction with more known of its request. -/
def learn (t : Transaction) (f : Request → Request) : Transaction :=
  { t with request := f t.request }

end Transaction

/-- Where a collection is kept. -/
inductive Home where
  /-- In the transaction. -/
  | own
  /-- On the shelf. -/
  | shared (place : Place)
  deriving DecidableEq, Repr

/-- A collection as a transaction sees it: where it is kept, and the part that can be reached. -/
structure View where
  home : Home
  compartment : Compartment

/-- A transaction at work: its own state, the collections it shares with others, and the time. -/
structure Exchange where
  tx : Transaction
  shelf : Shelf
  now : Instant

namespace Exchange

/-- The collection of this name, if the transaction can reach it. -/
def view? (x : Exchange) (name : String) : Option View :=
  if Text.sameText name Transaction.ownName then some ⟨.own, .whole⟩
  else
    match x.tx.binding? name, x.tx.registry.place? name with
    | some key, some place => some ⟨.shared place, .within [key]⟩
    | _, _ => none

/-- The collection that is kept in a place. Nothing is kept beyond the end of the shelf. -/
def content (x : Exchange) : Home → Collection
  | .own => x.tx.own
  | .shared place => (x.shelf.at? place).getD (.empty "")

/-- Puts another state of a collection in its place. -/
def put (x : Exchange) (h : Home) (c : Collection) : Exchange :=
  match h with
  | .own => { x with tx := { x.tx with own := c } }
  | .shared place => { x with shelf := x.shelf.set place c }

/-- Reads from a collection; what is left of it is put back. -/
def reading {α : Type} (x : Exchange) (v : View) (f : Compartment → Collection → α × Collection) :
    α × Exchange :=
  let r := f v.compartment (x.content v.home)
  (r.1, x.put v.home r.2)

/-- Writes to a collection. -/
def writing (x : Exchange) (v : View) (f : Compartment → Collection → Collection) : Exchange :=
  x.put v.home (f v.compartment (x.content v.home))

/-- The exchange with another state of the transaction. -/
def update (x : Exchange) (f : Transaction → Transaction) : Exchange := { x with tx := f x.tx }

end Exchange

end Rampart
