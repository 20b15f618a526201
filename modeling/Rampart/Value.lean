import Rampart.Text.Numeral

/-!
# Values

What a variable stands for in a request: texts, each with the collection and the key it was found
under, and the places of the request it was taken from.
-/

namespace Rampart

/-- A stretch of bytes of the request. -/
structure Origin where
  offset : Nat
  length : Nat
  deriving DecidableEq, Repr

/-- The stretch as it is written in evidence. -/
def Origin.text (o : Origin) : String := "v" ++ o.offset.repr ++ "," ++ o.length.repr

/-- A text under a key of a collection. Values that stand alone have the empty key. -/
structure Value where
  collection : String
  key : String
  text : String
  origins : List Origin
  deriving DecidableEq, Repr

namespace Value

/-- A value that was not taken from the request itself. -/
def keyed (collection key text : String) : Value := ⟨collection, key, text, []⟩

/-- A value without a key that was not taken from the request itself. -/
def keyless (collection text : String) : Value := ⟨collection, "", text, []⟩

/-- The collection and the key, or the collection alone where there is no key. -/
def name (v : Value) : String :=
  if v.key.isEmpty then v.collection else v.collection ++ ":" ++ v.key

/-- The value with one more origin. -/
def addOrigin (v : Value) (o : Origin) : Value := { v with origins := v.origins ++ [o] }

end Value

end Rampart
