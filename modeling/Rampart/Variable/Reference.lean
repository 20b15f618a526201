import Rampart.Error
import Rampart.Text.Cut
import Rampart.Variable.Basic

/-!
# References to variables

The written form of variables: a name, and behind a colon a key or a pattern between slashes. An
exclamation mark before it excludes, an ampersand counts. In the list of targets of a rule, an
excluded key is taken from every other entry of the same name, and an excluded name removes the
entries of that name.
-/

namespace Rampart

/-- The selector that stands behind a name. -/
def Selector.ofText (key : Option String) : Except Error Selector :=
  match key with
  | none => .ok .all
  | some k =>
    let cs := k.toList
    if cs.isEmpty then .ok .all
    else if 1 < cs.length ∧ cs.head? = some '/' ∧ cs.getLast? = some '/' then
      let source := String.ofList cs.tail.dropLast
      match Pattern.ofText Pattern.keyFlags source with
      | .ok p => .ok (.pattern p)
      | .error cause => .error (.invalidPattern source cause)
    else .ok (.key k)

namespace Variable

/-- A reference cut at its first colon: the name in capitals, and what follows. -/
def splitReference (cs : List Char) : String × Option String :=
  let name (cs : List Char) := Text.upper (String.ofList (Text.trimChars cs))
  match Text.cutAt? (· == ':') cs with
  | some (n, k) => (name n, some (String.ofList (Text.trimChars k)))
  | none => (name cs, none)

/-- The variable of a reference without marks before it. -/
def ofPlain (cs : List Char) : Except Error Variable :=
  let invalid := Error.invalidVariable (String.ofList cs)
  let (name, key) := splitReference cs
  let key' := key.filter fun k => !k.isEmpty
  match SetSource.all.find? fun s => s.namesName == name with
  | some s => (Selector.ofText key).map fun sel => .names s sel .none
  | none =>
    match SetSource.all.find? fun s => s.name == name with
    | some s => (Selector.ofText key).map fun sel => .set s sel .none
    | none =>
      match CollectionName.ofText? name with
      | some c => (Selector.ofText key).map fun sel => .collection c sel .none
      | none =>
        if name = "ENV" then .ok (.env key' .none)
        else if name = "RULE" then .ok (.rule key')
        else if key'.isSome then .error invalid
        else
          match SingleSource.all.find? fun s => s.name == name with
          | some s => .ok (.single s)
          | none =>
            match Calendar.Field.all.find? fun f => f.name == name with
            | some f => .ok (.time f)
            | none => .error invalid

/-- The variable of a reference. Blanks around it and behind its marks are passed over. -/
def ofChars (cs : List Char) : Except Error Variable :=
  match _h : Text.trimChars cs with
  | '!' :: rest => (ofChars rest).map .exclusion
  | '&' :: rest => (ofChars rest).map .count
  | trimmed => ofPlain trimmed
termination_by cs.length
decreasing_by
  all_goals
    have := Text.length_trimChars_le cs
    rw [_h] at this
    simp only [List.length_cons] at this
    omega

/-- The variable of a reference. -/
def ofText (reference : String) : Except Error Variable := ofChars reference.toList

/-- What one entry of a list of targets says. -/
inductive Target where
  /-- Inspect the variable. -/
  | inspect (v : Variable)
  /-- Leave out the selected keys of the variables of a name. -/
  | leaveOut (name : String) (selector : Selector)

/-- What one entry of a list of targets says. An excluded reference has to be valid itself. -/
def Target.ofText (reference : String) : Except Error Target :=
  let trimmed := Text.trimChars reference.toList
  match trimmed with
  | '!' :: rest => do
    let _ ← ofChars trimmed
    let (name, key) := splitReference rest
    let selector ← Selector.ofText key
    .ok (.leaveOut name selector)
  | _ => (ofChars trimmed).map .inspect

/-- The variables without what an exclusion of keys of the variables of a name leaves out. -/
def leaveOut (vs : List Variable) (name : String) (selector : Selector) : List Variable :=
  match selector with
  | .all => vs.filter fun v => !Text.sameText v.name name
  | _ => vs.map fun v => if Text.sameText v.name name then v.exclude selector else v

/-- The variables of a list of targets. -/
def ofTargets (ts : List Target) : List Variable :=
  let inspected := ts.filterMap fun
    | .inspect v => some v
    | .leaveOut _ _ => none
  ts.foldl (fun vs t =>
    match t with
    | .inspect _ => vs
    | .leaveOut name selector => leaveOut vs name selector) inspected

/-- The variables of a written list of targets. -/
def ofList (references : List String) : Except Error (List Variable) :=
  (references.mapM Target.ofText).map ofTargets

end Variable

end Rampart
