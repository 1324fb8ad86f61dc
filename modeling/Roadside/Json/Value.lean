/-!
# JSON values

A value as a JSON text spells it. Numbers without a point or an exponent are kept as whole numbers, apart from all
others, and records keep their members in order, also those whose names occur more than once.

* `Json.members?` takes a value apart into members of given names; a list of as many items stands for a record.
* `Json.choice?` takes a value apart into the name of a case and what comes with it.
-/

namespace Roadside

/-- A JSON value. -/
inductive Json where
  | null
  | bool (value : Bool)
  | whole (value : Int)
  | decimal (value : Float)
  | text (value : String)
  | list (items : List Json)
  | record (members : List (String × Json))

namespace Json

/-- The only member of a name; a name that occurs twice is no member. -/
def member? (name : String) (members : List (String × Json)) : Option Json :=
  match members.filter (·.1 = name) with
  | [(_, value)] => some value
  | _ => none

/-- The members of the given names, in their order. Members of other names do not matter. -/
def members? (names : List String) : Json → Option (List Json)
  | .record members => names.mapM fun name => member? name members
  | .list items => if items.length = names.length then some items else none
  | _ => none

/-- The name of a case and what comes with it. A case that nothing comes with is a bare text, or comes with null. -/
def choice? : Json → Option (String × Json)
  | .text name => some (name, .null)
  | .record [(name, value)] => some (name, value)
  | _ => none

/-- The name of a case that nothing comes with. -/
def word? (json : Json) : Option String :=
  match json.choice? with
  | some (name, .null) => some name
  | _ => none

@[simp] theorem word?_text (name : String) : (text name).word? = some name := rfl

end Json

end Roadside
