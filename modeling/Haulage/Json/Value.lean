/-!
# JSON values

The values of a JSON document, as far as records use them: numbers are whole, and a text has no
surrogate without its partner.  Whatever else is well formed is `unread`; it may stand where nobody
looks.
-/

namespace Haulage

/-- A value of a JSON document. -/
inductive Json where
  /-- The null value. -/
  | null
  /-- A truth value. -/
  | bool (value : Bool)
  /-- A whole number, written without fraction and exponent. -/
  | int (value : Int)
  /-- A text. -/
  | str (text : String)
  /-- A list of values. -/
  | arr (items : List Json)
  /-- Named values, in the order of the document. -/
  | obj (members : List (String × Json))
  /-- A number with a fraction or an exponent, a negative zero, or a text or an object whose escapes
  leave a surrogate alone. -/
  | unread
deriving Inhabited

namespace Json

/-- The text of a value that is one. -/
def text? : Json → Option String
  | str text => some text
  | _ => none

/-- The items of a value that is a list. -/
def items? : Json → Option (List Json)
  | arr items => some items
  | _ => none

/-- The value of the first member with a name. -/
def member? (name : String) : Json → Option Json
  | obj members => (members.find? fun member => member.1 == name).map Prod.snd
  | _ => none

end Json

end Haulage
