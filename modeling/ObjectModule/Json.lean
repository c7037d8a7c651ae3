import ObjectModule.Binary64.Basic
import ObjectModule.Text.Codes

/-! JSON values.

Integers are exact and of any size, other numbers are binary floating-point. Strings
are lists of codes, because escapes can name halves of UTF-16 pairs. An object lists
its members in order, each key once. -/
namespace ObjectModule

/-- A JSON value. -/
inductive Json where
  | null
  | bool (b : Bool)
  | integer (n : Int)
  /-- A number with a fraction or an exponent, an infinity, or no number at all. -/
  | decimal (x : Binary64)
  | string (text : Text.Codes)
  | array (items : List Json)
  | object (members : List (Text.Codes × Json))
deriving Repr, Inhabited

/-- The members of an object after one more has been read. A key met again keeps its
place and takes the new value. -/
def Json.insert (key : Text.Codes) (value : Json) :
    List (Text.Codes × Json) → List (Text.Codes × Json)
  | [] => [(key, value)]
  | (k, v) :: rest => if k = key then (key, value) :: rest else (k, v) :: insert key value rest

end ObjectModule
