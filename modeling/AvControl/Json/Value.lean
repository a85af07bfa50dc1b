import AvControl.Decimal.Shortest
import AvControl.SortedMap

/-!
# JSON values

A number is an integer or a binary64 number, never both: what was written without fraction and
exponent and fits 64 bits stays an integer. The members of an object are kept in increasing order
of their names, each name once, so that one value has one representation.
-/

namespace AvControl

/-- A JSON number. -/
inductive JsonNumber
  | integer (value : Int)
  | binary64 (value : Decimal.Binary64)
deriving DecidableEq, Repr

/-- A JSON value. -/
inductive Json
  | null
  | bool (value : Bool)
  | number (value : JsonNumber)
  | string (value : String)
  | array (items : List Json)
  | object (members : List (String × Json))
deriving Repr, Inhabited

namespace Json

mutual

/-- Whether two values are the same. -/
def decideEq : (a b : Json) → Decidable (a = b)
  | null, null => isTrue rfl
  | bool a, bool b => decidable_of_iff (a = b) (by simp)
  | number a, number b => decidable_of_iff (a = b) (by simp)
  | string a, string b => decidable_of_iff (a = b) (by simp)
  | array a, array b =>
    have := decideEqItems a b
    decidable_of_iff (a = b) (by simp)
  | object a, object b =>
    have := decideEqMembers a b
    decidable_of_iff (a = b) (by simp)
  | null, bool _ | null, number _ | null, string _ | null, array _ | null, object _
  | bool _, null | bool _, number _ | bool _, string _ | bool _, array _ | bool _, object _
  | number _, null | number _, bool _ | number _, string _ | number _, array _
  | number _, object _ | string _, null | string _, bool _ | string _, number _
  | string _, array _ | string _, object _ | array _, null | array _, bool _
  | array _, number _ | array _, string _ | array _, object _ | object _, null
  | object _, bool _ | object _, number _ | object _, string _ | object _, array _ =>
    isFalse (by simp)

/-- Whether two lists of values are the same. -/
def decideEqItems : (a b : List Json) → Decidable (a = b)
  | [], [] => isTrue rfl
  | [], _ :: _ | _ :: _, [] => isFalse (by simp)
  | a :: as, b :: bs =>
    have := decideEq a b
    have := decideEqItems as bs
    decidable_of_iff (a = b ∧ as = bs) (by simp)

/-- Whether two lists of members are the same. -/
def decideEqMembers : (a b : List (String × Json)) → Decidable (a = b)
  | [], [] => isTrue rfl
  | [], _ :: _ | _ :: _, [] => isFalse (by simp)
  | (k, a) :: as, (l, b) :: bs =>
    have := decideEq a b
    have := decideEqMembers as bs
    decidable_of_iff ((k = l ∧ a = b) ∧ as = bs) (by simp)

end

instance : DecidableEq Json := decideEq

/-- The number of an integer. -/
def ofInt (value : Int) : Json := number (.integer value)

/-- The object with the given members; of members with one name the last one counts. -/
def ofMembers (members : List (String × Json)) : Json :=
  object (SortedMap.ofList members).entries

/-- The object with one member for each entry of a map. -/
def ofMap (map : SortedMap String Json) : Json := object map.entries

/-- The array of some texts. -/
def ofTexts (texts : List String) : Json := array (texts.map string)

/-- The member of an object with the given name. -/
def member? (name : String) : Json → Option Json
  | object members => SortedMap.findEntry name members
  | _ => none

mutual

/-- Every object inside the value has its members in strictly increasing order of their names. -/
def Sorted : Json → Prop
  | array items => ItemsSorted items
  | object members => members.Pairwise (fun a b => a.1 < b.1) ∧ MembersSorted members
  | _ => True

/-- Every listed value is sorted. -/
def ItemsSorted : List Json → Prop
  | [] => True
  | item :: rest => Sorted item ∧ ItemsSorted rest

/-- Every member's value is sorted. -/
def MembersSorted : List (String × Json) → Prop
  | [] => True
  | (_, value) :: rest => Sorted value ∧ MembersSorted rest

end

end Json

end AvControl
