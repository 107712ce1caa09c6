import CodeFlow.Decimal.Binary

/-!
# `CodeFlow.Value` — values whose kind is not known beforehand

What is to be drawn comes in as a value of any kind and is looked at only when it is used.

## Contents
- `Value`, `Value.kindWord`: a value and the word for its kind.
- `Value.parts?`: what a value falls into.
- `Misfit`, `Misfit.message`: why a value cannot be used.
- `Value.pair`: a value as two parts.
-/

namespace CodeFlow

/-- A value. -/
inductive Value where
  | null
  | flag (b : Bool)
  | number (n : Int)
  /-- A number with a fraction or an exponent: its sign and its size. -/
  | float (negative : Bool) (size : Decimal.Binary)
  | text (t : String)
  | list (items : List Value)
  /-- Values by name. -/
  | record (fields : List (String × Value))
deriving Inhabited

namespace Value

/-- The word for the kind of a value. -/
def kindWord : Value → String
  | .null => "NoneType"
  | .flag _ => "bool"
  | .number _ => "int"
  | .float _ _ => "float"
  | .text _ => "str"
  | .list _ => "list"
  | .record _ => "dict"

/-- What a value falls into: a text into its characters, a list into its items, a record into its
names. -/
def parts? : Value → Option (List Value)
  | .null => none
  | .flag _ => none
  | .number _ => none
  | .float _ _ => none
  | .text t => some (t.toList.map fun c => .text (String.ofList [c]))
  | .list items => some items
  | .record fields => some (fields.map fun f => .text f.1)

/-- Whether a value counts as nothing. -/
def isNothing : Value → Bool
  | .null => true
  | .flag b => !b
  | .number n => n == 0
  | .float _ size => size.isZero
  | .text t => t.isEmpty
  | .list items => items.isEmpty
  | .record fields => fields.isEmpty

end Value

/-- Why a value cannot be used. -/
inductive Misfit where
  /-- It does not fall into parts. -/
  | noParts (kind : String)
  /-- An item does not fall into parts. -/
  | noPair (kind : String)
  /-- An item has fewer than two parts. -/
  | tooFew (got : Nat)
  /-- An item has more than two parts. -/
  | tooMany
  /-- The code of an item is not a text. -/
  | noCode (index : Nat) (kind : String)
  /-- A name that counts as nothing cannot be searched for a point. -/
  | noSearch (kind : String)
  /-- A name is not a text. -/
  | noName (kind : String)
deriving Repr, DecidableEq

/-- What is said of a value that cannot be used. -/
def Misfit.message : Misfit → String
  | .noParts kind => "'" ++ kind ++ "' object is not iterable"
  | .noPair kind => "cannot unpack non-iterable " ++ kind ++ " object"
  | .tooFew got => "not enough values to unpack (expected 2, got " ++ toString got ++ ")"
  | .tooMany => "too many values to unpack (expected 2)"
  | .noCode index kind =>
    "sequence item " ++ toString index ++ ": expected str instance, " ++ kind ++ " found"
  | .noSearch kind => "argument of type '" ++ kind ++ "' is not iterable"
  | .noName kind => "'" ++ kind ++ "' object has no attribute 'replace'"

namespace Value

/-- The two parts of a value. -/
def pair (v : Value) : Except Misfit (Value × Value) :=
  match v.parts? with
  | none => .error (.noPair v.kindWord)
  | some [a, b] => .ok (a, b)
  | some parts => .error (if parts.length < 2 then .tooFew parts.length else .tooMany)

/-- A value as the name of a file. A list or record without entries is taken for an empty name. -/
def fileName (v : Value) : Except Misfit String :=
  match v with
  | .text t => .ok t
  | .list [] => .ok ""
  | .record [] => .ok ""
  | _ => .error (if v.isNothing then .noSearch v.kindWord else .noName v.kindWord)

/-- The pairs of a value, as names and codes. -/
def pairs (v : Value) : Except Misfit (List (Value × Value)) :=
  match v.parts? with
  | none => .error (.noParts v.kindWord)
  | some items => items.mapM pair

/-- The texts among values: all have to be texts. -/
def texts (values : List Value) : Except Misfit (List String) :=
  values.zipIdx.mapM fun
    | (.text t, _) => .ok t
    | (v, i) => .error (.noCode i v.kindWord)

end Value

end CodeFlow
