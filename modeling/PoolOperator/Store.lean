import PoolOperator.Apply.Error

/-!
# Stores of objects

The objects of a cluster are read and written by three calls.  Each call
carries an object, and the object that is meant is the one with the same type,
namespace and name.
-/

namespace PoolOperator

/-- A call to a store. -/
inductive StoreCall where
  /-- Gets the live object, if there is one. -/
  | get (object : Object)
  /-- Creates an object. -/
  | create (object : Object)
  /-- Puts an object in place of the live one. -/
  | replace (object : Object)
  deriving Repr, Inhabited

/-- The answer to a call: the live object, or the object as it was stored. -/
def StoreCall.Answer : StoreCall → Type
  | .get _ => Except ApplyError (Option Object)
  | .create _ => Except ApplyError Object
  | .replace _ => Except ApplyError Object

end PoolOperator
