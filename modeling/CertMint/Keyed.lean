/-! # Keyed lists

Lists of keys and values that keep the order in which keys were first put, so that what is written
from them has a definite order.
-/

namespace CertMint.Keyed

variable {α β : Type} [BEq α]

/-- Put a value under a key: in the place of the key's value, else at the end. -/
def put (key : α) (value : β) : List (α × β) → List (α × β)
  | [] => [(key, value)]
  | (k, v) :: rest => if k == key then (k, value) :: rest else (k, v) :: put key value rest

/-- Change the value under a key, if the key is there. -/
def modify (key : α) (f : β → β) : List (α × β) → List (α × β)
  | [] => []
  | (k, v) :: rest => if k == key then (k, f v) :: rest else (k, v) :: modify key f rest

def putAll (entries : List (α × β)) (into : List (α × β)) : List (α × β) :=
  entries.foldl (fun done (key, value) => put key value done) into

def get? (key : α) : List (α × β) → Option β
  | [] => none
  | (k, v) :: rest => if k == key then some v else get? key rest

def has (key : α) (entries : List (α × β)) : Bool := (get? key entries).isSome

def drop (key : α) (entries : List (α × β)) : List (α × β) :=
  entries.filter fun entry => !(entry.1 == key)

end CertMint.Keyed
