/-! Texts filed under numbers, in the order of the numbers. Two tables with the same
entries are the same. -/
namespace Transceiver.Simulation

structure Table where
  entries : List (Int × String)
  deriving DecidableEq, Repr

namespace Table

def empty : Table := ⟨[]⟩

def find? (key : Int) : List (Int × String) → Option String
  | [] => none
  | (k, text) :: rest => if k = key then some text else find? key rest

def insert (key : Int) (text : String) : List (Int × String) → List (Int × String)
  | [] => [(key, text)]
  | (k, old) :: rest =>
    if key < k then (key, text) :: (k, old) :: rest
    else if key = k then (key, text) :: rest
    else (k, old) :: insert key text rest

def get? (t : Table) (key : Int) : Option String := find? key t.entries

def put (t : Table) (key : Int) (text : String) : Table := ⟨insert key text t.entries⟩

def erase (t : Table) (key : Int) : Table := ⟨t.entries.filter (·.1 != key)⟩

theorem find?_insert (key other : Int) (text : String) (entries : List (Int × String)) :
    find? other (insert key text entries) = if key = other then some text else find? other entries := by
  induction entries with
  | nil => rfl
  | cons entry rest ih =>
    obtain ⟨k, old⟩ := entry
    by_cases less : key < k
    · simp [insert, less, find?]
    · by_cases same : key = k
      · subst same
        by_cases here : key = other <;> simp [insert, find?, here]
      · by_cases here : k = other
        · subst here
          simp [insert, less, same, find?]
        · simp [insert, less, same, find?, ih, here]

@[simp] theorem get?_put (t : Table) (key other : Int) (text : String) :
    (t.put key text).get? other = if key = other then some text else t.get? other :=
  find?_insert key other text t.entries

theorem get?_put_self (t : Table) (key : Int) (text : String) :
    (t.put key text).get? key = some text := by
  rw [get?_put, if_pos rfl]

end Table

end Transceiver.Simulation
