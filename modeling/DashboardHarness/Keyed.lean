/-!
# Keyed lists

Lists of key-value pairs with one entry per key, in the order in which keys first arrived.
Setting a key replaces its entry in place or adds one at the end; erasing removes it; bumping
adds one to a count.

Main results:

- `Keyed.get_set_self`: after setting a key, looking it up gives the value set.
- `Keyed.get_erase_self`: after erasing a key, it is absent.
-/

namespace DashboardHarness.Keyed

variable {α β : Type}

/-- The value of a key. -/
def get? [BEq α] (k : α) : List (α × β) → Option β
  | [] => none
  | (a, b) :: rest => if a == k then some b else get? k rest

/-- The list with the key's value replaced, or the pair added at the end. -/
def set [BEq α] (k : α) (v : β) : List (α × β) → List (α × β)
  | [] => [(k, v)]
  | (a, b) :: rest => if a == k then (a, v) :: rest else (a, b) :: set k v rest

/-- The list without the key. -/
def erase [BEq α] (k : α) : List (α × β) → List (α × β)
  | [] => []
  | (a, b) :: rest => if a == k then erase k rest else (a, b) :: erase k rest

/-- The list with the key's value changed by a function, starting from a default. -/
def modify [BEq α] (k : α) (default : β) (f : β → β) (l : List (α × β)) : List (α × β) :=
  set k (f ((get? k l).getD default)) l

/-- The list with one added to the key's count. -/
def bump [BEq α] (k : α) (l : List (α × Nat)) : List (α × Nat) :=
  modify k 0 (· + 1) l

theorem get_set_self [BEq α] [LawfulBEq α] (k : α) (v : β) (l : List (α × β)) :
    get? k (set k v l) = some v := by
  induction l with
  | nil => simp [set, get?]
  | cons p rest ih =>
    obtain ⟨a, b⟩ := p
    by_cases h : a = k
    · subst h; simp [set, get?]
    · simp [set, get?, h, ih]

theorem get_erase_self [BEq α] [LawfulBEq α] (k : α) (l : List (α × β)) :
    get? k (erase k l) = none := by
  induction l with
  | nil => simp [erase, get?]
  | cons p rest ih =>
    obtain ⟨a, b⟩ := p
    by_cases h : a = k
    · subst h; simp [erase, ih]
    · simp [erase, get?, h, ih]

end DashboardHarness.Keyed
