import Mathlib.Logic.Basic

/-!
# Registries

Stores which keep at most one value under each key.  A taken key is not given away, and removal is
by key, whatever is registered there.
-/

/-- A store with a refusing `add` and a `remove` by key. -/
class Registry (Store : Type*) (Key Value : outParam Type*) where
  empty : Store
  lookup : Store → Key → Option Value
  /-- The store after an attempt to add, and whether it has succeeded. -/
  add : Store → Key → Value → Store × Bool
  remove : Store → Key → Store
  lookup_empty : ∀ key, lookup empty key = none
  add_taken : ∀ {store key} value, lookup store key ≠ none → add store key value = (store, false)
  add_free : ∀ {store key} value, lookup store key = none → (add store key value).2 = true
  lookup_add_self : ∀ {store key} value,
    lookup store key = none → lookup (add store key value).1 key = some value
  lookup_add_of_ne : ∀ {store key other} value,
    lookup store key = none → other ≠ key →
      lookup (add store key value).1 other = lookup store other
  lookup_remove_self : ∀ store key, lookup (remove store key) key = none
  lookup_remove_of_ne : ∀ {store key other},
    other ≠ key → lookup (remove store key) other = lookup store other

namespace Registry

variable {Store Key Value : Type*} [Registry Store Key Value] {store : Store} {key : Key}

/-- The value is registered under some key. -/
def Holds (store : Store) (value : Value) : Prop := ∃ key, lookup store key = some value

/-- Nothing is registered under another key. -/
def OnlyUnder (key : Key) (store : Store) : Prop := ∀ other, other ≠ key → lookup store other = none

theorem OnlyUnder.add (only : OnlyUnder key store) (free : lookup store key = none)
    (value : Value) : OnlyUnder key (add store key value).1 :=
  fun other distinct => (lookup_add_of_ne value free distinct).trans (only other distinct)

theorem OnlyUnder.remove (only : OnlyUnder key store) : OnlyUnder key (remove store key) :=
  fun other distinct => (lookup_remove_of_ne distinct).trans (only other distinct)

theorem OnlyUnder.holds_iff (only : OnlyUnder key store) {value : Value} :
    Holds store value ↔ lookup store key = some value := by
  constructor
  · rintro ⟨other, registered⟩
    by_cases same : other = key
    · exact same ▸ registered
    · rw [only other same] at registered
      cases registered
  · exact fun registered => ⟨key, registered⟩

end Registry

/-- A registry given by its lookups. -/
structure LookupRegistry (Key Value : Type*) where
  lookup : Key → Option Value

instance {Key Value : Type*} [DecidableEq Key] : Registry (LookupRegistry Key Value) Key Value where
  empty := ⟨fun _ => none⟩
  lookup := LookupRegistry.lookup
  add store key value :=
    if store.lookup key = none then
      (⟨fun other => if other = key then some value else store.lookup other⟩, true)
    else (store, false)
  remove store key := ⟨fun other => if other = key then none else store.lookup other⟩
  lookup_empty _ := rfl
  add_taken _ taken := if_neg taken
  add_free _ free := by rw [if_pos free]
  lookup_add_self _ free := by rw [if_pos free]; exact if_pos rfl
  lookup_add_of_ne _ free distinct := by rw [if_pos free]; exact if_neg distinct
  lookup_remove_self _ _ := if_pos rfl
  lookup_remove_of_ne distinct := if_neg distinct
