import SchemaRecovery.Proofs.Schema.Nesting

set_option autoImplicit false

namespace SchemaRecovery.Schema

theorem put_pair_again {β : Type} (key : String) (value : β) (pairs : List (String × β))
    (known : pairs.lookup key = some value) : putPair key value pairs = pairs := by
  induction pairs with
  | nil => cases known
  | cons pair rest ih =>
      obtain ⟨first, old⟩ := pair
      rw [lookup_pair] at known
      by_cases same : first = key
      · rw [if_pos same.symm] at known
        rw [putPair, if_pos same, same, Option.some.inj known]
      · rw [if_neg (Ne.symm same)] at known
        rw [putPair, if_neg same, ih known]

structure Registered (nesting : Nesting) (key : String) : Prop where
  path : nesting.paths.lookup key = some (Name.nestingPath key)
  link : Name.nestingPath key = "" ∨ (Name.nestingPath key, key) ∈ nesting.links

def registerKey (nesting : Nesting) (key : String) : Nesting := nesting.register key (Name.nestingPath key)

theorem register_registered (nesting : Nesting) (key : String) (registered : Registered nesting key) :
    registerKey nesting key = nesting := by
  rw [registerKey, Nesting.register, put_pair_again key _ _ registered.path, if_pos registered.link]

theorem registered_register (nesting : Nesting) (key other : String) (known : Registered nesting other ∨ other = key) :
    Registered (registerKey nesting key) other := by
  have links : ∀ link ∈ nesting.links, link ∈ (registerKey nesting key).links := by
    intro link member
    simp only [registerKey, Nesting.register]
    split
    · exact member
    · exact List.mem_append_left _ member
  constructor
  · simp only [registerKey, Nesting.register, lookup_put_pair]
    by_cases same : other = key
    · rw [if_pos same, same]
    · rw [if_neg same, (known.resolve_right same).path]
  · rcases known with known | rfl
    · exact known.link.imp id (links _)
    · by_cases linked : Name.nestingPath other = "" ∨ (Name.nestingPath other, other) ∈ nesting.links
      · exact linked.imp id (links _)
      · refine .inr ?_
        simp only [registerKey, Nesting.register, if_neg linked]
        exact List.mem_append_right _ (List.mem_singleton_self _)

theorem registered_register_all (keys : List String) (nesting : Nesting) (other : String)
    (known : Registered nesting other ∨ other ∈ keys) : Registered (keys.foldl registerKey nesting) other := by
  induction keys generalizing nesting with
  | nil => exact known.resolve_right List.not_mem_nil
  | cons key rest ih =>
      refine ih _ ?_
      rcases known with known | member
      · exact .inl (registered_register nesting key other (.inl known))
      · rcases List.mem_cons.mp member with same | later
        · exact .inl (registered_register nesting key other (.inr same))
        · exact .inr later

theorem register_all_again (keys : List String) (nesting : Nesting) :
    keys.foldl registerKey (keys.foldl registerKey nesting) = keys.foldl registerKey nesting := by
  have still (part : List String) (filled : Nesting) (all : ∀ key ∈ part, Registered filled key) :
      part.foldl registerKey filled = filled := by
    induction part with
    | nil => rfl
    | cons key rest ih =>
        rw [List.foldl_cons, register_registered filled key (all key List.mem_cons_self)]
        exact ih fun other member => all other (List.mem_cons_of_mem _ member)
  exact still keys _ fun key member => registered_register_all keys nesting key (.inr member)

end SchemaRecovery.Schema
