import Mathlib.Logic.Function.Basic
import Mathlib.Data.List.Nodup

/-! A key-value store as a function from keys to optional values, and a batch of writes applied
to it in order, as a batch built in a map is: of two writes of one key the later one stays. -/

namespace KeyValueStore

variable {K V : Type} [DecidableEq K]

def writeAll (store : K → Option V) (puts : List (K × V)) : K → Option V :=
  puts.foldl (fun store put => Function.update store put.1 (some put.2)) store

theorem writeAll_cons (store : K → Option V) (put : K × V) (puts : List (K × V)) :
    writeAll store (put :: puts) = writeAll (Function.update store put.1 (some put.2)) puts := rfl

theorem writeAll_append (store : K → Option V) (puts puts' : List (K × V)) :
    writeAll store (puts ++ puts') = writeAll (writeAll store puts) puts' :=
  List.foldl_append

theorem writeAll_of_not_mem {key : K} :
    ∀ {puts : List (K × V)}, key ∉ puts.map Prod.fst → ∀ (store : K → Option V), writeAll store puts key = store key
  | [], _, _ => rfl
  | put :: puts, absent, store => by
    rw [List.map_cons, List.mem_cons, not_or] at absent
    rw [writeAll_cons, writeAll_of_not_mem absent.2,
      Function.update_of_ne absent.1]

theorem writeAll_of_mem {key : K} {value : V} :
    ∀ {puts : List (K × V)}, (puts.map Prod.fst).Nodup → (key, value) ∈ puts →
      ∀ (store : K → Option V), writeAll store puts key = some value
  | [], _, member, _ => absurd member List.not_mem_nil
  | put :: puts, distinct, member, store => by
    rw [List.map_cons, List.nodup_cons] at distinct
    rw [writeAll_cons]
    rcases List.mem_cons.mp member with rfl | later
    · rw [writeAll_of_not_mem distinct.1, Function.update_self]
    · exact writeAll_of_mem distinct.2 later _

theorem writeAll_congr {key : K} :
    ∀ (puts : List (K × V)) {store store' : K → Option V}, store key = store' key →
      writeAll store puts key = writeAll store' puts key
  | [], _, _, same => same
  | put :: puts, store, store', same => by
    rw [writeAll_cons, writeAll_cons]
    apply writeAll_congr puts
    by_cases hit : key = put.1
    · rw [hit, Function.update_self, Function.update_self]
    · rw [Function.update_of_ne hit, Function.update_of_ne hit, same]

theorem writeAll_filter [BEq K] [LawfulBEq K] (store : K → Option V) (key : K) :
    ∀ puts : List (K × V), writeAll store (puts.filter fun put => put.1 == key) key = writeAll store puts key := by
  intro puts
  induction puts generalizing store with
  | nil => rfl
  | cons put puts ih =>
    by_cases hit : put.1 = key
    · rw [List.filter_cons_of_pos (by simpa using hit), writeAll_cons, ih, writeAll_cons]
    · rw [List.filter_cons_of_neg (by simpa using hit), ih, writeAll_cons]
      exact writeAll_congr puts (Function.update_of_ne (Ne.symm hit) _ _).symm

theorem writeAll_singleton (store : K → Option V) (key : K) (value : V) :
    writeAll store [(key, value)] key = some value := by
  rw [writeAll_cons]
  exact Function.update_self key (some value) store

end KeyValueStore
